import TypedPid.Url.Basic

/-!
Paths. A segment of one dot stands for the place where it is, and a segment of two dots for the one
above; neither is kept.
-/
namespace TypedPid.UrlPath

def isDot (s : String) : Bool := s = "." || s.toLower = "%2e"

def isDoubleDot (s : String) : Bool :=
  [".." , ".%2e", "%2e.", "%2e%2e"].contains s.toLower

/-- The path with one more segment, if it is the last one. `above` are the segments before it, the
last one first. -/
def close (above : List String) (s : String) : List String :=
  if isDoubleDot s then ("" :: above.tail).reverse
  else if isDot s then ("" :: above).reverse
  else (s :: above).reverse

/-- The segments that a row of written segments amounts to. -/
def resolve (above : List String) : List String → List String
  | [] => above.reverse
  | [s] => close above s
  | s :: rest =>
    if isDoubleDot s then resolve above.tail rest
    else if isDot s then resolve above rest
    else resolve (s :: above) rest

def split (separates : Char → Bool) : List Char → List (List Char)
  | [] => [[]]
  | c :: cs =>
    if separates c then [] :: split separates cs
    else
      match split separates cs with
      | [] => [[c]]
      | p :: ps => (c :: p) :: ps

/-- Without an empty segment at the end, if there are others. -/
def popEmpty (parts : List String) : List String :=
  if 2 ≤ parts.length ∧ parts.getLast? = some "" then parts.dropLast else parts

def isTabOrNewline (c : Char) : Bool := c = '\t' || c = '\n' || c = '\r'

/-- Adds a segment at the end, or in place of an empty one that is alone. Tabs and line ends do not
count, so that a segment may turn out to be dots. -/
def push (special : Bool) (parts : List String) (s : String) : List String :=
  let cs := s.toList.filter (!isTabOrNewline ·)
  let above := if parts = [""] then [] else parts.reverse
  close above (Url.encoded (Url.inSegment special) cs)

end TypedPid.UrlPath
