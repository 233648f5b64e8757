import TypedPid.Text.Punycode
import TypedPid.Unicode.Direction
import TypedPid.Unicode.GeneralCategory
import TypedPid.Unicode.HostMapping
import TypedPid.Unicode.Joining
import TypedPid.Unicode.Normalize

/-!
Domain names in ASCII. Names are brought to one form: capitals become small letters, other
characters what they stand for, and labels that are then not ASCII are written in Punycode behind
`xn--`. A label that is given in Punycode has to be one that this would write.
-/
namespace TypedPid.Domain
open Unicode

def disallowed : Ranges := Ranges.ofText hostDisallowed

def ignored : Ranges := Ranges.ofText hostIgnored

def shifts : Shifts := Shifts.ofText hostShifts

def expansions : List (Nat × List Nat) :=
  (Unicode.words hostExpansions).filterMap fun word =>
    match word.splitOn "=" with
    | [c, parts] => some (Hex.value c.toList, hexNumbers "," parts)
    | _ => none

/-- What a character stands for; none if it may not occur. -/
def mapped? (c : Nat) : Option (List Nat) :=
  if disallowed.contains c then none
  else if ignored.contains c then some []
  else
    match expansions.find? (·.1 = c) with
    | some (_, parts) => some parts
    | none => some [shifts.apply c]

/-- The one form of a row of characters. -/
def form? (cs : List Nat) : Option (List Nat) :=
  (cs.mapM mapped?).map fun parts => composedForm parts.flatten

def isForbidden (c : Nat) : Bool :=
  c ≤ 0x20 || c = 0x7F || ("%#/:<>?@[\\]^|".toList.map Char.toNat).contains c

def isMark (c : Nat) : Bool :=
  (generalCategories.filter fun row => row.1.any ["mn", "mc", "me"].contains).any
    fun row => (Ranges.ofText row.2).contains c

def isJoiner (c : Nat) : Bool := c = 0x200C || c = 0x200D

def onward : Ranges := Ranges.ofText joiningOnward

def back : Ranges := Ranges.ofText joiningBack

def through : Ranges := Ranges.ofText joiningThrough

/-- The first character that others do not join through. -/
def nextJoining (cs : List Nat) : Option Nat := (cs.dropWhile (through.contains ·)).head?

/-- Whether a joiner may stand behind `before`, whose last character is the first, and before
`after`. It follows a character that takes away a vowel; the one that separates may also keep apart
two characters that would join. -/
def joinerFits (joiner : Nat) (before after : List Nat) : Bool :=
  before.head?.any (combiningClass · = 9) ||
    (joiner = 0x200C && (nextJoining before).any (onward.contains ·) &&
      (nextJoining after).any (back.contains ·))

def joinersFit (before : List Nat) : List Nat → Bool
  | [] => true
  | c :: after => (!isJoiner c || joinerFits c before after) && joinersFit (c :: before) after

/-- Whether a label, in its one form, may stand in a name. -/
def fits (label : List Nat) : Bool :=
  label.head?.all (fun c => !isMark c && !isJoiner c) && joinersFit [] label &&
    !label.any isForbidden

def isAscii (label : List Nat) : Bool := label.all (· < 0x80)

def marker : List Nat := "xn--".toList.map Char.toNat

/-- A label in its one form and in ASCII. -/
structure Label where
  characters : List Nat
  text : List Char

def label? (label : List Nat) : Option Label :=
  let text := label.map Char.ofNat
  if marker.isPrefixOf label then
    match if isAscii label then Punycode.decode? (text.drop 4) else none with
    | none => none
    | some cs => if !isAscii cs && form? cs = some cs && fits cs then some ⟨cs, text⟩ else none
  else if isAscii label then
    if label.any isForbidden then none else some ⟨label, text⟩
  else if fits label then some ⟨label, "xn--".toList ++ Punycode.encode label⟩
  else none

/-- Whether a label keeps its place and its order among labels that are read in the other
direction. It is read in one direction from its first character to its last one, marks apart. -/
def keepsOrder (label : List Nat) : Bool :=
  let directions := label.map Direction.of
  let last := (directions.reverse.dropWhile (· = .mark)).head?
  match directions.head? with
  | none => true
  | some .leftToRight =>
    directions.all [.leftToRight, .europeanNumber, .separator, .terminator, .neutral, .boundary,
      .mark].contains &&
    last.any [Direction.leftToRight, .europeanNumber].contains
  | some first =>
    first.isRightToLeft &&
    directions.all [.rightToLeft, .arabicLetter, .arabicNumber, .europeanNumber, .separator,
      .terminator, .neutral, .boundary, .mark].contains &&
    last.any [Direction.rightToLeft, .arabicLetter, .arabicNumber, .europeanNumber].contains &&
    !(directions.contains .europeanNumber && directions.contains .arabicNumber)

/-- Whether something in a label is read from right to left. -/
def isTurned (label : List Nat) : Bool :=
  label.any fun c => (Direction.of c).isRightToLeft || Direction.of c = .arabicNumber

def labels : List Nat → List (List Nat)
  | [] => [[]]
  | c :: cs =>
    if c = '.'.toNat then [] :: labels cs
    else
      match labels cs with
      | [] => [[c]]
      | l :: ls => (c :: l) :: ls

def toAscii? (name : String) : Option String := do
  let cs ← form? (name.toList.map Char.toNat)
  let ls ← (labels cs).mapM label?
  if ls.any (isTurned ·.characters) && !ls.all (keepsOrder ·.characters) then none
  else return String.ofList (['.'].intercalate (ls.map (·.text)))

end TypedPid.Domain
