import TypedPid.Url.Host
import TypedPid.Url.Path

/-!
Reading a locator that is relative to nothing. Blanks at its ends do not count, nor do tabs and line
ends anywhere.
-/
namespace TypedPid.Url

def isSlash (special : Bool) (c : Char) : Bool := c = '/' || (special && c = '\\')

def endsAuthority (special : Bool) (c : Char) : Bool := isSlash special c || c = '?' || c = '#'

def isSchemeCharacter (c : Char) : Bool := c.isAlphanum || c = '+' || c = '-' || c = '.'

def scheme? (cs : List Char) : Option (String × List Char) :=
  match cs.span isSchemeCharacter with
  | (c :: name, ':' :: rest) =>
    if c.isAlpha then some (String.ofList ((c :: name).map Char.toLower), rest) else none
  | _ => none

def splitAtLast (cs : List Char) : Option (List Char × List Char) :=
  match cs.reverse.span (· ≠ '@') with
  | (after, _ :: before) => some (before.reverse, after.reverse)
  | _ => none

def userParts (cs : List Char) : String × String :=
  let (user, rest) := cs.span (· ≠ ':')
  (encoded inUserInfo user, encoded inUserInfo (rest.drop 1))

/-- The characters of the host: a colon in brackets belongs to it. -/
def hostText (special : Bool) (bracketed : Bool) : List Char → List Char × List Char
  | [] => ([], [])
  | c :: cs =>
    if (c = ':' ∧ !bracketed) ∨ endsAuthority special c then ([], c :: cs)
    else
      let (host, rest) := hostText special (c = '[' || (bracketed && c ≠ ']')) cs
      (c :: host, rest)

/-- The port behind a colon, if it is not the one that is meant anyway. -/
def port? (scheme : String) (cs : List Char) : Except UrlError (Option Nat × List Char) :=
  let (ds, rest) := cs.span Char.isDigit
  let port := ds.foldl (fun n c => 10 * n + (c.toNat - '0'.toNat)) 0
  if Nat.pow 2 16 ≤ port ∨ !(rest.head?.all (endsAuthority true)) then .error .invalidPort
  else .ok (if ds = [] ∨ defaultPort scheme = some port then none else some port, rest)

def hostAndPort (scheme : String) (cs : List Char) :
    Except UrlError (Host × Option Nat × List Char) := do
  let special := isSpecial scheme
  let (text, rest) := hostText special false cs
  if special ∧ text = [] then .error .emptyHost
  else
    let host ← if special then Host.ofText? text else Host.ofOtherText? text
    match rest with
    | ':' :: rest =>
      if host = .domain "" then .error .emptyHost
      else
        let (port, rest) ← port? scheme rest
        return (host, port, rest)
    | rest => return (host, none, rest)

def ending (special : Bool) (cs : List Char) : Option String × Option String :=
  let (before, fragment) := cs.span (· ≠ '#')
  let fragment := if fragment = [] then none else some (encoded inFragment (fragment.drop 1))
  (if before = [] then none else some (encoded (inQuery special) (before.drop 1)), fragment)

/-- The segments of a path, without the slash before it, and what follows it. -/
def pathSegments (special : Bool) (cs : List Char) : List String × List Char :=
  let (path, rest) := cs.span fun c => c ≠ '?' ∧ c ≠ '#'
  (UrlPath.resolve [] ((UrlPath.split (isSlash special) path).map (encoded inPath)), rest)

/-- The path behind the host. Locators that have to have a host also have a path. -/
def pathBehindHost (special : Bool) (cs : List Char) : List String × List Char :=
  match cs with
  | [] => (if special then [""] else [], [])
  | c :: rest =>
    if isSlash special c then pathSegments special rest
    else if special ∨ (c ≠ '?' ∧ c ≠ '#') then pathSegments special cs
    else ([], cs)

def behindSlashes (scheme : String) (cs : List Char) : Except UrlError Url := do
  let special := isSpecial scheme
  let (authority, rest) := cs.span (!endsAuthority special ·)
  let (user, cs) := match splitAtLast authority with
    | none => (none, cs)
    | some (user, host) => (some user, host ++ rest)
  if user = some [] ∧ cs.head?.any (endsAuthority special) then .error .emptyHost
  else
    let (username, password) := userParts (user.getD [])
    let (host, port, rest) ← hostAndPort scheme cs
    if host = .domain "" ∧ (username ≠ "" ∨ password ≠ "") then .error .emptyHost
    else
      let (parts, rest) := pathBehindHost special rest
      let (query, fragment) := ending special rest
      return { scheme, username, password, host, port, path := .segments parts, query, fragment }

def ofFile (cs : List Char) : Except UrlError Url := do
  let done (host : Host) (cs : List Char) : Url :=
    let (parts, rest) := pathSegments true cs
    let (query, fragment) := ending true rest
    { scheme := "file", host, path := .segments parts, query, fragment }
  match cs with
  | [] => return done (.domain "") []
  | a :: rest =>
    if !isSlash true a then return done (.domain "") cs
    else
      match rest with
      | b :: rest' =>
        if isSlash true b then
          let (text, path) := rest'.span (!endsAuthority true ·)
          let host ← if text = [] then pure (.domain "") else Host.ofText? text
          let path := if path.head?.any (isSlash true) then path.drop 1 else path
          return done (if host = .domain "localhost" then .domain "" else host) path
        else return done (.domain "") rest
      | [] => return done (.domain "") []

/-- Reads what follows the colon of a scheme whose locators may have no host. -/
def ofOther (scheme : String) (cs : List Char) : Except UrlError Url := do
  match cs with
  | '/' :: '/' :: rest => behindSlashes scheme rest
  | '/' :: rest =>
    let (parts, rest) := pathSegments false rest
    let (query, fragment) := ending false rest
    return { scheme, host := none, path := .segments parts, query, fragment }
  | cs =>
    let (path, rest) := cs.span fun c => c ≠ '?' ∧ c ≠ '#'
    let (query, fragment) := ending false rest
    return { scheme, host := none, path := .rootless (encoded isControl path), query, fragment }

def isEdge (c : Char) : Bool := c.toNat ≤ 0x20

/-- Without the blanks at its ends and without tabs and line ends. -/
def cleaned (text : String) : List Char :=
  (((text.toList.dropWhile isEdge).reverse.dropWhile isEdge).reverse).filter
    (!UrlPath.isTabOrNewline ·)

def ofText? (text : String) : Except UrlError Url :=
  match scheme? (cleaned text) with
  | none => .error .relativeWithoutBase
  | some (scheme, rest) =>
    if scheme = "file" then ofFile rest
    else if isSpecial scheme then behindSlashes scheme (rest.dropWhile (isSlash true))
    else ofOther scheme rest

end TypedPid.Url
