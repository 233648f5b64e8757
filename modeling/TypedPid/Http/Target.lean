/-!
Request targets: a path with a query, as a rule, behind a scheme and an authority if the target is
absolute. They stay as they are written, up to the fragment.
-/
namespace TypedPid.Http

structure Target where
  /-- Empty if the target is no more than an authority. -/
  path : String
  query : Option String
deriving DecidableEq

namespace Target

def isPathChar (c : Char) : Bool :=
  c.isAlphanum || 0x7F ≤ c.toNat || "!\"$%&'()*+,-./:;=@[\\]^_\x7b|\x7d~".toList.contains c

def isQueryChar (c : Char) : Bool :=
  c.isAlphanum || 0x7F ≤ c.toNat || "!$%&'()*+,-./:;=?@[\\]^_`\x7b|\x7d~".toList.contains c

/-- A path with a query. A locator without a path has that of the root. -/
def ofPathAndQuery? (cs : List Char) : Option Target :=
  let cs := cs.takeWhile (· ≠ '#')
  let path := cs.takeWhile (· ≠ '?')
  let rest := cs.dropWhile (· ≠ '?')
  if path.all isPathChar ∧ rest.all isQueryChar then
    some {
      path := if path.isEmpty then "/" else String.ofList path
      query := if rest.isEmpty then none else some (String.ofList rest.tail) }
  else none

def endsAuthority (c : Char) : Bool := c = '/' || c = '?' || c = '#'

def isAuthorityChar (c : Char) : Bool :=
  c.isAlphanum || "!$%&'()*+,-.:;=@[]_~".toList.contains c

/-- What an authority was found to hold so far. Colons and percent signs do not count as long as
they may belong to a user or to an address in brackets. -/
structure Authority where
  colons : Nat := 0
  opened : Bool := false
  closed : Bool := false
  percent : Bool := false
deriving DecidableEq

namespace Authority

def add? (a : Authority) (c : Char) : Option Authority :=
  if c = ':' then if 8 ≤ a.colons then none else some { a with colons := a.colons + 1 }
  else if c = '[' then if a.percent ∨ a.opened then none else some { a with opened := true }
  else if c = ']' then
    if !a.opened ∨ a.closed then none
    else some { a with closed := true, colons := 0, percent := false }
  else if c = '@' then some { a with colons := 0, percent := false }
  else if c = '%' then some { a with percent := true }
  else if isAuthorityChar c then some a
  else none

def isFinal (a : Authority) : Bool := a.opened = a.closed && a.colons ≤ 1 && !a.percent

end Authority

/-- Whether the characters may stand for a host, with a user before and a port behind it. -/
def isAuthority (cs : List Char) : Bool :=
  match cs.foldlM Authority.add? {} with
  | some a => a.isFinal && cs.getLast? ≠ some '@'
  | none => false

def isSchemeChar (c : Char) : Bool := c.isAlphanum || ['+', '-', '.', '~'].contains c

def scheme? (cs : List Char) : Option (List Char × List Char) :=
  match cs.dropWhile isSchemeChar with
  | ':' :: '/' :: '/' :: rest => some (cs.takeWhile isSchemeChar, rest)
  | _ => none

def ofAbsolute? (cs : List Char) : Option Target :=
  match scheme? cs with
  | none => if isAuthority cs then some ⟨"", none⟩ else none
  | some (scheme, rest) =>
    let authority := rest.takeWhile (!endsAuthority ·)
    if 64 < scheme.length ∨ authority.isEmpty ∨ !isAuthority authority then none
    else ofPathAndQuery? (rest.dropWhile (!endsAuthority ·))

def maxLength : Nat := 65534

def ofText? (text : String) : Option Target :=
  if maxLength < text.utf8ByteSize then none
  else
    match text.toList with
    | [] => none
    | '/' :: cs => ofPathAndQuery? ('/' :: cs)
    | ['*'] => some ⟨"*", none⟩
    | cs => ofAbsolute? cs

end Target
end TypedPid.Http
