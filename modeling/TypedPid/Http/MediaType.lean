import TypedPid.Http.Header

/-!
Media types, as they stand in a header. Case does not count outside parameters, and of the
parameters it only matters that they are well formed.
-/
namespace TypedPid.Http

structure MediaType where
  name : String
  subtype : String
  suffix : Option String
deriving DecidableEq

namespace MediaType

/-- Whether the rest of a quoted value, and what follows it up to the next parameter, is well
formed. -/
def isRow (parameters : List Char → Bool) : List Char → Bool
  | [] => true
  | ';' :: cs => parameters cs
  | ' ' :: cs => isRow parameters cs
  | _ :: _ => false

def isQuotedChar (c : Char) : Bool := 0x20 ≤ c.toNat && c.toNat ≠ 0x7F

/-- What follows a value in quotes, of which the opening one is read. A value has a character. -/
def afterQuoted : List Char → Option (List Char)
  | c :: cs =>
    if isQuotedChar c then
      match cs.dropWhile fun c => c ≠ '"' && isQuotedChar c with
      | '"' :: rest => some rest
      | _ => none
    else none
  | [] => none

/-- Whether the characters behind a semicolon are parameters: rows of a name, an equals sign and a
value, which may be empty if it is the last thing that stands there. -/
def isParameters : (fuel : Nat) → List Char → Bool
  | 0, _ => false
  | fuel + 1, cs =>
    match cs.dropWhile (· = ' ') with
    | [] => true
    | cs =>
      let name := cs.takeWhile Header.isTokenChar
      match cs.dropWhile Header.isTokenChar with
      | '=' :: '"' :: rest =>
        !name.isEmpty && (afterQuoted rest).any (isRow (isParameters fuel))
      | '=' :: rest =>
        let value := rest.takeWhile Header.isTokenChar
        match rest.dropWhile Header.isTokenChar with
        | [] => !name.isEmpty
        | ';' :: rest => !name.isEmpty && !value.isEmpty && isParameters fuel rest
        | _ => false
      | _ => false

/-- Splits a subtype at its last plus sign, unless that is its first character. -/
def ofSubtype (name subtype : List Char) : MediaType :=
  let ending := (subtype.reverse.takeWhile (· ≠ '+')).reverse
  let stem := subtype.take (subtype.length - ending.length - 1)
  if stem.isEmpty ∨ ending.length = subtype.length then
    ⟨(String.ofList name).toLower, (String.ofList subtype).toLower, none⟩
  else
    ⟨(String.ofList name).toLower, (String.ofList stem).toLower,
      some (String.ofList ending).toLower⟩

def ofText? (text : String) : Option MediaType :=
  let name := text.toList.takeWhile Header.isTokenChar
  match text.toList.dropWhile Header.isTokenChar with
  | '/' :: rest =>
    let subtype := rest.takeWhile Header.isTokenChar
    let after := rest.dropWhile Header.isTokenChar
    if name.isEmpty ∨ subtype.isEmpty then none
    else
      match after with
      | [] => some (ofSubtype name subtype)
      | ';' :: parameters =>
        if isParameters (parameters.length + 1) parameters then some (ofSubtype name subtype)
        else none
      | _ => none
  | _ => none

def isJson (t : MediaType) : Bool :=
  t.name = "application" && (t.subtype = "json" || t.suffix = some "json")

end MediaType
end TypedPid.Http
