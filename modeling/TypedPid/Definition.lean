import TypedPid.Keyed
import TypedPid.Pattern

/-!
Type definitions. A definition has an identifier, may restrict the values of its type by a pattern,
and declares the attributes that belong to it, each mandatory or optional and with a definition of
its own. A profile is a definition whose attributes are those of a record.
-/
namespace TypedPid

structure Declared (δ : Type) where
  mandatory : Bool
  definition : δ

structure TypeDefinition where
  identifier : String
  name : Option String
  description : Option String
  pattern : Option ValuePattern
  /-- Whether records may have attributes that are not declared. -/
  additionalAttributes : Bool
  subTypes : List (String × Declared TypeDefinition)

inductive DefinitionError where
  | emptyIdentifier
  | invalidPattern (identifier : String) (cause : Regex.SyntaxError)
deriving DecidableEq

namespace DefinitionError

/-- What an account of the faults of a pattern begins with. -/
def account : String := ": regex parse error:"

/-- The characters before the first place where `mark` stands. -/
def before (mark : List Char) : List Char → List Char
  | [] => []
  | c :: cs => if mark.isPrefixOf (c :: cs) then [] else c :: before mark cs

/-- The text of the error. From where an account of a pattern begins, nothing is told. -/
def message : DefinitionError → String
  | emptyIdentifier => "type identifier cannot be empty"
  | invalidPattern identifier _ =>
    "invalid pattern for type " ++
      String.ofList (before account.toList (identifier ++ account).toList) ++ ": <regex>"

end DefinitionError

namespace TypeDefinition

def subType? (d : TypeDefinition) (key : String) : Option (Declared TypeDefinition) :=
  Keyed.lookup key d.subTypes

def declares (d : TypeDefinition) (key : String) : Bool := Keyed.contains key d.subTypes

def mandatoryAttributes (d : TypeDefinition) : List String :=
  (d.subTypes.filter (·.2.mandatory)).map Prod.fst

def attributes (d : TypeDefinition) : List String := Keyed.keys d.subTypes

/-- Whether a value is of the type; without a pattern every value is. -/
def accepts (d : TypeDefinition) (value : String) : Bool := d.pattern.all (·.accepts value)

mutual

def same : TypeDefinition → TypeDefinition → Bool
  | ⟨identifier, name, description, pattern, additional, subTypes⟩, e =>
    identifier == e.identifier && name == e.name && description == e.description &&
      pattern == e.pattern && additional == e.additionalAttributes &&
      sameSubTypes subTypes e.subTypes

def sameSubTypes : List (String × Declared TypeDefinition) →
    List (String × Declared TypeDefinition) → Bool
  | [], [] => true
  | (k, ⟨m, d⟩) :: rest, (k', ⟨m', d'⟩) :: rest' =>
    k == k' && m == m' && same d d' && sameSubTypes rest rest'
  | _, _ => false

end

/-- The parts of a definition before its identifier and pattern are checked. -/
structure Builder where
  identifier : String
  name : Option String := none
  description : Option String := none
  pattern : Option String := none
  additionalAttributes : Bool := false
  subTypes : Keyed (Declared TypeDefinition) := []

namespace Builder

/-- Declares an attribute, in place of an earlier one of the same identifier. -/
def declare (b : Builder) (mandatory : Bool) (d : TypeDefinition) : Builder :=
  { b with subTypes := Keyed.insert d.identifier ⟨mandatory, d⟩ b.subTypes }

/-- Checks the identifier, then the pattern. -/
def build (b : Builder) : Except DefinitionError TypeDefinition :=
  if (Unicode.trim b.identifier).isEmpty then .error .emptyIdentifier
  else
    let done (pattern : Option ValuePattern) : TypeDefinition := {
      identifier := b.identifier
      name := b.name
      description := b.description
      pattern
      additionalAttributes := b.additionalAttributes
      subTypes := b.subTypes }
    match b.pattern with
    | none => .ok (done none)
    | some source =>
      match ValuePattern.ofString? source with
      | .ok pattern => .ok (done (some pattern))
      | .error cause => .error (.invalidPattern b.identifier cause)

end Builder
end TypeDefinition
end TypedPid
