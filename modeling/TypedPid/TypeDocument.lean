import TypedPid.Definition
import TypedPid.Json.Reading
import TypedPid.Json.Value

/-!
Type documents: type definitions as a registry publishes them. A document need not have a meaning;
`toDefinition` finds out whether it has, and reports the first document within it that has none.
-/
namespace TypedPid
open Json

structure TypeDocument where
  identifier : String
  name : Option String
  description : Option String
  pattern : Option String
  additionalAttributes : Bool
  properties : List (Declared TypeDocument)

namespace TypeDocument

mutual

/-- The definition that a document stands for. Its properties are looked at before itself, each of
them with all that it holds; of two with the same identifier the later one counts. -/
def toDefinition : TypeDocument → Except DefinitionError TypeDefinition
  | ⟨identifier, name, description, pattern, additionalAttributes, properties⟩ => do
    let b ← declareAll properties { identifier, name, description, pattern, additionalAttributes }
    b.build

def declareAll : List (Declared TypeDocument) → TypeDefinition.Builder →
    Except DefinitionError TypeDefinition.Builder
  | [], b => .ok b
  | ⟨mandatory, document⟩ :: rest, b => do
    let d ← toDefinition document
    declareAll rest (b.declare mandatory d)

end

structure Draft where
  identifier : Option String := none
  name : Option (Option String) := none
  description : Option (Option String) := none
  pattern : Option (Option String) := none
  additionalAttributes : Option Bool := none
  properties : Option (List (Declared TypeDocument)) := none

/-- What a draft amounts to. Only the identifier has to be there. -/
def Draft.document (s : Draft) : Except ReadError TypeDocument :=
  match s.identifier with
  | none => .error (.misfit [] (.missingField "identifier"))
  | some identifier => .ok {
      identifier
      name := s.name.getD none
      description := s.description.getD none
      pattern := s.pattern.getD none
      additionalAttributes := s.additionalAttributes.getD false
      properties := s.properties.getD [] }

def fields (properties : Reader (List (Declared TypeDocument))) : List (FieldReader Draft) := [
  .of "identifier" Draft.identifier (fun a s => { s with identifier := some a }) readString,
  .of "name" Draft.name (fun a s => { s with name := some a }) (readOptional readString),
  .of "description" Draft.description (fun a s => { s with description := some a })
    (readOptional readString),
  .of "pattern" Draft.pattern (fun a s => { s with pattern := some a }) (readOptional readString),
  .of "additionalAttributes" Draft.additionalAttributes
    (fun a s => { s with additionalAttributes := some a }) readBool,
  .of "properties" Draft.properties (fun a s => { s with properties := some a }) properties]

/-- Arrays and objects nest at most this deep. -/
def nestingLimit : Nat := 127

/-- The first pass over a property: whether it is mandatory, once all its other members are known to
be readable. Properties stand within an object and an array, and are objects themselves. -/
def readObligation (mandatory : Option Bool) :
    List (Option String × Node) → Except ReadError (Option Bool)
  | [] => .ok mandatory
  | (none, _) :: _ => .error .malformed
  | (some key, n) :: rest =>
    if key = "mandatory" then
      match mandatory with
      | some _ => .error (.misfit [] (.duplicateField "mandatory"))
      | none => do readObligation (some (← Reader.at readBool (.member key) n)) rest
    else if n.readable nestingLimit 3 then readObligation mandatory rest
    else .error .malformed

/-- Reads a property, which is an obligation and the fields of a document side by side in one
object. The fields are looked at once the whole property was read. -/
def readProperty : (depth : Nat) → Reader (Declared TypeDocument)
  | 0, _ => .error .malformed
  | depth + 1, .object members closed => do
    let mandatory ← finish closed (← readObligation none members)
    let others := members.filter (·.1 ≠ some "mandatory")
    let draft ← readMembers (fields (readList (readProperty depth))) others {}
    return ⟨mandatory.getD false, ← draft.document⟩
  | _, n => .error (.mismatch n "struct PropertyDocument")

def readProperties : Reader (List (Declared TypeDocument)) := readList (readProperty nestingLimit)

def reader : Reader TypeDocument
  | .array [] true =>
    .error (.misfit [] (.invalidLength 0 "struct TypeDefinitionDocument with 6 elements"))
  | n => do
    let draft ← readStructure "struct TypeDefinitionDocument" (fields readProperties) {} n
    draft.document

def ofSource (s : Source) : Except ReadError TypeDocument := Json.read reader s

def ofText (text : String) : Except ReadError TypeDocument := ofSource (Source.ofString text)

def optionalField (name : String) (s : Option String) : List (String × Value) :=
  (s.map fun s => (name, .string s)).toList

mutual

/-- The members of a document. What it does not have is left out. -/
def toMembers : TypeDocument → List (String × Value)
  | ⟨identifier, name, description, pattern, additionalAttributes, properties⟩ =>
    [("identifier", .string identifier)] ++ optionalField "name" name ++
      optionalField "description" description ++ optionalField "pattern" pattern ++
      [("additionalAttributes", .bool additionalAttributes),
        ("properties", .array (propertyValues properties))]

def propertyValues : List (Declared TypeDocument) → List Value
  | [] => []
  | ⟨mandatory, document⟩ :: rest =>
    .object (("mandatory", .bool mandatory) :: toMembers document) :: propertyValues rest

end

def toJson (d : TypeDocument) : Value := .object d.toMembers

end TypeDocument
end TypedPid
