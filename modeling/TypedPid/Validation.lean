import TypedPid.Lookup
import TypedPid.Record

/-!
Validation of records against the profiles that they list under the profile key. A profile is
closed unless it says otherwise: a record has every mandatory attribute of it, and no attribute
that it does not declare; and each value is of the type that the profile declares for its
attribute.
-/
namespace TypedPid

inductive Violation where
  | missingProfileAttribute (profileKey : String)
  | emptyProfileAttribute (profileKey : String)
  | nullProfileValue (profileKey : String)
  | unknownProfile (identifier : String)
  | missingMandatoryAttribute (key profile : String)
  | attributeNotAllowed (key profile : String)
  | nullValue (key typeIdentifier : String)
  | valueMismatch (key typeIdentifier value : String)
deriving DecidableEq

namespace Violation

def message : Violation → String
  | missingProfileAttribute profileKey =>
    "Profile attribute not found. Expected key: " ++ profileKey
  | emptyProfileAttribute profileKey => "Profile attribute " ++ profileKey ++ " has no values."
  | nullProfileValue profileKey =>
    "Profile attribute " ++ profileKey ++ " contains a null value."
  | unknownProfile identifier => "No type found for identifier " ++ identifier ++ "."
  | missingMandatoryAttribute key profile =>
    "Mandatory attribute " ++ key ++ " of profile " ++ profile ++ " is missing."
  | attributeNotAllowed key profile =>
    "Attribute " ++ key ++ " is not allowed in profile " ++ profile
  | nullValue key typeIdentifier =>
    "Validation of value null for attribute " ++ key ++ " against type " ++ typeIdentifier ++
      " failed."
  | valueMismatch key typeIdentifier value =>
    "Validation of value " ++ value ++ " for attribute " ++ key ++ " against type " ++
      typeIdentifier ++ " failed."

def reason (violations : List Violation) : String := " ".intercalate (violations.map message)

end Violation

inductive ValidationError where
  /-- A profile could not be fetched, so that nothing is known about the record. -/
  | serviceUnavailable (endpoint : String)
  | rejected (pid reason : String)
deriving DecidableEq

namespace ValidationError

def message : ValidationError → String
  | serviceUnavailable endpoint => "external service unavailable: " ++ endpoint
  | rejected pid reason => "validation of record '" ++ pid ++ "' failed: " ++ reason

def isRetryable : ValidationError → Bool
  | serviceUnavailable _ => true
  | rejected _ _ => false

def ofLoadError (e : LoadError) : ValidationError := serviceUnavailable e.endpoint

end ValidationError

inductive ReportMode where
  | failFast
  | aggregate
deriving DecidableEq

namespace Validation

def checkValue (key : String) (d : TypeDefinition) : Option String → Option Violation
  | none => some (.nullValue key d.identifier)
  | some value =>
    if d.accepts value then none else some (.valueMismatch key d.identifier value)

def checkAttribute (profileKey : String) (r : Record) (profile : TypeDefinition)
    (key : String) : List Violation :=
  match profile.subType? key with
  | some declared => (r.values key).filterMap (checkValue key declared.definition)
  | none =>
    if key = profileKey ∨ profile.additionalAttributes then []
    else [.attributeNotAllowed key profile.identifier]

def checkProfile (profileKey : String) (r : Record) (profile : TypeDefinition) : List Violation :=
  ((profile.mandatoryAttributes.filter fun a => !r.has a).map
      fun a => .missingMandatoryAttribute a profile.identifier) ++
    r.attributes.flatMap (checkAttribute profileKey r profile)

/-- What is known once a lookup is answered: the faults of the record, or that nothing can be said.
-/
def checkAnswer (profileKey : String) (r : Record) :
    Except LookupError TypeDefinition → Except ValidationError (List Violation)
  | .ok profile => .ok (checkProfile profileKey r profile)
  | .error (.notFound identifier) => .ok [.unknownProfile identifier]
  | .error (.unavailable e) => .error (.ofLoadError e)

variable {m : Type → Type} [Monad m]

def checkListed (lookup : String → m (Except LookupError TypeDefinition)) (profileKey : String)
    (r : Record) : Option String → m (Except ValidationError (List Violation))
  | none => return .ok [.nullProfileValue profileKey]
  | some identifier => checkAnswer profileKey r <$> lookup identifier

/-- Goes through the profiles that are listed. `found` are the faults so far; without aggregation
the first one ends the search. -/
def checkProfiles (lookup : String → m (Except LookupError TypeDefinition)) (profileKey : String)
    (mode : ReportMode) (r : Record) (found : List Violation) :
    List (Option String) → m (Except ValidationError (List Violation))
  | [] => return .ok found
  | listed :: rest => do
    match ← checkListed lookup profileKey r listed with
    | .error e => return .error e
    | .ok violations =>
      if mode = .failFast ∧ violations ≠ [] then return .ok (violations.take 1)
      else checkProfiles lookup profileKey mode r (found ++ violations) rest

/-- A record is valid if no profile that it lists has a fault to find. -/
def validate (lookup : String → m (Except LookupError TypeDefinition)) (profileKey : String)
    (mode : ReportMode) (r : Record) : m (Except ValidationError Unit) := do
  let reject (violations : List Violation) : Except ValidationError Unit :=
    .error (.rejected r.pid (Violation.reason violations))
  if !r.has profileKey then return reject [.missingProfileAttribute profileKey]
  else if (r.values profileKey).isEmpty then return reject [.emptyProfileAttribute profileKey]
  else
    match ← checkProfiles lookup profileKey mode r [] (r.values profileKey) with
    | .error e => return .error e
    | .ok [] => return .ok ()
    | .ok violations => return reject violations

end Validation
end TypedPid
