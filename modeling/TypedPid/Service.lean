import TypedPid.Config
import TypedPid.Service.Procedure

/-!
The service in front of the registered records. A record is stored only after it has been validated;
between its validation and its storing nothing of it is changed but an empty identifier.
-/
namespace TypedPid

inductive ServiceError where
  | validation (cause : ValidationError)
  | store (cause : StoreError)
  | lookup (cause : LookupError)

namespace ServiceError

def message : ServiceError → String
  | validation cause => cause.message
  | store cause => cause.message
  | lookup cause => cause.message

def isRetryable : ServiceError → Bool
  | validation cause => cause.isRetryable
  | store _ => false
  | lookup cause => cause.isRetryable

end ServiceError

structure Service where
  profileKey : String
  mode : ReportMode := .failFast
  strategy : Strategy := .strict

def Config.service (c : Config) : Service := ⟨c.profileKey, c.reportMode, c.strategy⟩

namespace Service
open Procedure

def lookup (identifier : String) : Procedure (Except LookupError TypeDefinition) :=
  take (.lookup identifier)

def store (o : Store.Operation) : Procedure o.Answer := take (.store o)

def mint : Procedure String := return Store.pidPrefix ++ (← take .mint)

def validate (s : Service) (r : Record) : Procedure (Except ValidationError Unit) :=
  match s.strategy with
  | .acceptAll => return .ok ()
  | .strict => Validation.validate lookup s.profileKey s.mode r

def enter (r : Record) : Procedure (Except ServiceError Record) := do
  match ← store (.register r) with
  | .ok _ => return .ok r
  | .error e => return .error (.store e)

/-- Stores a validated record. One without an identifier is given a fresh one; an identifier that is
taken is refused, even for the same record. -/
def accept (r : Record) : Procedure (Except ServiceError Record) := do
  if r.pid = "" then enter (r.setPid (← mint))
  else if ← store (.isRegistered r.pid) then return .error (.store (.alreadyExists r.pid))
  else enter r

/-- Registers a record, or, if `dryRun`, only finds out whether it is valid. -/
def register (s : Service) (r : Record) (dryRun : Bool) :
    Procedure (Except ServiceError Record) := do
  match ← s.validate r with
  | .error e => return .error (.validation e)
  | .ok () => if dryRun then return .ok r else accept r

def update (s : Service) (r : Record) : Procedure (Except ServiceError Record) := do
  match ← s.validate r with
  | .error e => return .error (.validation e)
  | .ok () => if ← store (.update r) then return .ok r else return .error (.store (.notFound r.pid))

def resolve (pid : String) : Procedure (Except ServiceError Record) := do
  return (← store (.query pid)).mapError .store

def view (pid typeIdentifier : String) : Procedure (Except ServiceError Record) := do
  match ← lookup typeIdentifier with
  | .error e => return .error (.lookup e)
  | .ok d => return (← store (.view pid d)).mapError .store

def delete (pid : String) : Procedure (Except ServiceError Unit) := do
  return (← store (.delete pid)).mapError .store

def list : Procedure (List String) := store .list

end Service
end TypedPid
