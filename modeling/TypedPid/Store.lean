import TypedPid.Record

/-!
The records that are registered, each under its persistent identifier. An identifier stays
registered for ever: its record can be replaced, and nothing can be deleted. `Store.perform` does
one operation, which no other operation interrupts.
-/
namespace TypedPid

inductive StoreError where
  | notFound (pid : String)
  | alreadyExists (pid : String)
  | deleteUnsupported (pid : String)
deriving DecidableEq

namespace StoreError

def message : StoreError → String
  | notFound pid => "PID not found: " ++ pid
  | alreadyExists pid => "PID already exists: " ++ pid
  | deleteUnsupported pid => "deleting PIDs is not supported: " ++ pid

end StoreError

structure Store where
  records : Keyed Record := []

namespace Store

def pidPrefix : String := "sandboxed/"

def isRegistered (s : Store) (pid : String) : Bool := Keyed.contains pid s.records

def query (s : Store) (pid : String) : Except StoreError Record :=
  match Keyed.lookup pid s.records with
  | some r => .ok r
  | none => .error (.notFound pid)

def property (s : Store) (pid : String) (d : TypeDefinition) : Except StoreError (Option String) :=
  (s.query pid).map (·.value? d.identifier)

def view (s : Store) (pid : String) (d : TypeDefinition) : Except StoreError Record :=
  (s.query pid).map (·.project d)

def put (s : Store) (r : Record) : Store := ⟨Keyed.insert r.pid r s.records⟩

/-- Registers a record under its identifier. To register the same record once more changes nothing
and is no fault. -/
def register (s : Store) (r : Record) : Except StoreError String × Store :=
  match Keyed.lookup r.pid s.records with
  | some kept => (if kept = r then .ok r.pid else .error (.alreadyExists r.pid), s)
  | none => (.ok r.pid, s.put r)

def update (s : Store) (r : Record) : Bool × Store :=
  if s.isRegistered r.pid then (true, s.put r) else (false, s)

def list (s : Store) : List String :=
  (Keyed.keys s.records).filter fun pid => pidPrefix.toList.isPrefixOf pid.toList

inductive Operation where
  | isRegistered (pid : String)
  | query (pid : String)
  | property (pid : String) (d : TypeDefinition)
  | view (pid : String) (d : TypeDefinition)
  | register (r : Record)
  | update (r : Record)
  | delete (pid : String)
  | list

abbrev Operation.Answer : Operation → Type
  | isRegistered _ => Bool
  | query _ => Except StoreError Record
  | property _ _ => Except StoreError (Option String)
  | view _ _ => Except StoreError Record
  | register _ => Except StoreError String
  | update _ => Bool
  | delete _ => Except StoreError Unit
  | list => List String

def perform (s : Store) : (o : Operation) → o.Answer × Store
  | .isRegistered pid => (s.isRegistered pid, s)
  | .query pid => (s.query pid, s)
  | .property pid d => (s.property pid d, s)
  | .view pid d => (s.view pid d, s)
  | .register r => s.register r
  | .update r => s.update r
  | .delete pid => (.error (.deleteUnsupported pid), s)
  | .list => (s.list, s)

end Store
end TypedPid
