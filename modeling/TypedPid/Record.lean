import TypedPid.Definition

/-!
Records. A record describes the object behind a persistent identifier: under the identifier of each
attribute stands a list of entries, in the order in which they were added.
-/
namespace TypedPid

/-- One value of one attribute. A value can be missing, which no type accepts. -/
structure Entry where
  key : String
  name : Option String
  value : Option String
deriving DecidableEq

structure Record where
  /-- Empty as long as the record is not registered. -/
  pid : String
  entries : Keyed (List Entry)
deriving DecidableEq

namespace Record

def empty (pid : String) : Record := ⟨pid, []⟩

def setPid (r : Record) (pid : String) : Record := { r with pid }

def entriesOf (r : Record) (key : String) : List Entry := (Keyed.lookup key r.entries).getD []

def push (r : Record) (e : Entry) : Record :=
  { r with entries := Keyed.insert e.key (r.entriesOf e.key ++ [e]) r.entries }

def add (r : Record) (key : String) (name : Option String) (value : String) : Record :=
  r.push ⟨key, name, some value⟩

def has (r : Record) (key : String) : Bool := Keyed.contains key r.entries

def attributes (r : Record) : List String := Keyed.keys r.entries

def values (r : Record) (key : String) : List (Option String) := (r.entriesOf key).map (·.value)

def value? (r : Record) (key : String) : Option String := (r.entriesOf key).findSome? (·.value)

def remove (r : Record) (key : String) : Option (List Entry) × Record :=
  (Keyed.lookup key r.entries, { r with entries := Keyed.erase key r.entries })

def isEmpty (r : Record) : Bool := r.entries.isEmpty

/-- The record with only those attributes that a definition declares and of which there is an entry.
Entries lose their names. -/
def project (r : Record) (d : TypeDefinition) : Record :=
  let kept := r.entries.flatMap fun (key, entries) =>
    if d.declares key then entries.map fun e => ⟨key, none, e.value⟩ else []
  kept.foldl push (empty r.pid)

end Record
end TypedPid
