import TypedPid.Json.Reading
import TypedPid.Json.Value
import TypedPid.Record

/-!
Records as JSON. Of an entry only name and value are read: its key is the one that it is filed
under, whatever the text says.
-/
namespace TypedPid
open Json

namespace Entry

structure Draft where
  name : Option (Option String) := none
  value : Option (Option String) := none

def fields : List (FieldReader Draft) := [
  .of "name" Draft.name (fun a s => { s with name := some a }) (readOptional readString),
  .of "value" Draft.value (fun a s => { s with value := some a }) (readOptional readString)]

/-- An empty name is no name. -/
def Draft.entry (s : Draft) (key : String) : Entry where
  key
  name := (s.name.getD none).filter (· ≠ "")
  value := s.value.getD none

def reader (key : String) : Reader Entry := fun n =>
  (readStructure "struct PidRecordEntryWire" fields {} n).map (·.entry key)

def toJson (e : Entry) : Value :=
  .object ([("key", .string e.key)] ++ (e.name.map fun name => ("name", .string name)).toList ++
    [("value", .optional e.value)])

end Entry

namespace Record

structure Draft where
  pid : Option String := none
  entries : Option (Keyed (List Entry)) := none

/-- Of an attribute that is given twice, the entries given last are kept. -/
def readEntries : Reader (Keyed (List Entry)) := fun n =>
  (readMap (fun key => readList (Entry.reader key)) n).map Keyed.ofList

def fields : List (FieldReader Draft) := [
  .of "pid" Draft.pid (fun a s => { s with pid := some a }) readString,
  .of "entries" Draft.entries (fun a s => { s with entries := some a }) readEntries]

def reader : Reader Record := fun n =>
  (readStructure "struct PidRecordWire" fields {} n).map fun s =>
    ⟨s.pid.getD "", s.entries.getD []⟩

def ofSource (s : Source) : Except ReadError Record := Json.read reader s

def ofText (text : String) : Except ReadError Record := ofSource (Source.ofString text)

def toJson (r : Record) : Value :=
  .object [("pid", .string r.pid),
    ("entries", .object (r.entries.map fun (key, entries) =>
      (key, .array (entries.map Entry.toJson))))]

def text (r : Record) : String := r.toJson.text

end Record
end TypedPid
