import TypedPid.Json.Node
import TypedPid.Text.Quoted

/-!
Reading typed data from the tree of a text. The first thing that is wrong in the order of the text
is reported, with the place where it stands: a reader looks at a list item by item and at an object
member by member, and at the end of either only after all it holds.
-/
namespace TypedPid.Json

inductive Found where
  | null
  | bool (b : Bool)
  | number (n : Number)
  | string (s : String)
  | sequence
  | map

inductive Misfit where
  | invalidType (found : Found) (expected : String)
  | missingField (field : String)
  | duplicateField (field : String)
  | invalidLength (length : Nat) (expected : String)

inductive Step where
  | member (key : String)
  | item (index : Nat)

inductive ReadError where
  | malformed
  /-- The text is well formed up to a value that does not fit, at the end of the path. -/
  | misfit (path : List Step) (cause : Misfit)

namespace Found

def text : Found → String
  | null => "null"
  | bool b => "boolean `" ++ (if b then "true" else "false") ++ "`"
  | number (.integer negative m) => "integer `" ++ (Number.integer negative m).text ++ "`"
  | number (.float negative x) => "floating point `" ++ (Number.float negative x).text ++ "`"
  | string s => "string " ++ Text.quoted s
  | sequence => "sequence"
  | map => "map"

/-- What stands there, if the text is well formed so far. Of a list or an object only the beginning
is looked at. -/
def ofNode? : Node → Option Found
  | .null => some null
  | .bool b => some (bool b)
  | .number n => n.value?.map number
  | .string s => s.map string
  | .array _ _ => some sequence
  | .object _ _ => some map
  | .broken => none

end Found

namespace Misfit

def message : Misfit → String
  | invalidType found expected => "invalid type: " ++ found.text ++ ", expected " ++ expected
  | missingField field => "missing field `" ++ field ++ "`"
  | duplicateField field => "duplicate field `" ++ field ++ "`"
  | invalidLength length expected =>
    "invalid length " ++ toString length ++ ", expected " ++ expected

end Misfit

/-- The text of a path: dots between its steps, and none before an index. -/
def pathText : List Step → String
  | [] => ""
  | .member key :: rest => key ++ pathRest rest
  | .item index :: rest => "[" ++ toString index ++ "]" ++ pathRest rest
where
  pathRest : List Step → String
    | [] => ""
    | .member key :: rest => "." ++ key ++ pathRest rest
    | .item index :: rest => "[" ++ toString index ++ "]" ++ pathRest rest

namespace ReadError

/-- The error as seen from one step further out. -/
def within (step : Step) : ReadError → ReadError
  | malformed => malformed
  | misfit path cause => misfit (step :: path) cause

def mismatch (n : Node) (expected : String) : ReadError :=
  match Found.ofNode? n with
  | some found => misfit [] (.invalidType found expected)
  | none => malformed

end ReadError

abbrev Reader (α : Type) := Node → Except ReadError α

def Reader.at (read : Reader α) (step : Step) : Reader α := fun n =>
  (read n).mapError (.within step)

/-- What was read, unless the text goes wrong before the end of the list or object. -/
def finish (closed : Bool) (a : α) : Except ReadError α :=
  if closed then .ok a else .error .malformed

def readString : Reader String
  | .string (some s) => .ok s
  | n => .error (.mismatch n "a string")

def readBool : Reader Bool
  | .bool b => .ok b
  | n => .error (.mismatch n "a boolean")

def readOptional (read : Reader α) : Reader (Option α)
  | .null => .ok none
  | n => (read n).map some

def readItems (read : Reader α) (index : Nat) : List Node → Except ReadError (List α)
  | [] => .ok []
  | n :: ns => do
    let a ← read.at (.item index) n
    let rest ← readItems read (index + 1) ns
    return a :: rest

def readList (read : Reader α) : Reader (List α)
  | .array items closed => do finish closed (← readItems read 0 items)
  | n => .error (.mismatch n "a sequence")

def readPairs (read : String → Reader α) :
    List (Option String × Node) → Except ReadError (List (String × α))
  | [] => .ok []
  | (none, _) :: _ => .error .malformed
  | (some key, n) :: rest => do
    let a ← (read key).at (.member key) n
    let rest ← readPairs read rest
    return (key, a) :: rest

def readMap (read : String → Reader α) : Reader (List (String × α))
  | .object members closed => do finish closed (← readPairs read members)
  | n => .error (.mismatch n "a map")

/-- A field of a structure, whose fields gather in a `σ` while they are read. -/
structure FieldReader (σ : Type) where
  name : String
  isSet : σ → Bool
  read : Node → σ → Except ReadError σ

namespace FieldReader

/-- A field that is kept as an optional part of `σ`. -/
def of (name : String) (get : σ → Option α) (set : α → σ → σ) (read : Reader α) :
    FieldReader σ where
  name
  isSet s := (get s).isSome
  read n s := (read n).map (set · s)

def readMember (f : FieldReader σ) (n : Node) (s : σ) : Except ReadError σ :=
  if f.isSet s then .error (.misfit [] (.duplicateField f.name))
  else Reader.at (f.read · s) (.member f.name) n

end FieldReader

/-- Reads members that are fields; of the others it only matters that they are complete. -/
def readMembers (fields : List (FieldReader σ)) :
    List (Option String × Node) → σ → Except ReadError σ
  | [], s => .ok s
  | (none, _) :: _, _ => .error .malformed
  | (some key, n) :: rest, s =>
    match fields.find? (·.name = key) with
    | some f => do readMembers fields rest (← f.readMember n s)
    | none => if n.complete then readMembers fields rest s else .error .malformed

/-- Reads fields that are given by their order. Some at the end may be left out. -/
def readFields (index : Nat) : List (FieldReader σ) → List Node → σ → Except ReadError σ
  | _, [], s => .ok s
  | [], _ :: _, _ => .error .malformed
  | f :: fs, n :: ns, s => do
    readFields (index + 1) fs ns (← Reader.at (f.read · s) (.item index) n)

def readStructure (expected : String) (fields : List (FieldReader σ)) (initial : σ) : Reader σ
  | .object members closed => do finish closed (← readMembers fields members initial)
  | .array items closed => do finish closed (← readFields 0 fields items initial)
  | n => .error (.mismatch n expected)

def read (value : Reader α) (s : Source) : Except ReadError α := do
  let (n, rest) := parse s
  finish (skipSpace rest).isEmpty (← value n)

end TypedPid.Json
