import TypedPid.Text.Percent
import TypedPid.Url.Path

/-!
Pairs of a name and a value, as a query writes them: separated by ampersands, with plus signs for
blanks and with percent signs for bytes.
-/
namespace TypedPid.Http

abbrev Form := List (String × String)

namespace Form

/-- What a part of a query stands for. Bytes that are no text become replacement characters. -/
def decode (cs : List Char) : String :=
  let bytes := Utf8.encode (String.ofList (cs.map fun c => if c = '+' then ' ' else c))
  Utf8.decodeLossy (Percent.decode bytes)

/-- A name without an equals sign has the empty value. -/
def pair (cs : List Char) : String × String :=
  (decode (cs.takeWhile (· ≠ '=')), decode (cs.dropWhile (· ≠ '=')).tail)

/-- The pairs of a query. Between two ampersands there need not be one. -/
def ofQuery (query : String) : Form :=
  ((UrlPath.split (· = '&') query.toList).filter (!·.isEmpty)).map pair

inductive Fault where
  | notBoolean (name : String)
  | duplicate (name : String)
deriving DecidableEq

def Fault.message : Fault → String
  | notBoolean name => name ++ ": provided string was not \x60true\x60 or \x60false\x60"
  | duplicate name => "duplicate field \x60" ++ name ++ "\x60"

/-- The value of a name that may be given once, read as it is met. -/
def value? (name : String) (read : String → Except Fault α) (found : Option α) :
    Form → Except Fault (Option α)
  | [] => .ok found
  | (other, text) :: rest =>
    if other = name then
      if found.isSome then .error (.duplicate name)
      else do value? name read (some (← read text)) rest
    else value? name read found rest

def text? (name : String) (f : Form) : Except Fault (Option String) := value? name .ok none f

def flag? (name : String) (f : Form) : Except Fault (Option Bool) :=
  value? name
    (fun text =>
      if text = "true" then .ok true
      else if text = "false" then .ok false
      else .error (.notBoolean name))
    none f

end Form
end TypedPid.Http
