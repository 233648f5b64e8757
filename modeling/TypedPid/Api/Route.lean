import TypedPid.Text.Percent

/-!
Where requests go. Paths are compared as they are written; only an identifier at the end of one is
decoded.
-/
namespace TypedPid.Api

inductive Route where
  | health
  | alive
  | registration
  /-- The record of an identifier, which is written in percent signs. -/
  | record (written : String)
  | list
deriving DecidableEq

inductive Endpoint where
  | health
  | alive
  | register
  | resolve (written : String)
  | update (written : String)
  | delete (written : String)
  | list
deriving DecidableEq

namespace Route

def recordPath : String := "/api/v1/pit/pid/"

/-- What follows a beginning of a path, if it has that beginning. -/
def after? (beginning path : String) : Option String :=
  if beginning.toList.isPrefixOf path.toList then
    some (String.ofList (path.toList.drop beginning.length))
  else none

def ofPath? (path : String) : Option Route :=
  if path = "/healthz" then some health
  else if path = "/livez" then some alive
  else if path = "/api/v1/pit/pids" then some list
  else if path = "/api/v1/pit/pid" ∨ path = recordPath then some registration
  else (after? recordPath path).map record

/-- The methods of a route, as a response names them. -/
def allowed : Route → String
  | health => "GET,HEAD"
  | alive => "GET,HEAD"
  | list => "GET,HEAD"
  | registration => "POST"
  | record _ => "GET,HEAD,PUT,DELETE"

def endpoint? (r : Route) (method : String) : Option Endpoint :=
  let reads := method = "GET" ∨ method = "HEAD"
  match r with
  | health => if reads then some .health else none
  | alive => if reads then some .alive else none
  | list => if reads then some .list else none
  | registration => if method = "POST" then some .register else none
  | record written =>
    if reads then some (.resolve written)
    else if method = "PUT" then some (.update written)
    else if method = "DELETE" then some (.delete written)
    else none

def decode? (written : String) : Option String :=
  Utf8.decode? (Percent.decode (Utf8.encode written))

end Route
end TypedPid.Api
