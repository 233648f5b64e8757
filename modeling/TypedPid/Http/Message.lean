import TypedPid.Http.Header
import TypedPid.Http.Target
import TypedPid.Json.Value

/-!
Requests and responses.
-/
namespace TypedPid.Http

structure Request where
  method : String
  target : Target
  headers : Headers := []
  body : List UInt8 := []

/-- The request that is written by these parts, if they are well formed. -/
def Request.of? (method target : String) (headers : List (String × String)) (body : List UInt8) :
    Option Request := do
  let target ← Target.ofText? target
  let headers ← headers.mapM fun (name, value) => Header.of? name value
  if Header.isToken method then some { method, target, headers, body } else none

structure Response where
  status : Nat
  headers : Headers := []
  body : String := ""

namespace Response

def empty (status : Nat) : Response := { status }

def plain (status : Nat) (body : String) : Response :=
  { status, headers := [("content-type", "text/plain; charset=utf-8")], body }

def json (status : Nat) (v : Json.Value) : Response :=
  { status, headers := [("content-type", "application/json")], body := v.text }

def withHeaders (r : Response) (headers : Headers) : Response :=
  { r with headers := r.headers ++ headers }

def withoutBody (r : Response) : Response := { r with body := "" }

end Response
end TypedPid.Http
