import TypedPid.Lookup
import TypedPid.Url.Path

/-!
The type registry, which publishes each type document under a locator of its own. A part of an
identifier that is empty or made of dots names no document.
-/
namespace TypedPid

inductive Exchange where
  | answered (status : Nat) (body : Json.Source)
  /-- There was no complete answer. -/
  | failed (message : String)
  | timedOut

structure Registry where
  base : Url
  timeout : Duration

namespace Registry

def endpoint (r : Registry) : String :=
  String.ofList ((r.base.text.toList.reverse.dropWhile (· = '/')).reverse)

def parts (identifier : String) : List String :=
  (UrlPath.split (· = '/') identifier.toList).map String.ofList

def objectUrl? (r : Registry) (identifier : String) : Option Url :=
  if (parts identifier).any ["", ".", ".."].contains then none
  else
    match r.base.path with
    | .rootless _ => none
    | .segments segments =>
      let special := Url.isSpecial r.base.scheme
      let segments := UrlPath.push special (UrlPath.popEmpty segments) "objects"
      let segments := (parts identifier).foldl (UrlPath.push special) segments
      some { r.base with path := .segments segments }

/-- A locator as messages show it, without the user. -/
def shown (u : Url) : String := { u with username := "", password := "" : Url }.text

/-- The document in an answer has to be that of the identifier that was asked for. -/
def received (identifier : String) (body : Json.Source) : Except Unusable TypeDefinition := do
  let d ← TypeDocument.definition? body
  if d.identifier = identifier then .ok d else .error (.otherType identifier d.identifier)

def result (r : Registry) (identifier : String) : Exchange → LoadResult
  | .timedOut => .error (.timeout r.endpoint r.timeout)
  | .failed message => .error (.transport r.endpoint message)
  | .answered status body =>
    if status = 404 then .ok none
    else if 200 ≤ status ∧ status < 300 then
      ((received identifier body).mapError (.invalidDefinition r.endpoint)).map some
    else .error (.status r.endpoint status)

/-- Asks the registry for a definition. Only requests of the two schemes of the web are sent. -/
def load [Monad m] (exchange : Url → m Exchange) (r : Registry) (identifier : String) :
    m LoadResult :=
  match r.objectUrl? identifier with
  | none => return .ok none
  | some url =>
    if url.scheme = "http" ∨ url.scheme = "https" then
      return r.result identifier (← exchange url)
    else return r.result identifier (.failed ("builder error for url (" ++ shown url ++ ")"))

/-- What becomes of a request while there is no network. -/
def unreachable (url : Url) : Exchange :=
  .failed ("error sending request for url (" ++ shown url ++ ")")

end Registry
end TypedPid
