import TypedPid.Api.Problem
import TypedPid.Api.Route
import TypedPid.Api.Submission
import TypedPid.Http.Form

/-!
The service behind HTTP. `Api.handle` says for every request how it is answered.
-/
namespace TypedPid.Api
open Http

structure Arrival where
  /-- A number that no other request has, as hexadecimal digits. -/
  number : String
  time : String

/-- The identifier of a request: what the client calls it, or its number. -/
def requestId (a : Arrival) (h : Headers) : String :=
  let given := (h.visible? "x-request-id").map Header.trim
  (given.filter (· ≠ "")).getD ("req_" ++ a.number)

def problem (id : String) (p : Problem) : Response :=
  { status := p.kind.status
    headers := [("content-type", "application/problem+json")]
    body := (p.withRequest id).toJson.text }

def failure (id : String) (e : ServiceError) : Response := problem id (.ofServiceError e)

def invalidRecord (id : String) (e : SubmissionError) : Response :=
  problem id ⟨.badRequest, "invalid_record", e.message, none, none⟩

def invalidQuery (f : Form.Fault) : Response :=
  .plain 400 ("Failed to deserialize query string: " ++ f.message)

def invalidPath : Response := .plain 400 "Invalid URL: Invalid UTF-8 in \x60pid\x60"

/-- The answer to a registration. Where the location of the new record cannot be told, that is an
error, although the record is stored. -/
def created (r : Record) : Response :=
  let location := Route.recordPath ++ r.pid
  if Header.isValue location then
    (Response.json 201 r.toJson).withHeaders [("location", location)]
  else .plain 500 "failed to parse header value"

def parameters (r : Request) : Form := Form.ofQuery (r.target.query.getD "")

def register (s : Service) (id : String) (r : Request) : Procedure Response :=
  match (parameters r).flag? "dryrun" with
  | .error f => return invalidQuery f
  | .ok flag =>
    match Submission.record r with
    | .error e => return invalidRecord id e
    | .ok submitted => do
      let dryRun := flag.getD false
      match ← s.register submitted dryRun with
      | .error e => return failure id e
      | .ok r => return if dryRun then .json 200 r.toJson else created r

/-- The record that is to replace the one under an identifier. It may leave out the identifier, and
may not have another one. -/
def replacement (pid : String) (r : Record) : Except Problem Record :=
  if r.pid = "" then .ok (r.setPid pid)
  else if r.pid = pid then .ok r
  else
    .error {
      kind := .badRequest
      code := "pid_mismatch"
      detail := "PID in body (" ++ r.pid ++ ") does not match PID in path (" ++ pid ++ ")" }

def update (s : Service) (id : String) (r : Request) (pid : String) : Procedure Response :=
  match Submission.record r with
  | .error e => return invalidRecord id e
  | .ok submitted =>
    match replacement pid submitted with
    | .error p => return problem id p
    | .ok r => do
      match ← s.update r with
      | .error e => return failure id e
      | .ok r => return .json 200 r.toJson

def resolve (id : String) (r : Request) (pid : String) : Procedure Response :=
  match (parameters r).text? "view" with
  | .error f => return invalidQuery f
  | .ok typeIdentifier? => do
    let found ← match typeIdentifier? with
      | some typeIdentifier => Service.view pid typeIdentifier
      | none => Service.resolve pid
    match found with
    | .error e => return failure id e
    | .ok r => return .json 200 r.toJson

def delete (id : String) (pid : String) : Procedure Response := do
  match ← Service.delete pid with
  | .error e => return failure id e
  | .ok () => return .empty 204

def list : Procedure Response :=
  return .json 200 (.array ((← Service.list).map .string))

/-- How the service is. The registry is not asked. -/
def health (a : Arrival) : Procedure Response := do
  let types ← Procedure.take .report
  return .json 200 (.object [
    ("status", .string "ok"), ("service", .string "pit-service"), ("version", .string "0.1.0"),
    ("timestamp", .string a.time),
    ("type_cache", .object [
      ("registry", .string types.endpoint), ("entries", .number types.entries),
      ("hits", .number types.stats.hits), ("misses", .number types.stats.misses),
      ("loads", .number types.stats.loads),
      ("load_failures", .number types.stats.loadFailures)])])

def withPid (written : String) (f : String → Procedure Response) : Procedure Response :=
  match Route.decode? written with
  | some pid => f pid
  | none => return invalidPath

def serve (s : Service) (a : Arrival) (r : Request) : Endpoint → Procedure Response
  | .health => health a
  | .alive => return .empty 200
  | .register => register s (requestId a r.headers) r
  | .resolve written => withPid written (resolve (requestId a r.headers) r)
  | .update written => withPid written (update s (requestId a r.headers) r)
  | .delete written => withPid written (delete (requestId a r.headers))
  | .list => list

/-- The answer to a request, as if it came from the place where the service is. -/
def answer (s : Service) (a : Arrival) (r : Request) : Procedure Response :=
  match Route.ofPath? r.target.path with
  | none => return .empty 404
  | some route =>
    match route.endpoint? r.method with
    | none => return (Response.empty 405).withHeaders [("allow", route.allowed)]
    | some endpoint => serve s a r endpoint

/-- Pages from any place may see the answers. -/
def anyOrigin : Headers := [("access-control-allow-origin", "*")]

def permissions (path : String) : Response :=
  (Response.empty 200).withHeaders (anyOrigin ++
    [("access-control-allow-methods", "GET,POST,PUT,DELETE"),
      ("access-control-allow-headers", "content-type")] ++
    ((Route.ofPath? path).map fun route => ("allow", route.allowed)).toList)

def handle (s : Service) (a : Arrival) (r : Request) : Procedure Response :=
  if r.method = "OPTIONS" then return permissions r.target.path
  else do
    let response := (← answer s a r).withHeaders anyOrigin
    return if r.method = "HEAD" then response.withoutBody else response

end TypedPid.Api
