import TypedPid.Json.Value
import TypedPid.Service

/-!
Problem documents, which tell a client why its request failed. Only an unavailable registry is a
problem that may pass.
-/
namespace TypedPid.Api

inductive ProblemKind where
  | badRequest
  | notFound
  | methodNotAllowed
  | conflict
  | serviceUnavailable
deriving DecidableEq

namespace ProblemKind

def status : ProblemKind → Nat
  | badRequest => 400
  | notFound => 404
  | methodNotAllowed => 405
  | conflict => 409
  | serviceUnavailable => 503

def title : ProblemKind → String
  | badRequest => "Bad Request"
  | notFound => "Not Found"
  | methodNotAllowed => "Method Not Allowed"
  | conflict => "Conflict"
  | serviceUnavailable => "Service Unavailable"

end ProblemKind

structure Problem where
  kind : ProblemKind
  /-- What went wrong, for programs. -/
  code : String
  /-- What went wrong, for people. -/
  detail : String
  /-- The request in which the problem first arose. -/
  firstRequest : Option String := none
  /-- The request that is answered with the problem. -/
  request : Option String := none

namespace Problem

def isRetryable (p : Problem) : Bool := p.kind = .serviceUnavailable

def withRequest (p : Problem) (id : String) : Problem :=
  { p with request := some id, firstRequest := p.firstRequest.or (some id) }

def ofServiceError (e : ServiceError) : Problem :=
  let (kind, code) := match e with
    | .validation (.rejected _ _) => (.badRequest, "validation_failed")
    | .validation (.serviceUnavailable _) => (.serviceUnavailable, "registry_unavailable")
    | .lookup (.unavailable _) => (.serviceUnavailable, "registry_unavailable")
    | .lookup (.notFound _) => (.notFound, "type_not_found")
    | .store (.notFound _) => (.notFound, "pid_not_found")
    | .store (.alreadyExists _) => (.conflict, "pid_already_exists")
    | .store (.deleteUnsupported _) => (.methodNotAllowed, "delete_unsupported")
  { kind, code, detail := e.message }

def toJson (p : Problem) : Json.Value :=
  .object ([("type", .string ("https://pit-vt.dev/problems/" ++ p.code)),
      ("title", .string p.kind.title), ("status", .number p.kind.status),
      ("detail", .string p.detail)] ++
    (p.firstRequest.map fun id => ("instance", .string id)).toList ++
    [("code", .string p.code), ("request_id", .string (p.request.getD "unknown")),
      ("retryable", .bool p.isRetryable)])

end Problem
end TypedPid.Api
