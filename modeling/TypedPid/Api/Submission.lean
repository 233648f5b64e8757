import TypedPid.Http.MediaType
import TypedPid.Http.Message
import TypedPid.Record.Json
import TypedPid.Text.Utf8

/-!
Records that are submitted in the body of a request.
-/
namespace TypedPid.Api
open Http

inductive SubmissionError where
  | otherType
  | tooLong
  | unreadable (cause : Json.ReadError)

/-- What is malformed in a text is not told. -/
def SubmissionError.message : SubmissionError → String
  | otherType => "Expected request with \x60Content-Type: application/json\x60"
  | tooLong => "Failed to buffer the request body: length limit exceeded"
  | unreadable .malformed => "Failed to parse the request body as JSON: <json>"
  | unreadable (.misfit path cause) =>
    "Failed to deserialize the JSON body into the target type: " ++
      (if path.isEmpty then "" else Json.pathText path ++ ": ") ++ cause.message

namespace Submission

def maxLength : Nat := 2097152

def isJson (headers : Headers) : Bool :=
  ((headers.visible? "content-type").bind MediaType.ofText?).any (·.isJson)

def record (r : Request) : Except SubmissionError Record :=
  if !isJson r.headers then .error .otherType
  else if maxLength < r.body.length then .error .tooLong
  else (Record.ofSource (Utf8.decode r.body)).mapError .unreadable

end Submission
end TypedPid.Api
