import TypedPid.Text.Duration
import TypedPid.TypeDocument

/-!
What can go wrong when a type definition is looked up. The registry may say that there is no such
type, which is final, or may fail to deliver the definition, which may pass.
-/
namespace TypedPid

inductive Unusable where
  | unreadable (error : Json.ReadError)
  | meaningless (error : DefinitionError)
  | otherType (requested received : String)
  | because (reason : String)

/-- The registry did not deliver. `endpoint` says where it was asked. -/
inductive LoadError where
  | transport (endpoint message : String)
  | status (endpoint : String) (code : Nat)
  | timeout (endpoint : String) (after : Duration)
  | invalidDefinition (endpoint : String) (cause : Unusable)

/-- What a registry says about an identifier: a definition, or that there is none. -/
abbrev LoadResult := Except LoadError (Option TypeDefinition)

inductive LookupError where
  | notFound (identifier : String)
  | unavailable (error : LoadError)

namespace Unusable

/-- The text of the cause. What is malformed in a text is not told. -/
def message : Unusable → String
  | unreadable .malformed => "<json>"
  | unreadable (.misfit _ cause) => cause.message
  | meaningless error => error.message
  | otherType requested received => "requested type " ++ requested ++ ", received " ++ received
  | because reason => reason

end Unusable

namespace LoadError

def endpoint : LoadError → String
  | transport endpoint _ => endpoint
  | status endpoint _ => endpoint
  | timeout endpoint _ => endpoint
  | invalidDefinition endpoint _ => endpoint

def isTimeout : LoadError → Bool
  | timeout _ _ => true
  | _ => false

def message : LoadError → String
  | transport endpoint message => "type registry at " ++ endpoint ++ " unreachable: " ++ message
  | status endpoint code =>
    "type registry at " ++ endpoint ++ " answered with status " ++ toString code
  | timeout endpoint after =>
    "type registry at " ++ endpoint ++ " did not answer within " ++ after.text
  | invalidDefinition endpoint cause =>
    "type registry at " ++ endpoint ++ " returned an invalid definition: " ++ cause.message

end LoadError

namespace LookupError

def message : LookupError → String
  | notFound identifier => "no type found for identifier " ++ identifier
  | unavailable error => error.message

def isRetryable : LookupError → Bool
  | notFound _ => false
  | unavailable _ => true

end LookupError

namespace TypeDocument

def definition? (text : Json.Source) : Except Unusable TypeDefinition := do
  let document ← (ofSource text).mapError .unreadable
  document.toDefinition.mapError .meaningless

end TypeDocument
end TypedPid
