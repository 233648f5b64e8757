import TypedPid.Service

/-!
Requests to a service that are underway side by side. Each goes on by one action at a time, and
between two actions of one request any actions of others may happen. What is asked of the records is
answered by the store, everything else from outside.
-/
namespace TypedPid

structure Taken where
  action : Action
  answer : action.Answer

/-- Answers an action, and tells what the records are then. -/
def Store.answer (s : Store) (outside : (action : Action) → action.Answer) :
    (action : Action) → action.Answer × Store
  | .store o => s.perform o
  | action => (outside action, s)

namespace Service

inductive Request where
  | register (r : Record) (dryRun : Bool)
  | update (r : Record)
  | resolve (pid : String)
  | view (pid typeIdentifier : String)
  | delete (pid : String)
  | list

abbrev Request.Answer : Request → Type
  | register _ _ => Except ServiceError Record
  | update _ => Except ServiceError Record
  | resolve _ => Except ServiceError Record
  | view _ _ => Except ServiceError Record
  | delete _ => Except ServiceError Unit
  | list => List String

def handle (s : Service) : (request : Request) → Procedure request.Answer
  | .register r dryRun => s.register r dryRun
  | .update r => s.update r
  | .resolve pid => resolve pid
  | .view pid typeIdentifier => view pid typeIdentifier
  | .delete pid => delete pid
  | .list => list

/-- A request with what it has done so far, the first action first, and what is left to do. -/
structure Call where
  request : Request
  taken : List Taken
  rest : Procedure request.Answer

structure Traffic where
  store : Store := {}
  calls : List Call := []

inductive Event where
  | arrive (request : Request)
  | proceed (call : Nat) (outside : (action : Action) → action.Answer)

/-- What an event does; none if the request is already answered. -/
def Traffic.step (s : Service) (w : Traffic) : Event → Option Traffic
  | .arrive request => some { w with calls := w.calls ++ [⟨request, [], s.handle request⟩] }
  | .proceed i outside => do
    let call ← w.calls[i]?
    match call.rest with
    | .done _ => none
    | .ask action next =>
      let (answer, store) := w.store.answer outside action
      let call := { call with taken := call.taken ++ [⟨action, answer⟩], rest := next answer }
      return { store, calls := w.calls.set i call }

end Service
end TypedPid
