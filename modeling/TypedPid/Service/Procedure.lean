import TypedPid.Cache.State
import TypedPid.Store

/-!
What a request does, step by step. Whatever it needs from outside is one action: a type definition,
a fresh identifier, one operation on the registered records. Between two actions of a request any
actions of others may happen.
-/
namespace TypedPid

inductive Action where
  | lookup (identifier : String)
  /-- Asks for a text that is never given twice. -/
  | mint
  | store (o : Store.Operation)
  | report

abbrev Action.Answer : Action → Type
  | lookup _ => Except LookupError TypeDefinition
  | mint => String
  | store o => o.Answer
  | report => Cache.Report

/-- A request on its way: it is done, or it goes on once an action is answered. -/
inductive Procedure (α : Type) where
  | done (a : α)
  | ask (action : Action) (next : action.Answer → Procedure α)

namespace Procedure

def bind (p : Procedure α) (f : α → Procedure β) : Procedure β :=
  match p with
  | done a => f a
  | ask action next => ask action fun answer => (next answer).bind f

instance : Monad Procedure where
  pure := done
  bind := bind

def take (action : Action) : Procedure action.Answer := ask action done

def run [Monad m] (answer : (action : Action) → m action.Answer) : Procedure α → m α
  | done a => pure a
  | ask action next => do (next (← answer action)).run answer

@[simp] theorem pure_eq (a : α) : (pure a : Procedure α) = done a := rfl

@[simp] theorem done_bind (a : α) (f : α → Procedure β) : done a >>= f = f a := rfl

@[simp] theorem ask_bind (action : Action) (next : action.Answer → Procedure α)
    (f : α → Procedure β) :
    ask action next >>= f = ask action fun answer => next answer >>= f := rfl

theorem bind_done (p : Procedure α) : p >>= done = p := by
  induction p with
  | done a => rfl
  | ask action next ih =>
    rw [ask_bind]
    exact congrArg _ (funext ih)

theorem bind_assoc (p : Procedure α) (f : α → Procedure β) (g : β → Procedure γ) :
    p >>= f >>= g = p >>= fun a => f a >>= g := by
  induction p with
  | done a => rfl
  | ask action next ih =>
    simp only [ask_bind]
    exact congrArg _ (funext ih)

instance : LawfulMonad Procedure :=
  LawfulMonad.mk' Procedure bind_done (fun _ _ => rfl) bind_assoc

end Procedure
end TypedPid
