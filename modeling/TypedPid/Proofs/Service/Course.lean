import Mathlib.Tactic.Common
import TypedPid.Service.Interleaving

/-! How far a procedure comes with the answers that its actions are given. -/

namespace TypedPid.Procedure

variable {α β : Type}

/-- With the answers of a log the first procedure comes to the second one. -/
inductive Reaches : Procedure α → List Taken → Procedure α → Prop
  | refl (p : Procedure α) : Reaches p [] p
  | ask {action next answer log q} : Reaches (next answer) log q →
      Reaches (.ask action next) (⟨action, answer⟩ :: log) q

/-- All actions that a procedure can take are among some. -/
inductive Within (P : Action → Prop) : Procedure α → Prop
  | done (a : α) : Within P (.done a)
  | ask {action next} : P action → (∀ answer, Within P (next answer)) → Within P (.ask action next)

variable {p q : Procedure α} {f : α → Procedure β} {g : α → β} {a : α} {b : β} {log : List Taken}
  {action : Action} {next : action.Answer → Procedure α} {P : Action → Prop}

lemma Reaches.snoc (h : Reaches p log (.ask action next)) (answer : action.Answer) :
    Reaches p (log ++ [⟨action, answer⟩]) (next answer) := by
  generalize hq : Procedure.ask action next = q at h
  induction h with
  | refl p =>
    subst hq
    exact .ask (.refl _)
  | ask _ ih => exact .ask (ih hq)

lemma reaches_done : Reaches (.done a) log q ↔ log = [] ∧ q = .done a := by
  constructor
  · intro h
    cases h
    exact ⟨rfl, rfl⟩
  · rintro ⟨rfl, rfl⟩
    exact .refl _

lemma reaches_ask : Reaches (.ask action next) log q ↔
    (log = [] ∧ q = .ask action next) ∨
      ∃ answer log', log = ⟨action, answer⟩ :: log' ∧ Reaches (next answer) log' q := by
  constructor
  · intro h
    cases h with
    | refl => exact .inl ⟨rfl, rfl⟩
    | ask h => exact .inr ⟨_, _, rfl, h⟩
  · rintro (⟨rfl, rfl⟩ | ⟨answer, log', rfl, h⟩)
    · exact .refl _
    · exact .ask h

lemma reaches_ask_done {f : action.Answer → β}
    (h : Reaches (.ask action fun answer => .done (f answer)) log (.done b)) :
    ∃ answer, log = [⟨action, answer⟩] ∧ b = f answer := by
  rcases reaches_ask.1 h with ⟨-, heq⟩ | ⟨answer, log', rfl, hd⟩
  · cases heq
  · obtain ⟨rfl, heq⟩ := reaches_done.1 hd
    cases heq
    exact ⟨answer, rfl, rfl⟩

lemma Reaches.bind (h : Reaches p log (.done a)) {log' : List Taken} {q : Procedure β}
    (hf : Reaches (f a) log' q) : Reaches (p >>= f) (log ++ log') q := by
  generalize hd : Procedure.done a = d at h
  induction h with
  | refl p =>
    subst hd
    exact hf
  | ask _ ih => exact .ask (ih hd)

lemma reaches_bind {q : Procedure β} (h : Reaches (p >>= f) log q) :
    (∃ action next, Reaches p log (.ask action next) ∧
      q = .ask action fun answer => next answer >>= f) ∨
    ∃ a log₁ log₂, log = log₁ ++ log₂ ∧ Reaches p log₁ (.done a) ∧ Reaches (f a) log₂ q := by
  induction p generalizing log with
  | done a => exact .inr ⟨a, [], log, rfl, .refl _, h⟩
  | ask action next ih =>
    rw [ask_bind, reaches_ask] at h
    rcases h with ⟨rfl, rfl⟩ | ⟨answer, log, rfl, h⟩
    · exact .inl ⟨action, next, .refl _, rfl⟩
    · rcases ih answer h with ⟨action', next', hp, rfl⟩ | ⟨a, log₁, log₂, rfl, hp, hf⟩
      · exact .inl ⟨action', next', .ask hp, rfl⟩
      · exact .inr ⟨a, ⟨action, answer⟩ :: log₁, log₂, rfl, .ask hp, hf⟩

lemma reaches_map_done :
    Reaches (g <$> p) log (.done b) ↔ ∃ a, Reaches p log (.done a) ∧ b = g a := by
  constructor
  · intro h
    rcases reaches_bind h with ⟨action, next, -, hq⟩ | ⟨a, log₁, log₂, rfl, hp, hf⟩
    · cases hq
    · obtain ⟨rfl, hb⟩ := reaches_done.1 hf
      cases hb
      exact ⟨a, by rwa [List.append_nil], rfl⟩
  · rintro ⟨a, hp, rfl⟩
    rw [← List.append_nil log]
    exact hp.bind (.refl _)

lemma Within.mono {Q : Action → Prop} (hPQ : ∀ action, P action → Q action) (h : Within P p) :
    Within Q p := by
  induction h with
  | done a => exact .done a
  | ask ha _ ih => exact .ask (hPQ _ ha) ih

lemma Within.bind (h : Within P p) (hf : ∀ a, Within P (f a)) : Within P (p >>= f) := by
  induction h with
  | done a => exact hf a
  | ask ha _ ih => exact .ask ha ih

lemma Within.reaches (h : Within P p) (hr : Reaches p log q) : Within P q := by
  induction hr with
  | refl p => exact h
  | ask _ ih =>
    cases h with
    | ask _ hn => exact ih (hn _)

lemma Within.taken (h : Within P p) (hr : Reaches p log q) : ∀ t ∈ log, P t.action := by
  induction hr with
  | refl p => exact fun t ht => by cases ht
  | ask _ ih =>
    cases h with
    | ask ha hn => exact List.forall_mem_cons.2 ⟨ha, ih (hn _)⟩

lemma Within.allows {next : action.Answer → Procedure α} (h : Within P p)
    (hr : Reaches p log (.ask action next)) : P action := by
  cases h.reaches hr with
  | ask ha _ => exact ha

end TypedPid.Procedure
