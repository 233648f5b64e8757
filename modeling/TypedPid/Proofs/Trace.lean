import Mathlib.Tactic.Common

/-! Runs of systems that take one step after another, with what happened in them. -/

namespace TypedPid

variable {σ ε : Type}

/-- A run up to a state, with the steps it took, each with the state in which it was taken. The last
one comes first. -/
inductive Trace (next : σ → ε → Option σ) (first : σ) : List (σ × ε) → σ → Prop
  | start : Trace next first [] first
  | step {past s e s'} : Trace next first past s → next s e = some s' →
      Trace next first ((s, e) :: past) s'

/-- The run that takes one step for each event, as long as they can happen. -/
def replay (next : σ → ε → Option σ) (past : List (σ × ε)) (s : σ) :
    List ε → Option (List (σ × ε) × σ)
  | [] => some (past, s)
  | e :: es => (next s e).bind fun s' => replay next ((s, e) :: past) s' es

variable {next : σ → ε → Option σ} {first s t : σ} {past past' : List (σ × ε)} {e : ε}

lemma Trace.replay {es : List ε} (h : Trace next first past s)
    (hr : replay next past s es = some (past', t)) : Trace next first past' t := by
  induction es generalizing past s with
  | nil =>
    cases hr
    exact h
  | cons e es ih =>
    obtain ⟨s₁, hs, hr⟩ := Option.bind_eq_some_iff.1 hr
    exact ih (h.step hs) hr

lemma Trace.upTo {after : List (σ × ε)} (h : Trace next first (after ++ (t, e) :: past) s) :
    Trace next first past t := by
  induction after generalizing s with
  | nil =>
    cases h with
    | step hr _ => exact hr
  | cons a after ih =>
    cases h with
    | step hr _ => exact ih hr

/-- Every state in which a step of a run was taken was come to by a run. -/
lemma Trace.before (h : Trace next first past s) (ht : (t, e) ∈ past) :
    ∃ past', Trace next first past' t := by
  induction h with
  | start => cases ht
  | @step past s e' s' hr hs ih =>
    rcases List.mem_cons.1 ht with heq | ht
    · cases heq
      exact ⟨past, hr⟩
    · exact ih ht

/-- What a step brought about, and every step keeps, is so in the end. -/
lemma Trace.remains {P : σ → Prop} (h : Trace next first past s)
    (hstep : ∀ {past s e s'}, Trace next first past s → next s e = some s' → P s → P s')
    (ht : (t, e) ∈ past) (hP : ∀ {t'}, next t e = some t' → P t') : P s := by
  induction h with
  | start => cases ht
  | @step past s e' s' hr hs ih =>
    rcases List.mem_cons.1 ht with heq | ht
    · cases heq
      exact hP hs
    · exact hstep hr hs (ih ht)

end TypedPid
