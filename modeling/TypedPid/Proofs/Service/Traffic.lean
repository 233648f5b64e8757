import TypedPid.Proofs.Service.Course
import TypedPid.Proofs.Trace

/-! Runs of requests side by side. -/

namespace TypedPid.Service

open Procedure

/-- An action that puts a record into the store, if the store accepts it. -/
inductive Writes (r : Record) : Action → Prop
  | register : Writes r (.store (.register r))
  | update : Writes r (.store (.update r))

/-- A run of requests to a service that holds no records at first. -/
abbrev Run (s : Service) : List (Traffic × Event) → Traffic → Prop := Trace (Traffic.step s) {}

variable {s : Service} {past : List (Traffic × Event)} {w w' : Traffic} {e : Event} {i : Nat}
  {call : Call} {st : Store} {r : Record} {k : String} {action : Action}
  {outside : (action : Action) → action.Answer}

lemma perform_store (o : Store.Operation) :
    (st.perform o).2 = st ∨ ∃ r, Writes r (.store o) ∧ (st.perform o).2 = st.put r := by
  cases o with
  | register r =>
    simp only [Store.perform, Store.register]
    split
    · exact .inl rfl
    · exact .inr ⟨r, .register, rfl⟩
  | update r =>
    simp only [Store.perform, Store.update]
    split
    · exact .inr ⟨r, .update, rfl⟩
    · exact .inl rfl
  | _ => exact .inl rfl

lemma answer_store (st : Store) (outside : (action : Action) → action.Answer) (action : Action) :
    (st.answer outside action).2 = st ∨
      ∃ r, Writes r action ∧ (st.answer outside action).2 = st.put r := by
  cases action with
  | store o => exact perform_store o
  | _ => exact .inl rfl

lemma lookup_put : Keyed.lookup k (st.put r).records =
    if k = r.pid then some r else Keyed.lookup k st.records :=
  Keyed.lookup_insert st.records r.pid k r

lemma step_proceed (h : w.step s (.proceed i outside) = some w') : ∃ q taken action next,
    w.calls[i]? = some ⟨q, taken, .ask action next⟩ ∧
    w' = ⟨(w.store.answer outside action).2, w.calls.set i
      ⟨q, taken ++ [⟨action, (w.store.answer outside action).1⟩],
        next (w.store.answer outside action).1⟩⟩ := by
  simp only [Traffic.step, Option.bind_eq_bind, Option.bind_eq_some_iff] at h
  obtain ⟨⟨q, taken, rest⟩, hi, h⟩ := h
  cases rest with
  | done a => cases h
  | ask action next =>
    cases h
    exact ⟨q, taken, action, next, hi, rfl⟩

/-- A request was underway before a step, just came in, or went on by one action. -/
lemma call_of_step (hs : w.step s e = some w') (hi : w'.calls[i]? = some call) :
    w.calls[i]? = some call ∨ (∃ q, e = .arrive q ∧ call = ⟨q, [], s.handle q⟩) ∨
      ∃ outside q taken action next, e = .proceed i outside ∧
        w.calls[i]? = some ⟨q, taken, .ask action next⟩ ∧
        w'.store = (w.store.answer outside action).2 ∧
        call = ⟨q, taken ++ [⟨action, (w.store.answer outside action).1⟩],
          next (w.store.answer outside action).1⟩ := by
  cases e with
  | arrive q =>
    cases hs
    rw [List.getElem?_append] at hi
    split at hi
    · exact .inl hi
    · rw [List.getElem?_singleton] at hi
      split at hi <;> cases hi
      exact .inr (.inl ⟨q, rfl, rfl⟩)
  | proceed j outside =>
    obtain ⟨q, taken, action, next, hj, rfl⟩ := step_proceed hs
    rw [List.getElem?_set] at hi
    split at hi
    · next heq =>
      subst heq
      split at hi <;> cases hi
      exact .inr (.inr ⟨outside, q, taken, action, next, rfl, hj, rfl, rfl⟩)
    · exact .inl hi

/-- A request has come as far as it comes with the answers that it was given. -/
lemma reaches_of_trace (h : Trace (Traffic.step s) ⟨st, []⟩ past w)
    (hi : w.calls[i]? = some call) : Reaches (s.handle call.request) call.taken call.rest := by
  induction h generalizing call with
  | start => cases hi
  | step hr hs ih =>
    rcases call_of_step hs hi with hj | ⟨q, -, rfl⟩ | ⟨outside, q, taken, action, next, -, hj, -, rfl⟩
    · exact ih hj
    · exact .refl _
    · exact (ih hj).snoc _

lemma Run.reaches (h : Run s past w) (hi : w.calls[i]? = some call) :
    Reaches (s.handle call.request) call.taken call.rest :=
  reaches_of_trace h hi

variable (past) in
/-- A request that had taken some actions put a record into the store with its next one. -/
def StoredBy (q : Request) (taken : List Taken) (r : Record) : Prop :=
  ∃ v i outside action next, (v, .proceed i outside) ∈ past ∧
    v.calls[i]? = some ⟨q, taken, .ask action next⟩ ∧ Writes r action ∧
    (v.store.answer outside action).2 = v.store.put r

lemma StoredBy.cons {q : Request} {taken : List Taken} (h : StoredBy past q taken r)
    (a : Traffic × Event) : StoredBy (a :: past) q taken r := by
  obtain ⟨v, i, outside, action, next, hv, h⟩ := h
  exact ⟨v, i, outside, action, next, List.mem_cons_of_mem a hv, h⟩

lemma Run.storedBy (h : Run s past w) (hk : Keyed.lookup k w.store.records = some r) :
    r.pid = k ∧ ∃ q taken, StoredBy past q taken r := by
  induction h with
  | start => cases hk
  | @step past w e w' hr hs ih =>
    have hold : Keyed.lookup k w.store.records = some r →
        r.pid = k ∧ ∃ q taken, StoredBy ((w, e) :: past) q taken r := by
      intro hk
      obtain ⟨hp, q, taken, h⟩ := ih hk
      exact ⟨hp, q, taken, h.cons _⟩
    cases e with
    | arrive q =>
      cases hs
      exact hold hk
    | proceed i outside =>
      obtain ⟨q, taken, action, next, hi, rfl⟩ := step_proceed hs
      rcases answer_store w.store outside action with ht | ⟨r', hw, ht⟩ <;>
        simp only [ht] at hk
      · exact hold hk
      · rw [lookup_put] at hk
        split at hk
        · next heq =>
          cases hk
          exact ⟨heq.symm, q, taken, w, i, outside, action, next, List.mem_cons_self, hi, hw, ht⟩
        · exact hold hk

end TypedPid.Service
