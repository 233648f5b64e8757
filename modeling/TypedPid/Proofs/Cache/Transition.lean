import TypedPid.Cache.State
import TypedPid.Proofs.Trace

/-! The steps of a cache as a relation, and the runs that they make up. -/

namespace TypedPid.Cache

variable (c : Config) (endpoint : String)

/-- An event ends the load of a caller who has been waiting since a time. -/
inductive Ends (s : State) (k since : Nat) : Event → LoadResult → Prop
  | answer (result : LoadResult) : Ends s k since (.answer k result) result
  | expire : since + c.loadTimeout.nanoseconds ≤ s.now →
      Ends s k since (.expire k) (.error (.timeout endpoint c.loadTimeout))

/-- What a caller who asks for `id` can do: its phase, what becomes of the state, its next phase. -/
inductive Act (s : State) (k : Nat) (id : String) : Event → Phase → State → Phase → Prop
  | hit {l} : s.find c id = some l →
      Act s k id (.proceed k) .arriving s.countHit (.answered (.ok l))
  | miss : s.find c id = none → Act s k id (.proceed k) .arriving s.countMiss .joining
  | follow {f} : Keyed.lookup id s.inFlight = some f →
      Act s k id (.proceed k) .joining s (.following f)
  | lead : Keyed.lookup id s.inFlight = none →
      Act s k id (.proceed k) .joining (s.startFlight id) (.leading s.flights.length)
  | learn {f fl o} : s.flights[f]? = some fl → fl.channel.receive = some (some o) →
      Act s k id (.proceed k) (.following f) s (.answered o)
  | lose {f fl} : s.flights[f]? = some fl → fl.channel.receive = some none →
      Act s k id (.proceed k) (.following f) s .returning
  | findAgain {l} : s.find c id = some l →
      Act s k id (.proceed k) .returning s (.answered (.ok l))
  | missAgain : s.find c id = none → Act s k id (.proceed k) .returning s .joining
  | confirm {f l} : s.find c id = some l → Act s k id (.proceed k) (.leading f) s (.landing f l)
  | want {f} : s.find c id = none → Act s k id (.proceed k) (.leading f) s (.fetching f)
  | begin {f} : Act s k id (.proceed k) (.fetching f) (s.startLoad id)
      (.loading f s.loads.length s.now)
  | finish {e f load since result t p'} : Ends c endpoint s k since e result →
      s.answer id f load result = (t, p') → Act s k id e (.loading f load since) t p'
  | store {f l} : Act s k id (.proceed k) (.storing f l) (s.store c id l) (.landing f l)
  | land {f l} : Act s k id (.proceed k) (.landing f l) (s.complete f (.ok l)) (.leaving f (.ok l))
  | leave {f o} : Act s k id (.proceed k) (.leaving f o) (s.drop f) (.answered o)
  | quitArriving : Act s k id (.cancel k) .arriving s .cancelled
  | quitFollowing {f} : Act s k id (.cancel k) (.following f) s .cancelled
  | quitReturning : Act s k id (.cancel k) .returning s .cancelled
  | quitLeading {f} : Act s k id (.cancel k) (.leading f) (s.drop f) .cancelled
  | quitLoading {f load since} : Act s k id (.cancel k) (.loading f load since)
      ((s.setProgress load .dropped).drop f) .cancelled
  | quitStoring {f l} : Act s k id (.cancel k) (.storing f l) (s.drop f) .cancelled

inductive Transition (s : State) : Event → State → Prop
  | arrive (id : String) :
      Transition s (.arrive id) { s with callers := s.callers ++ [⟨id, .arriving⟩] }
  | act {k id p e t p'} : s.callers[k]? = some ⟨id, p⟩ → Act c endpoint s k id e p t p' →
      Transition s e (t.setPhase k p')
  | peek (id : String) : Transition s (.peek id) s
  | invalidate (id : String) :
      Transition s (.invalidate id) { s with entries := Keyed.erase id s.entries }
  | pass (n : Nat) : Transition s (.pass n) { s with now := s.now + n }

/-- A run of a cache that keeps nothing at first. -/
abbrev Run : List (State × Event) → State → Prop := Trace (State.step c endpoint) {}

variable {c endpoint} {s s' t : State} {k : Nat} {id : String} {e : Event} {p p' : Phase}
  {f : Nat} {fl : Flight}

lemma turn_eq_some_iff (act : String → Phase → Option (State × Phase)) :
    s.turn k act = some s' ↔ ∃ id p t p', s.callers[k]? = some ⟨id, p⟩ ∧
      act id p = some (t, p') ∧ s' = t.setPhase k p' := by
  constructor
  · intro h
    simp only [State.turn, Option.bind_eq_bind, Option.bind_eq_some_iff] at h
    obtain ⟨⟨id, p⟩, hk, ⟨t, p'⟩, ha, hs⟩ := h
    exact ⟨id, p, t, p', hk, ha, (Option.some.inj hs).symm⟩
  · rintro ⟨id, p, t, p', hk, ha, rfl⟩
    simp [State.turn, hk, ha]

lemma act_of_proceed (h : s.proceed c id p = some (t, p')) :
    Act c endpoint s k id (.proceed k) p t p' := by
  cases p with
  | arriving =>
    cases hf : s.find c id <;> simp only [State.proceed, hf, Option.some.injEq, Prod.mk.injEq] at h
    · obtain ⟨rfl, rfl⟩ := h
      exact .miss hf
    · obtain ⟨rfl, rfl⟩ := h
      exact .hit hf
  | joining =>
    cases hf : Keyed.lookup id s.inFlight <;>
      simp only [State.proceed, hf, Option.some.injEq, Prod.mk.injEq] at h
    · obtain ⟨rfl, rfl⟩ := h
      exact .lead hf
    · obtain ⟨rfl, rfl⟩ := h
      exact .follow hf
  | following f =>
    simp only [State.proceed, Option.bind_eq_bind, Option.bind_eq_some_iff] at h
    obtain ⟨fl, hf, received, hr, h⟩ := h
    cases received with
    | none =>
      cases h
      exact .lose hf hr
    | some o =>
      cases h
      exact .learn hf hr
  | returning =>
    cases hf : s.find c id <;> simp only [State.proceed, hf, Option.some.injEq, Prod.mk.injEq] at h
    · obtain ⟨rfl, rfl⟩ := h
      exact .missAgain hf
    · obtain ⟨rfl, rfl⟩ := h
      exact .findAgain hf
  | leading f =>
    cases hf : s.find c id <;> simp only [State.proceed, hf, Option.some.injEq, Prod.mk.injEq] at h
    · obtain ⟨rfl, rfl⟩ := h
      exact .want hf
    · obtain ⟨rfl, rfl⟩ := h
      exact .confirm hf
  | fetching f => cases h; exact .begin
  | loading f load since => cases h
  | storing f l => cases h; exact .store
  | landing f l => cases h; exact .land
  | leaving f o => cases h; exact .leave
  | answered o => cases h
  | cancelled => cases h

lemma act_of_cancel (h : s.cancel p = some t) :
    Act c endpoint s k id (.cancel k) p t .cancelled := by
  cases p with
  | arriving => cases h; exact .quitArriving
  | following f => cases h; exact .quitFollowing
  | returning => cases h; exact .quitReturning
  | leading f => cases h; exact .quitLeading
  | loading f load since => cases h; exact .quitLoading
  | storing f l => cases h; exact .quitStoring
  | joining => cases h
  | fetching f => cases h
  | landing f l => cases h
  | leaving f o => cases h
  | answered o => cases h
  | cancelled => cases h

lemma step_of_act (hk : s.callers[k]? = some ⟨id, p⟩) (h : Act c endpoint s k id e p t p') :
    s.step c endpoint e = some (t.setPhase k p') := by
  cases h with
  | finish hr ha => cases hr <;> simp_all [State.step, State.turn]
  | _ => simp_all [State.step, State.turn, State.proceed, State.cancel]

theorem step_eq_some_iff : s.step c endpoint e = some s' ↔ Transition c endpoint s e s' := by
  constructor
  · intro h
    cases e with
    | arrive id => cases h; exact .arrive id
    | proceed k =>
      rw [State.step, turn_eq_some_iff] at h
      obtain ⟨id, p, t, p', hk, ha, rfl⟩ := h
      exact .act hk (act_of_proceed ha)
    | answer k result =>
      rw [State.step, turn_eq_some_iff] at h
      obtain ⟨id, p, t, p', hk, ha, rfl⟩ := h
      cases p with
      | loading f load since =>
        exact .act hk (.finish (.answer result) (Option.some.inj ha))
      | _ => cases ha
    | expire k =>
      rw [State.step, turn_eq_some_iff] at h
      obtain ⟨id, p, t, p', hk, ha, rfl⟩ := h
      cases p with
      | loading f load since =>
        simp only [Option.ite_none_right_eq_some, Option.some.injEq] at ha
        exact .act hk (.finish (.expire ha.1) ha.2)
      | _ => cases ha
    | cancel k =>
      rw [State.step, turn_eq_some_iff] at h
      obtain ⟨id, p, t, p', hk, ha, rfl⟩ := h
      obtain ⟨t, hc, ha⟩ := Option.map_eq_some_iff.1 ha
      cases ha
      exact .act hk (act_of_cancel hc)
    | peek id => cases h; exact .peek id
    | invalidate id => cases h; exact .invalidate id
    | pass n => cases h; exact .pass n
  · intro h
    cases h with
    | act hk ha => exact step_of_act hk ha
    | _ => rfl

section Operations

@[simp] lemma setPhase_inFlight : (s.setPhase k p).inFlight = s.inFlight := rfl

@[simp] lemma setPhase_flights : (s.setPhase k p).flights = s.flights := rfl

@[simp] lemma setPhase_loads : (s.setPhase k p).loads = s.loads := rfl

lemma callers_setPhase (hk : s.callers[k]? = some ⟨id, p⟩) (j : Nat) :
    (s.setPhase k p').callers[j]? = if j = k then some ⟨id, p'⟩ else s.callers[j]? := by
  simp only [State.setPhase, List.getElem?_modify]
  by_cases hj : j = k
  · subst hj
    simp [hk]
  · simp [hj, Ne.symm hj]

lemma complete_eq (hf : s.flights[f]? = some fl) (o : Outcome) :
    s.complete f o = { s with
      inFlight := Keyed.erase fl.identifier s.inFlight
      flights := s.flights.set f { fl with done := true, channel := fl.channel.send o } } := by
  simp [State.complete, State.unregister, hf]

lemma drop_eq_of_not_done (hf : s.flights[f]? = some fl) (hd : fl.done = false) :
    s.drop f = { s with
      inFlight := Keyed.erase fl.identifier s.inFlight
      flights := s.flights.set f { fl with channel := fl.channel.close } } := by
  simp [State.drop, State.unregister, hf, hd]

lemma drop_eq_of_done (hf : s.flights[f]? = some fl) (hd : fl.done = true) :
    s.drop f = { s with flights := s.flights.set f { fl with channel := fl.channel.close } } := by
  simp [State.drop, hf, hd]

@[simp] lemma complete_callers (o : Outcome) : (s.complete f o).callers = s.callers := by
  unfold State.complete
  split <;> rfl

@[simp] lemma complete_loads (o : Outcome) : (s.complete f o).loads = s.loads := by
  unfold State.complete
  split <;> rfl

@[simp] lemma drop_callers : (s.drop f).callers = s.callers := by
  unfold State.drop
  split
  · rfl
  · dsimp only
    split <;> rfl

@[simp] lemma drop_loads : (s.drop f).loads = s.loads := by
  unfold State.drop
  split
  · rfl
  · dsimp only
    split <;> rfl

@[simp] lemma complete_entries (o : Outcome) : (s.complete f o).entries = s.entries := by
  unfold State.complete
  split <;> rfl

@[simp] lemma drop_entries : (s.drop f).entries = s.entries := by
  unfold State.drop
  split
  · rfl
  · dsimp only
    split <;> rfl

lemma answer_eq_iff {load : Nat} {result : LoadResult} : s.answer id f load result = (t, p') ↔
    (∃ d, result = .ok (some d) ∧ t = s.setProgress load .delivered ∧ p' = .storing f ⟨load, d⟩) ∨
    (result = .ok none ∧ t = (s.setProgress load .refused).complete f (.error (.notFound id)) ∧
      p' = .leaving f (.error (.notFound id))) ∨
    ∃ err, result = .error err ∧
      t = (s.countFailure.setProgress load .failed).complete f (.error (.unavailable err)) ∧
      p' = .leaving f (.error (.unavailable err)) := by
  cases result with
  | ok found => cases found <;> simp [State.answer, State.miscarry, eq_comm]
  | error err => simp [State.answer, State.miscarry, eq_comm]

lemma answer_entries (f load : Nat) (result : LoadResult) :
    (s.answer id f load result).1.entries = s.entries := by
  unfold State.answer
  split
  · rfl
  · exact complete_entries _
  · exact complete_entries _

lemma answer_callers (f load : Nat) (result : LoadResult) :
    (s.answer id f load result).1.callers = s.callers := by
  unfold State.answer
  split
  · rfl
  · exact complete_callers _
  · exact complete_callers _

end Operations

section Callers

lemma act_callers (h : Act c endpoint s k id e p t p') : t.callers = s.callers := by
  cases h with
  | finish _ hr => exact (congrArg (·.1.callers) hr).symm.trans (answer_callers _ _ _)
  | land => exact complete_callers _
  | leave => exact drop_callers
  | quitLeading => exact drop_callers
  | quitLoading => exact drop_callers
  | quitStoring => exact drop_callers
  | _ => rfl

lemma act_entries (h : Act c endpoint s k id e p t p') : t.entries = s.entries ∨
    ∃ f l, p = .storing f l ∧ p' = .landing f l ∧ t.entries = s.entries.store c s.now id l := by
  cases h with
  | finish _ hr => exact .inl ((congrArg (·.1.entries) hr).symm.trans (answer_entries _ _ _))
  | store => exact .inr ⟨_, _, rfl, rfl, rfl⟩
  | land => exact .inl (complete_entries _)
  | leave => exact .inl drop_entries
  | quitLeading => exact .inl drop_entries
  | quitLoading => exact .inl drop_entries
  | quitStoring => exact .inl drop_entries
  | _ => exact .inl rfl

lemma act_event_ne {j : Nat} (ha : Act c endpoint s j id e p t p') (hne : k ≠ j) : e ≠ .proceed k := by
  rintro rfl
  cases ha with
  | finish he => cases he
  | _ => exact hne rfl

lemma callers_act (hk : s.callers[k]? = some ⟨id, p⟩) (h : Act c endpoint s k id e p t p')
    (j : Nat) :
    (t.setPhase k p').callers[j]? = if j = k then some ⟨id, p'⟩ else s.callers[j]? := by
  rw [callers_setPhase (act_callers h ▸ hk), act_callers h]

lemma callers_arrive {id' : String} (hk : (s.callers ++ [⟨id', .arriving⟩])[k]? = some ⟨id, p⟩) :
    s.callers[k]? = some ⟨id, p⟩ ∨ p = .arriving := by
  rw [List.getElem?_append] at hk
  split at hk
  · exact .inl hk
  · rw [List.getElem?_singleton] at hk
    split at hk <;> cases hk
    exact .inr rfl

lemma stays_or_acts (hs : s.step c endpoint e = some s') (hk : s.callers[k]? = some ⟨id, p⟩) :
    s'.callers[k]? = some ⟨id, p⟩ ∨
      ∃ t p', Act c endpoint s k id e p t p' ∧ s' = t.setPhase k p' := by
  cases step_eq_some_iff.1 hs with
  | arrive id' =>
    exact .inl ((List.getElem?_append_left (List.getElem?_eq_some_iff.1 hk).1).trans hk)
  | @act j id' q e t q' hj ha =>
    by_cases heq : k = j
    · subst heq
      rw [hk] at hj
      cases hj
      exact .inr ⟨t, q', ha, rfl⟩
    · rw [callers_act hj ha, if_neg heq]
      exact .inl hk
  | _ => exact .inl hk

/-- What every step of a caller keeps is kept. -/
lemma phase_step {Q : Phase → Prop}
    (hQ : ∀ {e p t p'}, Act c endpoint s k id e p t p' → Q p → Q p')
    (hs : s.step c endpoint e = some s') (hk : ∃ p, s.callers[k]? = some ⟨id, p⟩ ∧ Q p) :
    ∃ p, s'.callers[k]? = some ⟨id, p⟩ ∧ Q p := by
  obtain ⟨p, hk, hp⟩ := hk
  rcases stays_or_acts hs hk with hk' | ⟨t, p', ha, rfl⟩
  · exact ⟨p, hk', hp⟩
  · exact ⟨p', (callers_act hk ha k).trans (if_pos rfl), hQ ha hp⟩

lemma stayed_or_acted (hs : s.step c endpoint e = some s') (hk : s'.callers[k]? = some ⟨id, p'⟩) :
    s.callers[k]? = some ⟨id, p'⟩ ∨ p' = .arriving ∨ ∃ p t, s.callers[k]? = some ⟨id, p⟩ ∧
      Act c endpoint s k id e p t p' ∧ s' = t.setPhase k p' := by
  cases step_eq_some_iff.1 hs with
  | arrive id' =>
    rcases callers_arrive hk with hk | hp
    · exact .inl hk
    · exact .inr (.inl hp)
  | @act j id' q e t q' hj ha =>
    rw [callers_act hj ha] at hk
    split at hk
    · next heq =>
      cases hk
      exact .inr (.inr ⟨q, t, heq ▸ hj, heq ▸ ha, heq ▸ rfl⟩)
    · exact .inl hk
  | _ => exact .inl hk

end Callers

end TypedPid.Cache
