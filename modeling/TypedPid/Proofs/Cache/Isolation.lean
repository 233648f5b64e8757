import TypedPid.Proofs.Cache.Confinement

/-!
Identifiers do not get in each other's way: with room for all of them, a run looks to those who ask for
one as if nobody asked for another.
-/

namespace TypedPid.Cache

variable {id id' : String} {s s' t : State} {c : Config} {endpoint : String} {k f : Nat}
  {p p' q q' : Phase} {o o' : Outcome} {e : Event}

section Counting

def Stats.plus (a b : Stats) : Stats :=
  ⟨a.hits + b.hits, a.misses + b.misses, a.loads + b.loads, a.loadFailures + b.loadFailures⟩

def Stats.since (a b : Stats) : Stats :=
  ⟨a.hits - b.hits, a.misses - b.misses, a.loads - b.loads, a.loadFailures - b.loadFailures⟩

@[simp] lemma since_plus (a b : Stats) : (a.plus b).since a = b := by
  simp [Stats.plus, Stats.since]

@[simp] lemma since_self (a : Stats) : a.since a = {} := by simp [Stats.since]

/-- What is counted where a caller comes from one phase to another. -/
def counted : Phase → Phase → Stats
  | .arriving, .answered _ => { hits := 1 }
  | .arriving, .joining => { misses := 1 }
  | .fetching _, .loading _ _ _ => { loads := 1 }
  | .loading _ _ _, .leaving _ (.error (.unavailable _)) => { loadFailures := 1 }
  | _, _ => {}

@[simp] lemma complete_stats : (s.complete f o).stats = s.stats := by
  unfold State.complete
  split <;> rfl

@[simp] lemma drop_stats : (s.drop f).stats = s.stats := by
  unfold State.drop
  split
  · rfl
  · dsimp only
    split <;> rfl

lemma act_stats (ha : Act c endpoint s k id e p t p') : t.stats = s.stats.plus (counted p p') := by
  cases ha with
  | finish _ hr =>
    rcases answer_eq_iff.1 hr with ⟨d, -, rfl, rfl⟩ | ⟨-, rfl, rfl⟩ | ⟨err, -, rfl, rfl⟩
    · rfl
    · exact complete_stats
    · exact complete_stats
  | land => exact complete_stats
  | leave => exact drop_stats
  | quitLeading => exact drop_stats
  | quitLoading => exact drop_stats
  | quitStoring => exact drop_stats
  | _ => rfl

end Counting

/-- Gives what a caller answers with. -/
def Phase.returned? : Phase → Option (Except LookupError TypeDefinition)
  | .answered o => some o.content
  | _ => none

section Alike

variable {flight load flight' load' : Nat → Option Nat}

lemma content_eq_error_iff {err : LookupError} : o.content = .error err ↔ o = .error err := by
  cases o <;> simp [Outcome.content, Except.map]

lemma Alike.returned (h : Alike flight load p q) : q.returned? = p.returned? := by
  cases h with
  | answered ho => exact congrArg some ho
  | _ => rfl

lemma Alike.counted (h : Alike flight load p q) (h' : Alike flight' load' p' q') :
    Cache.counted q q' = Cache.counted p p' := by
  cases h with
  | loading =>
    cases h' with
    | @leaving f f' o o' _ ho =>
      cases o with
      | ok l => cases o' <;> first | rfl | cases ho
      | error err =>
        rw [content_eq_error_iff.1 ho]
        cases err <;> rfl
    | _ => rfl
  | _ => cases h' <;> rfl

end Alike

section Steps

/-- The identifiers that callers have asked for. -/
def State.requested (s : State) : Finset String := (s.callers.map (·.identifier)).toFinset

lemma mem_requested : id ∈ s.requested ↔ ∃ (k : Nat) (p : Phase), s.callers[k]? = some ⟨id, p⟩ := by
  rw [State.requested, List.mem_toFinset, List.mem_map]
  constructor
  · rintro ⟨⟨_, p⟩, hm, rfl⟩
    obtain ⟨k, hk⟩ := List.getElem?_of_mem hm
    exact ⟨k, p, hk⟩
  · rintro ⟨k, p, hk⟩
    exact ⟨_, List.mem_of_getElem? hk, rfl⟩

lemma requested_step (hs : s.step c endpoint e = some s') : s.requested ⊆ s'.requested := by
  intro id hid
  obtain ⟨k, p, hk⟩ := mem_requested.1 hid
  rcases stays_or_acts hs hk with hk' | ⟨t, p', ha, rfl⟩
  · exact mem_requested.2 ⟨k, p, hk'⟩
  · exact mem_requested.2 ⟨k, p', (callers_act hk ha k).trans (if_pos rfl)⟩

lemma Run.requested_of_kept {past : List (State × Event)} (h : Run c endpoint past s) :
    ∀ a ∈ s.entries, a.1 ∈ s.requested := by
  induction h with
  | start => exact nofun
  | @step past s e s' hr hs ih =>
    have hgrow := requested_step hs
    cases step_eq_some_iff.1 hs with
    | @act k id p e t p' hk ha =>
      intro a hm
      rcases act_entries ha with ht | ⟨f, l, rfl, rfl, ht⟩
      · exact hgrow (ih a (ht ▸ hm))
      · have hm' : a ∈ s.entries.store c s.now id l := ht ▸ hm
        rcases mem_store hm' with rfl | hm
        · exact hgrow (mem_requested.2 ⟨k, _, hk⟩)
        · exact hgrow (ih a hm)
    | invalidate id => exact fun a hm => hgrow (ih a (List.mem_filter.1 hm).1)
    | _ => exact fun a hm => hgrow (ih a hm)

end Steps

section Notes

def Event.caller? : Event → Option Nat
  | .proceed k => some k
  | .answer k _ => some k
  | .expire k => some k
  | .cancel k => some k
  | _ => none

/-- What can be told of a step: its time, what a call returned with it, what was shown to a peek, and
what was counted. -/
structure Note where
  time : Nat
  returned : Option (Except LookupError TypeDefinition)
  shown : Option (Option TypeDefinition)
  counted : Stats

def note (c : Config) (endpoint : String) : State × Event → Note
  | (s, e) =>
    let t := (s.step c endpoint e).getD s
    { time := s.now
      returned := e.caller?.bind fun k => t.callers[k]?.bind fun who => who.phase.returned?
      shown := match e with
        | .peek id => some ((s.find c id).map (·.definition))
        | _ => none
      counted := t.stats.since s.stats }

lemma act_event (ha : Act c endpoint s k id e p t p') :
    e = .proceed k ∨ e = .cancel k ∨ e = .expire k ∨ ∃ result, e = .answer k result := by
  cases ha with
  | finish he _ =>
    cases he with
    | answer => exact .inr (.inr (.inr ⟨_, rfl⟩))
    | expire => exact .inr (.inr (.inl rfl))
  | quitArriving => exact .inr (.inl rfl)
  | quitFollowing => exact .inr (.inl rfl)
  | quitReturning => exact .inr (.inl rfl)
  | quitLeading => exact .inr (.inl rfl)
  | quitLoading => exact .inr (.inl rfl)
  | quitStoring => exact .inr (.inl rfl)
  | _ => exact .inl rfl

lemma act_caller (ha : Act c endpoint s k id e p t p') : e.caller? = some k := by
  rcases act_event ha with rfl | rfl | rfl | ⟨result, rfl⟩ <;> rfl

lemma act_of_caller (hs : s.step c endpoint e = some s') (he : e.caller? = some k) : ∃ id p t p',
    s.callers[k]? = some ⟨id, p⟩ ∧ Act c endpoint s k id e p t p' ∧ s' = t.setPhase k p' := by
  cases step_eq_some_iff.1 hs with
  | @act j id p e t p' hj ha =>
    rw [act_caller ha] at he
    cases he
    exact ⟨id, p, t, p', hj, ha, rfl⟩
  | _ => cases he

lemma acts_of_caller (hs : s.step c endpoint e = some s') (he : e.caller? = some k)
    (hk : s.callers[k]? = some ⟨id, p⟩) :
    ∃ t p', Act c endpoint s k id e p t p' ∧ s'.callers[k]? = some ⟨id, p'⟩ := by
  obtain ⟨id', q, t, p', hk', ha, rfl⟩ := act_of_caller hs he
  rw [hk] at hk'
  cases hk'
  exact ⟨t, p', ha, (callers_act hk ha k).trans (if_pos rfl)⟩

lemma note_of_act (hk : s.callers[k]? = some ⟨id, p⟩) (ha : Act c endpoint s k id e p t p') :
    note c endpoint (s, e) = ⟨s.now, p'.returned?, none, counted p p'⟩ := by
  have hself : (t.setPhase k p').callers[k]? = some ⟨id, p'⟩ := (callers_act hk ha k).trans (if_pos rfl)
  have hstats : (t.setPhase k p').stats.since s.stats = counted p p' := by
    rw [State.setPhase, act_stats ha, since_plus]
  have hstep := step_of_act hk ha
  rcases act_event ha with rfl | rfl | rfl | ⟨result, rfl⟩ <;>
    simp only [note, hstep, Option.getD_some, Event.caller?, Option.bind_some, hself, hstats]

variable (h : Confined c id s s') (hu : Coherent s)

include h hu

lemma Confined.step_act (hloading : Loading s) (ho : Keyed.Ordered s.entries)
    (hroom : ∀ id' ∈ s.requested, (s.entries.purge c s.now).length < c.capacity ∨
      Keyed.contains id' (s.entries.purge c s.now) = true)
    (hk : s.callers[k]? = some ⟨id', p⟩) (ha : Act c endpoint s k id' e p t p') :
    s.confine id e = none ∧ Confined c id (t.setPhase k p') s' ∨
      ∃ e' u, s.confine id e = some e' ∧ s'.step c endpoint e' = some u ∧
        Confined c id (t.setPhase k p') u ∧ note c endpoint (s', e') = note c endpoint (s, e) := by
  by_cases hid : id' = id
  · subst hid
    right
    have hsome : (s.ownCaller id' k).isSome = true := by
      rw [place?_isSome, hk]
      exact beq_self_eq_true id'
    obtain ⟨k', hcaller⟩ := Option.isSome_iff_exists.1 hsome
    obtain ⟨p₀, q, hk₀, hk', hp⟩ := h.caller_of_own hcaller
    rw [hk] at hk₀
    cases hk₀
    obtain ⟨e', t', q', hconfine, ha', hc, hp'⟩ := h.act hcaller hp ha
    refine ⟨e', _, hconfine, step_of_act hk' ha', hc.setPhase ?_ hp', ?_⟩
    · rw [State.ownCaller, act_callers ha]
      exact hcaller
    · rw [note_of_act hk ha, note_of_act hk' ha', h.now, hp'.returned, hp.counted hp']
  · left
    have hnone : s.ownCaller id k = none := (place?_eq_none_iff hk).2 (beq_false_of_ne hid)
    refine ⟨?_, h.act_other hu hk ha hloading ho hid (hroom id' (mem_requested.2 ⟨k, p, hk⟩))⟩
    rcases act_event ha with rfl | rfl | rfl | ⟨result, rfl⟩ <;> simp only [State.confine, hnone, Option.map_none]

omit hu in
lemma Confined.step_still (he : e.caller? = none) (hs : s.step c endpoint e = some t) :
    s.confine id e = none ∧ Confined c id t s' ∨
      ∃ e' u, s.confine id e = some e' ∧ s'.step c endpoint e' = some u ∧ Confined c id t u ∧
        note c endpoint (s', e') = note c endpoint (s, e) := by
  cases e with
  | arrive id' =>
    cases hs
    by_cases hid : id' = id
    · subst hid
      refine .inr ⟨_, _, if_pos rfl, rfl, h.arrive, ?_⟩
      simp [note, State.step, Event.caller?, h.now]
    · exact .inl ⟨if_neg hid, h.arrive_other hid⟩
  | peek id' =>
    cases hs
    by_cases hid : id' = id
    · subst hid
      refine .inr ⟨_, _, if_pos rfl, rfl, h, ?_⟩
      simp [note, State.step, Event.caller?, h.now, h.find]
    · exact .inl ⟨if_neg hid, h⟩
  | invalidate id' =>
    cases hs
    by_cases hid : id' = id
    · subst hid
      refine .inr ⟨_, _, if_pos rfl, rfl, h.invalidate, ?_⟩
      simp [note, State.step, Event.caller?, h.now]
    · exact .inl ⟨if_neg hid, h.invalidate_other hid⟩
  | pass n =>
    cases hs
    refine .inr ⟨_, _, rfl, rfl, h.pass, ?_⟩
    simp [note, State.step, Event.caller?, h.now]
  | _ => cases he

lemma Confined.step (hloading : Loading s) (ho : Keyed.Ordered s.entries)
    (hroom : ∀ id' ∈ s.requested, (s.entries.purge c s.now).length < c.capacity ∨
      Keyed.contains id' (s.entries.purge c s.now) = true)
    (hs : s.step c endpoint e = some t) :
    s.confine id e = none ∧ Confined c id t s' ∨
      ∃ e' u, s.confine id e = some e' ∧ s'.step c endpoint e' = some u ∧ Confined c id t u ∧
        note c endpoint (s', e') = note c endpoint (s, e) := by
  cases step_eq_some_iff.1 hs with
  | act hk ha => exact h.step_act hu hloading ho hroom hk ha
  | _ => exact h.step_still rfl hs

end Notes

lemma Confined.initial : Confined c id {} {} where
  now := rfl
  loads := rfl
  flights := .nil
  callers := .nil
  underway := .none
  served _ _ := rfl

variable {past : List (State × Event)}

lemma Run.room (h : Run c endpoint past s) (hcard : s.requested.card ≤ c.capacity) :
    ∀ id ∈ s.requested, (s.entries.purge c s.now).length < c.capacity ∨
      Keyed.contains id (s.entries.purge c s.now) = true :=
  fun _ hid => room_of_card (Keyed.ordered_filter _ h.wanting.ordered)
    (fun a ha => h.requested_of_kept a (List.mem_filter.1 ha).1) hid hcard

lemma Run.confined (h : Run c endpoint past s) (hcard : s.requested.card ≤ c.capacity) (id : String) :
    ∃ past' s', Run c endpoint past' s' ∧ Confined c id s s' ∧
      past'.map Prod.snd = past.filterMap (fun a => a.1.confine id a.2) ∧
      past'.map (note c endpoint) =
        (past.filter fun a => (a.1.confine id a.2).isSome).map (note c endpoint) := by
  induction h with
  | start => exact ⟨[], {}, .start, .initial, rfl, rfl⟩
  | @step past s e t hr hs ih =>
    have hcard' := (Finset.card_le_card (requested_step hs)).trans hcard
    obtain ⟨past', s', hr', hc, hevents, hnotes⟩ := ih hcard'
    rcases hc.step (Run.coherent hr) (Run.loading hr) (Run.wanting hr).ordered (Run.room hr hcard') hs with
      ⟨hnone, hc'⟩ | ⟨e', u, hsome, hs', hc', hnote⟩
    · refine ⟨past', s', hr', hc', ?_, ?_⟩
      · rw [List.filterMap_cons, hnone, hevents]
      · rw [List.filter_cons_of_neg (by simp [hnone]), hnotes]
    · refine ⟨(s', e') :: past', u, hr'.step hs', hc', ?_, ?_⟩
      · rw [List.filterMap_cons, hsome, ← hevents]
        rfl
      · rw [List.filter_cons_of_pos (by simp [hsome]), List.map_cons, List.map_cons, hnotes, hnote]

/-- Where no more identifiers are asked for than there is room for, those who ask for one of them do
not notice the others. In the run that is left without the others, the same loads happen; the calls
return at the same times with the same outcomes; and the same is counted for them. -/
theorem Run.isolated (h : Run c endpoint past s) (hcard : s.requested.card ≤ c.capacity)
    (id : String) : ∃ past' s', Run c endpoint past' s' ∧
      past'.map Prod.snd = past.filterMap (fun a => a.1.confine id a.2) ∧
      past'.map (note c endpoint) =
        (past.filter fun a => (a.1.confine id a.2).isSome).map (note c endpoint) ∧
      s'.now = s.now ∧ s'.loads = s.loads.filter (Load.isFor id) := by
  obtain ⟨past', s', hr, hc, hevents, hnotes⟩ := h.confined hcard id
  exact ⟨past', s', hr, hevents, hnotes, hc.now, hc.loads⟩

/-- The load of one identifier comes to nothing in time while another one is loaded and stored. -/
def timedOut : List Event :=
  [.arrive "b", .arrive "a", .proceed 0, .proceed 1, .proceed 0, .proceed 1, .proceed 0, .proceed 1,
    .proceed 0, .proceed 1, .pass 5000000000, .answer 1 (.ok (some ⟨"a", none, none, none, true, []⟩)),
    .proceed 1, .pass 5000000000, .expire 0, .proceed 1, .invalidate "b", .proceed 1, .peek "a"]

theorem Run.isolated_timedOut : ∃ past s, Run { maxEntries := 2 } "registry" past s ∧
    s.requested.card ≤ 2 ∧ ∃ past' s', Run { maxEntries := 2 } "registry" past' s' ∧
      (past'.map Prod.snd).reverse = [.arrive "a", .proceed 0, .proceed 0, .proceed 0, .proceed 0,
        .pass 5000000000, .answer 0 (.ok (some ⟨"a", none, none, none, true, []⟩)), .proceed 0,
        .pass 5000000000, .proceed 0, .proceed 0, .peek "a"] ∧
      s'.loads = [⟨"a", .delivered⟩] := by
  obtain ⟨past, s, hr, hcard, hevents, hloads⟩ : ∃ past s, Run { maxEntries := 2 } "registry" past s ∧
      s.requested.card ≤ 2 ∧ (past.filterMap fun a => a.1.confine "a" a.2).reverse = [.arrive "a",
        .proceed 0, .proceed 0, .proceed 0, .proceed 0, .pass 5000000000,
        .answer 0 (.ok (some ⟨"a", none, none, none, true, []⟩)), .proceed 0, .pass 5000000000,
        .proceed 0, .proceed 0, .peek "a"] ∧ s.loads.filter (Load.isFor "a") = [⟨"a", .delivered⟩] := by
    refine ⟨_, _, .replay .start (rfl : replay _ [] _ timedOut = some (_, _)), ?_, rfl, rfl⟩
    exact List.toFinset_card_le _
  obtain ⟨past', s', hr', hevents', -, -, hloads'⟩ := hr.isolated hcard "a"
  exact ⟨past, s, hr, hcard, past', s', hr', by rw [hevents', hevents], by rw [hloads', hloads]⟩

end TypedPid.Cache
