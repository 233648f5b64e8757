import TypedPid.Proofs.Cache.Retention

/-!
What is answered after an identifier was made invalid. That takes away what is kept under it, but not
what is on its way there: who is loading it, has loaded it or has found it hands out afterwards what
was loaded before. Where nobody is, all that later callers answer with and all that is seen from then
on was loaded anew.
-/

namespace TypedPid.Cache

/-- The load that a caller waits for, or the one that delivered what it will store or end its flight
with. -/
def Phase.load? : Phase → Option Nat
  | .loading _ load _ => some load
  | .storing _ l => some l.load
  | .landing _ l => some l.load
  | _ => none

/-- Somebody comes with a definition of `id` from a load, or waits for that load. -/
def State.Brings (s : State) (id : String) (n : Nat) : Prop :=
  ∃ (k : Nat) (p : Phase), s.callers[k]? = some ⟨id, p⟩ ∧ p.load? = some n

/-- In one of some steps the load of `id` with the number `n` was begun. -/
def Begun (c : Config) (endpoint : String) (steps : List (State × Event)) (id : String) (n : Nat) :
    Prop :=
  ∃ u e, (u, e) ∈ steps ∧ Begins c endpoint u e id ∧ u.loads.length = n

/-- In some steps a load of `id` was begun, and it delivered `l`. -/
def LoadedIn (c : Config) (endpoint : String) (steps : List (State × Event)) (id : String)
    (l : Loaded) : Prop :=
  Begun c endpoint steps id l.load ∧ Delivered steps id l

/-- All that is kept under `id`, that somebody brings and that the callers in `late` have come to or
can learn is from loads that were begun in the last steps. -/
structure Renewed (c : Config) (endpoint : String) (steps : List (State × Event)) (id : String)
    (late : Nat → Prop) (s : State) : Prop where
  kept : ∀ ⦃stored⦄, (id, stored) ∈ s.entries → Begun c endpoint steps id stored.loaded.load
  brought : ∀ ⦃n⦄, s.Brings id n → Begun c endpoint steps id n
  awaited : ∀ ⦃k : Nat⦄ ⦃f⦄ ⦃fl : Flight⦄ ⦃l⦄, late k → s.callers[k]? = some ⟨id, .following f⟩ →
    s.flights[f]? = some fl → fl.channel.sent = some (.ok l) → Begun c endpoint steps id l.load
  held : ∀ ⦃k : Nat⦄ ⦃p l⦄, late k → s.callers[k]? = some ⟨id, p⟩ → p.outcome? = some (.ok l) →
    Begun c endpoint steps id l.load

variable {c : Config} {endpoint : String} {past steps before after : List (State × Event)}
  {s s' t u : State} {k j : Nat} {id id' : String} {e : Event} {p p' : Phase} {f n : Nat} {l : Loaded}
  {late : Nat → Prop}

lemma Begun.cons (a : State × Event) (h : Begun c endpoint steps id n) :
    Begun c endpoint (a :: steps) id n := by
  obtain ⟨u, e, hu, h⟩ := h
  exact ⟨u, e, List.mem_cons_of_mem a hu, h⟩

lemma eq_landing_of_act (ha : Act c endpoint s k id e p t (.leaving f (.ok l))) :
    p = .landing f l := by
  cases ha with
  | land => rfl
  | finish he hr =>
    rcases answer_eq_iff.1 hr with ⟨d, -, -, hp⟩ | ⟨-, -, hp⟩ | ⟨err, -, -, hp⟩ <;> cases hp

namespace Renewed

lemma initial (hc : ∀ n, ¬ t.Brings id n) :
    Renewed c endpoint steps id (t.callers.length ≤ ·)
      { t with entries := Keyed.erase id t.entries } where
  kept stored hm := by simp [Keyed.erase] at hm
  brought n hn := absurd hn (hc n)
  awaited k f fl l hlate hk := absurd (List.getElem?_eq_some_iff.1 hk).1 (Nat.not_lt.2 hlate)
  held k p l hlate hk := absurd (List.getElem?_eq_some_iff.1 hk).1 (Nat.not_lt.2 hlate)

variable (h : Renewed c endpoint steps id late s)

include h

lemma begun_of_find (hf : s.find c id = some l) : Begun c endpoint steps id l.load := by
  obtain ⟨stored, hs, -, rfl⟩ := find_eq_some_iff.1 hf
  exact h.kept (Keyed.mem_of_lookup hs)

lemma brought_act (hk : s.callers[k]? = some ⟨id, p⟩) (ha : Act c endpoint s k id e p t p')
    (hp : p'.load? = some n) : Begun c endpoint ((s, e) :: steps) id n := by
  cases ha with
  | confirm hf =>
    cases hp
    exact (h.begun_of_find hf).cons _
  | begin =>
    cases hp
    exact ⟨s, _, List.mem_cons_self, begins_iff.2 ⟨k, _, rfl, hk⟩, rfl⟩
  | finish he hr =>
    rcases answer_eq_iff.1 hr with ⟨d, -, -, rfl⟩ | ⟨-, -, rfl⟩ | ⟨err, -, -, rfl⟩ <;> cases hp
    exact (h.brought ⟨_, _, hk, rfl⟩).cons _
  | store => exact (h.brought ⟨_, _, hk, hp⟩).cons _
  | _ => cases hp

lemma held_act (hlate : late k) (hk : s.callers[k]? = some ⟨id, p⟩)
    (ha : Act c endpoint s k id e p t p') (hp : p'.outcome? = some (.ok l)) :
    Begun c endpoint ((s, e) :: steps) id l.load := by
  have hbrought : p'.load? = some l.load → Begun c endpoint ((s, e) :: steps) id l.load :=
    h.brought_act hk ha
  cases ha with
  | hit hf =>
    cases hp
    exact (h.begun_of_find hf).cons _
  | learn hf hr =>
    cases hp
    exact (h.awaited hlate hk hf (receive_eq_some_iff.1 hr)).cons _
  | findAgain hf =>
    cases hp
    exact (h.begun_of_find hf).cons _
  | confirm hf =>
    cases hp
    exact hbrought rfl
  | finish he hr =>
    rcases answer_eq_iff.1 hr with ⟨d, -, -, rfl⟩ | ⟨-, -, rfl⟩ | ⟨err, -, -, rfl⟩ <;> cases hp
    exact hbrought rfl
  | store =>
    cases hp
    exact hbrought rfl
  | land =>
    cases hp
    exact (h.brought ⟨_, _, hk, rfl⟩).cons _
  | leave => exact (h.held hlate hk hp).cons _
  | _ => cases hp

lemma kept_step (hs : s.step c endpoint e = some s') {stored : Stored}
    (hm : (id, stored) ∈ s'.entries) : Begun c endpoint ((s, e) :: steps) id stored.loaded.load := by
  cases step_eq_some_iff.1 hs with
  | @act k id' p e t p' hk ha =>
    rcases act_entries ha with ht | ⟨f, l, rfl, -, ht⟩
    · exact (h.kept (ht ▸ hm)).cons _
    · rcases mem_store (ht ▸ hm) with heq | hm
      · cases heq
        exact (h.brought ⟨_, _, hk, rfl⟩).cons _
      · exact (h.kept hm).cons _
  | invalidate id' => exact (h.kept (List.mem_filter.1 hm).1).cons _
  | _ => exact (h.kept hm).cons _

lemma awaited_step (hu : Coherent s) (hs : s.step c endpoint e = some s') (hlate : late k)
    {fl : Flight} (hk : s'.callers[k]? = some ⟨id, .following f⟩) (hf : s'.flights[f]? = some fl)
    (ho : fl.channel.sent = some (.ok l)) : Begun c endpoint ((s, e) :: steps) id l.load := by
  obtain ⟨hk, ⟨fl₀, hf₀, ho⟩ | ⟨j, p, t, hj, ha⟩⟩ := awaited_of_step hu hs hk hf ho
  · exact (h.awaited hlate hk hf₀ ho).cons _
  · obtain rfl := eq_landing_of_act ha
    exact (h.brought ⟨_, _, hj, rfl⟩).cons _

lemma step (hu : Coherent s) (hs : s.step c endpoint e = some s') :
    Renewed c endpoint ((s, e) :: steps) id late s' where
  kept _ hm := h.kept_step hs hm
  brought n hn := by
    obtain ⟨k, p, hk, hp⟩ := hn
    rcases stayed_or_acted hs hk with hk | rfl | ⟨p, t, hk, ha, -⟩
    · exact (h.brought ⟨_, _, hk, hp⟩).cons _
    · cases hp
    · exact h.brought_act hk ha hp
  awaited _ _ _ _ hlate hk hf ho := h.awaited_step hu hs hlate hk hf ho
  held k p l hlate hk hp := by
    rcases stayed_or_acted hs hk with hk | rfl | ⟨p, t, hk, ha, -⟩
    · exact (h.held hlate hk hp).cons _
    · cases hp
    · exact h.held_act hlate hk ha hp

end Renewed

section Numbers

lemma loads_step (hs : s.step c endpoint e = some s') : s.loads.length ≤ s'.loads.length := by
  cases step_eq_some_iff.1 hs with
  | act hk ha =>
    rw [setPhase_loads]
    rcases act_loads ha with ht | ⟨f, -, -, ht⟩ <;> simp [ht]
  | _ => exact Nat.le_refl _

lemma Run.loads_le (h : Run c endpoint past s) (hu : (u, e) ∈ past) :
    u.loads.length ≤ s.loads.length := by
  refine Trace.remains (P := fun s => u.loads.length ≤ s.loads.length) h ?_ hu loads_step
  exact fun _ hs hle => hle.trans (loads_step hs)

/-- Loads are numbered in the order in which they are begun. -/
lemma Run.le_of_begun (h : Run c endpoint (after ++ (t, e) :: before) s)
    (hn : Begun c endpoint after id n) : t.loads.length ≤ n := by
  obtain ⟨u, e', hu, -, rfl⟩ := hn
  induction after generalizing s with
  | nil => cases hu
  | cons a after ih =>
    cases h with
    | step hr hs =>
      rcases List.mem_cons.1 hu with heq | hu
      · cases heq
        exact Run.loads_le hr (List.mem_append_right _ List.mem_cons_self)
      · exact ih hr hu

lemma Run.lt_of_delivered (h : Run c endpoint past s) (hl : Delivered past id l) :
    l.load < s.loads.length := by
  obtain ⟨u, k, f, since, hu, hk⟩ := hl
  obtain ⟨past', hr⟩ := Trace.before h hu
  have hload := (List.getElem?_eq_some_iff.1 ((Run.loading hr).running hk)).1
  exact Nat.lt_of_lt_of_le hload (h.loads_le hu)

lemma Run.loadedIn (h : Run c endpoint (after ++ (t, e) :: before) s)
    (hb : Begun c endpoint after id l.load) (hd : Delivered (after ++ (t, e) :: before) id l) :
    LoadedIn c endpoint after id l := by
  refine ⟨hb, ?_⟩
  obtain ⟨u, k, f, since, hu, hk⟩ := hd
  refine ⟨u, k, f, since, (List.mem_append.1 hu).resolve_right fun hold => ?_, hk⟩
  -- what was delivered before the load was begun has a smaller number
  have hle := h.le_of_begun hb
  obtain ⟨past', hr⟩ := Trace.before h hu
  have hlt := (List.getElem?_eq_some_iff.1 ((Run.loading hr).running hk)).1
  have hearlier : u.loads.length ≤ t.loads.length := by
    rcases List.mem_cons.1 hold with heq | hold
    · cases heq
      exact Nat.le_refl _
    · exact Run.loads_le (Trace.upTo h) hold
  omega

lemma Run.lt_of_brings (h : Run c endpoint past s) (hn : s.Brings id n) : n < s.loads.length := by
  obtain ⟨k, p, hk, hp⟩ := hn
  cases p with
  | loading f load since =>
    cases hp
    exact (List.getElem?_eq_some_iff.1 (h.loading.running hk)).1
  | storing f l =>
    cases hp
    exact h.lt_of_delivered (h.sourced.held hk rfl)
  | landing f l =>
    cases hp
    exact h.lt_of_delivered (h.sourced.held hk rfl)
  | _ => cases hp

end Numbers


section Handover

lemma Run.act (h : Run c endpoint past s) (hk : s.callers[k]? = some ⟨id, p⟩)
    (ha : Act c endpoint s k id e p t p') : Run c endpoint ((s, e) :: past) (t.setPhase k p') :=
  h.step (step_of_act hk ha)

/-- Where nothing is kept under `id`, a caller who comes in follows the flight to it that is underway. -/
lemma Run.follows (h : Run c endpoint past s) (hf : s.find c id = none)
    (hk : s.callers[k]? = some ⟨id, .arriving⟩) (hj : s.callers[j]? = some ⟨id, p⟩)
    (hp : p.flight? = some f) : ∃ after t, Run c endpoint (after ++ past) t ∧
      t.callers[k]? = some ⟨id, .following f⟩ ∧ t.callers[j]? = some ⟨id, p⟩ := by
  have hne : j ≠ k := by
    rintro rfl
    rw [hk] at hj
    cases hj
    cases hp
  have ha : Act c endpoint s k id (.proceed k) .arriving s.countMiss .joining := .miss hf
  have hcallers := callers_act hk ha
  have hself := (hcallers k).trans (if_pos rfl)
  have ha' : Act c endpoint (s.countMiss.setPhase k .joining) k id (.proceed k) .joining
      (s.countMiss.setPhase k .joining) (.following f) :=
    .follow (h.coherent.leader (leads_of_phase hj hp))
  refine ⟨[_, _], _, (h.act hk ha).act hself ha', ?_, ?_⟩
  · rw [callers_act hself ha', if_pos rfl]
  · rw [callers_act hself ha', if_neg hne, hcallers, if_neg hne, hj]

/-- Some run that goes on from here brings a caller to answer with what a load delivered. -/
def Answerable (c : Config) (endpoint : String) (past : List (State × Event)) (k : Nat) (id : String)
    (n : Nat) : Prop :=
  ∃ after t l, Run c endpoint (after ++ past) t ∧ t.callers[k]? = some ⟨id, .answered (.ok l)⟩ ∧
    l.load = n

lemma Answerable.of_cons {a : State × Event} (h : Answerable c endpoint (a :: past) k id n) :
    Answerable c endpoint past k id n := by
  obtain ⟨after, t, l, hr, hk⟩ := h
  exact ⟨after ++ [a], t, l, List.append_assoc after [a] past ▸ hr, hk⟩

lemma Answerable.of_append (h : Answerable c endpoint (after ++ past) k id n) :
    Answerable c endpoint past k id n := by
  obtain ⟨after', t, l, hr, hk⟩ := h
  exact ⟨after' ++ after, t, l, List.append_assoc _ _ _ ▸ hr, hk⟩

section Flight

variable (h : Run c endpoint past s) (hk : s.callers[k]? = some ⟨id, .following f⟩)

include hk

lemma follower_act (hj : s.callers[j]? = some ⟨id, p⟩) (hp : p.flight? = some f)
    (ha : Act c endpoint s j id e p t p') :
    (t.setPhase j p').callers[k]? = some ⟨id, .following f⟩ ∧
      (t.setPhase j p').callers[j]? = some ⟨id, p'⟩ := by
  have hne : k ≠ j := by
    rintro rfl
    rw [hk] at hj
    cases hj
    cases hp
  have hcallers := callers_act hj ha
  exact ⟨(hcallers k).trans ((if_neg hne).trans hk), (hcallers j).trans (if_pos rfl)⟩

include h

lemma Run.answerable_of_landing (hj : s.callers[j]? = some ⟨id, .landing f l⟩) :
    Answerable c endpoint past k id l.load := by
  have ha : Act c endpoint s j id (.proceed j) (.landing f l) (s.complete f (.ok l))
      (.leaving f (.ok l)) := .land
  obtain ⟨hfollows, hleaves⟩ := follower_act hk hj rfl ha
  have hr := h.act hj ha
  obtain ⟨fl, hf, -, -, ho⟩ := hr.coherent.left hleaves
  have ha' : Act c endpoint ((s.complete f (.ok l)).setPhase j (.leaving f (.ok l))) k id
      (.proceed k) (.following f) _ (.answered (.ok l)) := .learn hf (receive_eq_some_iff.2 ho)
  exact ⟨[_, _], _, l, hr.act hfollows ha', by rw [callers_act hfollows ha', if_pos rfl], rfl⟩

lemma Run.answerable_of_storing (hj : s.callers[j]? = some ⟨id, .storing f l⟩) :
    Answerable c endpoint past k id l.load := by
  have ha : Act c endpoint s j id (.proceed j) (.storing f l) (s.store c id l) (.landing f l) :=
    .store
  obtain ⟨hfollows, hlands⟩ := follower_act hk hj rfl ha
  exact ((h.act hj ha).answerable_of_landing hfollows hlands).of_cons

lemma Run.answerable_of_loading {since : Nat} (d : TypeDefinition)
    (hj : s.callers[j]? = some ⟨id, .loading f n since⟩) : Answerable c endpoint past k id n := by
  have ha : Act c endpoint s j id (.answer j (.ok (some d))) (.loading f n since)
      (s.setProgress n .delivered) (.storing f ⟨n, d⟩) := .finish (.answer _) rfl
  obtain ⟨hfollows, hstores⟩ := follower_act hk hj rfl ha
  exact ((h.act hj ha).answerable_of_storing hfollows hstores).of_cons

end Flight

/-- What somebody brings can be handed to a caller who comes in while nothing is kept. -/
lemma Run.answerable_of_brings (h : Run c endpoint past s) (hf : s.find c id = none)
    (hn : s.Brings id n) : Answerable c endpoint past s.callers.length id n := by
  obtain ⟨j, p, hj, hp⟩ := hn
  have hlt : j < s.callers.length := (List.getElem?_eq_some_iff.1 hj).1
  have hr : Run c endpoint ((s, .arrive id) :: past) _ := h.step rfl
  have hlead : ∃ f, p.flight? = some f := by
    cases p with
    | loading f _ _ => exact ⟨f, rfl⟩
    | storing f _ => exact ⟨f, rfl⟩
    | landing f _ => exact ⟨f, rfl⟩
    | _ => cases hp
  obtain ⟨f, hflight⟩ := hlead
  obtain ⟨after, t, hr, hk, hj⟩ := Run.follows hr hf (k := s.callers.length) (by simp)
    ((List.getElem?_append_left hlt).trans hj) hflight
  suffices Answerable c endpoint (after ++ (s, .arrive id) :: past) s.callers.length id n from
    this.of_append.of_cons
  cases p with
  | loading f' load since =>
    cases hp
    cases hflight
    exact hr.answerable_of_loading hk ⟨id, none, none, none, true, []⟩ hj
  | storing f' l =>
    cases hp
    cases hflight
    exact hr.answerable_of_storing hk hj
  | landing f' l =>
    cases hp
    cases hflight
    exact hr.answerable_of_landing hk hj
  | _ => cases hp

end Handover

lemma Run.renewed (h : Run c endpoint (after ++ (t, .invalidate id) :: before) s)
    (hc : ∀ n, ¬ t.Brings id n) : Renewed c endpoint after id (t.callers.length ≤ ·) s ∧
      ∀ u l, (u, .peek id) ∈ after → u.find c id = some l → LoadedIn c endpoint after id l := by
  induction after generalizing s with
  | nil =>
    cases h with
    | step hr hs =>
      cases hs
      exact ⟨.initial hc, fun u l hu => by cases hu⟩
  | cons a after ih =>
    cases h with
    | step hr hs =>
      obtain ⟨hn, hseen⟩ := ih hr
      refine ⟨hn.step (Run.coherent hr) hs, fun u l hu hf => ?_⟩
      have hl : LoadedIn c endpoint after id l := by
        rcases List.mem_cons.1 hu with heq | hu
        · cases heq
          exact Run.loadedIn hr (hn.begun_of_find hf) ((Run.sourced hr).delivered_of_find hf)
        · exact hseen u l hu hf
      exact ⟨hl.1.cons _, hl.2.cons _⟩

/-- After `id` was made invalid, every definition that a caller who comes in later answers with, and
every one that is seen under `id`, is from a load that was begun later too, in every run if and only
if nobody brought one from an older load at that time. -/
theorem Run.answered_anew_iff (h : Run c endpoint before t) (id : String) :
    (∀ after s, Run c endpoint (after ++ (t, .invalidate id) :: before) s →
      (∀ (k : Nat) l, t.callers.length ≤ k → s.callers[k]? = some ⟨id, .answered (.ok l)⟩ →
        LoadedIn c endpoint after id l) ∧
      ∀ u l, (u, .peek id) ∈ after → u.find c id = some l → LoadedIn c endpoint after id l) ↔
    ∀ n, ¬ t.Brings id n := by
  constructor
  · intro hanew n hn
    have hr : Run c endpoint ((t, .invalidate id) :: before) _ := h.step rfl
    have hf : State.find c { t with entries := Keyed.erase id t.entries } id = none := by
      simp [State.find, Entries.find, Keyed.lookup_erase]
    obtain ⟨after, s, l, hs, hk, rfl⟩ := hr.answerable_of_brings hf hn
    have hle := hs.le_of_begun ((hanew after s hs).1 _ l (Nat.le_refl _) hk).1
    exact absurd (h.lt_of_brings hn) (Nat.not_lt.2 hle)
  · intro hc after s hs
    obtain ⟨hn, hseen⟩ := hs.renewed hc
    exact ⟨fun k l hlate hk => hs.loadedIn (hn.held hlate hk rfl) (hs.sourced.held hk rfl), hseen⟩

/-- A caller loads a definition, and lets go of its flight. -/
def firstLoad : List Event :=
  [.arrive "a", .proceed 0, .proceed 0, .proceed 0, .proceed 0,
    .answer 0 (.ok (some ⟨"a", none, none, none, true, []⟩)), .proceed 0, .proceed 0, .proceed 0]

/-- A second caller loads it too. -/
def secondLoad : List Event :=
  [.arrive "a", .proceed 1, .proceed 1, .proceed 1, .proceed 1,
    .answer 1 (.ok (some ⟨"a", some "b", none, none, true, []⟩)), .proceed 1, .proceed 1, .proceed 1,
    .peek "a"]

theorem Run.answered_anew_iff_secondLoad : ∃ before t after s, Run {} "registry" before t ∧
    (∀ n, ¬ t.Brings "a" n) ∧ Run {} "registry" (after ++ (t, .invalidate "a") :: before) s ∧
    ∃ l, s.callers[1]? = some ⟨"a", .answered (.ok l)⟩ ∧ LoadedIn {} "registry" after "a" l := by
  obtain ⟨before, t, after, s, hr, hs, hc, hlate, l, hk⟩ : ∃ before t after s,
      Run {} "registry" before t ∧ Run {} "registry" (after ++ (t, .invalidate "a") :: before) s ∧
      (∀ n, ¬ t.Brings "a" n) ∧ t.callers.length ≤ 1 ∧
      ∃ l, s.callers[1]? = some ⟨"a", .answered (.ok l)⟩ := by
    have hr : Run {} "registry" _ _ :=
      .replay .start (rfl : replay _ [] _ firstLoad = some (_, _))
    have hs : Run {} "registry" _ _ :=
      .replay (hr.step rfl : Run {} "registry" ((_, .invalidate "a") :: _) _)
        (rfl : replay _ _ _ secondLoad = some (_, _))
    refine ⟨_, _, [_, _, _, _, _, _, _, _, _, _], _, hr, hs, ?_, Nat.le_refl _, _, rfl⟩
    rintro n ⟨k, p, hk, hp⟩
    match k with
    | 0 =>
      cases hk
      cases hp
    | k + 1 => cases hk
  exact ⟨before, t, after, s, hr, hc, hs, l, hk,
    ((hr.answered_anew_iff "a").2 hc after s hs).1 1 l hlate hk⟩

/-- A caller is loading a definition that somebody makes invalid; another one who comes in then gets
it, and it is kept. -/
def lateInvalidation : List Event :=
  [.arrive "a", .proceed 1, .proceed 1, .answer 0 (.ok (some ⟨"a", none, none, none, true, []⟩)),
    .proceed 0, .peek "a", .proceed 0, .proceed 1]

theorem Run.answered_before_invalidation : ∃ before t after s, Run {} "registry" before t ∧
    Run {} "registry" (after ++ (t, .invalidate "a") :: before) s ∧
    (∃ l, t.callers[1]? = none ∧ s.callers[1]? = some ⟨"a", .answered (.ok l)⟩ ∧
      ¬ Begun {} "registry" after "a" l.load) ∧
    ∃ u l, (u, .peek "a") ∈ after ∧ u.find {} "a" = some l ∧
      ¬ Begun {} "registry" after "a" l.load := by
  have hr : Run {} "registry" _ _ :=
    .replay .start (rfl : replay _ [] _ (firstLoad.take 5) = some (_, _))
  have hs : Run {} "registry" ([_, _, _, _, _, _, _, _] ++ (_, .invalidate "a") :: _) _ :=
    .replay (hr.step rfl : Run {} "registry" ((_, .invalidate "a") :: _) _)
      (rfl : replay _ _ _ lateInvalidation = some (_, _))
  have hold : ∀ {n}, n < 1 → ¬ Begun {} "registry" [_, _, _, _, _, _, _, _] "a" n :=
    fun hn hb => absurd (hs.le_of_begun hb) (Nat.not_le.2 hn)
  exact ⟨_, _, _, _, hr, hs, ⟨_, rfl, rfl, hold Nat.one_pos⟩,
    _, _, .tail _ (.tail _ (.head _)), rfl, hold Nat.one_pos⟩

end TypedPid.Cache
