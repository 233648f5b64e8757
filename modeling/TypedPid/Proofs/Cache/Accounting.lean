import TypedPid.Proofs.Cache.Isolation
import TypedPid.Proofs.Cache.Waiting

/-!
What the counters of a cache tell. Every call counts as a hit or a miss once, when it has looked for
the first time, and every load counts once, when it is begun; so the loads there have been are those
that are still running and those that came to one of their ends.
-/

namespace TypedPid.Cache

def Phase.isArriving : Phase → Bool
  | .arriving => true
  | _ => false

def Phase.isLoading : Phase → Bool
  | .loading _ _ _ => true
  | _ => false

/-- It has missed, and can still begin a load. -/
def Phase.mayLoad : Phase → Bool
  | .joining | .following _ | .returning | .leading _ | .fetching _ => true
  | _ => false

/-- How many callers have come to a phase of some kind. -/
def State.callersIn (s : State) (P : Phase → Bool) : Nat := s.callers.countP fun who => P who.phase

/-- The callers who have looked for the first time. -/
def lookedUp (past : List (State × Event)) : Set Nat :=
  {k | ∃ a ∈ past, took k Phase.isArriving a = true}

/-- How many loads were counted in the steps of a caller. -/
def loadsBy (c : Config) (endpoint : String) (past : List (State × Event)) (k : Nat) : Nat :=
  ((past.filter fun a => a.2.caller? == some k).map fun a => (note c endpoint a).counted.loads).sum

/-- The end that a load comes to in a step that was taken: the registry has answered, or it took too
long, or the caller who waited for it is gone. -/
def ending : State × Event → Option Progress
  | (_, .answer _ (.ok (some _))) => some .delivered
  | (_, .answer _ (.ok none)) => some .refused
  | (_, .answer _ (.error _)) => some .failed
  | (_, .expire _) => some .failed
  | (s, .cancel k) => if s.callers[k]?.any (·.phase.isLoading) then some .dropped else none
  | _ => none

/-- How many loads came to an end of some kind. -/
def endings (past : List (State × Event)) (progress : Progress) : Nat :=
  past.countP fun a => ending a = some progress

variable {c : Config} {endpoint : String} {past : List (State × Event)} {s s' t : State} {k j : Nat}
  {id : String} {e : Event} {p p' : Phase} {P : Phase → Bool} {a : State × Event}

section Steps

lemma countP_modify {α : Type} {q : α → Bool} {f : α → α} {l : List α} {i : Nat} {x : α}
    (h : l[i]? = some x) :
    (l.modify i f).countP q + (if q x then 1 else 0) = l.countP q + (if q (f x) then 1 else 0) := by
  induction l generalizing i with
  | nil => cases h
  | cons y l ih =>
    cases i with
    | zero =>
      cases h
      simp only [List.modify_zero_cons, List.countP_cons]
      omega
    | succ i =>
      have hrest := ih h
      simp only [List.modify_succ_cons, List.countP_cons]
      omega

lemma callersIn_act (hk : s.callers[k]? = some ⟨id, p⟩) (ha : Act c endpoint s k id e p t p') :
    (t.setPhase k p').callersIn P + (if P p then 1 else 0) =
      s.callersIn P + (if P p' then 1 else 0) := by
  rw [State.callersIn, State.setPhase, act_callers ha]
  exact countP_modify hk

lemma still_step (hs : s.step c endpoint e = some s') (he : e.caller? = none) :
    s'.stats = s.stats ∧ (∀ P, P .arriving = false → s'.callersIn P = s.callersIn P) ∧
      ending (s, e) = none ∧ ∀ k P, took k P (s, e) = false := by
  cases e with
  | arrive id =>
    cases hs
    exact ⟨rfl, fun P hP => by simp [State.callersIn, hP], rfl, fun _ _ => rfl⟩
  | peek id =>
    cases hs
    exact ⟨rfl, fun _ _ => rfl, rfl, fun _ _ => rfl⟩
  | invalidate id =>
    cases hs
    exact ⟨rfl, fun _ _ => rfl, rfl, fun _ _ => rfl⟩
  | pass n =>
    cases hs
    exact ⟨rfl, fun _ _ => rfl, rfl, fun _ _ => rfl⟩
  | _ => cases he

/-- What is counted for a step by which a caller comes from one phase to another. -/
structure Accounted (a : State × Event) (k : Nat) (p p' : Phase) : Prop where
  lookups : (counted p p').hits + (counted p p').misses =
    if took k Phase.isArriving a then 1 else 0
  loads : (counted p p').loads = if took k Phase.isFetching a then 1 else 0
  missed : (counted p p').loads + (if p'.mayLoad then 1 else 0) ≤
    (counted p p').misses + (if p.mayLoad then 1 else 0)
  ended : (counted p p').loads + (if p.isLoading then 1 else 0) =
    (if p'.isLoading then 1 else 0) + (if (ending a).isSome then 1 else 0)
  failures : (counted p p').loadFailures = if ending a = some .failed then 1 else 0

lemma accounted (hk : s.callers[k]? = some ⟨id, p⟩) (ha : Act c endpoint s k id e p t p') :
    Accounted (s, e) k p p' := by
  cases ha with
  | finish he hr =>
    rcases answer_eq_iff.1 hr with ⟨d, rfl, -, rfl⟩ | ⟨rfl, -, rfl⟩ | ⟨err, rfl, -, rfl⟩ <;> cases he <;>
      exact ⟨rfl, rfl, Nat.le_refl _, rfl, rfl⟩
  | _ =>
    constructor <;>
      simp [counted, took, ending, Phase.isArriving, Phase.isFetching, Phase.mayLoad, Phase.isLoading, hk]

end Steps

section Lookups

lemma took_eq_true_iff : took k P (s, e) = true ↔
    e = .proceed k ∧ ∃ id p, s.callers[k]? = some ⟨id, p⟩ ∧ P p = true := by
  cases e with
  | proceed j =>
    by_cases hj : j = k
    · subst hj
      cases hk : s.callers[j]? with
      | none => simp [took, hk]
      | some who =>
        obtain ⟨id, p⟩ := who
        simp [took, hk]
    · simp [took, hj]
  | _ => simp [took]

lemma act_ne_arriving (ha : Act c endpoint s k id e p t p') : p' ≠ .arriving := by
  rintro rfl
  cases ha with
  | finish he hr => rcases phase_of_answer hr with ⟨l, hp⟩ | ⟨o, hp⟩ <;> cases hp

lemma Run.past_arriving (h : Run c endpoint past s) (hk : k ∈ lookedUp past) :
    ∃ id p, s.callers[k]? = some ⟨id, p⟩ ∧ p ≠ .arriving := by
  obtain ⟨⟨t, e⟩, ht, htook⟩ := hk
  obtain ⟨rfl, id, p, hk, -⟩ := took_eq_true_iff.1 htook
  refine ⟨id, Trace.remains (P := fun s => ∃ p, s.callers[k]? = some ⟨id, p⟩ ∧ p ≠ .arriving) h
    (fun _ hs => phase_step (fun ha _ => act_ne_arriving ha) hs) ht fun hs => ?_⟩
  obtain ⟨t, p', ha, hk'⟩ := acts_of_caller hs rfl hk
  exact ⟨p', hk', act_ne_arriving ha⟩

lemma Run.lookedUp_finite (h : Run c endpoint past s) : (lookedUp past).Finite := by
  refine (Finset.range s.callers.length).finite_toSet.subset fun k hk => ?_
  obtain ⟨id, p, hk, -⟩ := h.past_arriving hk
  exact Finset.mem_coe.2 (Finset.mem_range.2 (List.getElem?_eq_some_iff.1 hk).1)

lemma lookedUp_cons_of_not (ha : ∀ k, took k Phase.isArriving a = false) :
    lookedUp (a :: past) = lookedUp past := by
  ext k
  simp [lookedUp, ha]

lemma lookedUp_cons_of_took (ha : took k Phase.isArriving a = true) :
    lookedUp (a :: past) = insert k (lookedUp past) := by
  ext j
  simp only [lookedUp, Set.mem_ofPred_eq, Set.mem_insert_iff, List.exists_mem_cons_iff]
  refine or_congr_left ⟨fun hj => ?_, ?_⟩
  · have hproceed := (took_eq_true_iff.1 ha).1
    rw [(took_eq_true_iff.1 hj).1] at hproceed
    exact Event.proceed.inj hproceed
  · rintro rfl
    exact ha

lemma ncard_lookedUp_act (h : Run c endpoint past s) (ha : Act c endpoint s k id e p t p') :
    (lookedUp ((s, e) :: past)).ncard =
      (lookedUp past).ncard + if took k Phase.isArriving (s, e) then 1 else 0 := by
  cases htook : took k Phase.isArriving (s, e) with
  | true =>
    have hnew : k ∉ lookedUp past := by
      intro hold
      obtain ⟨id', q, hk', hq⟩ := h.past_arriving hold
      obtain ⟨-, id'', q', hk'', hq'⟩ := took_eq_true_iff.1 htook
      rw [hk'] at hk''
      cases hk''
      cases q <;> simp [Phase.isArriving] at hq hq'
    rw [lookedUp_cons_of_took htook, Set.ncard_insert_of_notMem hnew h.lookedUp_finite]
    rfl
  | false =>
    refine congrArg Set.ncard (lookedUp_cons_of_not fun j => ?_)
    by_cases hj : j = k
    · exact hj ▸ htook
    · exact took_of_ne (act_event_ne ha hj)

end Lookups

section Books

/-- What the counters have to do with what has happened, and with what the callers have come to. -/
structure Balanced (past : List (State × Event)) (s : State) : Prop where
  lookups : s.stats.hits + s.stats.misses = (lookedUp past).ncard
  /-- A load belongs to a miss; of the misses that are left, some may still come to one. -/
  misses : s.stats.loads + s.callersIn Phase.mayLoad ≤ s.stats.misses
  loads : s.stats.loads = s.callersIn Phase.isLoading + past.countP fun a => (ending a).isSome
  failures : s.stats.loadFailures = endings past .failed

lemma Balanced.initial : Balanced [] {} where
  lookups := by simp [lookedUp]
  misses := Nat.le_refl _
  loads := rfl
  failures := rfl

lemma Balanced.still (h : Balanced past s) (hs : s.step c endpoint e = some s')
    (he : e.caller? = none) : Balanced ((s, e) :: past) s' := by
  obtain ⟨hstats, hsame, hend, htook⟩ := still_step hs he
  refine ⟨?_, ?_, ?_, ?_⟩
  · rw [hstats, h.lookups, lookedUp_cons_of_not fun k => htook k _]
  · rw [hstats, hsame _ rfl]
    exact h.misses
  · rw [hstats, hsame _ rfl, h.loads, List.countP_cons_of_neg (by simp [hend])]
  · rw [hstats, h.failures, endings, endings, List.countP_cons_of_neg (by simp [hend])]

lemma Balanced.act (h : Balanced past s) (hr : Run c endpoint past s)
    (hk : s.callers[k]? = some ⟨id, p⟩) (ha : Act c endpoint s k id e p t p') :
    Balanced ((s, e) :: past) (t.setPhase k p') := by
  obtain ⟨hlookups, -, hmissed, hended, hfailed⟩ := accounted hk ha
  have hstats : (t.setPhase k p').stats = s.stats.plus (counted p p') := by
    rw [State.setPhase, act_stats ha]
  have hmay := callersIn_act (P := Phase.mayLoad) hk ha
  have hloading := callersIn_act (P := Phase.isLoading) hk ha
  obtain ⟨hlooked, hmisses, hloads, hfailures⟩ := h
  refine ⟨?_, ?_, ?_, ?_⟩
  · simp only [hstats, Stats.plus, ncard_lookedUp_act hr ha]
    omega
  · simp only [hstats, Stats.plus]
    omega
  · simp only [hstats, Stats.plus, List.countP_cons]
    omega
  · simp only [endings] at hfailures
    simp only [hstats, Stats.plus, endings, List.countP_cons, decide_eq_true_eq]
    omega

lemma Run.balanced (h : Run c endpoint past s) : Balanced past s := by
  induction h with
  | start => exact .initial
  | @step past s e s' hr hs ih =>
    cases he : e.caller? with
    | none => exact ih.still hs he
    | some k =>
      obtain ⟨id, p, t, p', hk, ha, rfl⟩ := act_of_caller hs he
      exact ih.act hr hk ha

lemma Run.loadsBy_eq (h : Run c endpoint past s) : loadsBy c endpoint past k = loaderCalls past k := by
  induction h with
  | start => rfl
  | @step past s e s' hr hs ih =>
    rw [loadsBy] at ih ⊢
    by_cases he : e.caller? = some k
    · obtain ⟨id, p, t, p', hk, ha, rfl⟩ := act_of_caller hs he
      rw [List.filter_cons_of_pos (by simp [he]), List.map_cons, List.sum_cons, ih, note_of_act hk ha,
        (accounted hk ha).loads, loaderCalls, loaderCalls, List.countP_cons, Nat.add_comm]
    · have hne : e ≠ .proceed k := by
        rintro rfl
        exact he rfl
      rw [List.filter_cons_of_neg (by simp [he]), ih, loaderCalls, loaderCalls,
        List.countP_cons_of_neg (Bool.eq_false_iff.1 (took_of_ne hne))]

lemma ending_cases (a : State × Event) : ending a = none ∨ ending a = some .delivered ∨
    ending a = some .refused ∨ ending a = some .failed ∨ ending a = some .dropped := by
  unfold ending
  split
  · simp
  · simp
  · simp
  · simp
  · split <;> simp
  · simp

lemma endings_total (past : List (State × Event)) : (past.countP fun a => (ending a).isSome) =
    endings past .delivered + endings past .refused + endings past .failed + endings past .dropped := by
  induction past with
  | nil => rfl
  | cons a past ih =>
    simp only [endings, List.countP_cons] at ih ⊢
    rcases ending_cases a with h | h | h | h | h <;> simp only [h, ih] <;> simp <;> omega

end Books

/-- The hits and the misses together are the calls that have looked for the first time. A call counts
one load at most, so that there are no more loads than misses; and the loads there have been are those
that are running, those that brought a definition, those that brought word that there is none, those
that failed or took too long, and those whose caller was cancelled. The counters are numbers of any
size here; what counters of 64 bits show is the same up to multiples of `2 ^ 64`. -/
theorem Run.accounts_balance (h : Run c endpoint past s) :
    s.stats.hits + s.stats.misses = (lookedUp past).ncard ∧
    (∀ k, loadsBy c endpoint past k ≤ 1) ∧
    s.stats.loads ≤ s.stats.misses ∧
    s.stats.loads = s.callersIn Phase.isLoading + endings past .delivered + endings past .refused +
      s.stats.loadFailures + endings past .dropped ∧
    s.stats.loadFailures = endings past .failed := by
  obtain ⟨hlookups, hmisses, hloads, hfailures⟩ := h.balanced
  refine ⟨hlookups, fun k => ?_, (Nat.le_add_right _ _).trans hmisses, ?_, hfailures⟩
  · rw [h.loadsBy_eq]
    exact h.rounds_le.2
  · rw [hloads, endings_total, hfailures]
    omega

def beginLoad (id : String) (k : Nat) : List Event :=
  [.arrive id, .proceed k, .proceed k, .proceed k, .proceed k]

/-- A load is begun and its caller cancelled, one takes too long, one brings word that there is no such
definition and one brings it, so that the next call finds it; one is running when the last call comes. -/
def everyEnd : List Event :=
  [beginLoad "a" 0, [.cancel 0], beginLoad "a" 1, [.pass 10000000000, .expire 1], beginLoad "a" 2,
    [.answer 2 (.ok none)], beginLoad "a" 3, [.answer 3 (.ok (some ⟨"a", none, none, none, true, []⟩)),
    .proceed 3, .arrive "a", .proceed 4], beginLoad "b" 5, [.arrive "b"]].flatten

theorem Run.accounts_balance_everyEnd : ∃ past s, Run {} "registry" past s ∧
    s.stats = ⟨1, 5, 5, 1⟩ ∧ (lookedUp past).ncard = 6 ∧ (∀ k, loadsBy {} "registry" past k ≤ 1) ∧
    5 = s.callersIn Phase.isLoading + endings past .delivered + endings past .refused + 1 +
      endings past .dropped ∧ endings past .failed = 1 := by
  have heval : (replay (State.step {} "registry") [] {} everyEnd).map (·.2.stats) =
      some ⟨1, 5, 5, 1⟩ := rfl
  obtain ⟨⟨past, s⟩, hreplay, hstats⟩ := Option.map_eq_some_iff.1 heval
  have hr : Run {} "registry" past s := .replay .start hreplay
  dsimp only at hstats
  obtain ⟨hlookups, hcalls, -, hloads, hfailures⟩ := hr.accounts_balance
  rw [hstats] at hlookups hloads hfailures
  exact ⟨past, s, hr, hstats, hlookups.symm, hcalls, hloads, hfailures.symm⟩

end TypedPid.Cache
