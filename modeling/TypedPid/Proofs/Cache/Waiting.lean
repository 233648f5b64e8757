import Mathlib.Data.Set.Card
import TypedPid.Proofs.Cache.Retention

/-!
Nobody waits in vain. A flight that was begun is led until it is ended or its leader is cancelled, and
those who follow it learn of either. Who learns of a cancellation looks again, and goes one round more
for each leader that it lost.
-/

namespace TypedPid.Cache

/-- Nothing was sent to those who follow a flight, and nothing can be sent any more. -/
def State.GivenUp (s : State) (f : Nat) : Prop :=
  ∃ fl : Flight, s.flights[f]? = some fl ∧ fl.channel.sent = none ∧ fl.channel.closed = true

/-- Something was sent to those who follow a flight. -/
def State.Ended (s : State) (f : Nat) : Prop :=
  ∃ (fl : Flight) (o : Outcome), s.flights[f]? = some fl ∧ fl.channel.sent = some o

/-- The leader of a flight was cancelled. -/
def Forsook (past : List (State × Event)) (j f : Nat) : Prop :=
  ∃ (t : State) (id : String), (t, .cancel j) ∈ past ∧ t.Leads j id f

def Followed (past : List (State × Event)) (k : Nat) (id : String) (f : Nat) : Prop :=
  ∃ (t : State) (e : Event), (t, e) ∈ past ∧ t.callers[k]? = some ⟨id, .following f⟩

variable {c : Config} {endpoint : String} {past : List (State × Event)} {s s' t : State}
  {k j f f' : Nat} {id : String} {e : Event} {p p' : Phase} {fl : Flight} {o : Outcome} {l : Loaded}

section Flights

@[simp] lemma complete_flights_length : (s.complete f o).flights.length = s.flights.length := by
  unfold State.complete
  split <;> simp

@[simp] lemma drop_flights_length : (s.drop f).flights.length = s.flights.length := by
  unfold State.drop
  split
  · rfl
  · dsimp only
    split <;> simp [State.unregister]

lemma answer_flights_length (f load : Nat) (result : LoadResult) :
    (s.answer id f load result).1.flights.length = s.flights.length := by
  unfold State.answer
  split
  · rfl
  · exact complete_flights_length
  · exact complete_flights_length

lemma act_flights (h : Act c endpoint s k id e p t p') : t.flights.length = s.flights.length ∨
    (p' = .leading s.flights.length ∧ t.flights = s.flights ++ [{ identifier := id }]) := by
  cases h with
  | lead => exact .inr ⟨rfl, rfl⟩
  | finish _ hr => exact .inl ((congrArg (·.1.flights.length) hr).symm.trans (answer_flights_length _ _ _))
  | land => exact .inl complete_flights_length
  | leave => exact .inl drop_flights_length
  | quitLeading => exact .inl drop_flights_length
  | quitLoading => exact .inl drop_flights_length
  | quitStoring => exact .inl drop_flights_length
  | _ => exact .inl rfl

lemma flights_step (hs : s.step c endpoint e = some s') : s.flights.length ≤ s'.flights.length := by
  cases step_eq_some_iff.1 hs with
  | act hk ha =>
    rw [setPhase_flights]
    rcases act_flights ha with ht | ⟨-, ht⟩
    · exact Nat.le_of_eq ht.symm
    · simp [ht]
  | _ => exact Nat.le_refl _

/-- A flight begins with somebody who leads it. -/
lemma leads_of_new (hs : s.step c endpoint e = some s') (hn : s.flights[f]? = none)
    (hf : s'.flights[f]? = some fl) : ∃ k, s'.Leads k fl.identifier f := by
  rw [List.getElem?_eq_none_iff] at hn
  have hlt : f < s'.flights.length := (List.getElem?_eq_some_iff.1 hf).1
  cases step_eq_some_iff.1 hs with
  | @act k id p e t p' hk ha =>
    rw [setPhase_flights] at hf hlt
    rcases act_flights ha with ht | ⟨rfl, ht⟩
    · omega
    · rw [ht, List.length_append, List.length_singleton] at hlt
      obtain rfl : f = s.flights.length := by omega
      rw [ht, List.getElem?_concat_length] at hf
      cases hf
      exact ⟨k, _, (callers_act hk ha k).trans (if_pos rfl), rfl⟩
  | _ => exact absurd hlt (Nat.not_lt.2 hn)

lemma phase_of_answer {load : Nat} {result : LoadResult} (h : s.answer id f load result = (t, p')) :
    (∃ l, p' = .storing f l) ∨ ∃ o, p' = .leaving f o := by
  rcases answer_eq_iff.1 h with ⟨d, -, -, rfl⟩ | ⟨-, -, rfl⟩ | ⟨err, -, -, rfl⟩
  · exact .inl ⟨_, rfl⟩
  · exact .inr ⟨_, rfl⟩
  · exact .inr ⟨_, rfl⟩

lemma givenUp_of_quit (hu : Coherent s) (hk : s.callers[k]? = some ⟨id, p⟩)
    (ha : Act c endpoint s k id e p t .cancelled) (hp : p.flight? = some f) :
    e = .cancel k ∧ t.GivenUp f := by
  have hflight := hu.underway (leads_of_phase hk hp)
  have hlt : f < s.flights.length := (List.getElem?_eq_some_iff.1 hflight).1
  have hdrop : ∀ {u : State}, u.flights = s.flights → (u.drop f).GivenUp f := by
    intro u hf
    rw [drop_eq_of_not_done (hf ▸ hflight) rfl]
    exact ⟨_, List.getElem?_set_self (hf ▸ hlt), rfl, rfl⟩
  cases ha with
  | quitLeading =>
    cases hp
    exact ⟨rfl, hdrop rfl⟩
  | quitLoading =>
    cases hp
    exact ⟨rfl, hdrop rfl⟩
  | quitStoring =>
    cases hp
    exact ⟨rfl, hdrop rfl⟩
  | finish _ hr => rcases phase_of_answer hr with ⟨l, hp'⟩ | ⟨o, hp'⟩ <;> cases hp'
  | _ => cases hp

/-- A flight that is led goes on, is given up because its leader is cancelled, or is ended. -/
lemma leader_step (hu : Coherent s) (hs : s.step c endpoint e = some s') (hl : s.Leads k id f) :
    s'.Leads k id f ∨ (e = .cancel k ∧ s'.GivenUp f) ∨ s'.Ended f := by
  obtain ⟨p, hk, hp⟩ := hl
  rcases stays_or_acts hs hk with hk' | ⟨t, p', ha, rfl⟩
  · exact .inl ⟨p, hk', hp⟩
  have hself : (t.setPhase k p').callers[k]? = some ⟨id, p'⟩ := (callers_act hk ha k).trans (if_pos rfl)
  rcases flight_act ha hp with hp' | rfl | ⟨o, rfl⟩
  · exact .inl ⟨p', hself, hp'⟩
  · obtain ⟨he, hg⟩ := givenUp_of_quit hu hk ha hp
    exact .inr (.inl ⟨he, hg⟩)
  · obtain ⟨fl, hf, -, -, ho⟩ := (hu.step hs).left hself
    exact .inr (.inr ⟨fl, o, hf, ho⟩)

lemma State.GivenUp.step (h : s.GivenUp f) (hu : Coherent s) (hs : s.step c endpoint e = some s') :
    s'.GivenUp f := by
  obtain ⟨fl, hf, hn, hc⟩ := h
  have hne : ∀ id, fl ≠ { identifier := id } := by
    rintro id rfl
    cases hc
  obtain ⟨fl', hf', hn', hc'⟩ := over_step hu hs hf hne
  exact ⟨fl', hf', hn'.trans hn, hc' hc⟩

lemma State.Ended.step (h : s.Ended f) (hu : Coherent s) (hs : s.step c endpoint e = some s') :
    s'.Ended f := by
  obtain ⟨fl, o, hf, ho⟩ := h
  have hne : ∀ id, fl ≠ { identifier := id } := by
    rintro id rfl
    cases ho
  obtain ⟨fl', hf', ho', -⟩ := over_step hu hs hf hne
  exact ⟨fl', o, hf', ho'.trans ho⟩

lemma State.GivenUp.not_ended (h : s.GivenUp f) : ¬ s.Ended f := by
  rintro ⟨fl', o, hf', ho⟩
  obtain ⟨fl, hf, hn, -⟩ := h
  rw [hf] at hf'
  cases hf'
  rw [hn] at ho
  cases ho

lemma State.GivenUp.not_leads (h : s.GivenUp f) (hu : Coherent s) : ¬ s.Leads k id f := by
  intro hl
  obtain ⟨fl, hf, -, hc⟩ := h
  rw [hu.underway hl] at hf
  cases hf
  cases hc

/-- Every flight there has been is led, was given up or was ended. -/
def Attended (s : State) : Prop := ∀ ⦃f : Nat⦄ ⦃fl : Flight⦄, s.flights[f]? = some fl →
  (∃ k, s.Leads k fl.identifier f) ∨ s.GivenUp f ∨ s.Ended f

lemma Attended.step (h : Attended s) (hu : Coherent s) (hs : s.step c endpoint e = some s') :
    Attended s' := by
  intro f fl hf
  cases hold : s.flights[f]? with
  | none => exact .inl (leads_of_new hs hold hf)
  | some fl₀ =>
    rcases h hold with ⟨k, hl⟩ | hg | he
    · rcases leader_step hu hs hl with hl' | ⟨-, hg⟩ | he
      · have heq := (hu.step hs).underway hl'
        rw [hf] at heq
        cases heq
        exact .inl ⟨k, hl'⟩
      · exact .inr (.inl hg)
      · exact .inr (.inr he)
    · exact .inr (.inl (hg.step hu hs))
    · exact .inr (.inr (he.step hu hs))

lemma Run.attended (h : Run c endpoint past s) : Attended s := by
  induction h with
  | start =>
    intro f fl hf
    cases hf
  | step hr hs ih => exact ih.step (Run.coherent hr) hs

end Flights

section Cancellation

lemma act_of_step_cancel (hs : s.step c endpoint (.cancel j) = some s') : ∃ id p t,
    s.callers[j]? = some ⟨id, p⟩ ∧ Act c endpoint s j id (.cancel j) p t .cancelled ∧
      s' = t.setPhase j .cancelled := by
  rw [State.step, turn_eq_some_iff] at hs
  obtain ⟨id, p, t, p', hj, ha, rfl⟩ := hs
  obtain ⟨t, hc, ha⟩ := Option.map_eq_some_iff.1 ha
  cases ha
  exact ⟨id, p, t, hj, act_of_cancel hc, rfl⟩

lemma Run.givenUp_of_forsook (h : Run c endpoint past s) (hj : Forsook past j f) : s.GivenUp f := by
  obtain ⟨t, id, ht, p, hj, hp⟩ := hj
  obtain ⟨past', hr⟩ := Trace.before h ht
  refine Trace.remains (P := fun s => s.GivenUp f) h ?_ ht fun hs => ?_
  · exact fun hr hs hg => hg.step (Run.coherent hr) hs
  · obtain ⟨id', p', t, hj', ha, rfl⟩ := act_of_step_cancel hs
    rw [hj] at hj'
    cases hj'
    exact (givenUp_of_quit (Run.coherent hr) hj ha hp).2

lemma Run.forsook_of_givenUp (h : Run c endpoint past s) (hg : s.GivenUp f) :
    ∃ j, Forsook past j f := by
  induction h with
  | start =>
    obtain ⟨fl, hf, -⟩ := hg
    cases hf
  | @step past s e s' hr hs ih =>
    have hu := Run.coherent hr
    cases hold : s.flights[f]? with
    | none =>
      obtain ⟨fl, hf, -⟩ := id hg
      obtain ⟨k, hl⟩ := leads_of_new hs hold hf
      exact absurd hl (hg.not_leads (hu.step hs))
    | some fl =>
      rcases Run.attended hr hold with ⟨k, hl⟩ | hg' | he
      · rcases leader_step hu hs hl with hl' | ⟨rfl, -⟩ | he
        · exact absurd hl' (hg.not_leads (hu.step hs))
        · exact ⟨k, s, _, List.mem_cons_self, hl⟩
        · exact absurd he hg.not_ended
      · obtain ⟨j, t, id, ht, hl⟩ := ih hg'
        exact ⟨j, t, id, List.mem_cons_of_mem _ ht, hl⟩
      · exact absurd (he.step hu hs) hg.not_ended

end Cancellation

section Progress

/-- Who leads a flight never waits for another caller. -/
lemma leader_goes_on (hl : s.Leads j id f) :
    ∃ e, (e = .proceed j ∨ ∃ r, e = .answer j r) ∧ (s.step c endpoint e).isSome = true := by
  obtain ⟨p, hj, hp⟩ := hl
  have hact : ∀ {e t p'}, Act c endpoint s j id e p t p' → (s.step c endpoint e).isSome = true := by
    intro e t p' ha
    rw [step_of_act hj ha]
    rfl
  cases p with
  | leading f =>
    cases hf : s.find c id with
    | none => exact ⟨_, .inl rfl, hact (.want hf)⟩
    | some l => exact ⟨_, .inl rfl, hact (.confirm hf)⟩
  | fetching f => exact ⟨_, .inl rfl, hact .begin⟩
  | loading f load since => exact ⟨_, .inr ⟨.ok none, rfl⟩, hact (.finish (.answer _) rfl)⟩
  | storing f l => exact ⟨_, .inl rfl, hact .store⟩
  | landing f l => exact ⟨_, .inl rfl, hact .land⟩
  | _ => cases hp

lemma follower_goes_on (hk : s.callers[k]? = some ⟨id, .following f⟩) (hf : s.GivenUp f ∨ s.Ended f) :
    (s.step c endpoint (.proceed k)).isSome = true := by
  rcases hf with ⟨fl, hf, hn, hc⟩ | ⟨fl, o, hf, ho⟩
  · rw [step_of_act hk (.lose hf (receive_eq_none_iff.2 ⟨hn, hc⟩))]
    rfl
  · rw [step_of_act hk (.learn hf (receive_eq_some_iff.2 ho))]
    rfl

lemma returning_goes_on (hk : s.callers[k]? = some ⟨id, .returning⟩) :
    (s.step c endpoint (.proceed k)).isSome = true := by
  cases hf : s.find c id with
  | none => rw [step_of_act hk (.missAgain hf), Option.isSome_some]
  | some l => rw [step_of_act hk (.findAgain hf), Option.isSome_some]

lemma joining_goes_on (hk : s.callers[k]? = some ⟨id, .joining⟩) :
    (s.step c endpoint (.proceed k)).isSome = true := by
  cases hf : Keyed.lookup id s.inFlight with
  | none => rw [step_of_act hk (.lead hf), Option.isSome_some]
  | some f => rw [step_of_act hk (.follow hf), Option.isSome_some]

lemma Run.follower_waits (h : Run c endpoint past s)
    (hk : s.callers[k]? = some ⟨id, .following f⟩) :
    (∃ j, s.Leads j id f ∧ Keyed.lookup id s.inFlight = some f ∧
      ∃ e, (e = .proceed j ∨ ∃ r, e = .answer j r) ∧ (s.step c endpoint e).isSome = true) ∨
    (s.GivenUp f ∨ s.Ended f) ∧ (s.step c endpoint (.proceed k)).isSome = true := by
  obtain ⟨fl, hf, rfl⟩ := h.coherent.follower hk
  rcases h.attended hf with ⟨j, hl⟩ | hover
  · exact .inl ⟨j, hl, h.coherent.leader hl, leader_goes_on hl⟩
  · exact .inr ⟨hover, follower_goes_on hk hover⟩

end Progress

section Handover

/-- A caller takes part in a flight, or has taken part in it. -/
def Involved (past : List (State × Event)) (s : State) (k : Nat) (id : String) (f : Nat) : Prop :=
  TookPart past k id f ∨ s.callers[k]? = some ⟨id, .following f⟩ ∨ s.Leads k id f

/-- What can become of a caller who followed a flight. -/
inductive Fate (c : Config) (past : List (State × Event)) (s : State) (k : Nat) (id : String) (f : Nat) :
    Phase → Prop
  | waiting : Fate c past s k id f (.following f)
  | told (o : Outcome) : s.Ended f → Fate c past s k id f (.answered o)
  | returning : s.GivenUp f → Fate c past s k id f .returning
  | joining : s.GivenUp f → Fate c past s k id f .joining
  | found (l : Loaded) : Found c past k id l → Fate c past s k id f (.answered (.ok l))
  | elsewhere (p : Phase) (f' : Nat) : f' ≠ f → Involved past s k id f' → Fate c past s k id f p
  | cancelled : Fate c past s k id f .cancelled

lemma Involved.cons (h : Involved past s k id f) (e : Event) (s' : State) :
    Involved ((s, e) :: past) s' k id f := by
  rcases h with hp | hk | hl
  · exact .inl (hp.cons _)
  · exact .inl ⟨s, e, List.mem_cons_self, .inl hk⟩
  · exact .inl ⟨s, e, List.mem_cons_self, .inr hl⟩

lemma Fate.act (h : Fate c past s k id f p) (hu : Coherent s) (hlt : f < s.flights.length)
    (hk : s.callers[k]? = some ⟨id, p⟩) (ha : Act c endpoint s k id e p t p') :
    Fate c ((s, e) :: past) (t.setPhase k p') k id f p' := by
  have hs := step_of_act hk ha
  have hself : (t.setPhase k p').callers[k]? = some ⟨id, p'⟩ := (callers_act hk ha k).trans (if_pos rfl)
  cases h with
  | waiting =>
    cases ha with
    | learn hf hr => exact .told _ (State.Ended.step ⟨_, _, hf, receive_eq_some_iff.1 hr⟩ hu hs)
    | lose hf hr => exact .returning (State.GivenUp.step ⟨_, hf, receive_eq_none_iff.1 hr⟩ hu hs)
    | quitFollowing => exact .cancelled
  | returning hg =>
    cases ha with
    | findAgain hf =>
      obtain ⟨stored, hl, hx, heq⟩ := find_eq_some_iff.1 hf
      exact .found _ ⟨s, _, stored, List.mem_cons_self, hk, .inr (.inl rfl), hl, hx, heq⟩
    | missAgain => exact .joining (hg.step hu hs)
    | quitReturning => exact .cancelled
  | joining hg =>
    cases ha with
    | @follow f' hf =>
      refine .elsewhere _ _ ?_ (.inr (.inl hself))
      rintro rfl
      obtain ⟨j, hl⟩ := hu.registered hf
      exact hg.not_leads hu hl
    | lead => exact .elsewhere _ _ (Nat.ne_of_gt hlt) (.inr (.inr ⟨_, hself, rfl⟩))
  | elsewhere _ _ hne hi => exact .elsewhere _ _ hne (hi.cons _ _)
  | told => exact absurd ha not_act_answered
  | found => exact absurd ha not_act_answered
  | cancelled => exact absurd ha not_act_cancelled

lemma Fate.stay (h : Fate c past s k id f p) (hu : Coherent s) (hs : s.step c endpoint e = some s') :
    Fate c ((s, e) :: past) s' k id f p := by
  cases h with
  | waiting => exact .waiting
  | told _ he => exact .told _ (he.step hu hs)
  | returning hg => exact .returning (hg.step hu hs)
  | joining hg => exact .joining (hg.step hu hs)
  | found _ hf => exact .found _ (hf.cons _)
  | elsewhere _ _ hne hi => exact .elsewhere _ _ hne (hi.cons _ _)
  | cancelled => exact .cancelled

lemma Run.fate (h : Run c endpoint past s) (hf : Followed past k id f) :
    f < s.flights.length ∧ ∃ p, s.callers[k]? = some ⟨id, p⟩ ∧ Fate c past s k id f p := by
  induction h with
  | start =>
    obtain ⟨t, e, ht, -⟩ := hf
    cases ht
  | @step past s e s' hr hs ih =>
    have hu := Run.coherent hr
    obtain ⟨hlt, p, hk, hfate⟩ :
        f < s.flights.length ∧ ∃ p, s.callers[k]? = some ⟨id, p⟩ ∧ Fate c past s k id f p := by
      obtain ⟨t, e', ht, hk⟩ := hf
      rcases List.mem_cons.1 ht with heq | ht
      · cases heq
        obtain ⟨fl, hfl, -⟩ := hu.follower hk
        exact ⟨(List.getElem?_eq_some_iff.1 hfl).1, _, hk, .waiting⟩
      · exact ih ⟨t, e', ht, hk⟩
    refine ⟨hlt.trans_le (flights_step hs), ?_⟩
    rcases stays_or_acts hs hk with hk' | ⟨t, p', ha, rfl⟩
    · exact ⟨p, hk', hfate.stay hu hs⟩
    · exact ⟨p', (callers_act hk ha k).trans (if_pos rfl), hfate.act hu hlt hk ha⟩

/-- An answer has its origin in what was kept, or in a flight that was not given up. -/
lemma Run.answered_elsewhere (h : Run c endpoint past s) (hg : s.GivenUp f)
    (hk : s.callers[k]? = some ⟨id, .answered o⟩) : (∃ l, o = .ok l ∧ Found c past k id l) ∨
      ∃ f' fl, f' ≠ f ∧ TookPart past k id f' ∧ s.flights[f']? = some fl ∧ fl.channel.sent = some o := by
  rcases h.sourced.answered hk with hfound | ⟨f', fl, hp, hf, ho⟩
  · exact .inl hfound
  · refine .inr ⟨f', fl, ?_, hp, hf, ho⟩
    rintro rfl
    exact hg.not_ended ⟨fl, o, hf, ho⟩

end Handover

section Counts

def Phase.isJoining : Phase → Bool
  | .joining => true
  | _ => false

def Phase.isFetching : Phase → Bool
  | .fetching _ => true
  | _ => false

/-- The caller takes the step of a phase. -/
def took (k : Nat) (P : Phase → Bool) : State × Event → Bool
  | (s, .proceed j) => j == k && s.callers[k]?.any fun who => P who.phase
  | _ => false

/-- How often a caller went to join a flight or to lead one. -/
def rounds (past : List (State × Event)) (k : Nat) : Nat :=
  past.countP (took k Phase.isJoining)

/-- How often a caller called the loader. -/
def loaderCalls (past : List (State × Event)) (k : Nat) : Nat :=
  past.countP (took k Phase.isFetching)

/-- The cancelled leaders of the flights that a caller followed. -/
def lostLeaders (past : List (State × Event)) (k : Nat) : Set Nat :=
  {j | ∃ id f, Followed past k id f ∧ Forsook past j f}

/-- Whether a caller has gone one round more than it lost flights. -/
def Phase.due : Phase → Nat
  | .arriving | .joining | .returning => 0
  | _ => 1

/-- Whether a caller can have called the loader. -/
def Phase.called : Phase → Nat
  | .arriving | .joining | .following _ | .returning | .leading _ | .fetching _ => 0
  | _ => 1

variable {P : Phase → Bool}

lemma not_took_of_none (hk : s.callers[k]? = none) : took k P (s, e) = false := by
  cases e <;> simp [took, hk]

lemma took_of_ne (he : e ≠ .proceed k) : took k P (s, e) = false := by
  cases e with
  | proceed j =>
    have hj : j ≠ k := fun hj => he (hj ▸ rfl)
    simp [took, hj]
  | _ => rfl

/-- A caller who does not act has not been told to go on. -/
lemma idles_or_acts (hs : s.step c endpoint e = some s') (hk : s.callers[k]? = some ⟨id, p⟩) :
    (e ≠ .proceed k ∧ s'.callers[k]? = some ⟨id, p⟩) ∨
      ∃ t p', Act c endpoint s k id e p t p' ∧ s'.callers[k]? = some ⟨id, p'⟩ := by
  cases step_eq_some_iff.1 hs with
  | arrive id' =>
    exact .inl ⟨nofun, (List.getElem?_append_left (List.getElem?_eq_some_iff.1 hk).1).trans hk⟩
  | @act j id' q e t q' hj ha =>
    by_cases heq : k = j
    · subst heq
      rw [hk] at hj
      cases hj
      exact .inr ⟨t, q', ha, (callers_act hk ha k).trans (if_pos rfl)⟩
    · exact .inl ⟨act_event_ne ha heq, (callers_act hj ha k).trans ((if_neg heq).trans hk)⟩
  | peek => exact .inl ⟨nofun, hk⟩
  | invalidate => exact .inl ⟨nofun, hk⟩
  | pass => exact .inl ⟨nofun, hk⟩

lemma arrives_of_none (hs : s.step c endpoint e = some s') (hk : s.callers[k]? = none)
    (hk' : s'.callers[k]? = some ⟨id, p⟩) : p = .arriving := by
  rcases stayed_or_acted hs hk' with h | h | ⟨p, t, h, -⟩
  · rw [hk] at h
    cases h
  · exact h
  · rw [hk] at h
    cases h

lemma Run.not_took (h : Run c endpoint past s) (hk : s.callers[k]? = none) :
    past.countP (took k P) = 0 := by
  induction h with
  | start => rfl
  | @step past s e s' hr hs ih =>
    have hold : s.callers[k]? = none := by
      cases hk' : s.callers[k]? with
      | none => rfl
      | some who =>
        obtain ⟨id, p⟩ := who
        rcases idles_or_acts hs hk' with ⟨-, h⟩ | ⟨t, p', -, h⟩ <;> exact absurd (hk.symm.trans h) nofun
    rw [List.countP_cons_of_neg (Bool.eq_false_iff.1 (not_took_of_none hold)), ih hold]

lemma called_act (hk : s.callers[k]? = some ⟨id, p⟩) (ha : Act c endpoint s k id e p t p') :
    p.called + (if took k Phase.isFetching (s, e) then 1 else 0) ≤ p'.called := by
  cases ha with
  | finish he hr =>
    rcases phase_of_answer hr with ⟨l, rfl⟩ | ⟨o, rfl⟩ <;> cases he <;> rfl
  | _ => simp [took, Phase.isFetching, Phase.called, hk]

/-- What a caller owes for the rounds it goes, it keeps owing unless it loses the flight it follows. -/
lemma due_act (hk : s.callers[k]? = some ⟨id, p⟩) (ha : Act c endpoint s k id e p t p') :
    p.due + (if took k Phase.isJoining (s, e) then 1 else 0) ≤ p'.due ∨
      ∃ f, p = .following f ∧ p' = .returning ∧ s.GivenUp f := by
  cases ha with
  | finish he hr =>
    rcases phase_of_answer hr with ⟨l, rfl⟩ | ⟨o, rfl⟩ <;> cases he <;> exact .inl (Nat.le_refl _)
  | lose hf hr => exact .inr ⟨_, rfl, rfl, _, hf, receive_eq_none_iff.1 hr⟩
  | _ => simp [took, Phase.isJoining, Phase.due, hk]

lemma Followed.cons (h : Followed past k id f) (a : State × Event) : Followed (a :: past) k id f := by
  obtain ⟨t, e, ht, hk⟩ := h
  exact ⟨t, e, List.mem_cons_of_mem _ ht, hk⟩

lemma act_not_following (hu : Coherent s) (hg : s.GivenUp f) (hp : p ≠ .following f)
    (ha : Act c endpoint s k id e p t p') : p' ≠ .following f := by
  rintro rfl
  cases ha with
  | follow hf =>
    obtain ⟨j, hl⟩ := hu.registered hf
    exact hg.not_leads hu hl
  | finish _ hr => rcases phase_of_answer hr with ⟨l, hp'⟩ | ⟨o, hp'⟩ <;> cases hp'

/-- The account of a caller: the flights that it followed and lost, and what it did for them. -/
structure Account (past : List (State × Event)) (s : State) (k : Nat) (p : Phase) (lost : Finset Nat) :
    Prop where
  followed : ∀ f ∈ lost, s.GivenUp f ∧ ∃ id, Followed past k id f
  behind : ∀ f ∈ lost, p ≠ .following f
  rounds : rounds past k ≤ lost.card + p.due
  calls : loaderCalls past k ≤ p.called

section

variable {lost : Finset Nat}

lemma Account.arrive (hn : ∀ P, past.countP (took k P) = 0) : Account past s k .arriving ∅ where
  followed := nofun
  behind := nofun
  rounds := (hn _).le
  calls := (hn _).le

lemma Account.followed_step (h : Account past s k p lost) (hu : Coherent s)
    (hs : s.step c endpoint e = some s') (hf : f ∈ lost) :
    s'.GivenUp f ∧ ∃ id, Followed ((s, e) :: past) k id f := by
  obtain ⟨hg, id, hfol⟩ := h.followed f hf
  exact ⟨hg.step hu hs, id, hfol.cons _⟩

lemma Account.stay (h : Account past s k p lost) (hu : Coherent s) (hs : s.step c endpoint e = some s')
    (he : e ≠ .proceed k) : Account ((s, e) :: past) s' k p lost := by
  have hidle : ∀ P, ((s, e) :: past).countP (took k P) = past.countP (took k P) :=
    fun P => List.countP_cons_of_neg (Bool.eq_false_iff.1 (took_of_ne he))
  exact ⟨fun f hf => h.followed_step hu hs hf, h.behind, (hidle _).trans_le h.rounds,
    (hidle _).trans_le h.calls⟩

lemma Account.act (h : Account past s k p lost) (hu : Coherent s) (hk : s.callers[k]? = some ⟨id, p⟩)
    (hs : s.step c endpoint e = some s') (ha : Act c endpoint s k id e p t p') :
    ∃ lost, Account ((s, e) :: past) s' k p' lost := by
  have hround := h.rounds
  have hcalls : loaderCalls ((s, e) :: past) k ≤ p'.called := by
    rw [loaderCalls, List.countP_cons]
    exact (Nat.add_le_add_right h.calls _).trans (called_act hk ha)
  rcases due_act hk ha with hdue | ⟨f, rfl, rfl, hg⟩
  · refine ⟨lost, fun f hf => h.followed_step hu hs hf, fun f hf => ?_, ?_, hcalls⟩
    · exact act_not_following hu (h.followed f hf).1 (h.behind f hf) ha
    · rw [Cache.rounds, List.countP_cons]
      rw [Cache.rounds] at hround
      omega
  · -- the flight that is lost now is none of those that were lost before
    have hnew : f ∉ lost := fun hf => h.behind f hf rfl
    refine ⟨insert f lost, fun f' hf' => ?_, nofun, ?_, hcalls⟩
    · rcases Finset.mem_insert.1 hf' with rfl | hf'
      · exact ⟨hg.step hu hs, id, s, e, List.mem_cons_self, hk⟩
      · exact h.followed_step hu hs hf'
    · have htook : took k Phase.isJoining (s, e) = false := by
        cases ha
        simp [took, hk, Phase.isJoining]
      rw [Cache.rounds, List.countP_cons_of_neg (Bool.eq_false_iff.1 htook),
        Finset.card_insert_of_notMem hnew]
      exact hround

end

lemma Run.account (h : Run c endpoint past s) (hk : s.callers[k]? = some ⟨id, p⟩) :
    ∃ lost, Account past s k p lost := by
  induction h generalizing id p with
  | start => cases hk
  | @step past s e s' hr hs ih =>
    have hu := Run.coherent hr
    cases hold : s.callers[k]? with
    | none =>
      obtain rfl := arrives_of_none hs hold hk
      refine ⟨∅, .arrive fun P => ?_⟩
      rw [List.countP_cons_of_neg (Bool.eq_false_iff.1 (not_took_of_none hold)), Run.not_took hr hold]
    | some who =>
      obtain ⟨id', q⟩ := who
      obtain ⟨lost, hlost⟩ := ih hold
      rcases idles_or_acts hs hold with ⟨he, hk'⟩ | ⟨t, q', ha, hk'⟩
      · rw [hk] at hk'
        cases hk'
        exact ⟨lost, hlost.stay hu hs he⟩
      · rw [hk] at hk'
        cases hk'
        exact hlost.act hu hold hs ha

lemma cancelled_step (hs : s.step c endpoint e = some s')
    (hk : s.callers[k]? = some ⟨id, .cancelled⟩) : s'.callers[k]? = some ⟨id, .cancelled⟩ := by
  rcases stays_or_acts hs hk with hk' | ⟨t, p', ha, -⟩
  · exact hk'
  · exact absurd ha not_act_cancelled

lemma Run.stays_cancelled (h : Run c endpoint past s) (ht : (t, e) ∈ past)
    (hk : t.callers[k]? = some ⟨id, .cancelled⟩) : s.callers[k]? = some ⟨id, .cancelled⟩ :=
  Trace.remains (P := fun s => s.callers[k]? = some ⟨id, .cancelled⟩) h
    (fun _ hs => cancelled_step hs) ht fun hs => cancelled_step hs hk

lemma Run.cancelled_of_forsook (h : Run c endpoint past s) (hf : Forsook past j f) :
    ∃ id, s.callers[j]? = some ⟨id, .cancelled⟩ := by
  obtain ⟨t, id, ht, p, hj, -⟩ := hf
  refine ⟨id, Trace.remains (P := fun s => s.callers[j]? = some ⟨id, .cancelled⟩) h
    (fun _ hs => cancelled_step hs) ht fun hs => ?_⟩
  obtain ⟨id', p', t, hj', ha, rfl⟩ := act_of_step_cancel hs
  rw [hj] at hj'
  cases hj'
  exact (callers_act hj ha j).trans (if_pos rfl)

/-- A caller is cancelled once, and leads one flight then. -/
lemma Forsook.unique (h : Run c endpoint past s) (hf : Forsook past j f) (hf' : Forsook past j f') :
    f = f' := by
  induction h with
  | start =>
    obtain ⟨t, id, ht, -⟩ := hf
    cases ht
  | @step past s e s' hr hs ih =>
    have hgone : ∀ {id f g}, s.Leads j id f → ¬ Forsook past j g := by
      rintro id f g ⟨p, hj, hp⟩ hg
      obtain ⟨id', hj'⟩ := Run.cancelled_of_forsook hr hg
      rw [hj] at hj'
      cases hj'
      cases hp
    obtain ⟨t, id, ht, hl⟩ := hf
    obtain ⟨t', id', ht', hl'⟩ := hf'
    rcases List.mem_cons.1 ht with heq | hpast <;> rcases List.mem_cons.1 ht' with heq' | hpast'
    · cases heq
      cases heq'
      obtain ⟨p, hj, hp⟩ := hl
      obtain ⟨p', hj', hp'⟩ := hl'
      rw [hj] at hj'
      cases hj'
      exact Option.some.inj (hp.symm.trans hp')
    · cases heq
      exact absurd ⟨t', id', hpast', hl'⟩ (hgone hl)
    · cases heq'
      exact absurd ⟨t, id, hpast, hl⟩ (hgone hl')
    · exact ih ⟨t, id, hpast, hl⟩ ⟨t', id', hpast', hl'⟩

lemma lostLeaders_finite (past : List (State × Event)) (k : Nat) : (lostLeaders past k).Finite := by
  have hcancelled : {j | .cancel j ∈ past.map Prod.snd}.Finite :=
    (past.map Prod.snd).finite_toSet.preimage fun _ _ _ _ h => Event.cancel.inj h
  refine hcancelled.subset fun j hj => ?_
  obtain ⟨-, -, -, t, -, ht, -⟩ := hj
  exact List.mem_map_of_mem (f := Prod.snd) ht

lemma Account.lost_le {lost : Finset Nat} (h : Account past s k p lost) (hr : Run c endpoint past s) :
    lost.card ≤ (lostLeaders past k).ncard := by
  have hleader : ∀ f ∈ lost, ∃ j, Forsook past j f :=
    fun f hf => hr.forsook_of_givenUp (h.followed f hf).1
  choose! leader hleader using hleader
  rw [← Set.ncard_coe_finset]
  refine Set.ncard_le_ncard_of_injOn leader (fun f hf => ?_) (fun f hf f' hf' heq => ?_)
    (lostLeaders_finite past k)
  · obtain ⟨-, id, hfol⟩ := h.followed f hf
    exact ⟨id, f, hfol, hleader f hf⟩
  · exact Forsook.unique hr (hleader f hf) (heq ▸ hleader f' hf')

lemma Run.rounds_le (h : Run c endpoint past s) :
    rounds past k ≤ (lostLeaders past k).ncard + 1 ∧ loaderCalls past k ≤ 1 := by
  cases hk : s.callers[k]? with
  | none =>
    rw [rounds, loaderCalls, h.not_took hk, h.not_took hk]
    exact ⟨Nat.zero_le _, Nat.zero_le _⟩
  | some who =>
    obtain ⟨id, p⟩ := who
    obtain ⟨lost, hlost⟩ := h.account hk
    have hdue : p.due ≤ 1 := by cases p <;> simp [Phase.due]
    have hcalled : p.called ≤ 1 := by cases p <;> simp [Phase.called]
    exact ⟨hlost.rounds.trans (Nat.add_le_add (hlost.lost_le h) hdue), hlost.calls.trans hcalled⟩

end Counts

/-- Whoever follows a flight waits for a leader who is in the table and can go on, or can go on
itself. A caller whose leader was cancelled does not answer for that: it looks again, and either
answers with what is kept then or takes part in another flight. It goes at most one round more than
it lost leaders, and calls the loader at most once. -/
theorem Run.nobody_waits_in_vain (h : Run c endpoint past s) :
    (∀ k id f, s.callers[k]? = some ⟨id, .following f⟩ →
      (∃ j, s.Leads j id f ∧ Keyed.lookup id s.inFlight = some f ∧
        ∃ e, (e = .proceed j ∨ ∃ r, e = .answer j r) ∧ (s.step c endpoint e).isSome = true) ∨
      (s.GivenUp f ∨ s.Ended f) ∧ (s.step c endpoint (.proceed k)).isSome = true) ∧
    (∀ j k id f, Forsook past j f → Followed past k id f →
      ∃ p, s.callers[k]? = some ⟨id, p⟩ ∧
        ((p = .following f ∨ p = .returning ∨ p = .joining) ∧
            (s.step c endpoint (.proceed k)).isSome = true ∨
          (∃ l, p = .answered (.ok l) ∧ Found c past k id l) ∨
          (∃ f', f' ≠ f ∧ Involved past s k id f') ∨ p = .cancelled) ∧
        ∀ o, p = .answered o → (∃ l, o = .ok l ∧ Found c past k id l) ∨
          ∃ f' fl, f' ≠ f ∧ TookPart past k id f' ∧ s.flights[f']? = some fl ∧
            fl.channel.sent = some o) ∧
    ∀ k, rounds past k ≤ (lostLeaders past k).ncard + 1 ∧ loaderCalls past k ≤ 1 := by
  refine ⟨fun k id f hk => h.follower_waits hk, fun j k id f hj hfol => ?_, fun k => h.rounds_le⟩
  have hg := h.givenUp_of_forsook hj
  obtain ⟨-, p, hk, hfate⟩ := h.fate hfol
  refine ⟨p, hk, ?_, ?_⟩
  · cases hfate with
    | waiting => exact .inl ⟨.inl rfl, follower_goes_on hk (.inl hg)⟩
    | told o he => exact absurd he hg.not_ended
    | returning => exact .inl ⟨.inr (.inl rfl), returning_goes_on hk⟩
    | joining => exact .inl ⟨.inr (.inr rfl), joining_goes_on hk⟩
    | found l hl => exact .inr (.inl ⟨l, rfl, hl⟩)
    | elsewhere p f' hne hi => exact .inr (.inr (.inl ⟨f', hne, hi⟩))
    | cancelled => exact .inr (.inr (.inr rfl))
  · rintro o rfl
    exact h.answered_elsewhere hg hk

theorem Run.nobody_waits_in_vain_handOver :
    (∃ past s, Run {} "registry" past s ∧ s.callers[1]? = some ⟨"a", .following 0⟩ ∧
      ((∃ j, s.Leads j "a" 0) ∨ s.GivenUp 0 ∨ s.Ended 0)) ∧
    ∃ past s, Run {} "registry" past s ∧ Forsook past 0 0 ∧ Followed past 1 "a" 0 ∧
      (∃ p, s.callers[1]? = some ⟨"a", p⟩ ∧ ∀ o, p = .answered o →
        (∃ l, o = .ok l ∧ Found {} past 1 "a" l) ∨ ∃ f, f ≠ 0 ∧ TookPart past 1 "a" f) ∧
      rounds past 1 = 2 ∧ loaderCalls past 1 = 1 ∧ 2 ≤ (lostLeaders past 1).ncard + 1 := by
  constructor
  · have hr : Run {} "registry" _ _ :=
      .replay .start (rfl : replay _ [] _ (handOver.take 6) = some (_, _))
    refine ⟨_, _, hr, rfl, ?_⟩
    exact (hr.nobody_waits_in_vain.1 1 "a" 0 rfl).imp (fun ⟨j, hj, _⟩ => ⟨j, hj⟩) And.left
  · obtain ⟨past, s, hr, hj, hfol, htwice, honce⟩ : ∃ past s, Run {} "registry" past s ∧
        Forsook past 0 0 ∧ Followed past 1 "a" 0 ∧ rounds past 1 = 2 ∧ loaderCalls past 1 = 1 := by
      refine ⟨_, _, .replay .start (rfl : replay _ [] _ handOver = some (_, _)), ?_, ?_, rfl, rfl⟩
      · exact ⟨_, "a", List.mem_of_getElem? (i := 10) rfl, _, rfl, rfl⟩
      · exact ⟨_, _, List.mem_of_getElem? (i := 12) rfl, rfl⟩
    obtain ⟨-, hserved, hcount⟩ := hr.nobody_waits_in_vain
    obtain ⟨p, hk, -, ho⟩ := hserved 0 1 "a" 0 hj hfol
    refine ⟨past, s, hr, hj, hfol, ⟨p, hk, fun o h => ?_⟩, htwice, honce, htwice ▸ (hcount 1).1⟩
    exact (ho o h).imp_right fun ⟨f, _, hne, htook, _⟩ => ⟨f, hne, htook⟩

end TypedPid.Cache
