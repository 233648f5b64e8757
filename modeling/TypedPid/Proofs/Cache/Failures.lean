import TypedPid.Proofs.Cache.Capacity
import TypedPid.Proofs.Cache.Isolation
import TypedPid.Proofs.Cache.Waiting

/-!
What comes of a failure. Nothing is kept of it: a call that fails or is cancelled leaves everything as
it was, the next one that finds nothing loads again, and only those who were there already when a load
failed are told that it did.
-/

namespace TypedPid.Cache

/-- A step ends the load that a flight is for, and it comes to an error. -/
def Fails (c : Config) (endpoint : String) (a : State × Event) (id : String) (f : Nat)
    (err : LookupError) : Prop :=
  ∃ (j l n : Nat) (result : LoadResult), a.1.callers[j]? = some ⟨id, .loading f l n⟩ ∧
    Ends c endpoint a.1 j n a.2 result ∧ answerFor id result = .error err

/-- It has a definition to answer with, and cannot be cancelled any more. -/
def Phase.Provided (p : Phase) : Prop :=
  ∃ l, (∃ f, p = .landing f l) ∨ (∃ f, p = .leaving f (.ok l)) ∨ p = .answered (.ok l)

variable {c : Config} {endpoint : String} {past after before : List (State × Event)}
  {s s' t : State} {k j f : Nat} {id id' : String} {e : Event} {p p' : Phase} {fl : Flight}
  {err : LookupError} {l : Loaded}

section Stored

lemma Phase.Provided.act (h : p.Provided) (ha : Act c endpoint s k id e p t p') : p'.Provided := by
  obtain ⟨l, ⟨f, rfl⟩ | ⟨f, rfl⟩ | rfl⟩ := h
  · cases ha
    exact ⟨l, .inr (.inl ⟨f, rfl⟩)⟩
  · cases ha
    exact ⟨l, .inr (.inr rfl)⟩
  · exact absurd ha not_act_answered

lemma Run.provided_of_store (h : Run c endpoint past s) (ht : (t, .proceed k) ∈ past)
    (hk : t.callers[k]? = some ⟨id, .storing f l⟩) : ∃ p, s.callers[k]? = some ⟨id, p⟩ ∧ p.Provided := by
  refine Trace.remains (P := fun s => ∃ p, s.callers[k]? = some ⟨id, p⟩ ∧ p.Provided) h ?_ ht ?_
  · exact fun _ hs => phase_step (fun ha hp => hp.act ha) hs
  · intro t' hs
    obtain ⟨t, p', ha, hk'⟩ := acts_of_caller hs rfl hk
    cases ha
    exact ⟨_, hk', l, .inl ⟨f, rfl⟩⟩

lemma Run.entries_of_failed (h : Run c endpoint past s) (hk : s.callers[k]? = some ⟨id, p⟩)
    (hp : (∃ err, p = .answered (.error err)) ∨ p = .cancelled) (ht : (t, e) ∈ past)
    (he : e.caller? = some k) (hs : t.step c endpoint e = some s') : s'.entries = t.entries := by
  rcases entries_step hs with ⟨id', l, ⟨j, f, rfl, hj⟩, -⟩ | ⟨-, ⟨-, ht⟩ | ⟨id', rfl, -⟩⟩
  · obtain rfl : j = k := Option.some.inj he
    obtain ⟨q, hk', l, hq⟩ := h.provided_of_store ht hj
    rw [hk] at hk'
    cases hk'
    rcases hp with ⟨err, rfl⟩ | rfl <;> simp at hq
  · exact ht
  · cases he

end Stored

section Anew

lemma act_fetching (ha : Act c endpoint s k id e (.fetching f) t p') : e = .proceed k := by
  cases ha
  rfl

/-- A leader who has looked twice and found nothing begins a load, and does nothing else before. -/
lemma Run.begun_or_fetching (h : Run c endpoint (after ++ (t, .proceed k) :: before) s)
    (hk : t.callers[k]? = some ⟨id, .leading f⟩) (hf : t.find c id = none) :
    (∃ u, (u, .proceed k) ∈ after ∧ Begins c endpoint u (.proceed k) id) ∨
      s.callers[k]? = some ⟨id, .fetching f⟩ := by
  induction after generalizing s with
  | nil =>
    cases h with
    | step hr hs =>
      obtain ⟨t', p', ha, hk'⟩ := acts_of_caller hs rfl hk
      cases ha with
      | confirm hf' =>
        rw [hf] at hf'
        cases hf'
      | want => exact .inr hk'
  | cons a after ih =>
    cases h with
    | @step _ u e _ hr hs =>
      rcases ih hr with ⟨u', hu, hb⟩ | hk'
      · exact .inl ⟨u', List.mem_cons_of_mem _ hu, hb⟩
      · rcases idles_or_acts hs hk' with ⟨-, hk''⟩ | ⟨t', p', ha, -⟩
        · exact .inr hk''
        · obtain rfl := act_fetching ha
          exact .inl ⟨u, List.mem_cons_self, begins_iff.2 ⟨k, f, rfl, hk'⟩⟩

lemma fetching_goes_on (hk : s.callers[k]? = some ⟨id, .fetching f⟩) :
    Begins c endpoint s (.proceed k) id ∧
      ∀ e, e.caller? = some k → e ≠ .proceed k → s.step c endpoint e = none := by
  refine ⟨begins_iff.2 ⟨k, f, rfl, hk⟩, fun e he hne => ?_⟩
  by_contra hs
  obtain ⟨s', hs⟩ := Option.ne_none_iff_exists'.1 hs
  obtain ⟨t, p', ha, -⟩ := acts_of_caller hs he hk
  exact hne (act_fetching ha)

end Anew

section Blame

lemma fails_of_leaving (hk : s.callers[k]? = some ⟨id, p⟩)
    (ha : Act c endpoint s k id e p t (.leaving f (.error err))) :
    Fails c endpoint (s, e) id f err := by
  cases ha with
  | @finish e f' load since result t p' he hr =>
    rcases answer_eq_iff.1 hr with ⟨d, -, -, hp⟩ | ⟨rfl, -, hp⟩ | ⟨err, rfl, -, hp⟩ <;> cases hp
    · exact ⟨k, load, since, _, hk, he, rfl⟩
    · exact ⟨k, load, since, _, hk, he, rfl⟩

lemma Fails.leads (h : Fails c endpoint (s, e) id f err) : ∃ j, s.Leads j id f := by
  obtain ⟨j, l, n, result, hj, -⟩ := h
  exact ⟨j, leads_of_phase hj rfl⟩

lemma State.Ended.not_leads (h : s.Ended f) (hu : Coherent s) : ¬ s.Leads k id f := by
  intro hl
  obtain ⟨fl, o, hf, ho⟩ := h
  rw [hu.underway hl] at hf
  cases hf
  cases ho

lemma identifier_step (hu : Coherent s) (hs : s.step c endpoint e = some s')
    (hf : s.flights[f]? = some fl) :
    ∃ fl' : Flight, s'.flights[f]? = some fl' ∧ fl'.identifier = fl.identifier := by
  have hlt : f < s.flights.length := (List.getElem?_eq_some_iff.1 hf).1
  have hset : ∀ {f' : Nat} {fl₀ fl₁ : Flight}, s.flights[f']? = some fl₀ →
      fl₁.identifier = fl₀.identifier → ∃ fl' : Flight, (s.flights.set f' fl₁)[f]? = some fl' ∧
        fl'.identifier = fl.identifier := by
    intro f' fl₀ fl₁ hf₀ heq
    by_cases hff : f' = f
    · subst hff
      rw [hf] at hf₀
      cases hf₀
      exact ⟨fl₁, List.getElem?_set_self hlt, heq⟩
    · exact ⟨fl, (List.getElem?_set_ne hff).trans hf, rfl⟩
  cases step_eq_some_iff.1 hs with
  | act hk ha =>
    simp only [setPhase_flights]
    rcases flights_act hu hk ha with ht | ht | ⟨f', o, hl, -, ht⟩ | ⟨f', hl, ht⟩ |
      ⟨f', fl', hf', -, ht⟩ <;> rw [ht]
    · exact ⟨fl, hf, rfl⟩
    · exact ⟨fl, (List.getElem?_append_left hlt).trans hf, rfl⟩
    · exact hset (hu.underway hl) rfl
    · exact hset (hu.underway hl) rfl
    · exact hset hf' rfl
  | _ => exact ⟨fl, hf, rfl⟩

lemma Run.identifier_of_took (h : Run c endpoint past s) (hk : TookPart past k id f) :
    ∃ fl : Flight, s.flights[f]? = some fl ∧ fl.identifier = id := by
  obtain ⟨t, e, ht, hk⟩ := hk
  obtain ⟨past', hr⟩ := Trace.before h ht
  have hu : Coherent t := Run.coherent hr
  refine Trace.remains (P := fun s => ∃ fl : Flight, s.flights[f]? = some fl ∧ fl.identifier = id) h
    ?_ ht fun hs => ?_
  · rintro past s e s' hr hs ⟨fl, hf, rfl⟩
    exact identifier_step (Run.coherent hr) hs hf
  · obtain ⟨fl, hf, rfl⟩ : ∃ fl : Flight, t.flights[f]? = some fl ∧ fl.identifier = id :=
      hk.elim (hu.follower ·) fun hl => ⟨_, hu.underway hl, rfl⟩
    exact identifier_step hu hs hf

/-- Who takes part in a flight after a step did so before it, if the flight is over then. -/
lemma Involved.of_step (h : Involved ((s, e) :: past) s' k id f) (hu : Coherent s)
    (hs : s.step c endpoint e = some s') (hf : s'.flights[f]? = some fl) {o : Outcome}
    (ho : fl.channel.sent = some o) : Involved past s k id f := by
  rcases h with ⟨t, e', ht, hk⟩ | hk | hl
  · rcases List.mem_cons.1 ht with heq | ht
    · cases heq
      exact hk.elim (fun hk => .inr (.inl hk)) fun hl => .inr (.inr hl)
    · exact .inl ⟨t, e', ht, hk⟩
  · exact .inr (.inl (awaited_of_step hu hs hk hf ho).1)
  · exact absurd hl (State.Ended.not_leads ⟨fl, _, hf, ho⟩ (hu.step hs))

lemma Run.underway_of_involved (h : Run c endpoint past s) (hl : s.Leads j id' f)
    (hk : Involved past s k id f) : s.Underway k ∨ s.callers[k]? = some ⟨id, .cancelled⟩ := by
  have hstake : Stake s k id f := by
    rcases hk with hk | hk | hk
    · exact h.stake hk
    · exact .following hk
    · exact .leading hk
  cases hstake with
  | following hk => exact .inl ⟨id, _, hk, nofun, nofun⟩
  | leading hk =>
    obtain ⟨p, hk, hp⟩ := hk
    refine .inl ⟨id, p, hk, ?_, ?_⟩
    · rintro o rfl
      cases hp
    · rintro rfl
      cases hp
  | cancelled hk => exact .inr hk
  | givenUp hf hn hc => exact absurd hl (State.GivenUp.not_leads ⟨_, hf, hn, hc⟩ h.coherent)
  | ended hf ho => exact absurd hl (State.Ended.not_leads ⟨_, _, hf, ho⟩ h.coherent)

/-- An error that is sent in a flight comes from its load, and whoever takes part in the flight was
there when the load failed. -/
lemma Run.fails_of_sent (h : Run c endpoint past s) (hf : s.flights[f]? = some fl)
    (ho : fl.channel.sent = some (.error err)) : ∃ a ∈ past, Fails c endpoint a fl.identifier f err ∧
      ∀ k id, Involved past s k id f → a.1.Underway k ∨ a.1.callers[k]? = some ⟨id, .cancelled⟩ := by
  induction h generalizing fl with
  | start => cases hf
  | @step past s e s' hr hs ih =>
    have hu := Run.coherent hr
    cases hold : s.flights[f]? with
    | none =>
      obtain ⟨k, hl⟩ := leads_of_new hs hold hf
      exact absurd hl (State.Ended.not_leads ⟨fl, _, hf, ho⟩ (hu.step hs))
    | some fl₀ =>
      obtain ⟨fl₁, hf₁, hid⟩ := identifier_step hu hs hold
      rw [hf] at hf₁
      cases hf₁
      rw [hid]
      have hearlier : ∀ {k id}, Involved ((s, e) :: past) s' k id f → Involved past s k id f :=
        fun hk => hk.of_step hu hs hf ho
      rcases sent_of_step hu hs hold hf ho with hsent | ⟨j, p, t, hj, ha⟩
      · obtain ⟨a, ha, hfail, hthere⟩ := ih hold hsent
        exact ⟨a, List.mem_cons_of_mem _ ha, hfail, fun k id hk => hthere k id (hearlier hk)⟩
      · -- until its load fails the flight is led, so that nobody has gone away from it yet
        have hfail := fails_of_leaving hj ha
        obtain ⟨j', hl⟩ := hfail.leads
        refine ⟨(s, e), List.mem_cons_self, hfail, fun k id hk => ?_⟩
        exact Run.underway_of_involved hr hl (hearlier hk)

end Blame

/-- A call that came to an error or was cancelled has changed nothing of what is kept. Whoever leads a
flight and has looked twice without finding anything begins a load, whatever failed before. And where a
call answers with an error, its flight was ended by a load that failed while the call was underway; who
came after that takes no part in the flight. -/
theorem Run.failure_not_kept (h : Run c endpoint past s) :
    (∀ (k : Nat) id p, s.callers[k]? = some ⟨id, p⟩ →
      (∃ err, p = .answered (.error err)) ∨ p = .cancelled →
      ∀ t e t', (t, e) ∈ past → e.caller? = some k → t.step c endpoint e = some t' →
        t'.entries = t.entries) ∧
    (∀ after t k before id f, past = after ++ (t, .proceed k) :: before →
      t.callers[k]? = some ⟨id, .leading f⟩ → t.find c id = none →
      (∃ u, (u, .proceed k) ∈ after ∧ Begins c endpoint u (.proceed k) id) ∨
        Begins c endpoint s (.proceed k) id ∧
          ∀ e, e.caller? = some k → e ≠ .proceed k → s.step c endpoint e = none) ∧
    ∀ (k : Nat) id err, s.callers[k]? = some ⟨id, .answered (.error err)⟩ →
      ∃ f fl a, TookPart past k id f ∧ s.flights[f]? = some fl ∧ fl.channel.sent = some (.error err) ∧
        a ∈ past ∧ Fails c endpoint a id f err ∧ a.1.Underway k ∧
        ∀ j id', a.1.callers.length ≤ j → ¬ TookPart past j id' f := by
  refine ⟨fun k id p hk hp t e t' ht he hs => h.entries_of_failed hk hp ht he hs, ?_, ?_⟩
  · rintro after t k before id f rfl hk hf
    exact (h.begun_or_fetching hk hf).imp_right fetching_goes_on
  · intro k id err hk
    rcases h.sourced.answered hk with ⟨l, heq, -⟩ | ⟨f, fl, htook, hf, ho⟩
    · cases heq
    obtain ⟨fl', hf', rfl⟩ := h.identifier_of_took htook
    rw [hf] at hf'
    cases hf'
    obtain ⟨a, ha, hfail, hthere⟩ := h.fails_of_sent hf ho
    refine ⟨f, fl, a, htook, hf, ho, ha, hfail, ?_, fun j id' hle hj => ?_⟩
    · refine (hthere k _ (.inl htook)).resolve_right fun hc => ?_
      rw [h.stays_cancelled ha hc] at hk
      cases hk
    · rw [← List.getElem?_eq_none_iff] at hle
      rcases hthere j id' (.inl hj) with ⟨id, p, hj, -⟩ | hj <;> rw [hle] at hj <;> cases hj

/-- Two callers wait for a load that finds nothing. A third one comes after it, loads again and is
cancelled. -/
def refusedTwice : List Event :=
  sharedRefusal ++ [.arrive "a", .proceed 2, .proceed 2, .proceed 2, .proceed 2, .cancel 2]

theorem Run.failure_not_kept_refusedTwice : ∃ past s, Run {} "registry" past s ∧
    s.callers[1]? = some ⟨"a", .answered (.error (.notFound "a"))⟩ ∧
    s.callers[2]? = some ⟨"a", .cancelled⟩ ∧
    (∀ t e t', (t, e) ∈ past → e.caller? = some 1 ∨ e.caller? = some 2 →
      t.step {} "registry" e = some t' → t'.entries = t.entries) ∧
    (∃ u, (u, .proceed 2) ∈ past ∧ Begins {} "registry" u (.proceed 2) "a") ∧
    ∃ f a, a ∈ past ∧ Fails {} "registry" a "a" f (.notFound "a") ∧ a.1.Underway 1 ∧
      ∀ j id, a.1.callers.length ≤ j → ¬ TookPart past j id f := by
  have hr : Run {} "registry" _ _ :=
    .replay .start (rfl : replay _ [] _ refusedTwice = some (_, _))
  obtain ⟨hsame, hanew, hserved⟩ := hr.failure_not_kept
  obtain ⟨f, fl, a, -, -, -, ha, hfail, hthere, hlate⟩ := hserved 1 "a" _ rfl
  refine ⟨_, _, hr, rfl, rfl, fun t e t' ht he hs => ?_, ?_, f, a, ha, hfail, hthere, hlate⟩
  · rcases he with he | he
    · exact hsame 1 "a" _ rfl (.inl ⟨_, rfl⟩) t e t' ht he hs
    · exact hsame 2 "a" _ rfl (.inr rfl) t e t' ht he hs
  · rcases hanew [_, _] _ 2 _ "a" 1 rfl rfl rfl with ⟨u, hu, hb⟩ | ⟨hb, -⟩
    · exact ⟨u, List.Sublist.mem hu ((List.nil_sublist _).cons_cons _ |>.cons_cons _), hb⟩
    · obtain ⟨k, f, heq, hk⟩ := begins_iff.1 hb
      cases heq
      cases hk

end TypedPid.Cache
