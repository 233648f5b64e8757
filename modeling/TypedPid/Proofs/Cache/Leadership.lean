import TypedPid.Proofs.Cache.Transition

/-! The table of flights underway and the callers who lead them. -/

namespace TypedPid.Cache

/-- The flight that a caller leads and has not ended. -/
def Phase.flight? : Phase → Option Nat
  | .leading f => some f
  | .fetching f => some f
  | .loading f _ _ => some f
  | .storing f _ => some f
  | .landing f _ => some f
  | _ => none

def State.Leads (s : State) (k : Nat) (id : String) (f : Nat) : Prop :=
  ∃ p, s.callers[k]? = some ⟨id, p⟩ ∧ p.flight? = some f

variable {c : Config} {endpoint : String} {s s' t : State} {k : Nat} {id : String} {e : Event}
  {p p' : Phase} {f : Nat} {fl : Flight}

/-- What the table, the flights and the phases of the callers have to do with each other. -/
structure Coherent (s : State) : Prop where
  registered : ∀ ⦃id f⦄, Keyed.lookup id s.inFlight = some f → ∃ k, s.Leads k id f
  leader : ∀ ⦃k id f⦄, s.Leads k id f → Keyed.lookup id s.inFlight = some f
  underway : ∀ ⦃k id f⦄, s.Leads k id f → s.flights[f]? = some { identifier := id }
  unique : ∀ ⦃j k id f⦄, s.Leads j id f → s.Leads k id f → j = k
  follower : ∀ ⦃k : Nat⦄ ⦃id f⦄, s.callers[k]? = some ⟨id, .following f⟩ →
    ∃ fl : Flight, s.flights[f]? = some fl ∧ fl.identifier = id
  left : ∀ ⦃k : Nat⦄ ⦃id f o⦄, s.callers[k]? = some ⟨id, .leaving f o⟩ →
    ∃ fl : Flight, s.flights[f]? = some fl ∧ fl.identifier = id ∧ fl.done = true ∧
      fl.channel.sent = some o

lemma leads_setPhase (hk : s.callers[k]? = some ⟨id, p⟩) (hc : t.callers = s.callers) (j : Nat)
    (id' : String) (f : Nat) :
    (t.setPhase k p').Leads j id' f ↔
      (j = k ∧ id' = id ∧ p'.flight? = some f) ∨ (j ≠ k ∧ s.Leads j id' f) := by
  simp only [State.Leads, callers_setPhase (hc ▸ hk), hc]
  by_cases hj : j = k
  · subst hj
    simp only [if_true, Option.some.injEq, Caller.mk.injEq, true_and, ne_eq, not_true_eq_false,
      false_and, or_false]
    constructor
    · rintro ⟨_, ⟨rfl, rfl⟩, hf⟩
      exact ⟨rfl, hf⟩
    · rintro ⟨rfl, hf⟩
      exact ⟨p', ⟨rfl, rfl⟩, hf⟩
  · simp [hj]

lemma leads_setPhase_of_eq (hk : s.callers[k]? = some ⟨id, p⟩) (hc : t.callers = s.callers)
    (hp : p'.flight? = p.flight?) (j : Nat) (id' : String) (f : Nat) :
    (t.setPhase k p').Leads j id' f ↔ s.Leads j id' f := by
  rw [leads_setPhase hk hc]
  by_cases hj : j = k
  · subst hj
    constructor
    · rintro (⟨-, rfl, hf⟩ | ⟨hj, -⟩)
      · exact ⟨p, hk, hp ▸ hf⟩
      · exact absurd rfl hj
    · rintro ⟨p₀, hk₀, hf⟩
      rw [hk] at hk₀
      cases hk₀
      exact .inl ⟨rfl, rfl, hp.trans hf⟩
  · simp [hj]

lemma not_leads (hk : s.callers[k]? = some ⟨id, p⟩) (hp : p.flight? = none) {id' : String} :
    ¬ s.Leads k id' f := by
  rintro ⟨p', hk', hf⟩
  rw [hk] at hk'
  cases hk'
  rw [hp] at hf
  cases hf

lemma leads_of_phase (hk : s.callers[k]? = some ⟨id, p⟩) (hp : p.flight? = some f) :
    s.Leads k id f :=
  ⟨p, hk, hp⟩

namespace Coherent

lemma initial : Coherent {} where
  registered _ _ h := by cases h
  leader _ _ _ h := by
    obtain ⟨p, hk, _⟩ := h
    cases hk
  underway _ _ _ h := by
    obtain ⟨p, hk, _⟩ := h
    cases hk
  unique _ _ _ _ h := by
    obtain ⟨p, hk, _⟩ := h
    cases hk
  follower _ _ _ h := by cases h
  left _ _ _ _ h := by cases h

lemma quiet (h : Coherent s) (hk : s.callers[k]? = some ⟨id, p⟩) (hc : t.callers = s.callers)
    (ht : t.inFlight = s.inFlight) (hf : t.flights = s.flights) (hp : p'.flight? = p.flight?)
    (hfollow : ∀ f, p' = .following f → ∃ fl, s.flights[f]? = some fl ∧ fl.identifier = id)
    (hleave : ∀ f o, p' ≠ .leaving f o) : Coherent (t.setPhase k p') := by
  have hl : ∀ j id' f, (t.setPhase k p').Leads j id' f ↔ s.Leads j id' f :=
    leads_setPhase_of_eq hk hc hp
  constructor
  · intro id' f hid
    obtain ⟨j, hj⟩ := h.registered (ht ▸ hid)
    exact ⟨j, (hl _ _ _).2 hj⟩
  · intro j id' f hj
    simpa [ht] using h.leader ((hl _ _ _).1 hj)
  · intro j id' f hj
    simpa [hf] using h.underway ((hl _ _ _).1 hj)
  · intro j j' id' f hj hj'
    exact h.unique ((hl _ _ _).1 hj) ((hl _ _ _).1 hj')
  · intro j id' f hj
    rw [callers_setPhase (hc ▸ hk), hc] at hj
    rw [setPhase_flights, hf]
    split at hj
    · cases hj
      exact hfollow f rfl
    · exact h.follower hj
  · intro j id' f o hj
    rw [callers_setPhase (hc ▸ hk), hc] at hj
    rw [setPhase_flights, hf]
    split at hj
    · cases hj
      exact absurd rfl (hleave f o)
    · exact h.left hj

lemma arrive (h : Coherent s) (id : String) :
    Coherent { s with callers := s.callers ++ [⟨id, .arriving⟩] } := by
  have hl : ∀ {j id' f}, State.Leads { s with callers := s.callers ++ [⟨id, .arriving⟩] } j id' f →
      s.Leads j id' f := by
    rintro j id' f ⟨p, hj, hf⟩
    rcases callers_arrive hj with hj | rfl
    · exact ⟨p, hj, hf⟩
    · cases hf
  constructor
  · intro id' f hid
    obtain ⟨j, p, hj, hf⟩ := h.registered hid
    have hlt : j < s.callers.length := (List.getElem?_eq_some_iff.1 hj).1
    exact ⟨j, p, (List.getElem?_append_left hlt).trans hj, hf⟩
  · exact fun j id' f hj => h.leader (hl hj)
  · exact fun j id' f hj => h.underway (hl hj)
  · exact fun j j' id' f hj hj' => h.unique (hl hj) (hl hj')
  · intro j id' f hj
    rcases callers_arrive hj with hj | hp
    · exact h.follower hj
    · cases hp
  · intro j id' f o hj
    rcases callers_arrive hj with hj | hp
    · exact h.left hj
    · cases hp

lemma lead (h : Coherent s) (hk : s.callers[k]? = some ⟨id, .joining⟩)
    (hn : Keyed.lookup id s.inFlight = none) :
    Coherent ((s.startFlight id).setPhase k (.leading s.flights.length)) := by
  have hl : ∀ j id' f, ((s.startFlight id).setPhase k (.leading s.flights.length)).Leads j id' f ↔
      (j = k ∧ id' = id ∧ s.flights.length = f) ∨ (j ≠ k ∧ s.Leads j id' f) := by
    intro j id' f
    rw [leads_setPhase (t := s.startFlight id) hk rfl]
    simp [Phase.flight?]
  have hold : ∀ {f : Nat} {fl}, s.flights[f]? = some fl →
      (s.startFlight id).flights[f]? = some fl := by
    intro f fl hf
    exact (List.getElem?_append_left (List.getElem?_eq_some_iff.1 hf).1).trans hf
  constructor
  · intro id' f hid
    simp only [setPhase_inFlight, State.startFlight, Keyed.lookup_insert] at hid
    split at hid
    · next heq =>
      cases hid
      exact ⟨k, (hl _ _ _).2 (.inl ⟨rfl, heq, rfl⟩)⟩
    · obtain ⟨j, hj⟩ := h.registered hid
      refine ⟨j, (hl _ _ _).2 (.inr ⟨?_, hj⟩)⟩
      rintro rfl
      exact not_leads hk rfl hj
  · intro j id' f hj
    simp only [setPhase_inFlight, State.startFlight, Keyed.lookup_insert]
    rcases (hl _ _ _).1 hj with ⟨-, rfl, rfl⟩ | ⟨-, hj⟩
    · simp
    · have hid := h.leader hj
      rw [if_neg, hid]
      rintro rfl
      rw [hn] at hid
      cases hid
  · intro j id' f hj
    rw [setPhase_flights]
    rcases (hl _ _ _).1 hj with ⟨-, rfl, rfl⟩ | ⟨-, hj⟩
    · simp [State.startFlight]
    · exact hold (h.underway hj)
  · intro j j' id' f hj hj'
    rcases (hl _ _ _).1 hj with ⟨hjk, hid, -⟩ | ⟨-, ho⟩ <;>
      rcases (hl _ _ _).1 hj' with ⟨hjk', hid', -⟩ | ⟨-, ho'⟩
    · exact hjk.trans hjk'.symm
    · rw [← hid, h.leader ho'] at hn
      cases hn
    · rw [← hid', h.leader ho] at hn
      cases hn
    · exact h.unique ho ho'
  · intro j id' f hj
    rw [callers_setPhase (s := s.startFlight id) hk] at hj
    split at hj
    · cases hj
    · obtain ⟨fl, hf, hid⟩ := h.follower hj
      exact ⟨fl, hold hf, hid⟩
  · intro j id' f o hj
    rw [callers_setPhase (s := s.startFlight id) hk] at hj
    split at hj
    · cases hj
    · obtain ⟨fl, hf, hrest⟩ := h.left hj
      exact ⟨fl, hold hf, hrest⟩

lemma conclude (fl : Flight) (h : Coherent s) (hk : s.callers[k]? = some ⟨id, p⟩)
    (hp : p.flight? = some f) (hc : t.callers = s.callers)
    (ht : t.inFlight = Keyed.erase id s.inFlight) (hf : t.flights = s.flights.set f fl)
    (hid : fl.identifier = id) (hp' : p'.flight? = none) (hfollow : ∀ f, p' ≠ .following f)
    (hleave : ∀ f' o, p' = .leaving f' o → f' = f ∧ fl.done = true ∧ fl.channel.sent = some o) :
    Coherent (t.setPhase k p') := by
  have hlead : s.Leads k id f := leads_of_phase hk hp
  have hl : ∀ j id' f', (t.setPhase k p').Leads j id' f' ↔ j ≠ k ∧ s.Leads j id' f' := by
    intro j id' f'
    rw [leads_setPhase hk hc, hp']
    simp
  have hlt : f < s.flights.length := (List.getElem?_eq_some_iff.1 (h.underway hlead)).1
  have hne : ∀ {j id' f'}, j ≠ k → s.Leads j id' f' → id' ≠ id := by
    rintro j id' f' hj hj' rfl
    have heq := h.leader hj'
    rw [h.leader hlead] at heq
    cases heq
    exact hj (h.unique hj' hlead)
  constructor
  · intro id' f' hid'
    rw [setPhase_inFlight, ht, Keyed.lookup_erase] at hid'
    split at hid'
    · cases hid'
    · next hne' =>
      obtain ⟨j, hj⟩ := h.registered hid'
      refine ⟨j, (hl _ _ _).2 ⟨?_, hj⟩⟩
      rintro rfl
      obtain ⟨p₀, hk₀, -⟩ := hj
      rw [hk] at hk₀
      cases hk₀
      exact hne' rfl
  · intro j id' f' hj
    obtain ⟨hjk, hj⟩ := (hl _ _ _).1 hj
    rw [setPhase_inFlight, ht, Keyed.lookup_erase, if_neg (hne hjk hj)]
    exact h.leader hj
  · intro j id' f' hj
    obtain ⟨hjk, hj⟩ := (hl _ _ _).1 hj
    rw [setPhase_flights, hf, List.getElem?_set_ne, h.underway hj]
    rintro rfl
    have heq := h.underway hj
    rw [h.underway hlead] at heq
    cases heq
    exact hne hjk hj rfl
  · intro j j' id' f' hj hj'
    exact h.unique ((hl _ _ _).1 hj).2 ((hl _ _ _).1 hj').2
  · intro j id' f' hj
    rw [callers_setPhase (hc ▸ hk), hc] at hj
    rw [setPhase_flights, hf]
    split at hj
    · cases hj
      exact absurd rfl (hfollow f')
    · obtain ⟨fl', hf', hid'⟩ := h.follower hj
      by_cases heq : f = f'
      · subst heq
        rw [h.underway hlead] at hf'
        cases hf'
        exact ⟨fl, List.getElem?_set_self hlt, hid.trans hid'⟩
      · exact ⟨fl', (List.getElem?_set_ne heq).trans hf', hid'⟩
  · intro j id' f' o hj
    rw [callers_setPhase (hc ▸ hk), hc] at hj
    rw [setPhase_flights, hf]
    split at hj
    · cases hj
      obtain ⟨rfl, hd, ho⟩ := hleave f' o rfl
      exact ⟨fl, List.getElem?_set_self hlt, hid, hd, ho⟩
    · obtain ⟨fl', hf', hid', hd, ho⟩ := h.left hj
      refine ⟨fl', ?_, hid', hd, ho⟩
      rw [List.getElem?_set_ne, hf']
      rintro rfl
      rw [h.underway hlead] at hf'
      cases hf'
      cases hd

lemma leave (h : Coherent s) {o : Outcome} (hk : s.callers[k]? = some ⟨id, .leaving f o⟩) :
    Coherent ((s.drop f).setPhase k (.answered o)) := by
  -- the flight is marked as ended, so whoever is in the table under its identifier stays there
  obtain ⟨fl, hf, -, hd, -⟩ := h.left hk
  have hlt : f < s.flights.length := (List.getElem?_eq_some_iff.1 hf).1
  have hl : ∀ j id' f',
      ((s.drop f).setPhase k (.answered o)).Leads j id' f' ↔ s.Leads j id' f' :=
    leads_setPhase_of_eq hk drop_callers rfl
  have hkept : ∀ {f' : Nat} {fl' : Flight}, s.flights[f']? = some fl' →
      ∃ fl'' : Flight, (s.drop f).flights[f']? = some fl'' ∧ fl''.identifier = fl'.identifier ∧
        fl''.done = fl'.done ∧ fl''.channel.sent = fl'.channel.sent := by
    intro f' fl' hf'
    rw [drop_eq_of_done hf hd]
    by_cases heq : f = f'
    · subst heq
      rw [hf] at hf'
      cases hf'
      exact ⟨_, List.getElem?_set_self hlt, rfl, rfl, rfl⟩
    · exact ⟨fl', (List.getElem?_set_ne heq).trans hf', rfl, rfl, rfl⟩
  have ht : (s.drop f).inFlight = s.inFlight := by rw [drop_eq_of_done hf hd]
  constructor
  · intro id' f' hid
    rw [setPhase_inFlight, ht] at hid
    obtain ⟨j, hj⟩ := h.registered hid
    exact ⟨j, (hl _ _ _).2 hj⟩
  · intro j id' f' hj
    rw [setPhase_inFlight, ht]
    exact h.leader ((hl _ _ _).1 hj)
  · intro j id' f' hj
    have hu := h.underway ((hl _ _ _).1 hj)
    rw [setPhase_flights, drop_eq_of_done hf hd]
    refine (List.getElem?_set_ne ?_).trans hu
    rintro rfl
    rw [hf] at hu
    cases hu
    cases hd
  · exact fun j j' id' f' hj hj' => h.unique ((hl _ _ _).1 hj) ((hl _ _ _).1 hj')
  · intro j id' f' hj
    rw [callers_setPhase (by rwa [drop_callers]), drop_callers] at hj
    split at hj
    · cases hj
    · obtain ⟨fl', hf', hid'⟩ := h.follower hj
      obtain ⟨fl'', hf'', hid'', -⟩ := hkept hf'
      exact ⟨fl'', hf'', hid''.trans hid'⟩
  · intro j id' f' o' hj
    rw [callers_setPhase (by rwa [drop_callers]), drop_callers] at hj
    split at hj
    · cases hj
    · obtain ⟨fl', hf', hid', hd', ho'⟩ := h.left hj
      obtain ⟨fl'', hf'', hid'', hd'', ho''⟩ := hkept hf'
      exact ⟨fl'', hf'', hid''.trans hid', hd''.trans hd', ho''.trans ho'⟩

section Ending

variable {u : State} (h : Coherent s) (hk : s.callers[k]? = some ⟨id, p⟩) (hp : p.flight? = some f)
  (hc : u.callers = s.callers) (ht : u.inFlight = s.inFlight) (hf : u.flights = s.flights)

include h hk hp hc ht hf

lemma complete (o : Outcome) : Coherent ((u.complete f o).setPhase k (.leaving f o)) := by
  have hu : u.flights[f]? = some { identifier := id } := by
    rw [hf]
    exact h.underway (leads_of_phase hk hp)
  refine conclude { identifier := id, done := true, channel := Channel.send {} o } h hk hp
    ((complete_callers o).trans hc) ?_ ?_ rfl rfl (by simp) ?_
  · rw [complete_eq hu, ht]
  · rw [complete_eq hu, hf]
  · intro f' o' heq
    cases heq
    exact ⟨rfl, rfl, rfl⟩

lemma giveUp : Coherent ((u.drop f).setPhase k .cancelled) := by
  have hu : u.flights[f]? = some { identifier := id } := by
    rw [hf]
    exact h.underway (leads_of_phase hk hp)
  refine conclude { identifier := id, channel := Channel.close {} } h hk hp
    (drop_callers.trans hc) ?_ ?_ rfl rfl (by simp) (by simp)
  · rw [drop_eq_of_not_done hu rfl, ht]
  · rw [drop_eq_of_not_done hu rfl, hf]

end Ending

lemma act (h : Coherent s) (hk : s.callers[k]? = some ⟨id, p⟩)
    (ha : Act c endpoint s k id e p t p') : Coherent (t.setPhase k p') := by
  cases ha with
  | lead hn => exact h.lead hk hn
  | @follow f hf =>
    obtain ⟨j, hj⟩ := h.registered hf
    refine h.quiet hk rfl rfl rfl rfl ?_ (by simp)
    rintro f' heq
    cases heq
    exact ⟨_, h.underway hj, rfl⟩
  | @finish e f load since result t p' he hr =>
    rcases answer_eq_iff.1 hr with ⟨d, -, rfl, rfl⟩ | ⟨-, rfl, rfl⟩ | ⟨err, -, rfl, rfl⟩
    · exact h.quiet hk rfl rfl rfl rfl (by simp) (by simp)
    · exact h.complete (u := s.setProgress load .refused) hk rfl rfl rfl rfl _
    · exact h.complete (u := s.countFailure.setProgress load .failed) hk rfl rfl rfl rfl _
  | land => exact h.complete hk rfl rfl rfl rfl _
  | leave => exact h.leave hk
  | quitLeading => exact h.giveUp hk rfl rfl rfl rfl
  | @quitLoading f load since =>
    exact h.giveUp (u := s.setProgress load .dropped) hk rfl rfl rfl rfl
  | quitStoring => exact h.giveUp hk rfl rfl rfl rfl
  | _ => exact h.quiet hk rfl rfl rfl rfl (by simp) (by simp)

lemma step (h : Coherent s) (hs : s.step c endpoint e = some s') : Coherent s' := by
  cases step_eq_some_iff.1 hs with
  | arrive id => exact h.arrive id
  | act hk ha => exact h.act hk ha
  | peek id => exact h
  | invalidate id => exact ⟨h.registered, h.leader, h.underway, h.unique, h.follower, h.left⟩
  | pass n => exact ⟨h.registered, h.leader, h.underway, h.unique, h.follower, h.left⟩

end Coherent

/-- The loads that are running are those of the callers who wait for one. -/
structure Loading (s : State) : Prop where
  running : ∀ ⦃k : Nat⦄ ⦃id f⦄ ⦃l : Nat⦄ ⦃n⦄, s.callers[k]? = some ⟨id, .loading f l n⟩ →
    s.loads[l]? = some ⟨id, .running⟩
  awaited : ∀ ⦃l : Nat⦄ ⦃id⦄, s.loads[l]? = some ⟨id, .running⟩ →
    ∃ (k : Nat) (f n : Nat), s.callers[k]? = some ⟨id, .loading f l n⟩

namespace Loading

lemma initial : Loading {} where
  running _ _ _ _ _ h := by cases h
  awaited _ _ h := by cases h

lemma arrive (h : Loading s) (id : String) :
    Loading { s with callers := s.callers ++ [⟨id, .arriving⟩] } := by
  constructor
  · intro k id' f l n hk
    rcases callers_arrive hk with hk | hp
    · exact h.running hk
    · cases hp
  · intro l id' hl
    obtain ⟨k, f, n, hk⟩ := h.awaited hl
    exact ⟨k, f, n, (List.getElem?_append_left (List.getElem?_eq_some_iff.1 hk).1).trans hk⟩

lemma quiet (h : Loading s) (hk : s.callers[k]? = some ⟨id, p⟩) (hc : t.callers = s.callers)
    (ht : t.loads = s.loads) (hp : ∀ f l n, p ≠ .loading f l n)
    (hp' : ∀ f l n, p' ≠ .loading f l n) : Loading (t.setPhase k p') := by
  constructor
  · intro j id' f l n hj
    rw [callers_setPhase (hc ▸ hk), hc] at hj
    rw [setPhase_loads, ht]
    split at hj
    · cases hj
      exact absurd rfl (hp' f l n)
    · exact h.running hj
  · intro l id' hl
    rw [setPhase_loads, ht] at hl
    obtain ⟨j, f, n, hj⟩ := h.awaited hl
    refine ⟨j, f, n, ?_⟩
    rw [callers_setPhase (hc ▸ hk), hc, if_neg, hj]
    rintro rfl
    rw [hk] at hj
    cases hj
    exact hp f l n rfl

lemma begin (h : Loading s) (hk : s.callers[k]? = some ⟨id, .fetching f⟩) :
    Loading ((s.startLoad id).setPhase k (.loading f s.loads.length s.now)) := by
  constructor
  · intro j id' f' l n hj
    rw [callers_setPhase (s := s.startLoad id) hk] at hj
    rw [setPhase_loads]
    split at hj
    · cases hj
      simp [State.startLoad]
    · have hl := h.running hj
      exact (List.getElem?_append_left (List.getElem?_eq_some_iff.1 hl).1).trans hl
  · intro l id' hl
    simp only [callers_setPhase (s := s.startLoad id) hk]
    simp only [setPhase_loads, State.startLoad, List.getElem?_append] at hl
    split at hl
    · obtain ⟨j, f', n, hj⟩ := h.awaited hl
      refine ⟨j, f', n, ?_⟩
      rw [if_neg]
      · exact hj
      · rintro rfl
        rw [hk] at hj
        cases hj
    · rw [List.getElem?_singleton] at hl
      split at hl
      · cases hl
        exact ⟨k, f, s.now, by rw [if_pos rfl]; congr; omega⟩
      · cases hl

lemma unique (h : Loading s) (ht : Coherent s) {j l f' n n' : Nat} {id' : String}
    (hj : s.callers[j]? = some ⟨id', .loading f' l n'⟩)
    (hk : s.callers[k]? = some ⟨id, .loading f l n⟩) : j = k := by
  have heq := h.running hj
  rw [h.running hk] at heq
  cases heq
  have hl := ht.leader (leads_of_phase hj rfl)
  rw [ht.leader (leads_of_phase hk rfl)] at hl
  cases hl
  exact ht.unique (leads_of_phase hj rfl) (leads_of_phase hk rfl)

lemma finish (h : Loading s) (hu : Coherent s) {l n : Nat} {progress : Progress}
    (hk : s.callers[k]? = some ⟨id, .loading f l n⟩) (hc : t.callers = s.callers)
    (ht : t.loads = (s.setProgress l progress).loads) (hr : progress ≠ .running)
    (hp' : ∀ f l n, p' ≠ .loading f l n) : Loading (t.setPhase k p') := by
  constructor
  · intro j id' f' l' n' hj
    rw [callers_setPhase (hc ▸ hk), hc] at hj
    split at hj
    · cases hj
      exact absurd rfl (hp' f' l' n')
    · next hjk =>
      have hne : l ≠ l' := by
        rintro rfl
        exact hjk (h.unique hu hj hk)
      simp [ht, State.setProgress, hne, h.running hj]
  · intro l' id' hl
    simp only [setPhase_loads, ht, State.setProgress, List.getElem?_modify] at hl
    by_cases heq : l = l'
    · subst heq
      rw [h.running hk] at hl
      simp [hr] at hl
    · obtain ⟨j, f', n', hj⟩ := h.awaited (by simpa [heq] using hl)
      refine ⟨j, f', n', ?_⟩
      rw [callers_setPhase (hc ▸ hk), hc, if_neg, hj]
      rintro rfl
      rw [hk] at hj
      cases hj
      exact heq rfl

lemma act (h : Loading s) (hu : Coherent s) (hk : s.callers[k]? = some ⟨id, p⟩)
    (ha : Act c endpoint s k id e p t p') : Loading (t.setPhase k p') := by
  cases ha with
  | begin => exact h.begin hk
  | @finish e f load since result t p' he hr =>
    rcases answer_eq_iff.1 hr with ⟨d, -, rfl, rfl⟩ | ⟨-, rfl, rfl⟩ | ⟨err, -, rfl, rfl⟩
    · exact h.finish hu hk rfl rfl (by simp) (by simp)
    · exact h.finish hu hk (complete_callers _) (complete_loads _) (by simp) (by simp)
    · exact h.finish hu hk (complete_callers _) (complete_loads _) (by simp) (by simp)
  | quitLoading => exact h.finish hu hk drop_callers drop_loads (by simp) (by simp)
  | land => exact h.quiet hk (complete_callers _) (complete_loads _) (by simp) (by simp)
  | leave => exact h.quiet hk drop_callers drop_loads (by simp) (by simp)
  | quitLeading => exact h.quiet hk drop_callers drop_loads (by simp) (by simp)
  | quitStoring => exact h.quiet hk drop_callers drop_loads (by simp) (by simp)
  | _ => exact h.quiet hk rfl rfl (by simp) (by simp)

lemma step (h : Loading s) (hu : Coherent s) (hs : s.step c endpoint e = some s') : Loading s' := by
  cases step_eq_some_iff.1 hs with
  | arrive id => exact h.arrive id
  | act hk ha => exact h.act hu hk ha
  | peek id => exact h
  | invalidate id => exact ⟨h.running, h.awaited⟩
  | pass n => exact ⟨h.running, h.awaited⟩

end Loading

lemma Run.coherent {past : List (State × Event)} (h : Run c endpoint past s) : Coherent s := by
  induction h with
  | start => exact .initial
  | step _ hs ih => exact ih.step hs

lemma Run.loading {past : List (State × Event)} (h : Run c endpoint past s) : Loading s := by
  induction h with
  | start => exact .initial
  | step hr hs ih => exact ih.step (Run.coherent hr) hs

lemma flight_act (ha : Act c endpoint s k id e p t p') (hp : p.flight? = some f) :
    p'.flight? = some f ∨ p' = .cancelled ∨ ∃ o, p' = .leaving f o := by
  cases ha with
  | @finish e f' load since result t p' he hr =>
    cases hp
    rcases answer_eq_iff.1 hr with ⟨d, -, -, rfl⟩ | ⟨-, -, rfl⟩ | ⟨err, -, -, rfl⟩
    · exact .inl rfl
    · exact .inr (.inr ⟨_, rfl⟩)
    · exact .inr (.inr ⟨_, rfl⟩)
  | land =>
    cases hp
    exact .inr (.inr ⟨_, rfl⟩)
  | quitLeading => exact .inr (.inl rfl)
  | quitLoading => exact .inr (.inl rfl)
  | quitStoring => exact .inr (.inl rfl)
  | confirm => exact .inl hp
  | want => exact .inl hp
  | begin => exact .inl hp
  | store => exact .inl hp
  | _ => cases hp

/-- What the step of a caller does to the flights. Only the leader of a flight sends an outcome. -/
lemma flights_act (h : Coherent s) (hk : s.callers[k]? = some ⟨id, p⟩)
    (ha : Act c endpoint s k id e p t p') :
    t.flights = s.flights ∨ t.flights = s.flights ++ [{ identifier := id }] ∨
    (∃ f o, s.Leads k id f ∧ p' = .leaving f o ∧ t.flights = s.flights.set f
      { identifier := id, done := true, channel := { sent := some o } }) ∨
    (∃ f, s.Leads k id f ∧ t.flights = s.flights.set f
      { identifier := id, channel := { closed := true } }) ∨
    ∃ f fl, s.flights[f]? = some fl ∧ fl.done = true ∧
      t.flights = s.flights.set f { fl with channel := fl.channel.close } := by
  have hend : ∀ {u : State} {f o}, s.Leads k id f → u.flights = s.flights →
      (u.complete f o).flights = s.flights.set f
        { identifier := id, done := true, channel := { sent := some o } } := by
    intro u f o hl hu
    rw [complete_eq (hu ▸ h.underway hl), hu]
    rfl
  have hquit : ∀ {u : State} {f}, s.Leads k id f → u.flights = s.flights →
      (u.drop f).flights = s.flights.set f { identifier := id, channel := { closed := true } } := by
    intro u f hl hu
    rw [drop_eq_of_not_done (hu ▸ h.underway hl) rfl, hu]
    rfl
  cases ha with
  | lead => exact .inr (.inl rfl)
  | @finish e f load since result t p' he hr =>
    have hl : s.Leads k id f := leads_of_phase hk rfl
    rcases answer_eq_iff.1 hr with ⟨d, -, rfl, -⟩ | ⟨-, rfl, rfl⟩ | ⟨err, -, rfl, rfl⟩
    · exact .inl rfl
    · exact .inr (.inr (.inl ⟨f, _, hl, rfl, hend hl rfl⟩))
    · exact .inr (.inr (.inl ⟨f, _, hl, rfl, hend hl rfl⟩))
  | @land f l =>
    have hl : s.Leads k id f := leads_of_phase hk rfl
    exact .inr (.inr (.inl ⟨f, _, hl, rfl, hend hl rfl⟩))
  | @leave f o =>
    obtain ⟨fl, hf, -, hd, -⟩ := h.left hk
    refine .inr (.inr (.inr (.inr ⟨f, fl, hf, hd, ?_⟩)))
    rw [drop_eq_of_done hf hd]
  | @quitLeading f =>
    have hl : s.Leads k id f := leads_of_phase hk rfl
    exact .inr (.inr (.inr (.inl ⟨f, hl, hquit hl rfl⟩)))
  | @quitLoading f load since =>
    have hl : s.Leads k id f := leads_of_phase hk rfl
    exact .inr (.inr (.inr (.inl ⟨f, hl, hquit hl rfl⟩)))
  | @quitStoring f l =>
    have hl : s.Leads k id f := leads_of_phase hk rfl
    exact .inr (.inr (.inr (.inl ⟨f, hl, hquit hl rfl⟩)))
  | _ => exact .inl rfl

lemma leader_ends {past : List (State × Event)} (h : Run c endpoint past s)
    (hs : s.step c endpoint e = some s') (hk : s.Leads k id f) (hk' : ¬ s'.Leads k id f) :
    ((s'.callers[k]? = some ⟨id, .cancelled⟩ ∨ ∃ o, s'.callers[k]? = some ⟨id, .leaving f o⟩) ∧
      Keyed.lookup id s'.inFlight = none) ∧
    ∀ j id' f', j ≠ k → s.Leads j id' f' → Keyed.lookup id' s'.inFlight = some f' := by
  have hu' : Coherent s' := h.coherent.step hs
  obtain ⟨p, hp, hf⟩ := hk
  rcases stays_or_acts hs hp with hp' | ⟨t, p', ha, rfl⟩
  · exact absurd ⟨p, hp', hf⟩ hk'
  have hself : (t.setPhase k p').callers[k]? = some ⟨id, p'⟩ := by
    rw [callers_act hp ha, if_pos rfl]
  have hothers : ∀ j, j ≠ k → (t.setPhase k p').callers[j]? = s.callers[j]? := by
    intro j hj
    rw [callers_act hp ha, if_neg hj]
  have hend : p' = .cancelled ∨ ∃ o, p' = .leaving f o := by
    rcases flight_act ha hf with hf' | hend
    · exact absurd ⟨p', hself, hf'⟩ hk'
    · exact hend
  refine ⟨⟨?_, ?_⟩, fun j id' f' hj hj' => ?_⟩
  · rw [hself]
    rcases hend with rfl | ⟨o, rfl⟩
    · exact .inl rfl
    · exact .inr ⟨o, rfl⟩
  · -- whoever were in the table now would have led the same identifier before
    by_contra hn
    obtain ⟨f', hf'⟩ := Option.ne_none_iff_exists'.1 hn
    obtain ⟨j, p₀, hj, hj'⟩ := hu'.registered hf'
    by_cases hjk : j = k
    · subst hjk
      rw [hself] at hj
      cases hj
      rcases hend with rfl | ⟨o, rfl⟩ <;> cases hj'
    · rw [hothers j hjk] at hj
      have hl := h.coherent.leader ⟨p₀, hj, hj'⟩
      rw [h.coherent.leader ⟨p, hp, hf⟩] at hl
      cases hl
      exact hjk (h.coherent.unique ⟨p₀, hj, hj'⟩ ⟨p, hp, hf⟩)
  · obtain ⟨p₀, hp₀, hf₀⟩ := hj'
    exact hu'.leader ⟨p₀, (hothers j hj).trans hp₀, hf₀⟩

/-- A flight is in the table exactly while its leader, the only one of the identifier, has not ended
it. So of each identifier there is at most one load at a time, and what goes out of the table in a
step is the flight of a leader who ends in that step. -/
theorem Run.single_flight {past : List (State × Event)} (h : Run c endpoint past s) :
    (∀ id f, Keyed.lookup id s.inFlight = some f ↔ ∃ k, s.Leads k id f) ∧
    (∀ id f, Keyed.lookup id s.inFlight = some f → s.flights[f]? = some { identifier := id }) ∧
    (∀ j k id f f', s.Leads j id f → s.Leads k id f' → j = k ∧ f = f') ∧
    (∀ (l l' : Nat) id, s.loads[l]? = some ⟨id, .running⟩ → s.loads[l']? = some ⟨id, .running⟩ →
      l = l') ∧
    ∀ e s', s.step c endpoint e = some s' →
      (∀ k id f, s.Leads k id f → ¬ s'.Leads k id f →
        ((s'.callers[k]? = some ⟨id, .cancelled⟩ ∨ ∃ o, s'.callers[k]? = some ⟨id, .leaving f o⟩) ∧
          Keyed.lookup id s'.inFlight = none) ∧
        ∀ j id' f', j ≠ k → s.Leads j id' f' → Keyed.lookup id' s'.inFlight = some f') ∧
      ∀ id f, Keyed.lookup id s.inFlight = some f → Keyed.lookup id s'.inFlight ≠ some f →
        ∃ k, s.Leads k id f ∧ ¬ s'.Leads k id f := by
  have hu := h.coherent
  have hone : ∀ j k id f f', s.Leads j id f → s.Leads k id f' → j = k ∧ f = f' := by
    intro j k id f f' hj hk
    have hl := hu.leader hj
    rw [hu.leader hk] at hl
    cases hl
    exact ⟨hu.unique hj hk, rfl⟩
  refine ⟨fun id f => ⟨fun hf => hu.registered hf, fun ⟨k, hk⟩ => hu.leader hk⟩, ?_, hone, ?_, ?_⟩
  · intro id f hf
    obtain ⟨k, hk⟩ := hu.registered hf
    exact hu.underway hk
  · intro l l' id hl hl'
    obtain ⟨j, f, n, hj⟩ := h.loading.awaited hl
    obtain ⟨k, f', n', hk⟩ := h.loading.awaited hl'
    obtain ⟨rfl, rfl⟩ := hone j k id f f' (leads_of_phase hj rfl) (leads_of_phase hk rfl)
    rw [hj] at hk
    cases hk
    rfl
  · intro e s' hs
    refine ⟨fun k id f hk hk' => leader_ends h hs hk hk', fun id f hf hf' => ?_⟩
    obtain ⟨k, hk⟩ := hu.registered hf
    exact ⟨k, hk, fun hk' => hf' ((hu.step hs).leader hk')⟩

/-- The first leader is cancelled, the one who takes over fails, and a third leads before the second
has let go of its flight. -/
def handOver : List Event :=
  [.arrive "a", .proceed 0, .proceed 0, .arrive "a", .proceed 1, .proceed 1, .proceed 0, .proceed 0,
    .cancel 0, .proceed 1, .proceed 1, .proceed 1, .proceed 1, .proceed 1, .answer 1 (.ok none),
    .arrive "a", .proceed 2, .proceed 2, .proceed 1]

theorem Run.single_flight_handOver :
    ∃ past s, Run {} "registry" past s ∧ Keyed.lookup "a" s.inFlight = some 2 ∧
      ∃ k, s.Leads k "a" 2 := by
  have hr : Run {} "registry" _ _ :=
    .replay .start (rfl : replay _ [] _ handOver = some (_, _))
  exact ⟨_, _, hr, rfl, (hr.single_flight.1 "a" 2).1 rfl⟩

end TypedPid.Cache
