import TypedPid.Proofs.Cache.Entries
import TypedPid.Proofs.Cache.Leadership

/-! Where the answers of a cache come from. -/

namespace TypedPid.Cache

variable (c : Config) (endpoint : String) (past : List (State × Event))

/-- A caller is there and has not come to its end. -/
def State.Underway (s : State) (k : Nat) : Prop :=
  ∃ id p, s.callers[k]? = some ⟨id, p⟩ ∧ (∀ o, p ≠ .answered o) ∧ p ≠ .cancelled

/-- The registry answered a load of `id` with a definition. -/
def Delivered (id : String) (l : Loaded) : Prop :=
  ∃ (t : State) (k f n : Nat), (t, .answer k (.ok (some l.definition))) ∈ past ∧
    t.callers[k]? = some ⟨id, .loading f l.load n⟩

/-- While a caller was underway, a load of `id` came to its end. -/
def EndedDuring (k : Nat) (id : String) (result : LoadResult) : Prop :=
  ∃ (t : State) (e : Event) (j f l n : Nat), (t, e) ∈ past ∧ t.Underway k ∧
    t.callers[j]? = some ⟨id, .loading f l n⟩ ∧ Ends c endpoint t j n e result

/-- A caller looked for what is kept under `id`, and it was not expired. -/
def Found (k : Nat) (id : String) (l : Loaded) : Prop :=
  ∃ (t : State) (p : Phase) (stored : Stored), (t, .proceed k) ∈ past ∧
    t.callers[k]? = some ⟨id, p⟩ ∧ (p = .arriving ∨ p = .returning ∨ ∃ f, p = .leading f) ∧
    Keyed.lookup id t.entries = some stored ∧ c.isExpired t.now stored = false ∧ stored.loaded = l

/-- A caller led a flight or followed it. -/
def TookPart (k : Nat) (id : String) (f : Nat) : Prop :=
  ∃ (t : State) (e : Event), (t, e) ∈ past ∧
    (t.callers[k]? = some ⟨id, .following f⟩ ∨ t.Leads k id f)

/-- What an outcome that a caller for `id` comes to tells about the past. -/
def Origin (k : Nat) (id : String) : Outcome → Prop
  | .ok l => Delivered past id l
  | .error (.notFound id') => id' = id ∧ EndedDuring c endpoint past k id (.ok none)
  | .error (.unavailable e) => EndedDuring c endpoint past k id (.error e)

/-- The outcome that a caller has come to, whether or not it has answered. -/
def Phase.outcome? : Phase → Option Outcome
  | .storing _ l => some (.ok l)
  | .landing _ l => some (.ok l)
  | .leaving _ o => some o
  | .answered o => some o
  | _ => none

/-- What is answered for `id` where the registry says `r`. -/
def answerFor (id : String) : LoadResult → Except LookupError TypeDefinition
  | .ok (some d) => .ok d
  | .ok none => .error (.notFound id)
  | .error e => .error (.unavailable e)

variable {c endpoint past} {s s' t : State} {k j : Nat} {id id' : String} {e : Event}
  {p p' : Phase} {f : Nat} {fl : Flight} {o o' : Outcome} {l : Loaded} {r : LoadResult}

section Growing

variable (a : State × Event)

lemma Delivered.cons (h : Delivered past id l) : Delivered (a :: past) id l := by
  obtain ⟨t, j, f, n, ht, hj⟩ := h
  exact ⟨t, j, f, n, List.mem_cons_of_mem a ht, hj⟩

lemma EndedDuring.cons (h : EndedDuring c endpoint past k id r) :
    EndedDuring c endpoint (a :: past) k id r := by
  obtain ⟨t, e, j, f, l, n, ht, h⟩ := h
  exact ⟨t, e, j, f, l, n, List.mem_cons_of_mem a ht, h⟩

lemma Found.cons (h : Found c past k id l) : Found c (a :: past) k id l := by
  obtain ⟨t, p, stored, ht, h⟩ := h
  exact ⟨t, p, stored, List.mem_cons_of_mem a ht, h⟩

lemma TookPart.cons (h : TookPart past k id f) : TookPart (a :: past) k id f := by
  obtain ⟨t, e, ht, h⟩ := h
  exact ⟨t, e, List.mem_cons_of_mem a ht, h⟩

lemma Origin.cons (h : Origin c endpoint past k id o) : Origin c endpoint (a :: past) k id o := by
  match o, h with
  | .ok _, h => exact Delivered.cons a h
  | .error (.notFound _), ⟨hid, h⟩ => exact ⟨hid, h.cons a⟩
  | .error (.unavailable _), h => exact EndedDuring.cons a h

end Growing

lemma find_eq_some_iff : s.find c id = some l ↔ ∃ stored, Keyed.lookup id s.entries = some stored ∧
    c.isExpired s.now stored = false ∧ stored.loaded = l := by
  simp [State.find, Entries.find, Option.filter_eq_some_iff, and_assoc]

lemma over_step (h : Coherent s) (hs : s.step c endpoint e = some s')
    (hf : s.flights[f]? = some fl) (hn : ∀ id, fl ≠ { identifier := id }) :
    ∃ fl', s'.flights[f]? = some fl' ∧ fl'.channel.sent = fl.channel.sent ∧
      (fl.channel.closed = true → fl'.channel.closed = true) := by
  have hlt : f < s.flights.length := (List.getElem?_eq_some_iff.1 hf).1
  have hne : ∀ {k id f'}, s.Leads k id f' → f' ≠ f := by
    rintro k id f' hl rfl
    have hu := h.underway hl
    rw [hf] at hu
    exact hn id (Option.some.inj hu)
  cases step_eq_some_iff.1 hs with
  | act hk ha =>
    simp only [setPhase_flights]
    rcases flights_act h hk ha with ht | ht | ⟨f', o, hl, -, ht⟩ | ⟨f', hl, ht⟩ |
      ⟨f', fl', hf', -, ht⟩ <;> rw [ht]
    · exact ⟨fl, hf, rfl, id⟩
    · exact ⟨fl, (List.getElem?_append_left hlt).trans hf, rfl, id⟩
    · exact ⟨fl, (List.getElem?_set_ne (hne hl)).trans hf, rfl, id⟩
    · exact ⟨fl, (List.getElem?_set_ne (hne hl)).trans hf, rfl, id⟩
    · by_cases heq : f' = f
      · subst heq
        rw [hf] at hf'
        cases hf'
        exact ⟨_, List.getElem?_set_self hlt, rfl, fun _ => rfl⟩
      · exact ⟨fl, (List.getElem?_set_ne heq).trans hf, rfl, id⟩
  | _ => exact ⟨fl, hf, rfl, id⟩

lemma of_getElem?_set {a b : Flight} {flights : List Flight} {f f' : Nat}
    (h : (flights.set f' a)[f]? = some b) : (f' = f ∧ b = a) ∨ flights[f]? = some b := by
  rw [List.getElem?_set] at h
  split at h
  · next heq =>
    split at h
    · exact .inl ⟨heq, (Option.some.inj h).symm⟩
    · cases h
  · exact .inr h

lemma sent_of_step (h : Coherent s) (hs : s.step c endpoint e = some s') {fl' : Flight}
    (hf : s.flights[f]? = some fl) (hf' : s'.flights[f]? = some fl')
    (ho : fl'.channel.sent = some o) :
    fl.channel.sent = some o ∨ ∃ k p t, s.callers[k]? = some ⟨fl.identifier, p⟩ ∧
      Act c endpoint s k fl.identifier e p t (.leaving f o) := by
  have hold : s.flights[f]? = some fl' → fl.channel.sent = some o := by
    intro heq
    rw [hf] at heq
    cases heq
    exact ho
  cases step_eq_some_iff.1 hs with
  | @act k id p e t p' hk ha =>
    rw [setPhase_flights] at hf'
    rcases flights_act h hk ha with ht | ht | ⟨f', o', hl, rfl, ht⟩ | ⟨f', -, ht⟩ |
      ⟨f', fl₀, hf₀, -, ht⟩ <;> rw [ht] at hf'
    · exact .inl (hold hf')
    · rw [List.getElem?_append_left (List.getElem?_eq_some_iff.1 hf).1] at hf'
      exact .inl (hold hf')
    · rcases of_getElem?_set hf' with ⟨rfl, rfl⟩ | hf'
      · cases ho
        have hu := h.underway hl
        rw [hf] at hu
        cases hu
        exact .inr ⟨k, p, t, hk, ha⟩
      · exact .inl (hold hf')
    · rcases of_getElem?_set hf' with ⟨-, rfl⟩ | hf'
      · cases ho
      · exact .inl (hold hf')
    · rcases of_getElem?_set hf' with ⟨rfl, rfl⟩ | hf'
      · rw [hf] at hf₀
        cases hf₀
        exact .inl ho
      · exact .inl (hold hf')
  | _ => exact .inl (hold hf')

/-- What a follower can learn it could learn before, or somebody just ended the flight with it. -/
lemma awaited_of_step (h : Coherent s) (hs : s.step c endpoint e = some s')
    (hk : s'.callers[k]? = some ⟨id, .following f⟩) (hf : s'.flights[f]? = some fl)
    (ho : fl.channel.sent = some o) : s.callers[k]? = some ⟨id, .following f⟩ ∧
      ((∃ fl₀ : Flight, s.flights[f]? = some fl₀ ∧ fl₀.channel.sent = some o) ∨
        ∃ j p t, s.callers[j]? = some ⟨id, p⟩ ∧ Act c endpoint s j id e p t (.leaving f o)) := by
  rcases stayed_or_acted hs hk with hk | hp | ⟨p, t, hk, ha, rfl⟩
  · obtain ⟨fl₀, hf₀, rfl⟩ := h.follower hk
    exact ⟨hk, (sent_of_step h hs hf₀ hf ho).imp (fun ho => ⟨fl₀, hf₀, ho⟩) fun hj => hj⟩
  · cases hp
  · -- who begins to follow a flight finds it underway
    cases ha with
    | follow hr =>
      obtain ⟨j, hj⟩ := h.registered hr
      rw [setPhase_flights, h.underway hj] at hf
      cases hf
      cases ho
    | finish he hr =>
      rcases answer_eq_iff.1 hr with ⟨d, -, -, hp⟩ | ⟨-, -, hp⟩ | ⟨err, -, -, hp⟩ <;> cases hp

/-- What has become of a caller who took part in a flight. -/
inductive Stake (s : State) (k : Nat) (id : String) (f : Nat) : Prop
  | following : s.callers[k]? = some ⟨id, .following f⟩ → Stake s k id f
  | leading : s.Leads k id f → Stake s k id f
  | cancelled : s.callers[k]? = some ⟨id, .cancelled⟩ → Stake s k id f
  | givenUp {fl : Flight} : s.flights[f]? = some fl → fl.channel.sent = none →
      fl.channel.closed = true → Stake s k id f
  | ended {fl : Flight} {p o} : s.flights[f]? = some fl → fl.channel.sent = some o →
      s.callers[k]? = some ⟨id, p⟩ → p = .leaving f o ∨ p = .answered o → Stake s k id f

lemma receive_eq_some_iff {channel : Channel} :
    channel.receive = some (some o) ↔ channel.sent = some o := by
  cases hs : channel.sent <;> simp [Channel.receive, hs]

lemma receive_eq_none_iff {channel : Channel} :
    channel.receive = some none ↔ channel.sent = none ∧ channel.closed = true := by
  cases hs : channel.sent <;> simp [Channel.receive, hs]

lemma not_act_cancelled : ¬ Act c endpoint s k id e .cancelled t p' := by
  intro ha
  cases ha

lemma not_act_answered : ¬ Act c endpoint s k id e (.answered o) t p' := by
  intro ha
  cases ha

lemma Stake.step (h : Coherent s) (hs : s.step c endpoint e = some s') (hk : Stake s k id f) :
    Stake s' k id f := by
  cases hk with
  | following hk =>
    rcases stays_or_acts hs hk with hk' | ⟨t, p', ha, rfl⟩
    · exact .following hk'
    have hself : (t.setPhase k p').callers[k]? = some ⟨id, p'⟩ := by
      rw [callers_act hk ha, if_pos rfl]
    cases ha with
    | learn hf hr => exact .ended hf (receive_eq_some_iff.1 hr) hself (.inr rfl)
    | lose hf hr =>
      obtain ⟨hn, hc⟩ := receive_eq_none_iff.1 hr
      exact .givenUp hf hn hc
    | quitFollowing => exact .cancelled hself
  | leading hl =>
    obtain ⟨p, hk, hp⟩ := hl
    rcases stays_or_acts hs hk with hk' | ⟨t, p', ha, rfl⟩
    · exact .leading ⟨p, hk', hp⟩
    have hself : (t.setPhase k p').callers[k]? = some ⟨id, p'⟩ := by
      rw [callers_act hk ha, if_pos rfl]
    rcases flight_act ha hp with hp' | rfl | ⟨o, rfl⟩
    · exact .leading ⟨p', hself, hp'⟩
    · exact .cancelled hself
    · obtain ⟨fl, hf, -, -, ho⟩ := (h.step hs).left hself
      exact .ended hf ho hself (.inl rfl)
  | cancelled hk =>
    rcases stays_or_acts hs hk with hk' | ⟨t, p', ha, -⟩
    · exact .cancelled hk'
    · exact absurd ha not_act_cancelled
  | @givenUp fl hf hn hc =>
    have hne : ∀ id, fl ≠ { identifier := id } := by
      rintro id rfl
      cases hc
    obtain ⟨fl', hf', hn', hc'⟩ := over_step h hs hf hne
    exact .givenUp hf' (hn'.trans hn) (hc' hc)
  | @ended fl p o hf ho hk hp =>
    have hne : ∀ id, fl ≠ { identifier := id } := by
      rintro id rfl
      cases ho
    obtain ⟨fl', hf', ho', -⟩ := over_step h hs hf hne
    rcases stays_or_acts hs hk with hk' | ⟨t, p', ha, rfl⟩
    · exact .ended hf' (ho'.trans ho) hk' hp
    have hself : (t.setPhase k p').callers[k]? = some ⟨id, p'⟩ := by
      rw [callers_act hk ha, if_pos rfl]
    rcases hp with rfl | rfl
    · cases ha
      exact .ended hf' (ho'.trans ho) hself (.inr rfl)
    · exact absurd ha not_act_answered

lemma Run.stake (h : Run c endpoint past s) (hk : TookPart past k id f) : Stake s k id f := by
  obtain ⟨t, e, ht, hk⟩ := hk
  obtain ⟨past', hr⟩ := Trace.before h ht
  refine Trace.remains (P := fun s => Stake s k id f) h ?_ ht fun hs => ?_
  · exact fun hr hs hk => hk.step (Run.coherent hr) hs
  · exact Stake.step (Run.coherent hr) hs (hk.elim .following .leading)

variable (c endpoint past) in
/-- What the past tells about what is kept, and about what the callers have come to. -/
structure Sourced (s : State) : Prop where
  kept : ∀ ⦃id stored⦄, (id, stored) ∈ s.entries → Delivered past id stored.loaded
  held : ∀ ⦃k : Nat⦄ ⦃id p o⦄, s.callers[k]? = some ⟨id, p⟩ → p.outcome? = some o →
    Origin c endpoint past k id o
  awaited : ∀ ⦃k : Nat⦄ ⦃id f⦄ ⦃fl : Flight⦄ ⦃o⦄, s.callers[k]? = some ⟨id, .following f⟩ →
    s.flights[f]? = some fl → fl.channel.sent = some o → Origin c endpoint past k id o
  left : ∀ ⦃k : Nat⦄ ⦃id f o⦄, s.callers[k]? = some ⟨id, .leaving f o⟩ → TookPart past k id f
  answered : ∀ ⦃k : Nat⦄ ⦃id o⦄, s.callers[k]? = some ⟨id, .answered o⟩ →
    (∃ l, o = .ok l ∧ Found c past k id l) ∨
      ∃ f fl, TookPart past k id f ∧ s.flights[f]? = some fl ∧ fl.channel.sent = some o

lemma leads_of_leaving (ha : Act c endpoint s k id e p t (.leaving f o)) : p.flight? = some f := by
  cases ha with
  | @finish e f' load since result t p' he hr =>
    rcases answer_eq_iff.1 hr with ⟨d, -, -, hp⟩ | ⟨-, -, hp⟩ | ⟨err, -, -, hp⟩ <;> cases hp <;> rfl
  | land => rfl

namespace Sourced

lemma initial : Sourced c endpoint [] {} where
  kept _ _ h := by cases h
  held _ _ _ _ h := by cases h
  awaited _ _ _ _ _ h := by cases h
  left _ _ _ _ h := by cases h
  answered _ _ _ h := by cases h

variable (h : Sourced c endpoint past s)

include h

lemma delivered_of_find (hf : s.find c id = some l) : Delivered past id l := by
  obtain ⟨stored, hs, -, rfl⟩ := find_eq_some_iff.1 hf
  exact h.kept (Keyed.mem_of_lookup hs)

lemma origin_of_end (hk : s.callers[k]? = some ⟨id, p⟩)
    (ha : Act c endpoint s k id e p t (.leaving f o)) (hj : s.Underway j) :
    Origin c endpoint ((s, e) :: past) j id o := by
  cases ha with
  | @finish e f' load since result t p' he hr =>
    have hend : EndedDuring c endpoint ((s, e) :: past) j id result :=
      ⟨s, e, k, f', load, since, List.mem_cons_self, hj, hk, he⟩
    rcases answer_eq_iff.1 hr with ⟨d, -, -, hp⟩ | ⟨rfl, -, hp⟩ | ⟨err, rfl, -, hp⟩ <;> cases hp
    · exact ⟨rfl, hend⟩
    · exact hend
  | land => exact Delivered.cons _ (h.held hk rfl)

lemma origin_of_act (hk : s.callers[k]? = some ⟨id, p⟩) (ha : Act c endpoint s k id e p t p')
    (ho : p'.outcome? = some o) : Origin c endpoint ((s, e) :: past) k id o := by
  cases ha with
  | hit hf =>
    cases ho
    exact Delivered.cons _ (h.delivered_of_find hf)
  | learn hf hr =>
    cases ho
    exact (h.awaited hk hf (receive_eq_some_iff.1 hr)).cons _
  | findAgain hf =>
    cases ho
    exact Delivered.cons _ (h.delivered_of_find hf)
  | confirm hf =>
    cases ho
    exact Delivered.cons _ (h.delivered_of_find hf)
  | @finish e f load since result t p' he hr =>
    have hu : s.Underway k := ⟨id, _, hk, by simp, by simp⟩
    rcases answer_eq_iff.1 hr with ⟨d, rfl, -, rfl⟩ | ⟨-, -, rfl⟩ | ⟨err, -, -, rfl⟩ <;> cases ho
    · cases he
      exact ⟨s, k, f, since, List.mem_cons_self, hk⟩
    · exact h.origin_of_end hk (.finish he hr) hu
    · exact h.origin_of_end hk (.finish he hr) hu
  | store => exact (h.held hk ho).cons _
  | land => exact (h.held hk ho).cons _
  | leave => exact (h.held hk ho).cons _
  | _ => cases ho

lemma kept_step (hs : s.step c endpoint e = some s') {stored : Stored}
    (hm : (id, stored) ∈ s'.entries) : Delivered ((s, e) :: past) id stored.loaded := by
  cases step_eq_some_iff.1 hs with
  | @act k id' p e t p' hk ha =>
    rcases act_entries ha with ht | ⟨f, l, rfl, -, ht⟩
    · exact (h.kept (ht ▸ hm)).cons _
    · rcases mem_store (ht ▸ hm) with heq | hm
      · cases heq
        exact Delivered.cons _ (h.held hk rfl)
      · exact (h.kept hm).cons _
  | invalidate id' => exact (h.kept (List.mem_filter.1 hm).1).cons _
  | _ => exact (h.kept hm).cons _

lemma awaited_step (hu : Coherent s) (hs : s.step c endpoint e = some s')
    (hk : s'.callers[k]? = some ⟨id, .following f⟩) (hf : s'.flights[f]? = some fl)
    (ho : fl.channel.sent = some o) : Origin c endpoint ((s, e) :: past) k id o := by
  obtain ⟨hk, ⟨fl₀, hf₀, ho⟩ | ⟨j, p, t, hj, ha⟩⟩ := awaited_of_step hu hs hk hf ho
  · exact (h.awaited hk hf₀ ho).cons _
  · exact h.origin_of_end hj ha ⟨_, _, hk, by simp, by simp⟩

lemma answered_step (hu : Coherent s) (hs : s.step c endpoint e = some s')
    (hk : s'.callers[k]? = some ⟨id, .answered o⟩) :
    (∃ l, o = .ok l ∧ Found c ((s, e) :: past) k id l) ∨ ∃ f fl,
      TookPart ((s, e) :: past) k id f ∧ s'.flights[f]? = some fl ∧ fl.channel.sent = some o := by
  have hkept : ∀ {f : Nat} {fl : Flight}, s.flights[f]? = some fl → fl.channel.sent = some o →
      ∃ fl' : Flight, s'.flights[f]? = some fl' ∧ fl'.channel.sent = some o := by
    intro f fl hf ho
    have hne : ∀ id, fl ≠ { identifier := id } := by
      rintro id rfl
      cases ho
    obtain ⟨fl', hf', ho', -⟩ := over_step hu hs hf hne
    exact ⟨fl', hf', ho'.trans ho⟩
  have hfound : ∀ {p l}, s.callers[k]? = some ⟨id, p⟩ →
      (p = .arriving ∨ p = .returning ∨ ∃ f, p = .leading f) → s.find c id = some l →
      Found c ((s, .proceed k) :: past) k id l := by
    intro p l hk hp hf
    obtain ⟨stored, hl, hx, heq⟩ := find_eq_some_iff.1 hf
    exact ⟨s, p, stored, List.mem_cons_self, hk, hp, hl, hx, heq⟩
  rcases stayed_or_acted hs hk with hk | hp | ⟨p, t, hk₀, ha, -⟩
  · rcases h.answered hk with ⟨l, rfl, hl⟩ | ⟨f, fl, hp, hf, ho⟩
    · exact .inl ⟨l, rfl, hl.cons _⟩
    · obtain ⟨fl', hf', ho'⟩ := hkept hf ho
      exact .inr ⟨f, fl', hp.cons _, hf', ho'⟩
  · cases hp
  · cases ha with
    | hit hf => exact .inl ⟨_, rfl, hfound hk₀ (.inl rfl) hf⟩
    | findAgain hf => exact .inl ⟨_, rfl, hfound hk₀ (.inr (.inl rfl)) hf⟩
    | @learn f fl o hf hr =>
      obtain ⟨fl', hf', ho'⟩ := hkept hf (receive_eq_some_iff.1 hr)
      exact .inr ⟨f, fl', ⟨s, _, List.mem_cons_self, .inl hk₀⟩, hf', ho'⟩
    | @leave f o =>
      obtain ⟨fl, hf, -, -, ho⟩ := hu.left hk₀
      obtain ⟨fl', hf', ho'⟩ := hkept hf ho
      exact .inr ⟨f, fl', (h.left hk₀).cons _, hf', ho'⟩
    | @finish e f' load since result t p' he hr =>
      rcases answer_eq_iff.1 hr with ⟨d, -, -, hp⟩ | ⟨-, -, hp⟩ | ⟨err, -, -, hp⟩ <;> cases hp

lemma step (hu : Coherent s) (hs : s.step c endpoint e = some s') :
    Sourced c endpoint ((s, e) :: past) s' where
  kept _ _ hm := h.kept_step hs hm
  held k id p o hk ho := by
    rcases stayed_or_acted hs hk with hk | rfl | ⟨p, t, hk, ha, -⟩
    · exact (h.held hk ho).cons _
    · cases ho
    · exact h.origin_of_act hk ha ho
  awaited _ _ _ _ _ hk hf ho := h.awaited_step hu hs hk hf ho
  left k id f o hk := by
    rcases stayed_or_acted hs hk with hk | hp | ⟨p, t, hk, ha, -⟩
    · exact (h.left hk).cons _
    · cases hp
    · exact ⟨s, e, List.mem_cons_self, .inr ⟨p, hk, leads_of_leaving ha⟩⟩
  answered _ _ _ hk := h.answered_step hu hs hk

end Sourced

lemma Run.sourced (h : Run c endpoint past s) : Sourced c endpoint past s := by
  induction h with
  | start => exact .initial
  | step hr hs ih => exact ih.step (Run.coherent hr) hs

lemma Run.shared (h : Run c endpoint past s) (hf : s.flights[f]? = some fl)
    (ho : fl.channel.sent = some o) (hp : TookPart past k id f)
    (hk : s.callers[k]? = some ⟨id', .answered o'⟩) : o' = o := by
  cases h.stake hp with
  | following hk' =>
    rw [hk] at hk'
    cases hk'
  | leading hl =>
    obtain ⟨p, hk', hp⟩ := hl
    rw [hk] at hk'
    cases hk'
    cases hp
  | cancelled hk' =>
    rw [hk] at hk'
    cases hk'
  | givenUp hf' hn =>
    rw [hf] at hf'
    cases hf'
    rw [ho] at hn
    cases hn
  | ended hf' ho' hk' hp =>
    rw [hf] at hf'
    cases hf'
    rw [hk] at hk'
    cases hk'
    rcases hp with hp | hp
    · cases hp
    · cases hp
      rw [ho] at ho'
      exact (Option.some.inj ho').symm

lemma Origin.eq_answerFor (h : Origin c endpoint past k id o)
    (hr : ∀ (t : State) (e : Event) (j f l n : Nat) r', (t, e) ∈ past →
      t.callers[j]? = some ⟨id, .loading f l n⟩ → Ends c endpoint t j n e r' → e = .answer j r) :
    o.map (·.definition) = answerFor id r := by
  have hended : ∀ {r'}, EndedDuring c endpoint past k id r' → r' = r := by
    rintro r' ⟨t, e, j, f, l, n, ht, -, hj, he⟩
    have heq := hr t e j f l n r' ht hj he
    cases he with
    | answer => cases heq; rfl
    | expire => cases heq
  match o, h with
  | .ok l, ⟨t, j, f, n, ht, hj⟩ =>
    cases hr t _ j f l.load n _ ht hj (.answer _)
    rfl
  | .error (.notFound _), ⟨rfl, h⟩ =>
    rw [← hended h]
    rfl
  | .error (.unavailable _), h =>
    rw [← hended h]
    rfl

/-- Every answer has its origin in the past, all who took part in a flight that was ended answer
alike, and where the registry says the same about `id` each time, so do all answers. -/
theorem Run.answer_origin (h : Run c endpoint past s) :
    (∀ (k : Nat) id o, s.callers[k]? = some ⟨id, .answered o⟩ →
      Origin c endpoint past k id o ∧
      ((∃ l, o = .ok l ∧ Found c past k id l) ∨
        ∃ f fl, TookPart past k id f ∧ s.flights[f]? = some fl ∧ fl.channel.sent = some o)) ∧
    (∀ (f : Nat) (fl : Flight) o, s.flights[f]? = some fl → fl.channel.sent = some o →
      ∀ (k : Nat) id o', TookPart past k id f → s.callers[k]? = some ⟨id, .answered o'⟩ → o' = o) ∧
    ∀ id r, (∀ (t : State) (e : Event) (j f l n : Nat) r', (t, e) ∈ past →
        t.callers[j]? = some ⟨id, .loading f l n⟩ → Ends c endpoint t j n e r' → e = .answer j r) →
      ∀ (k : Nat) o, s.callers[k]? = some ⟨id, .answered o⟩ →
        o.map (·.definition) = answerFor id r := by
  have hs := h.sourced
  refine ⟨fun k id o hk => ⟨hs.held hk rfl, hs.answered hk⟩, ?_, ?_⟩
  · intro f fl o hf ho k id o' hp hk
    exact h.shared hf ho hp hk
  · intro id r hr k o hk
    exact (hs.held hk rfl).eq_answerFor hr

/-- A load that two callers wait for takes too long; a third one gets the definition, and a fourth
one finds it. -/
def lateAnswer : List Event :=
  [.arrive "a", .proceed 0, .proceed 0, .arrive "a", .proceed 1, .proceed 1, .proceed 0, .proceed 0,
    .pass 10000000000, .expire 0, .proceed 1, .arrive "a", .proceed 2, .proceed 2, .proceed 2,
    .proceed 2, .answer 2 (.ok (some ⟨"a", none, none, none, true, []⟩)), .proceed 2, .proceed 2,
    .arrive "a", .proceed 3]

/-- Two callers wait for a load that finds nothing. -/
def sharedRefusal : List Event :=
  [.arrive "a", .proceed 0, .proceed 0, .arrive "a", .proceed 1, .proceed 1, .proceed 0, .proceed 0,
    .answer 0 (.ok none), .proceed 1]

theorem Run.answer_origin_examples :
    (∃ past s, Run {} "registry" past s ∧
      (∃ after, s.callers[1]? =
          some ⟨"a", .answered (.error (.unavailable (.timeout "registry" after)))⟩ ∧
        EndedDuring {} "registry" past 1 "a" (.error (.timeout "registry" after))) ∧
      ∃ l, s.callers[3]? = some ⟨"a", .answered (.ok l)⟩ ∧ Delivered past "a" l) ∧
    ∃ past s, Run {} "registry" past s ∧ ∃ o, s.callers[1]? = some ⟨"a", .answered o⟩ ∧
      o.map (·.definition) = answerFor "a" (.ok none) := by
  constructor
  · have hr : Run {} "registry" _ _ :=
      .replay .start (rfl : replay _ [] _ lateAnswer = some (_, _))
    exact ⟨_, _, hr, ⟨_, rfl, (hr.answer_origin.1 1 "a" _ rfl).1⟩,
      _, rfl, (hr.answer_origin.1 3 "a" _ rfl).1⟩
  · have hr : Run {} "registry" _ _ :=
      .replay .start (rfl : replay _ [] _ sharedRefusal = some (_, _))
    refine ⟨_, _, hr, _, rfl, hr.answer_origin.2.2 "a" (.ok none) ?_ 1 _ rfl⟩
    intro t e j f l n r' ht hj he
    cases he <;> simp only [List.mem_cons, Prod.mk.injEq, reduceCtorEq, and_false, false_or,
      or_false, List.not_mem_nil] at ht
    obtain ⟨-, ⟨⟩⟩ := ht
    rfl

end TypedPid.Cache
