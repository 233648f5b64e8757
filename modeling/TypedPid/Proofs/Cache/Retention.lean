import TypedPid.Proofs.Cache.Origin

/-!
What is kept is not loaded. A load of an identifier is begun only where nothing of it is kept and no
other load of it is running; and once one has delivered, nobody loads the identifier again for as
long as what was delivered stays.
-/

namespace TypedPid.Cache

/-- It has looked twice and found nothing, and has not stored anything since. -/
def Phase.Seeking (p : Phase) : Prop :=
  (∃ f, p = .fetching f) ∨ (∃ f load since, p = .loading f load since) ∨ ∃ f l, p = .storing f l

/-- A step begins a load. -/
def Begins (c : Config) (endpoint : String) (s : State) (e : Event) (id : String) : Prop :=
  ∃ s', s.step c endpoint e = some s' ∧ s'.loads = s.loads ++ [⟨id, .running⟩]

variable {c : Config} {endpoint : String} {past : List (State × Event)} {s s' t : State} {k : Nat}
  {id id' : String} {e : Event} {p p' : Phase} {f : Nat} {l l' : Loaded}

section Steps

@[simp] lemma complete_now (o : Outcome) : (s.complete f o).now = s.now := by
  unfold State.complete
  split <;> rfl

@[simp] lemma drop_now : (s.drop f).now = s.now := by
  unfold State.drop
  split
  · rfl
  · dsimp only
    split <;> rfl

lemma answer_now (f load : Nat) (result : LoadResult) :
    (s.answer id f load result).1.now = s.now := by
  unfold State.answer
  split
  · rfl
  · exact complete_now _
  · exact complete_now _

lemma act_now (h : Act c endpoint s k id e p t p') : t.now = s.now := by
  cases h with
  | finish _ hr => exact (congrArg (·.1.now) hr).symm.trans (answer_now _ _ _)
  | land => exact complete_now _
  | leave => exact drop_now
  | quitLeading => exact drop_now
  | quitLoading => exact drop_now
  | quitStoring => exact drop_now
  | _ => rfl

lemma answer_loads (f load : Nat) (result : LoadResult) :
    (s.answer id f load result).1.loads.length = s.loads.length := by
  unfold State.answer State.miscarry
  split <;> simp [State.setProgress, State.countFailure]

lemma act_loads (h : Act c endpoint s k id e p t p') : t.loads.length = s.loads.length ∨
    ∃ f, p = .fetching f ∧ e = .proceed k ∧ t.loads = s.loads ++ [⟨id, .running⟩] := by
  cases h with
  | begin => exact .inr ⟨_, rfl, rfl, rfl⟩
  | finish _ hr => exact .inl ((congrArg (·.1.loads.length) hr).symm.trans (answer_loads _ _ _))
  | land => exact .inl (congrArg List.length (complete_loads _))
  | leave => exact .inl (congrArg List.length drop_loads)
  | quitLeading => exact .inl (congrArg List.length drop_loads)
  | quitLoading => exact .inl (by simp [State.setProgress])
  | quitStoring => exact .inl (congrArg List.length drop_loads)
  | _ => exact .inl rfl

lemma begins_iff : Begins c endpoint s e id ↔
    ∃ k f, e = .proceed k ∧ s.callers[k]? = some ⟨id, .fetching f⟩ := by
  constructor
  · rintro ⟨s', hs, hl⟩
    cases step_eq_some_iff.1 hs with
    | @act k id' p e t p' hk ha =>
      rw [setPhase_loads] at hl
      rcases act_loads ha with ht | ⟨f, rfl, rfl, ht⟩
      · simp [hl] at ht
      · rw [ht, List.append_cancel_left_eq] at hl
        cases hl
        exact ⟨k, f, rfl, hk⟩
    | _ => simp at hl
  · rintro ⟨k, f, rfl, hk⟩
    exact ⟨_, step_of_act hk .begin, rfl⟩

end Steps

/-- Where a caller is seeking, nothing is kept that could be served. -/
structure Wanting (c : Config) (s : State) : Prop where
  ordered : Keyed.Ordered s.entries
  unserved : ∀ ⦃k : Nat⦄ ⦃id p⦄, s.callers[k]? = some ⟨id, p⟩ → p.Seeking → s.find c id = none

lemma Phase.Seeking.flight (h : p.Seeking) : ∃ f, p.flight? = some f := by
  rcases h with ⟨f, rfl⟩ | ⟨f, load, since, rfl⟩ | ⟨f, l, rfl⟩ <;> exact ⟨f, rfl⟩

namespace Wanting

lemma initial : Wanting c {} where
  ordered := Keyed.ordered_nil
  unserved _ _ _ h := by cases h

lemma seeking_act (h : Wanting c s) (hk : s.callers[k]? = some ⟨id, p⟩)
    (ha : Act c endpoint s k id e p t p') (hp : p'.Seeking) : s.find c id = none := by
  cases ha with
  | want hf => exact hf
  | begin => exact h.unserved hk (.inl ⟨_, rfl⟩)
  | finish he hr => exact h.unserved hk (.inr (.inl ⟨_, _, _, rfl⟩))
  | _ => simp [Phase.Seeking] at hp

lemma unserved_of_lookup (hf : s.find c id = none)
    (hl : ∀ stored, Keyed.lookup id t.entries = some stored →
      Keyed.lookup id s.entries = some stored)
    (hn : s.now ≤ t.now) : t.find c id = none := by
  by_contra hne
  obtain ⟨l, hl'⟩ := Option.ne_none_iff_exists'.1 hne
  obtain ⟨stored, hs, hx, heq⟩ := find_eq_some_iff.1 hl'
  rw [find_eq_some_iff.2 ⟨stored, hl stored hs, isExpired_mono hn hx, heq⟩] at hf
  cases hf

lemma act (h : Wanting c s) (hu : Coherent s) (hk : s.callers[k]? = some ⟨id, p⟩)
    (ha : Act c endpoint s k id e p t p') : Wanting c (t.setPhase k p') := by
  have hn : s.now ≤ (t.setPhase k p').now := Nat.le_of_eq (act_now ha).symm
  rcases act_entries ha with ht | ⟨f, l, rfl, rfl, ht⟩
  · refine ⟨ht ▸ h.ordered, fun j id' q hj hq => ?_⟩
    have hl : ∀ stored, Keyed.lookup id' (t.setPhase k p').entries = some stored →
        Keyed.lookup id' s.entries = some stored := fun stored hs => ht ▸ hs
    rw [callers_act hk ha] at hj
    split at hj
    · cases hj
      exact unserved_of_lookup (h.seeking_act hk ha hq) hl hn
    · exact unserved_of_lookup (h.unserved hj hq) hl hn
  · refine ⟨ht ▸ ordered_store h.ordered, fun j id' q hj hq => ?_⟩
    rw [callers_act hk ha] at hj
    split at hj
    · cases hj
      simp [Phase.Seeking] at hq
    · next hjk =>
      -- who stores leads the flight to what it stores, so that nobody else is seeking that
      have hne : id' ≠ id := by
        rintro rfl
        obtain ⟨f', hf'⟩ := hq.flight
        have hlead := leads_of_phase hj hf'
        have heq := hu.leader hlead
        rw [hu.leader (leads_of_phase hk rfl)] at heq
        cases heq
        exact hjk (hu.unique hlead (leads_of_phase hk rfl))
      refine unserved_of_lookup (h.unserved hj hq) (fun stored hs => ?_) hn
      exact lookup_of_lookup_store h.ordered hne (ht ▸ hs)

lemma step (h : Wanting c s) (hu : Coherent s) (hs : s.step c endpoint e = some s') :
    Wanting c s' := by
  cases step_eq_some_iff.1 hs with
  | arrive id =>
    refine ⟨h.ordered, fun k id' p hk hp => ?_⟩
    rcases callers_arrive hk with hk | rfl
    · exact h.unserved hk hp
    · simp [Phase.Seeking] at hp
  | act hk ha => exact h.act hu hk ha
  | peek id => exact h
  | invalidate id =>
    refine ⟨Keyed.erase_ordered id h.ordered, fun k id' p hk hp => ?_⟩
    refine unserved_of_lookup (h.unserved hk hp) (fun stored hs => ?_) (Nat.le_refl _)
    rw [Keyed.lookup_erase] at hs
    split at hs
    · cases hs
    · exact hs
  | pass n =>
    refine ⟨h.ordered, fun k id' p hk hp => ?_⟩
    exact unserved_of_lookup (h.unserved hk hp) (fun stored hs => hs) (Nat.le_add_right _ _)

end Wanting

lemma Run.wanting (h : Run c endpoint past s) : Wanting c s := by
  induction h with
  | start => exact .initial
  | step hr hs ih => exact ih.step (Run.coherent hr) hs

/-- What was loaded is kept, be it expired or not. -/
def Kept (id : String) (l : Loaded) (s : State) : Prop :=
  ∃ stored, Keyed.lookup id s.entries = some stored ∧ stored.loaded = l

def Fresh (c : Config) (id : String) (l : Loaded) (s : State) : Prop :=
  ∀ stored, Keyed.lookup id s.entries = some stored → stored.loaded = l →
    c.isExpired s.now stored = false

/-- A step during which what was loaded is not expired, not evicted for the sake of another
definition and not made invalid, and nobody who asked for it is cancelled. -/
structure Undisturbed (c : Config) (id : String) (l : Loaded) (a : State × Event) : Prop where
  fresh : Fresh c id l a.1
  roomy : ∀ ⦃k : Nat⦄ ⦃id' f l'⦄, a.2 = .proceed k → a.1.callers[k]? = some ⟨id', .storing f l'⟩ →
    id' ≠ id → Kept id l a.1 → Kept id l (a.1.store c id' l')
  valid : a.2 ≠ .invalidate id
  staying : ∀ ⦃k : Nat⦄ ⦃p⦄, a.2 = .cancel k → a.1.callers[k]? ≠ some ⟨id, p⟩

/-- How far a caller has come who will answer with what was loaded. -/
inductive OnCourse (s : State) (id : String) (l : Loaded) : Phase → Prop
  | arriving : OnCourse s id l .arriving
  | joining : OnCourse s id l .joining
  | awaiting {k f : Nat} : s.Leads k id f → OnCourse s id l (.following f)
  | informed {f : Nat} {fl : Flight} : s.flights[f]? = some fl → fl.channel.sent = some (.ok l) →
      OnCourse s id l (.following f)
  | leading {p : Phase} {f : Nat} : p.flight? = some f → OnCourse s id l p
  | leaving {f : Nat} : OnCourse s id l (.leaving f (.ok l))
  | answered : OnCourse s id l (.answered (.ok l))

/-- Once a load has delivered: what it delivered will be stored or has been, whoever leads is the one
who stores it or will find it, and the callers in `late` are on course. -/
structure Settled (id : String) (l : Loaded) (late : Nat → Prop) (s : State) : Prop where
  held : (∃ k f : Nat, s.callers[k]? = some ⟨id, .storing f l⟩) ∨ Kept id l s
  leader : ∀ ⦃k : Nat⦄ ⦃p f⦄, s.callers[k]? = some ⟨id, p⟩ → p.flight? = some f →
    p = .storing f l ∨ (Kept id l s ∧ (p = .leading f ∨ p = .landing f l))
  course : ∀ ⦃j : Nat⦄ ⦃p⦄, late j → s.callers[j]? = some ⟨id, p⟩ → OnCourse s id l p

namespace Settled

variable {late : Nat → Prop} (h : Settled id l late s)

include h

lemma eq_of_find (hw : Wanting c s) (hf : s.find c id = some l') : l' = l := by
  rcases h.held with ⟨k, f, hk⟩ | ⟨stored, hl, rfl⟩
  · rw [hw.unserved hk (.inr (.inr ⟨f, l, rfl⟩))] at hf
    cases hf
  · obtain ⟨stored', hl', -, rfl⟩ := find_eq_some_iff.1 hf
    rw [hl] at hl'
    cases hl'
    rfl

lemma find_eq (hk : Kept id l s) (hx : Fresh c id l s) : s.find c id = some l := by
  obtain ⟨stored, hl, rfl⟩ := hk
  exact find_eq_some_iff.2 ⟨stored, hl, hx stored hl rfl, rfl⟩

/-- The leader ends its flight with what was loaded. -/
lemma eq_of_leaving (hk : s.callers[k]? = some ⟨id, p⟩) {o : Outcome}
    (ha : Act c endpoint s k id e p t (.leaving f o)) : o = .ok l := by
  rcases h.leader hk (leads_of_leaving ha) with rfl | ⟨-, rfl | rfl⟩
  · cases ha
  · cases ha
  · cases ha
    rfl

variable (hd : Undisturbed c id l (s, e))

include hd

lemma kept_act (hk : s.callers[k]? = some ⟨id', p⟩) (ha : Act c endpoint s k id' e p t p')
    (hl : Kept id l s) : Kept id l (t.setPhase k p') := by
  rcases act_entries ha with ht | ⟨f, l', rfl, rfl, ht⟩
  · obtain ⟨stored, hs, heq⟩ := hl
    exact ⟨stored, by rwa [← ht] at hs, heq⟩
  · by_cases heq : id' = id
    · subst heq
      rcases h.leader hk rfl with heq | ⟨-, heq | heq⟩ <;> cases heq
      exact ⟨⟨l, s.now⟩, (congrArg (Keyed.lookup id') ht).trans lookup_store_self, rfl⟩
    · have he : e = .proceed k := by
        cases ha
        rfl
      obtain ⟨stored, hs, heq⟩ := hd.roomy he hk heq hl
      exact ⟨stored, (congrArg (Keyed.lookup id) ht).trans hs, heq⟩

lemma held_act (hk : s.callers[k]? = some ⟨id', p⟩) (ha : Act c endpoint s k id' e p t p') :
    (∃ j f : Nat, (t.setPhase k p').callers[j]? = some ⟨id, .storing f l⟩) ∨
      Kept id l (t.setPhase k p') := by
  rcases h.held with ⟨j, f, hj⟩ | hl
  · by_cases hjk : j = k
    · subst hjk
      rw [hk] at hj
      cases hj
      cases ha with
      | store => exact .inr ⟨⟨l, s.now⟩, lookup_store_self, rfl⟩
      | quitStoring => exact absurd hk (hd.staying rfl)
    · exact .inl ⟨j, f, by rw [callers_act hk ha, if_neg hjk, hj]⟩
  · exact .inr (h.kept_act hd hk ha hl)

lemma leader_act (hu : Coherent s) (hw : Wanting c s) (hk : s.callers[k]? = some ⟨id, p⟩)
    (ha : Act c endpoint s k id e p t p') (hf : p'.flight? = some f) :
    p' = .storing f l ∨ (Kept id l (t.setPhase k p') ∧ (p' = .leading f ∨ p' = .landing f l)) := by
  have hkept : Kept id l s → Kept id l (t.setPhase k p') := h.kept_act hd hk ha
  cases ha with
  | lead hn =>
    cases hf
    rcases h.held with ⟨j, g, hj⟩ | hl
    · rw [hu.leader (leads_of_phase hj rfl)] at hn
      cases hn
    · exact .inr ⟨hkept hl, .inl rfl⟩
  | confirm hfind =>
    cases hf
    rcases h.leader hk rfl with heq | ⟨hl, -⟩
    · cases heq
    · rw [h.eq_of_find hw hfind]
      exact .inr ⟨hkept hl, .inr rfl⟩
  | want hfind =>
    rcases h.leader hk rfl with heq | ⟨hl, -⟩
    · cases heq
    · rw [h.find_eq hl hd.fresh] at hfind
      cases hfind
  | begin => rcases h.leader hk rfl with heq | ⟨-, heq | heq⟩ <;> cases heq
  | finish => rcases h.leader hk rfl with heq | ⟨-, heq | heq⟩ <;> cases heq
  | store =>
    cases hf
    rcases h.leader hk rfl with heq | ⟨-, heq | heq⟩ <;> cases heq
    exact .inr ⟨⟨⟨l, s.now⟩, lookup_store_self, rfl⟩, .inr rfl⟩
  | _ => cases hf

lemma flight_cases (hk : s.callers[k]? = some ⟨id, p⟩) (ha : Act c endpoint s k id e p t p')
    (hf : p.flight? = some f) : p'.flight? = some f ∨ p' = .leaving f (.ok l) := by
  rcases flight_act ha hf with hf' | rfl | ⟨o, rfl⟩
  · exact .inl hf'
  · rcases h.leader hk hf with rfl | ⟨-, rfl | rfl⟩ <;> cases ha <;>
      exact absurd hk (hd.staying rfl)
  · exact .inr (congrArg _ (h.eq_of_leaving hk ha))

lemma course_act_self (hu : Coherent s) (hw : Wanting c s) (hk : s.callers[k]? = some ⟨id, p⟩)
    (ha : Act c endpoint s k id e p t p') (hp : OnCourse s id l p) :
    OnCourse (t.setPhase k p') id l p' := by
  have hcancel : ∀ {q}, e = .cancel k → OnCourse (t.setPhase k p') id l q :=
    fun he => absurd hk (hd.staying he)
  cases hp with
  | arriving =>
    cases ha with
    | hit hf =>
      rw [h.eq_of_find hw hf]
      exact .answered
    | miss => exact .joining
    | quitArriving => exact hcancel rfl
  | joining =>
    cases ha with
    | follow hf =>
      obtain ⟨j, hj⟩ := hu.registered hf
      exact .awaiting ((leads_setPhase_of_eq hk rfl (by rfl) j id _).2 hj)
    | lead => exact .leading rfl
  | awaiting hl =>
    have hf := hu.underway hl
    cases ha with
    | learn hf' hr =>
      rw [hf] at hf'
      cases hf'
      cases hr
    | lose hf' hr =>
      rw [hf] at hf'
      cases hf'
      cases hr
    | quitFollowing => exact hcancel rfl
  | informed hf hs =>
    cases ha with
    | learn hf' hr =>
      rw [hf] at hf'
      cases hf'
      rw [receive_eq_some_iff, hs] at hr
      cases hr
      exact .answered
    | lose hf' hr =>
      rw [hf] at hf'
      cases hf'
      rw [receive_eq_none_iff, hs] at hr
      cases hr.1
    | quitFollowing => exact hcancel rfl
  | leading hf =>
    rcases h.flight_cases hd hk ha hf with hf' | rfl
    · exact .leading hf'
    · exact .leaving
  | leaving =>
    cases ha
    exact .answered
  | answered => cases ha

lemma course_act_other {k' : Nat} {q q' : Phase} (hu : Coherent s)
    (hs : s.step c endpoint e = some (t.setPhase k' q')) (hk' : s.callers[k']? = some ⟨id', q⟩)
    (ha : Act c endpoint s k' id' e q t q') (hp : OnCourse s id l p) :
    OnCourse (t.setPhase k' q') id l p := by
  cases hp with
  | arriving => exact .arriving
  | joining => exact .joining
  | @awaiting j f hl =>
    obtain ⟨p₀, hj, hf⟩ := hl
    by_cases hjk : j = k'
    · subst hjk
      rw [hk'] at hj
      cases hj
      have hself : (t.setPhase j q').callers[j]? = some ⟨id, q'⟩ := by
        rw [callers_act hk' ha, if_pos rfl]
      rcases h.flight_cases hd hk' ha hf with hf' | rfl
      · exact .awaiting ⟨q', hself, hf'⟩
      · obtain ⟨fl, hfl, -, -, ho⟩ := (hu.step hs).left hself
        exact .informed hfl ho
    · exact .awaiting ⟨p₀, by rw [callers_act hk' ha, if_neg hjk, hj], hf⟩
  | @informed f fl hf ho =>
    have hne : ∀ i, fl ≠ { identifier := i } := by
      rintro i rfl
      cases ho
    obtain ⟨fl', hf', ho', -⟩ := over_step hu hs hf hne
    exact .informed hf' (ho'.trans ho)
  | leading hf => exact .leading hf
  | leaving => exact .leaving
  | answered => exact .answered

lemma act (hu : Coherent s) (hw : Wanting c s) (hk : s.callers[k]? = some ⟨id', p⟩)
    (ha : Act c endpoint s k id' e p t p') : Settled id l late (t.setPhase k p') := by
  refine ⟨h.held_act hd hk ha, fun j q f hj hf => ?_, fun j q hlate hj => ?_⟩
  · rw [callers_act hk ha] at hj
    split at hj
    · cases hj
      exact h.leader_act hd hu hw hk ha hf
    · exact (h.leader hj hf).imp_right fun hl => ⟨h.kept_act hd hk ha hl.1, hl.2⟩
  · rw [callers_act hk ha] at hj
    split at hj
    · next heq =>
      subst heq
      cases hj
      exact h.course_act_self hd hu hw hk ha (h.course hlate hk)
    · exact h.course_act_other hd hu (step_of_act hk ha) hk ha (h.course hlate hj)

omit hd in
lemma carry (hkept : Kept id l s → Kept id l t) (hf : t.flights = s.flights)
    (hold : ∀ {k : Nat} {i p}, s.callers[k]? = some ⟨i, p⟩ → t.callers[k]? = some ⟨i, p⟩)
    (hnew : ∀ {k : Nat} {i p}, t.callers[k]? = some ⟨i, p⟩ →
      s.callers[k]? = some ⟨i, p⟩ ∨ p = .arriving) : Settled id l late t := by
  refine ⟨?_, fun k p f hk hp => ?_, fun j p hj hk => ?_⟩
  · exact h.held.imp (fun ⟨k, f, hk⟩ => ⟨k, f, hold hk⟩) hkept
  · rcases hnew hk with hk | rfl
    · exact (h.leader hk hp).imp_right fun hl => ⟨hkept hl.1, hl.2⟩
    · cases hp
  · rcases hnew hk with hk | rfl
    · cases h.course hj hk with
      | arriving => exact .arriving
      | joining => exact .joining
      | awaiting hl =>
        obtain ⟨q, hq, hf'⟩ := hl
        exact .awaiting ⟨q, hold hq, hf'⟩
      | informed hf' ho => exact .informed (hf ▸ hf') ho
      | leading hf' => exact .leading hf'
      | leaving => exact .leaving
      | answered => exact .answered
    · exact .arriving

lemma step (hu : Coherent s) (hw : Wanting c s) (hs : s.step c endpoint e = some s') :
    Settled id l late s' := by
  cases step_eq_some_iff.1 hs with
  | arrive i =>
    refine h.carry (fun hk => hk) rfl (fun hk => ?_) callers_arrive
    exact (List.getElem?_append_left (List.getElem?_eq_some_iff.1 hk).1).trans hk
  | act hk ha => exact h.act hd hu hw hk ha
  | peek i => exact h
  | invalidate i =>
    have hne : id ≠ i := fun heq => hd.valid (heq ▸ rfl)
    refine h.carry (fun ⟨stored, hl, heq⟩ => ⟨stored, ?_, heq⟩) rfl (fun hk => hk) .inl
    rw [Keyed.lookup_erase, if_neg hne, hl]
  | pass n => exact h.carry (fun hk => hk) rfl (fun hk => hk) .inl

end Settled

/-- A caller who did not ask for `id` in a state, or had not looked for it yet. -/
def Late (t : State) (id : String) (j : Nat) : Prop :=
  ∀ ⦃p⦄, t.callers[j]? = some ⟨id, p⟩ → p = .arriving

lemma settled_of_delivered (hu : Coherent s) {d : TypeDefinition} {n since : Nat}
    (hk : s.callers[k]? = some ⟨id, .loading f n since⟩)
    (hs : s.step c endpoint (.answer k (.ok (some d))) = some s') :
    Settled id ⟨n, d⟩ (Late s id) s' := by
  have ha : Act c endpoint s k id (.answer k (.ok (some d))) (.loading f n since)
      (s.setProgress n .delivered) (.storing f ⟨n, d⟩) := .finish (.answer _) rfl
  rw [step_of_act hk ha] at hs
  cases hs
  have hself : ∀ j, ((s.setProgress n .delivered).setPhase k (.storing f ⟨n, d⟩)).callers[j]? =
      if j = k then some ⟨id, .storing f ⟨n, d⟩⟩ else s.callers[j]? := callers_act hk ha
  refine ⟨.inl ⟨k, f, (hself k).trans (if_pos rfl)⟩, fun j p g hj hp => ?_, fun j p hlate hj => ?_⟩
  · rw [hself] at hj
    split at hj
    · cases hj
      cases hp
      exact .inl rfl
    · next hjk =>
      have hlead := hu.leader (leads_of_phase hj hp)
      rw [hu.leader (leads_of_phase hk rfl)] at hlead
      cases hlead
      exact absurd (hu.unique (leads_of_phase hj hp) (leads_of_phase hk rfl)) hjk
  · rw [hself] at hj
    split at hj
    · next heq => cases hlate (heq ▸ hk)
    · rw [hlate hj]
      exact .arriving

lemma Run.settled {after before : List (State × Event)} {d : TypeDefinition} {n since : Nat}
    (h : Run c endpoint (after ++ (t, .answer k (.ok (some d))) :: before) s)
    (hk : t.callers[k]? = some ⟨id, .loading f n since⟩)
    (hd : ∀ a ∈ after, Undisturbed c id ⟨n, d⟩ a) :
    Settled id ⟨n, d⟩ (Late t id) s ∧ ∀ a ∈ after, Settled id ⟨n, d⟩ (Late t id) a.1 := by
  induction after generalizing s with
  | nil =>
    cases h with
    | step hr hs => exact ⟨settled_of_delivered (Run.coherent hr) hk hs, fun a ha => by cases ha⟩
  | cons a after ih =>
    cases h with
    | step hr hs =>
      obtain ⟨hd₁, hd⟩ := List.forall_mem_cons.1 hd
      obtain ⟨hl, hall⟩ := ih hr hd
      exact ⟨hl.step hd₁ (Run.coherent hr) (Run.wanting hr) hs, List.forall_mem_cons.2 ⟨hl, hall⟩⟩

/-- How many steps a caller takes at most who need not load. -/
def Phase.toGo : Phase → Nat
  | .arriving => 5
  | .joining => 4
  | .leading _ => 3
  | .storing _ _ => 3
  | .landing _ _ => 2
  | .following _ => 1
  | .leaving _ _ => 1
  | _ => 0

def Advances (c : Config) (endpoint : String) (s : State) (k : Nat) (id : String) : Prop :=
  ∃ p p' s', s.callers[k]? = some ⟨id, p⟩ ∧ s.step c endpoint (.proceed k) = some s' ∧
    s'.callers[k]? = some ⟨id, p'⟩ ∧ p'.toGo < p.toGo

lemma advances_of_act (hk : s.callers[k]? = some ⟨id, p⟩)
    (ha : Act c endpoint s k id (.proceed k) p t p') (hlt : p'.toGo < p.toGo) :
    Advances c endpoint s k id :=
  ⟨p, p', _, hk, step_of_act hk ha, by rw [callers_act hk ha, if_pos rfl], hlt⟩

namespace Settled

variable {late : Nat → Prop} (h : Settled id l late s) (hx : Fresh c id l s)

include h hx

lemma leader_advances (hk : s.callers[k]? = some ⟨id, p⟩) (hf : p.flight? = some f) :
    Advances c endpoint s k id := by
  rcases h.leader hk hf with rfl | ⟨hl, rfl | rfl⟩
  · exact advances_of_act hk .store (by simp [Phase.toGo])
  · exact advances_of_act hk (.confirm (h.find_eq hl hx)) (by simp [Phase.toGo])
  · exact advances_of_act hk .land (by simp [Phase.toGo])

/-- A caller on course has answered, or it can go on without waiting for the registry: by itself, or
by a step of the one whom it follows. -/
lemma advances {j : Nat} (hlate : late j) (hj : s.callers[j]? = some ⟨id, p⟩) :
    p = .answered (.ok l) ∨ ∃ k, (k = j ∨ ∃ f, p = .following f ∧ s.Leads k id f) ∧
      Advances c endpoint s k id := by
  cases h.course hlate hj with
  | arriving =>
    refine .inr ⟨j, .inl rfl, ?_⟩
    cases hf : s.find c id with
    | none => exact advances_of_act hj (.miss hf) (by simp [Phase.toGo])
    | some l' => exact advances_of_act hj (.hit hf) (by simp [Phase.toGo])
  | joining =>
    refine .inr ⟨j, .inl rfl, ?_⟩
    cases hf : Keyed.lookup id s.inFlight with
    | none => exact advances_of_act hj (.lead hf) (by simp [Phase.toGo])
    | some f => exact advances_of_act hj (.follow hf) (by simp [Phase.toGo])
  | @awaiting k f hl =>
    obtain ⟨q, hk, hf⟩ := hl
    exact .inr ⟨k, .inr ⟨f, rfl, q, hk, hf⟩, h.leader_advances hx hk hf⟩
  | informed hf ho =>
    exact .inr ⟨j, .inl rfl, advances_of_act hj (.learn hf (receive_eq_some_iff.2 ho)) (by simp [Phase.toGo])⟩
  | leading hf => exact .inr ⟨j, .inl rfl, h.leader_advances hx hj hf⟩
  | leaving => exact .inr ⟨j, .inl rfl, advances_of_act hj .leave (by simp [Phase.toGo])⟩
  | answered => exact .inl rfl

end Settled

/-- A load of `id` is begun only where none is running and nothing of it is kept that could be
served. After a load has delivered, and as long as nothing takes away what it delivered, nobody loads
`id`, and every caller who looks for it from then on answers with just that, after a few steps in
which nobody waits for the registry. -/
theorem Run.loaded_once (h : Run c endpoint past s) :
    (∀ e id, Begins c endpoint s e id →
      s.find c id = none ∧ ∀ load : Nat, s.loads[load]? ≠ some ⟨id, .running⟩) ∧
    ∀ after before t k d id f n since, past = after ++ (t, .answer k (.ok (some d))) :: before →
      t.callers[k]? = some ⟨id, .loading f n since⟩ →
      (∀ a ∈ after, Undisturbed c id ⟨n, d⟩ a) →
      (∀ a ∈ after, ¬ Begins c endpoint a.1 a.2 id) ∧
      ∀ (j : Nat) p, Late t id j → s.callers[j]? = some ⟨id, p⟩ →
        (∀ o, p = .answered o → o = .ok ⟨n, d⟩) ∧
        (Fresh c id ⟨n, d⟩ s → p = .answered (.ok ⟨n, d⟩) ∨
          ∃ k, (k = j ∨ ∃ f, p = .following f ∧ s.Leads k id f) ∧ Advances c endpoint s k id) := by
  refine ⟨fun e id hb => ?_, fun after before t k d id f n since hpast hk hd => ?_⟩
  · obtain ⟨k, f, rfl, hk⟩ := begins_iff.1 hb
    refine ⟨h.wanting.unserved hk (.inl ⟨f, rfl⟩), fun load hl => ?_⟩
    obtain ⟨j, g, since, hj⟩ := h.loading.awaited hl
    have hlead := h.coherent.leader (leads_of_phase hj rfl)
    rw [h.coherent.leader (leads_of_phase hk rfl)] at hlead
    cases hlead
    cases h.coherent.unique (leads_of_phase hj rfl) (leads_of_phase hk rfl)
    rw [hk] at hj
    cases hj
  · subst hpast
    obtain ⟨hl, hall⟩ := Run.settled h hk hd
    refine ⟨fun a ha hb => ?_, fun j p hlate hj => ⟨?_, fun hx => hl.advances hx hlate hj⟩⟩
    · obtain ⟨k', f', -, hk'⟩ := begins_iff.1 hb
      rcases (hall a ha).leader hk' rfl with heq | ⟨-, heq | heq⟩ <;> cases heq
    · rintro o rfl
      cases hl.course hlate hj with
      | leading hf => cases hf
      | answered => rfl

/-- What one caller loads is stored after another one has missed it, who leads a flight of its own
then. -/
def lateLeader : List Event :=
  [.arrive "a", .proceed 0, .proceed 0, .proceed 0, .proceed 0,
    .answer 0 (.ok (some ⟨"a", none, none, none, true, []⟩)), .arrive "a", .proceed 1, .proceed 0,
    .proceed 0, .proceed 1, .proceed 1, .proceed 1, .proceed 1]

theorem Run.loaded_once_lateLeader :
    (∃ past s, Run {} "registry" past s ∧ Begins {} "registry" s (.proceed 0) "a" ∧
      s.find {} "a" = none) ∧
    ∃ past s, Run {} "registry" past s ∧ ∃ o, s.callers[1]? = some ⟨"a", .answered o⟩ ∧
      o = .ok ⟨0, ⟨"a", none, none, none, true, []⟩⟩ := by
  constructor
  · have hr : Run {} "registry" _ _ :=
      .replay .start (rfl : replay _ [] _ (lateLeader.take 4) = some (_, _))
    refine ⟨_, _, hr, begins_iff.2 ⟨0, 0, rfl, rfl⟩, ?_⟩
    exact (hr.loaded_once.1 (.proceed 0) "a" (begins_iff.2 ⟨0, 0, rfl, rfl⟩)).1
  · have hr : Run {} "registry" _ _ :=
      .replay .start (rfl : replay _ [] _ lateLeader = some (_, _))
    refine ⟨_, _, hr, _, rfl, ((hr.loaded_once.2 [_, _, _, _, _, _, _, _] _ _ 0 _ "a" 0 0 0
      rfl rfl ?_).2 1 _ ?_ rfl).1 _ rfl⟩
    · intro a ha
      simp only [List.mem_cons, List.not_mem_nil, or_false] at ha
      rcases ha with rfl | rfl | rfl | rfl | rfl | rfl | rfl | rfl
      all_goals
        refine ⟨?_, ?_, ?_, ?_⟩
        · intro stored hs _
          cases hs <;> rfl
        · intro k id' f l' he hk hne _
          cases he <;> cases hk <;> exact absurd rfl hne
        · intro he
          cases he
        · intro k p he
          cases he
    · intro p hp
      cases hp

end TypedPid.Cache
