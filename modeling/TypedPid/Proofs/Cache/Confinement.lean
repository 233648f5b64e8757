import TypedPid.Proofs.Cache.Retention
import TypedPid.Proofs.Place

/-!
What of a cache concerns one identifier. A state that holds no more than that goes along with the
whole: an event for the identifier happens on both sides, with the numbers that callers, flights and
loads have among their own; an event for another one happens on one side only, and is nothing to the
other, as long as nothing has to make room.
-/

namespace TypedPid.Cache

/-- What there is to an outcome apart from the number of the load. -/
def Outcome.content (o : Outcome) : Except LookupError TypeDefinition := o.map (·.definition)

def Caller.isFor (id : String) (who : Caller) : Bool := who.identifier == id

def Flight.isFor (id : String) (fl : Flight) : Bool := fl.identifier == id

def Load.isFor (id : String) (l : Load) : Bool := l.identifier == id

/-- The number of a caller among those for an identifier. -/
abbrev State.ownCaller (id : String) (s : State) : Nat → Option Nat :=
  place? (Caller.isFor id) s.callers

/-- The number of a flight among those to an identifier. -/
abbrev State.ownFlight (id : String) (s : State) : Nat → Option Nat :=
  place? (Flight.isFor id) s.flights

/-- The number of a load among those of an identifier. -/
abbrev State.ownLoad (id : String) (s : State) : Nat → Option Nat := place? (Load.isFor id) s.loads

/-- Phases that differ only in the numbers of the flights and loads. -/
inductive Alike (flight load : Nat → Option Nat) : Phase → Phase → Prop
  | arriving : Alike flight load .arriving .arriving
  | joining : Alike flight load .joining .joining
  | following {f f'} : flight f = some f' → Alike flight load (.following f) (.following f')
  | returning : Alike flight load .returning .returning
  | leading {f f'} : flight f = some f' → Alike flight load (.leading f) (.leading f')
  | fetching {f f'} : flight f = some f' → Alike flight load (.fetching f) (.fetching f')
  | loading {f f' n n' since} : flight f = some f' → load n = some n' →
      Alike flight load (.loading f n since) (.loading f' n' since)
  | storing {f f'} {l l' : Loaded} : flight f = some f' → l'.definition = l.definition →
      Alike flight load (.storing f l) (.storing f' l')
  | landing {f f'} {l l' : Loaded} : flight f = some f' → l'.definition = l.definition →
      Alike flight load (.landing f l) (.landing f' l')
  | leaving {f f'} {o o' : Outcome} : flight f = some f' → o'.content = o.content →
      Alike flight load (.leaving f o) (.leaving f' o')
  | answered {o o' : Outcome} : o'.content = o.content → Alike flight load (.answered o) (.answered o')
  | cancelled : Alike flight load .cancelled .cancelled

structure SameCaller (flight load : Nat → Option Nat) (who who' : Caller) : Prop where
  identifier : who'.identifier = who.identifier
  phase : Alike flight load who.phase who'.phase

structure SameFlight (fl fl' : Flight) : Prop where
  identifier : fl'.identifier = fl.identifier
  done : fl'.done = fl.done
  sent : fl'.channel.sent.map Outcome.content = fl.channel.sent.map Outcome.content
  closed : fl'.channel.closed = fl.channel.closed

/-- Of what there is in one state, another one holds all that concerns one identifier, and no more. -/
structure Confined (c : Config) (id : String) (s s' : State) : Prop where
  now : s'.now = s.now
  loads : s'.loads = s.loads.filter (Load.isFor id)
  flights : List.Forall₂ SameFlight (s.flights.filter (Flight.isFor id)) s'.flights
  callers : List.Forall₂ (SameCaller (s.ownFlight id) (s.ownLoad id))
    (s.callers.filter (Caller.isFor id)) s'.callers
  underway : Option.Rel (s.ownFlight id · = some ·) (Keyed.lookup id s.inFlight)
    (Keyed.lookup id s'.inFlight)
  served : ∀ n, s.now ≤ n →
    (s'.entries.find c n id).map (·.definition) = (s.entries.find c n id).map (·.definition)

lemma SameFlight.refl (fl : Flight) : SameFlight fl fl := ⟨rfl, rfl, rfl, rfl⟩

variable {id : String} {s : State} {c : Config} {endpoint : String} {s' t t' : State}
  {k k' f f' n n' : Nat} {id' : String} {p p' q q' : Phase} {o o' : Outcome} {l l' : Loaded}
  {progress : Progress} {e : Event}

/-- What has a number among those of an identifier keeps it. -/
structure Extends (id : String) (s t : State) : Prop where
  flight : ∀ ⦃f f'⦄, s.ownFlight id f = some f' → t.ownFlight id f = some f'
  load : ∀ ⦃n n'⦄, s.ownLoad id n = some n' → t.ownLoad id n = some n'

lemma Alike.mono (h : Alike (s.ownFlight id) (s.ownLoad id) p q) (hx : Extends id s t) :
    Alike (t.ownFlight id) (t.ownLoad id) p q := by
  cases h with
  | following hf => exact .following (hx.flight hf)
  | leading hf => exact .leading (hx.flight hf)
  | fetching hf => exact .fetching (hx.flight hf)
  | loading hf hn => exact .loading (hx.flight hf) (hx.load hn)
  | storing hf hl => exact .storing (hx.flight hf) hl
  | landing hf hl => exact .landing (hx.flight hf) hl
  | leaving hf ho => exact .leaving (hx.flight hf) ho
  | answered ho => exact .answered ho
  | arriving => exact .arriving
  | joining => exact .joining
  | returning => exact .returning
  | cancelled => exact .cancelled

lemma Extends.of_append {flights : List Flight} {loads : List Load}
    (hf : t.flights = s.flights ++ flights) (hl : t.loads = s.loads ++ loads) : Extends id s t where
  flight _ _ h := by
    rw [State.ownFlight, hf]
    exact place?_append h
  load _ _ h := by
    rw [State.ownLoad, hl]
    exact place?_append h

lemma Extends.of_map (hf : t.flights.map (Flight.isFor id) = s.flights.map (Flight.isFor id))
    (hl : t.loads.map (Load.isFor id) = s.loads.map (Load.isFor id)) : Extends id s t where
  flight _ _ h := (place?_congr hf).trans h
  load _ _ h := (place?_congr hl).trans h

lemma Confined.callers_mono (h : Confined c id s s') (hx : Extends id s t) :
    List.Forall₂ (SameCaller (t.ownFlight id) (t.ownLoad id)) (s.callers.filter (Caller.isFor id))
      s'.callers :=
  h.callers.imp fun _ _ h => ⟨h.identifier, h.phase.mono hx⟩

lemma Confined.underway_mono (h : Confined c id s s') (hx : Extends id s t) :
    Option.Rel (t.ownFlight id · = some ·) (Keyed.lookup id s.inFlight)
      (Keyed.lookup id s'.inFlight) := by
  have hu := h.underway
  generalize Keyed.lookup id s.inFlight = g, Keyed.lookup id s'.inFlight = g' at hu
  cases hu with
  | some h => exact .some (hx.flight h)
  | none => exact .none

lemma ne_of_ownFlight_none {fl : Flight} (hf : s.ownFlight id f = none) (hfl : s.flights[f]? = some fl) :
    id ≠ fl.identifier := by
  rintro rfl
  have hown := (place?_eq_none_iff hfl).1 hf
  simp [Flight.isFor] at hown

lemma set_eq_modify {a : Flight} {flights : List Flight} (ha : flights[n]? = some a)
    (g : Flight → Flight) : flights.set n (g a) = flights.modify n g := by
  rw [List.modify_eq_set_getElem?, ha]
  rfl

lemma complete_eq_modify {fl : Flight} (hf : s.flights[f]? = some fl) : s.complete f o = { s with
    flights := s.flights.modify f fun fl => { fl with done := true, channel := fl.channel.send o }
    inFlight := Keyed.erase fl.identifier s.inFlight } := by
  rw [complete_eq hf, ← set_eq_modify hf]

lemma drop_eq_modify {fl : Flight} (hf : s.flights[f]? = some fl) : s.drop f = { s with
    flights := s.flights.modify f fun fl => { fl with channel := fl.channel.close }
    inFlight := if fl.done then s.inFlight else Keyed.erase fl.identifier s.inFlight } := by
  cases hd : fl.done with
  | false => rw [drop_eq_of_not_done hf hd, ← set_eq_modify hf, if_neg Bool.false_ne_true]
  | true => rw [drop_eq_of_done hf hd, ← set_eq_modify hf, if_pos rfl]

lemma extends_complete : Extends id s (s.complete f o) := by
  cases hf : s.flights[f]? with
  | none =>
    rw [State.complete, hf]
    exact .of_map rfl rfl
  | some fl =>
    rw [complete_eq_modify hf]
    exact .of_map (map_modify fun _ => rfl) rfl

lemma extends_setProgress : Extends id s (s.setProgress n progress) :=
  .of_map rfl (map_modify fun _ => rfl)

namespace Confined

variable (h : Confined c id s s')

include h

lemma count (stats stats' : Stats) : Confined c id { s with stats } { s' with stats := stats' } :=
  { h with }

lemma setPhase (hk : s.ownCaller id k = some k') (hp : Alike (s.ownFlight id) (s.ownLoad id) p q) :
    Confined c id (s.setPhase k p) (s'.setPhase k' q) :=
  { h with
    callers := by
      have hcallers := filter_modify (f := fun who => { who with phase := p }) (fun _ => rfl) hk
      rw [State.setPhase, hcallers]
      exact forall₂_modify h.callers fun _ _ _ hw => ⟨hw.identifier, hp⟩ }

lemma setPhase_other (hk : s.ownCaller id k = none) :
    Confined c id (s.setPhase k p) s' :=
  { h with
    callers := by
      have hcallers := filter_modify_of_none (f := fun who => { who with phase := p }) (fun _ => rfl) hk
      rw [State.setPhase, hcallers]
      exact h.callers }

lemma startFlight : Confined c id (s.startFlight id) (s'.startFlight id) := by
  have hx : Extends id s (s.startFlight id) := .of_append rfl (List.append_nil _).symm
  refine { h with flights := ?_, callers := h.callers_mono hx, underway := ?_ }
  · rw [State.startFlight, State.startFlight, List.filter_append]
    exact List.rel_append h.flights (by simp [Flight.isFor, SameFlight.refl])
  · simp only [State.startFlight, Keyed.lookup_insert, if_true]
    refine .some ?_
    rw [State.ownFlight, ← h.flights.length_eq]
    exact place?_length (beq_self_eq_true id)

lemma startFlight_other (hne : id' ≠ id) : Confined c id (s.startFlight id') s' := by
  have hx : Extends id s (s.startFlight id') := .of_append rfl (List.append_nil _).symm
  refine { h with flights := ?_, callers := h.callers_mono hx, underway := ?_ }
  · simpa [State.startFlight, Flight.isFor, hne] using h.flights
  · simpa [State.startFlight, Keyed.lookup_insert, hne.symm] using h.underway_mono hx

lemma startLoad : Confined c id (s.startLoad id) (s'.startLoad id) := by
  have hx : Extends id s (s.startLoad id) := .of_append (List.append_nil _).symm rfl
  refine { h with loads := ?_, callers := h.callers_mono hx, underway := h.underway_mono hx }
  simp [State.startLoad, Load.isFor, h.loads]

lemma startLoad_other (hne : id' ≠ id) : Confined c id (s.startLoad id') s' := by
  have hx : Extends id s (s.startLoad id') := .of_append (List.append_nil _).symm rfl
  refine { h with loads := ?_, callers := h.callers_mono hx, underway := h.underway_mono hx }
  simp [State.startLoad, Load.isFor, hne, h.loads]

lemma setProgress (hn : s.ownLoad id n = some n') :
    Confined c id (s.setProgress n progress) (s'.setProgress n' progress) := by
  have hx : Extends id s (s.setProgress n progress) := extends_setProgress
  refine { h with loads := ?_, callers := h.callers_mono hx, underway := h.underway_mono hx }
  rw [State.setProgress, State.setProgress, h.loads]
  exact (filter_modify (f := fun l => { l with progress }) (fun _ => rfl) hn).symm

lemma setProgress_other (hn : s.ownLoad id n = none) :
    Confined c id (s.setProgress n progress) s' := by
  have hx : Extends id s (s.setProgress n progress) := extends_setProgress
  refine { h with loads := ?_, callers := h.callers_mono hx, underway := h.underway_mono hx }
  rw [h.loads]
  exact (filter_modify_of_none (f := fun l => { l with progress }) (fun _ => rfl) hn).symm

lemma flight_of_own (hf : s.ownFlight id f = some f') : ∃ fl fl' : Flight,
    s.flights[f]? = some fl ∧ fl.identifier = id ∧ s'.flights[f']? = some fl' ∧ SameFlight fl fl' := by
  obtain ⟨fl, hfl, hid⟩ := exists_of_place? hf
  obtain ⟨fl', hfl', hsame⟩ := forall₂_getElem? h.flights ((getElem?_filter hf).trans hfl)
  exact ⟨fl, fl', hfl, eq_of_beq hid, hfl', hsame⟩

lemma caller_of_own (hk : s.ownCaller id k = some k') : ∃ p q,
    s.callers[k]? = some ⟨id, p⟩ ∧ s'.callers[k']? = some ⟨id, q⟩ ∧
      Alike (s.ownFlight id) (s.ownLoad id) p q := by
  obtain ⟨⟨id', p⟩, hwho, hid⟩ := exists_of_place? hk
  obtain ⟨⟨id'', q⟩, hwho', hsame, hp⟩ := forall₂_getElem? h.callers ((getElem?_filter hk).trans hwho)
  cases eq_of_beq hid
  cases hsame
  exact ⟨p, q, hwho, hwho', hp⟩

section Change

variable {g g' : Flight → Flight} {table table' : Keyed Nat}
  (hg : ∀ fl, (g fl).identifier = fl.identifier)

include hg

/-- A flight is changed on both sides, and the flight underway stays there or goes. -/
lemma change (hf : s.ownFlight id f = some f')
    (hsame : ∀ fl fl', SameFlight fl fl' → SameFlight (g fl) (g' fl'))
    (htable : Keyed.lookup id table = Keyed.lookup id s.inFlight ∧
        Keyed.lookup id table' = Keyed.lookup id s'.inFlight ∨
      Keyed.lookup id table = none ∧ Keyed.lookup id table' = none) :
    Confined c id { s with flights := s.flights.modify f g, inFlight := table }
      { s' with flights := s'.flights.modify f' g', inFlight := table' } := by
  have hmap : ∀ fl, Flight.isFor id (g fl) = Flight.isFor id fl := fun fl => by simp only [Flight.isFor, hg]
  have hx : Extends id s { s with flights := s.flights.modify f g, inFlight := table } :=
    .of_map (map_modify hmap) rfl
  refine { h with flights := ?_, callers := h.callers_mono hx, underway := ?_ }
  · rw [filter_modify hmap hf]
    exact forall₂_modify h.flights fun fl fl' _ => hsame fl fl'
  · rcases htable with ⟨ht, ht'⟩ | ⟨ht, ht'⟩
    · rw [ht, ht']
      exact h.underway_mono hx
    · rw [ht, ht']
      exact .none

lemma change_other (hf : s.ownFlight id f = none)
    (htable : Keyed.lookup id table = Keyed.lookup id s.inFlight) :
    Confined c id { s with flights := s.flights.modify f g, inFlight := table } s' := by
  have hmap : ∀ fl, Flight.isFor id (g fl) = Flight.isFor id fl := fun fl => by simp only [Flight.isFor, hg]
  have hx : Extends id s { s with flights := s.flights.modify f g, inFlight := table } :=
    .of_map (map_modify hmap) rfl
  refine { h with flights := ?_, callers := h.callers_mono hx, underway := ?_ }
  · rw [filter_modify_of_none hmap hf]
    exact h.flights
  · rw [htable]
    exact h.underway_mono hx

end Change

lemma complete (hf : s.ownFlight id f = some f') (ho : o'.content = o.content) :
    Confined c id (s.complete f o) (s'.complete f' o') := by
  obtain ⟨fl, fl', hfl, hid, hfl', hsame⟩ := h.flight_of_own hf
  rw [complete_eq_modify hfl, complete_eq_modify hfl', hsame.identifier, hid]
  refine h.change (fun _ => rfl) hf (fun fl fl' hsame => ?_) (.inr ?_)
  · exact ⟨hsame.identifier, rfl, congrArg some ho, hsame.closed⟩
  · rw [Keyed.lookup_erase, Keyed.lookup_erase, if_pos rfl, if_pos rfl]
    exact ⟨rfl, rfl⟩

lemma drop (hf : s.ownFlight id f = some f') : Confined c id (s.drop f) (s'.drop f') := by
  obtain ⟨fl, fl', hfl, hid, hfl', hsame⟩ := h.flight_of_own hf
  rw [drop_eq_modify hfl, drop_eq_modify hfl', hsame.identifier, hid, hsame.done]
  refine h.change (fun _ => rfl) hf (fun fl fl' hsame => ?_) ?_
  · exact ⟨hsame.identifier, hsame.done, hsame.sent, rfl⟩
  · cases fl.done with
    | true => exact .inl ⟨rfl, rfl⟩
    | false => exact .inr (by simp [Keyed.lookup_erase])

lemma complete_other (hf : s.ownFlight id f = none) : Confined c id (s.complete f o) s' := by
  cases hfl : s.flights[f]? with
  | none => simpa only [State.complete, hfl] using h
  | some fl =>
    rw [complete_eq_modify hfl]
    refine h.change_other (fun _ => rfl) hf ?_
    rw [Keyed.lookup_erase, if_neg (ne_of_ownFlight_none hf hfl)]

lemma drop_other (hf : s.ownFlight id f = none) : Confined c id (s.drop f) s' := by
  cases hfl : s.flights[f]? with
  | none => simpa only [State.drop, hfl] using h
  | some fl =>
    rw [drop_eq_modify hfl]
    refine h.change_other (fun _ => rfl) hf ?_
    split
    · rfl
    · rw [Keyed.lookup_erase, if_neg (ne_of_ownFlight_none hf hfl)]

lemma store (hl : l'.definition = l.definition) :
    Confined c id (s.store c id l) (s'.store c id l') :=
  { h with
    served := fun n _ => by
      have hx : c.isExpired n ⟨l', s.now⟩ = c.isExpired n ⟨l, s.now⟩ := rfl
      rw [State.store, State.store, find_store_self, find_store_self, h.now, hx]
      split
      · rfl
      · exact congrArg some hl }

lemma store_other (ho : Keyed.Ordered s.entries) (hne : id' ≠ id)
    (hroom : (s.entries.purge c s.now).length < c.capacity ∨
      Keyed.contains id' (s.entries.purge c s.now) = true) : Confined c id (s.store c id' l) s' :=
  { h with
    served := fun n hn => by
      rw [State.store, find_store_of_ne ho hne.symm (show s.now ≤ n from hn) hroom]
      exact h.served n hn }

lemma arrive : Confined c id { s with callers := s.callers ++ [⟨id, .arriving⟩] }
    { s' with callers := s'.callers ++ [⟨id, .arriving⟩] } :=
  { h with
    callers := by
      rw [List.filter_append]
      refine List.rel_append h.callers ?_
      simpa [Caller.isFor] using SameCaller.mk rfl .arriving }

lemma arrive_other (hne : id' ≠ id) :
    Confined c id { s with callers := s.callers ++ [⟨id', .arriving⟩] } s' :=
  { h with callers := by simpa [Caller.isFor, hne] using h.callers }

lemma invalidate : Confined c id { s with entries := Keyed.erase id s.entries }
    { s' with entries := Keyed.erase id s'.entries } :=
  { h with served := fun n _ => by simp [Entries.find, Keyed.lookup_erase] }

lemma invalidate_other (hne : id' ≠ id) :
    Confined c id { s with entries := Keyed.erase id' s.entries } s' :=
  { h with
    served := fun n hn => by
      have hfind : Entries.find c n id (Keyed.erase id' s.entries) = s.entries.find c n id := by
        rw [Entries.find, Keyed.lookup_erase, if_neg hne.symm, Entries.find]
      rw [hfind]
      exact h.served n hn }

lemma pass : Confined c id { s with now := s.now + n } { s' with now := s'.now + n } :=
  { h with
    now := congrArg (· + n) h.now
    served := fun m hm => h.served m ((Nat.le_add_right _ _).trans hm) }

end Confined

/-- An event as those see it who ask for one identifier. -/
def State.confine (id : String) (s : State) : Event → Option Event
  | .arrive id' => if id' = id then some (.arrive id) else none
  | .proceed k => (s.ownCaller id k).map .proceed
  | .answer k result => (s.ownCaller id k).map (.answer · result)
  | .expire k => (s.ownCaller id k).map .expire
  | .cancel k => (s.ownCaller id k).map .cancel
  | .peek id' => if id' = id then some (.peek id) else none
  | .invalidate id' => if id' = id then some (.invalidate id) else none
  | .pass n => some (.pass n)

namespace Confined

lemma find (h : Confined c id s s') :
    (s'.find c id).map (·.definition) = (s.find c id).map (·.definition) := by
  rw [State.find, State.find, h.now]
  exact h.served s.now (Nat.le_refl _)

lemma find_some (h : Confined c id s s') (hl : s.find c id = some l) :
    ∃ l', s'.find c id = some l' ∧ l'.definition = l.definition := by
  have hf := h.find
  rw [hl] at hf
  exact Option.map_eq_some_iff.1 hf

lemma find_none (h : Confined c id s s') (hl : s.find c id = none) : s'.find c id = none := by
  have hf := h.find
  rw [hl] at hf
  exact Option.map_eq_none_iff.1 hf

lemma underway_some (h : Confined c id s s') (hf : Keyed.lookup id s.inFlight = some f) :
    ∃ f', Keyed.lookup id s'.inFlight = some f' ∧ s.ownFlight id f = some f' := by
  have hrel := h.underway
  rw [hf] at hrel
  generalize Keyed.lookup id s'.inFlight = g at hrel
  cases hrel with
  | some hown => exact ⟨_, rfl, hown⟩

lemma underway_none (h : Confined c id s s') (hf : Keyed.lookup id s.inFlight = none) :
    Keyed.lookup id s'.inFlight = none := by
  have hrel := h.underway
  rw [hf] at hrel
  generalize Keyed.lookup id s'.inFlight = g at hrel
  cases hrel
  rfl

lemma receive_some (h : Confined c id s s') (hown : s.ownFlight id f = some f') {fl : Flight}
    (hf : s.flights[f]? = some fl) (hr : fl.channel.receive = some (some o)) : ∃ (fl' : Flight) (o' : Outcome),
      s'.flights[f']? = some fl' ∧ fl'.channel.receive = some (some o') ∧ o'.content = o.content := by
  obtain ⟨_, fl', hfl, -, hf', hsame⟩ := h.flight_of_own hown
  cases hf.symm.trans hfl
  have hsent := hsame.sent
  rw [receive_eq_some_iff.1 hr] at hsent
  obtain ⟨o', hsent', ho⟩ := Option.map_eq_some_iff.1 hsent
  exact ⟨fl', o', hf', receive_eq_some_iff.2 hsent', ho⟩

lemma receive_none (h : Confined c id s s') (hown : s.ownFlight id f = some f') {fl : Flight}
    (hf : s.flights[f]? = some fl) (hr : fl.channel.receive = some none) :
    ∃ fl' : Flight, s'.flights[f']? = some fl' ∧ fl'.channel.receive = some none := by
  obtain ⟨_, fl', hfl, -, hf', hsame⟩ := h.flight_of_own hown
  cases hf.symm.trans hfl
  obtain ⟨hsent, hclosed⟩ := receive_eq_none_iff.1 hr
  have hsent' := hsame.sent
  rw [hsent] at hsent'
  exact ⟨fl', hf', receive_eq_none_iff.2 ⟨Option.map_eq_none_iff.1 hsent', hsame.closed.trans hclosed⟩⟩

lemma miscarry (h : Confined c id s s') (hf : s.ownFlight id f = some f') (hn : s.ownLoad id n = some n')
    (err : LookupError) :
    Confined c id (s.miscarry f n progress err).1 (s'.miscarry f' n' progress err).1 ∧
      Alike ((s.miscarry f n progress err).1.ownFlight id) ((s.miscarry f n progress err).1.ownLoad id)
        (s.miscarry f n progress err).2 (s'.miscarry f' n' progress err).2 :=
  ⟨(h.setProgress hn).complete hf rfl, .leaving (extends_complete.flight hf) rfl⟩

lemma answer (h : Confined c id s s') (hf : s.ownFlight id f = some f') (hn : s.ownLoad id n = some n')
    (result : LoadResult) :
    Confined c id (s.answer id f n result).1 (s'.answer id f' n' result).1 ∧
      Alike ((s.answer id f n result).1.ownFlight id) ((s.answer id f n result).1.ownLoad id)
        (s.answer id f n result).2 (s'.answer id f' n' result).2 := by
  cases result with
  | ok found =>
    cases found with
    | some d => exact ⟨h.setProgress hn, .storing hf rfl⟩
    | none => exact h.miscarry hf hn _
  | error err => exact (h.count s.countFailure.stats s'.countFailure.stats).miscarry hf hn _

end Confined

section Acts

variable (h : Confined c id s s') (hu : Coherent s) (hk : s.callers[k]? = some ⟨id', p⟩)
  (ha : Act c endpoint s k id' e p t p')

include h hu hk ha

/-- What a caller for another identifier does is nothing to those who ask for this one. -/
lemma Confined.act_other (hloading : Loading s) (ho : Keyed.Ordered s.entries) (hne : id' ≠ id)
    (hroom : (s.entries.purge c s.now).length < c.capacity ∨
      Keyed.contains id' (s.entries.purge c s.now) = true) :
    Confined c id (t.setPhase k p') s' := by
  have hcaller : t.ownCaller id k = none := by
    rw [State.ownCaller, act_callers ha, place?_eq_none_iff hk]
    exact beq_false_of_ne hne
  have hflight : ∀ {f}, (∃ fl : Flight, s.flights[f]? = some fl ∧ fl.identifier = id') →
      s.ownFlight id f = none := by
    rintro f ⟨fl, hf, rfl⟩
    exact (place?_eq_none_iff hf).2 (beq_false_of_ne hne)
  have hled : ∀ {f}, p.flight? = some f → s.ownFlight id f = none :=
    fun hp => hflight ⟨_, hu.underway (leads_of_phase hk hp), rfl⟩
  refine setPhase_other ?_ hcaller
  cases ha with
  | hit => exact h.count _ _
  | miss => exact h.count _ _
  | lead => exact h.startFlight_other hne
  | begin => exact h.startLoad_other hne
  | @finish _ f load since result _ _ he hr =>
    have hload : s.ownLoad id load = none :=
      (place?_eq_none_iff (hloading.running hk)).2 (beq_false_of_ne hne)
    rcases answer_eq_iff.1 hr with ⟨d, -, rfl, -⟩ | ⟨-, rfl, -⟩ | ⟨err, -, rfl, -⟩
    · exact h.setProgress_other hload
    · exact (h.setProgress_other hload).complete_other (hled rfl)
    · exact ((h.count s.countFailure.stats s'.stats).setProgress_other hload).complete_other (hled rfl)
  | store => exact h.store_other ho hne hroom
  | land => exact h.complete_other (hled rfl)
  | leave =>
    obtain ⟨fl, hf, hid, -⟩ := hu.left hk
    exact h.drop_other (hflight ⟨fl, hf, hid⟩)
  | quitLeading => exact h.drop_other (hled rfl)
  | quitLoading =>
    have hload : s.ownLoad id _ = none :=
      (place?_eq_none_iff (hloading.running hk)).2 (beq_false_of_ne hne)
    exact (h.setProgress_other hload).drop_other (hled rfl)
  | quitStoring => exact h.drop_other (hled rfl)
  | _ => exact h

end Acts

lemma Ends.confine {result : LoadResult} {since : Nat} (he : Ends c endpoint s k since e result)
    (hnow : s'.now = s.now) (hcaller : s.ownCaller id k = some k') :
    ∃ e', s.confine id e = some e' ∧ Ends c endpoint s' k' since e' result := by
  cases he with
  | answer => exact ⟨.answer k' result, congrArg (Option.map (Event.answer · result)) hcaller, .answer _⟩
  | expire hle => exact ⟨.expire k', congrArg (Option.map Event.expire) hcaller, .expire (hnow ▸ hle)⟩

/-- What a caller for the identifier does, the one who stands for it on the other side does as well. -/
lemma Confined.act (h : Confined c id s s') (hcaller : s.ownCaller id k = some k')
    (hp : Alike (s.ownFlight id) (s.ownLoad id) p q) (ha : Act c endpoint s k id e p t p') :
    ∃ e' t' q', s.confine id e = some e' ∧ Act c endpoint s' k' id e' q t' q' ∧ Confined c id t t' ∧
      Alike (t.ownFlight id) (t.ownLoad id) p' q' := by
  have hproceed : s.confine id (.proceed k) = some (.proceed k') := congrArg (Option.map _) hcaller
  have hcancel : s.confine id (.cancel k) = some (.cancel k') := congrArg (Option.map _) hcaller
  cases ha with
  | hit hf =>
    cases hp
    obtain ⟨l', hl, hd⟩ := h.find_some hf
    exact ⟨_, _, _, hproceed, .hit hl, h.count _ _, .answered (congrArg Except.ok hd)⟩
  | miss hf =>
    cases hp
    exact ⟨_, _, _, hproceed, .miss (h.find_none hf), h.count _ _, .joining⟩
  | follow hf =>
    cases hp
    obtain ⟨f', hf', hown⟩ := h.underway_some hf
    exact ⟨_, _, _, hproceed, .follow hf', h, .following hown⟩
  | lead hf =>
    cases hp
    refine ⟨_, _, _, hproceed, .lead (h.underway_none hf), h.startFlight, .leading ?_⟩
    rw [← h.flights.length_eq]
    exact place?_length (beq_self_eq_true id)
  | learn hf hr =>
    cases hp with | following hown =>
    obtain ⟨fl', o', hf', hr', ho⟩ := h.receive_some hown hf hr
    exact ⟨_, _, _, hproceed, .learn hf' hr', h, .answered ho⟩
  | lose hf hr =>
    cases hp with | following hown =>
    obtain ⟨fl', hf', hr'⟩ := h.receive_none hown hf hr
    exact ⟨_, _, _, hproceed, .lose hf' hr', h, .returning⟩
  | findAgain hf =>
    cases hp
    obtain ⟨l', hl, hd⟩ := h.find_some hf
    exact ⟨_, _, _, hproceed, .findAgain hl, h, .answered (congrArg Except.ok hd)⟩
  | missAgain hf =>
    cases hp
    exact ⟨_, _, _, hproceed, .missAgain (h.find_none hf), h, .joining⟩
  | confirm hf =>
    cases hp with | leading hown =>
    obtain ⟨l', hl, hd⟩ := h.find_some hf
    exact ⟨_, _, _, hproceed, .confirm hl, h, .landing hown hd⟩
  | want hf =>
    cases hp with | leading hown =>
    exact ⟨_, _, _, hproceed, .want (h.find_none hf), h, .fetching hown⟩
  | begin =>
    cases hp with | fetching hown =>
    refine ⟨_, _, _, hproceed, .begin, h.startLoad, ?_⟩
    rw [h.now, h.loads]
    exact .loading hown (place?_length (beq_self_eq_true id))
  | finish he hr =>
    cases hp with | loading hown hload =>
    obtain ⟨e', hconfine, he'⟩ := he.confine h.now hcaller
    obtain ⟨hc, hq⟩ := hr ▸ h.answer hown hload _
    exact ⟨e', _, _, hconfine, .finish he' rfl, hc, hq⟩
  | store =>
    cases hp with | storing hown hd =>
    exact ⟨_, _, _, hproceed, .store, h.store hd, .landing hown hd⟩
  | land =>
    cases hp with | landing hown hd =>
    have ho : Outcome.content (.ok _) = Outcome.content (.ok _) := congrArg Except.ok hd
    exact ⟨_, _, _, hproceed, .land, h.complete hown ho, .leaving (extends_complete.flight hown) ho⟩
  | leave =>
    cases hp with | leaving hown ho =>
    exact ⟨_, _, _, hproceed, .leave, h.drop hown, .answered ho⟩
  | quitArriving =>
    cases hp
    exact ⟨_, _, _, hcancel, .quitArriving, h, .cancelled⟩
  | quitFollowing =>
    cases hp
    exact ⟨_, _, _, hcancel, .quitFollowing, h, .cancelled⟩
  | quitReturning =>
    cases hp
    exact ⟨_, _, _, hcancel, .quitReturning, h, .cancelled⟩
  | quitLeading =>
    cases hp with | leading hown =>
    exact ⟨_, _, _, hcancel, .quitLeading, h.drop hown, .cancelled⟩
  | quitLoading =>
    cases hp with | loading hown hload =>
    exact ⟨_, _, _, hcancel, .quitLoading, (h.setProgress hload).drop hown, .cancelled⟩
  | quitStoring =>
    cases hp with | storing hown =>
    exact ⟨_, _, _, hcancel, .quitStoring, h.drop hown, .cancelled⟩

end TypedPid.Cache
