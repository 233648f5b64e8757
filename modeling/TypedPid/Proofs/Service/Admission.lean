import TypedPid.Proofs.Service.Traffic
import TypedPid.Proofs.Validation.Independence

/-! Every record in the store was validated by the request that put it there. -/

namespace TypedPid.Service

open Procedure

variable {s : Service} {profileKey : String} {mode : ReportMode} {r r₀ : Record}
  {past : List (Traffic × Event)} {w : Traffic} {log : List Taken} {action : Action}

/-- What becomes of the record of a request from its validation to its storing, and what the request
does in between. -/
inductive Carried : Request → Record → List Taken → Record → Prop
  | minted {r : Record} (text : String) : r.pid = "" →
      Carried (.register r false) r [⟨.mint, text⟩] (r.setPid (Store.pidPrefix ++ text))
  | free {r : Record} : r.pid ≠ "" →
      Carried (.register r false) r [⟨.store (.isRegistered r.pid), false⟩] r
  | replacing {r : Record} : Carried (.update r) r [] r

def IsLookup (action : Action) : Prop := ∃ identifier, action = .lookup identifier

lemma within_checkProfiles (found : List Violation) (listed : List (Option String)) :
    Within IsLookup (Validation.checkProfiles lookup profileKey mode r found listed) := by
  induction listed generalizing found with
  | nil => exact .done _
  | cons l listed ih =>
    refine Within.bind ?_ fun answer => ?_
    · cases l with
      | none => exact .done _
      | some identifier => exact .ask ⟨identifier, rfl⟩ fun _ => .done _
    · split
      · exact .done _
      · split
        · exact .done _
        · exact ih _

lemma within_validate (s : Service) (r : Record) : Within IsLookup (s.validate r) := by
  unfold validate
  split
  · exact .done _
  · unfold Validation.validate
    dsimp only
    split
    · exact .done _
    · split
      · exact .done _
      · refine Within.bind (within_checkProfiles _ _) fun result => ?_
        split <;> exact .done _

lemma enter_eq (r : Record) : enter r = .ask (.store (.register r)) fun answer =>
    match answer with
    | .ok _ => .done (.ok r)
    | .error e => .done (.error (.store e)) := rfl

lemma accept_of_pid_eq (h : r.pid = "") :
    accept r = .ask .mint fun text => enter (r.setPid (Store.pidPrefix ++ text)) := by
  rw [accept, if_pos h]
  rfl

lemma accept_of_pid_ne (h : r.pid ≠ "") :
    accept r = .ask (.store (.isRegistered r.pid)) fun registered =>
      if registered then .done (.error (.store (.alreadyExists r.pid))) else enter r := by
  rw [accept, if_neg h]
  rfl

lemma enter_reaches {next : action.Answer → Procedure (Except ServiceError Record)}
    (h : Reaches (enter r₀) log (.ask action next)) (hw : Writes r action) : log = [] ∧ r = r₀ := by
  rw [enter_eq, reaches_ask] at h
  rcases h with ⟨rfl, heq⟩ | ⟨answer, log, rfl, h⟩
  · cases heq
    cases hw
    exact ⟨rfl, rfl⟩
  · split at h <;> cases h

lemma accept_reaches {next : action.Answer → Procedure (Except ServiceError Record)}
    (h : Reaches (accept r₀) log (.ask action next)) (hw : Writes r action) :
    Carried (.register r₀ false) r₀ log r := by
  by_cases hp : r₀.pid = ""
  · rw [accept_of_pid_eq hp, reaches_ask] at h
    rcases h with ⟨-, heq⟩ | ⟨text, log, rfl, h⟩
    · cases heq
      cases hw
    · obtain ⟨rfl, rfl⟩ := enter_reaches h hw
      exact .minted text hp
  · rw [accept_of_pid_ne hp, reaches_ask] at h
    rcases h with ⟨-, heq⟩ | ⟨registered, log, rfl, h⟩
    · cases heq
      cases hw
    · cases registered with
      | true => cases h
      | false =>
        obtain ⟨rfl, rfl⟩ := enter_reaches h hw
        exact .free hp

lemma validate_reaches {α : Type} {f : Except ValidationError Unit → Procedure α}
    {next : action.Answer → Procedure α} (h : Reaches (s.validate r₀ >>= f) log (.ask action next))
    (hw : Writes r action) : ∃ verdict checks between, log = checks ++ between ∧
      Reaches (s.validate r₀) checks (.done verdict) ∧
      Reaches (f verdict) between (.ask action next) := by
  rcases reaches_bind h with ⟨action', next', hv, heq⟩ | ⟨verdict, checks, between, hl, hv, hf⟩
  · cases heq
    obtain ⟨identifier, rfl⟩ := (within_validate s r₀).allows hv
    cases hw
  · exact ⟨verdict, checks, between, hl, hv, hf⟩

lemma handle_reaches {q : Request} {next : action.Answer → Procedure q.Answer}
    (h : Reaches (s.handle q) log (.ask action next)) (hw : Writes r action) :
    ∃ checks between r₀, log = checks ++ between ∧
      Reaches (s.validate r₀) checks (.done (.ok ())) ∧ Carried q r₀ between r := by
  cases q with
  | register r₀ dryRun =>
    obtain ⟨verdict, checks, between, rfl, hv, hf⟩ := validate_reaches h hw
    cases verdict with
    | error e => cases hf
    | ok u =>
      cases dryRun with
      | true => cases hf
      | false => exact ⟨checks, between, r₀, rfl, hv, accept_reaches hf hw⟩
  | update r₀ =>
    obtain ⟨verdict, checks, between, rfl, hv, hf⟩ := validate_reaches h hw
    cases verdict with
    | error e => cases hf
    | ok u =>
      rcases reaches_bind hf with ⟨action', next', hs, heq⟩ | ⟨updated, _, _, _, _, hf⟩
      · cases heq
        rcases reaches_ask.1 hs with ⟨rfl, heq⟩ | ⟨_, _, _, hd⟩
        · cases heq
          cases hw
          exact ⟨checks, [], r, rfl, hv, .replacing⟩
        · cases hd
      · cases updated <;> cases hf
  | resolve pid =>
    have hn : Within (¬ Writes r ·) (resolve pid) := .ask (by rintro ⟨⟩) fun _ => .done _
    exact absurd hw (hn.allows h)
  | view pid typeIdentifier =>
    have hn : Within (¬ Writes r ·) (view pid typeIdentifier) := by
      refine .ask (by rintro ⟨⟩) fun found => ?_
      cases found with
      | error e => exact .done _
      | ok d => exact .ask (by rintro ⟨⟩) fun _ => .done _
    exact absurd hw (hn.allows h)
  | delete pid =>
    have hn : Within (¬ Writes r ·) (delete pid) := .ask (by rintro ⟨⟩) fun _ => .done _
    exact absurd hw (hn.allows h)
  | list =>
    have hn : Within (¬ Writes r ·) list := .ask (by rintro ⟨⟩) fun _ => .done _
    exact absurd hw (hn.allows h)

/-- Every record in the store is one that a request brought and that was found valid earlier in the
same request; since then at most an empty identifier was replaced by one that was made. Under the
strict strategy the same answers make the stored record itself valid, because validity does not
depend on the identifier. -/
theorem Run.stored_was_validated (h : Run s past w) :
    (∀ k r, Keyed.lookup k w.store.records = some r → r.pid = k ∧
      ∃ q checks between r₀, StoredBy past q (checks ++ between) r ∧
        Reaches (s.validate r₀) checks (.done (.ok ())) ∧ Carried q r₀ between r ∧
        (s.strategy = .strict →
          Reaches (Validation.validate lookup s.profileKey s.mode r) checks (.done (.ok ())))) ∧
    ∀ profileKey mode r pid log,
      Reaches (Validation.validate lookup profileKey mode (r.setPid pid)) log (.done (.ok ())) ↔
        Reaches (Validation.validate lookup profileKey mode r) log (.done (.ok ())) := by
  have hpid : ∀ profileKey mode r pid log,
      Reaches (Validation.validate lookup profileKey mode (r.setPid pid)) log (.done (.ok ())) ↔
        Reaches (Validation.validate lookup profileKey mode r) log (.done (.ok ())) := by
    intro profileKey mode r pid log
    rw [Validation.validate_setPid, reaches_map_done]
    constructor
    · rintro ⟨verdict, hv, heq⟩
      cases verdict with
      | ok u => exact hv
      | error e => cases heq
    · intro hv
      exact ⟨.ok (), hv, rfl⟩
  refine ⟨fun k r hk => ?_, hpid⟩
  obtain ⟨hp, q, taken, hs⟩ := h.storedBy hk
  have ⟨v, i, outside, action, next, hv, hi, hw, _⟩ := hs
  obtain ⟨past', hrun⟩ := h.before hv
  obtain ⟨checks, between, r₀, rfl, hval, hc⟩ := handle_reaches (Run.reaches hrun hi) hw
  refine ⟨hp, q, checks, between, r₀, hs, hval, hc, fun hstrict => ?_⟩
  have hval' : Reaches (Validation.validate lookup s.profileKey s.mode r₀) checks
      (.done (.ok ())) := by
    simpa only [validate, hstrict] using hval
  cases hc with
  | minted text => exact (hpid _ _ _ _ _).2 hval'
  | free => exact hval'
  | replacing => exact hval'

/-- Every type is an open one, and `text` is what identifiers are made of. -/
def fromOutside (text : String) : (action : Action) → action.Answer
  | .lookup identifier => .ok ⟨identifier, none, none, none, true, []⟩
  | .mint => text
  | .store o => (Store.perform {} o).1
  | .report => ⟨"registry", 0, {}⟩

def listing (pid : String) : Record := ⟨pid, [("profile", [⟨"profile", none, some "a"⟩])]⟩

/-- A record without an identifier and one with its own are registered at the same time, and the
latter is replaced then. -/
def sideBySide : List Event :=
  [.arrive (.register (listing "") false), .arrive (.register (listing "own") false),
    .proceed 0 (fromOutside ""), .proceed 1 (fromOutside ""), .proceed 0 (fromOutside "1"),
    .proceed 1 (fromOutside ""), .proceed 1 (fromOutside ""), .proceed 0 (fromOutside ""),
    .arrive (.update (listing "own")), .proceed 2 (fromOutside ""), .proceed 2 (fromOutside "")]

theorem Run.stored_was_validated_sideBySide :
    ∃ past w, Run ⟨"profile", .failFast, .strict⟩ past w ∧
      Keyed.lookup "sandboxed/1" w.store.records = some (listing "sandboxed/1") ∧
      ∃ q checks between r₀, StoredBy past q (checks ++ between) (listing "sandboxed/1") ∧
        Reaches (validate ⟨"profile", .failFast, .strict⟩ r₀) checks (.done (.ok ())) ∧
        Carried q r₀ between (listing "sandboxed/1") ∧
        Reaches (Validation.validate lookup "profile" .failFast (listing "sandboxed/1")) checks
          (.done (.ok ())) := by
  have hr : Run ⟨"profile", .failFast, .strict⟩ _ _ :=
    .replay .start (rfl : replay _ [] _ sideBySide = some (_, _))
  obtain ⟨-, q, checks, between, r₀, hs, hv, hc, hstrict⟩ :=
    hr.stored_was_validated.1 "sandboxed/1" (listing "sandboxed/1") rfl
  exact ⟨_, _, hr, rfl, q, checks, between, r₀, hs, hv, hc, hstrict rfl⟩

end TypedPid.Service
