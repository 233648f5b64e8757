import TypedPid.Proofs.Api.Availability
import TypedPid.Proofs.Registry.Loading
import TypedPid.Proofs.TypeDocument.Roundtrip

/-!
Whose definitions are kept, returned and validated against: under an identifier there is never the
definition of another one, from the answer of the registry to the violations that a record is told of.
-/

namespace TypedPid

/-- The profile that a violation names as the one not kept to. -/
def Violation.profile? : Violation → Option String
  | .missingMandatoryAttribute _ profile => some profile
  | .attributeNotAllowed _ profile => some profile
  | _ => none

section Validation

open Procedure Validation

variable {profileKey pid reason p : String} {mode : ReportMode} {r : Record} {profile : TypeDefinition}
  {v : Violation} {log : List Taken} {listed : Option String} {found violations : List Violation}
  {s : Service}

lemma profile_of_checkProfile (hv : v ∈ checkProfile profileKey r profile) (hp : v.profile? = some p) :
    p = profile.identifier := by
  rcases List.mem_append.1 hv with hv | hv
  · obtain ⟨a, -, rfl⟩ := List.mem_map.1 hv
    exact (Option.some.inj hp).symm
  · obtain ⟨a, -, hv⟩ := List.mem_flatMap.1 hv
    unfold checkAttribute at hv
    split at hv
    · obtain ⟨value, -, hv⟩ := List.mem_filterMap.1 hv
      cases value with
      | none =>
        cases hv
        cases hp
      | some text =>
        simp only [checkValue, Option.ite_none_left_eq_some, Option.some.injEq] at hv
        rw [← hv.2] at hp
        cases hp
    · split at hv
      · cases hv
      · obtain rfl := List.mem_singleton.1 hv
        exact (Option.some.inj hp).symm

/-- What was looked up is what was asked for. -/
def Honest (log : List Taken) : Prop := ∀ identifier profile,
  (⟨.lookup identifier, .ok profile⟩ : Taken) ∈ log → profile.identifier = identifier

lemma listed_of_checkListed (hlog : Honest log)
    (h : Reaches (checkListed Service.lookup profileKey r listed) log (.done (.ok violations)))
    (hv : v ∈ violations) (hp : v.profile? = some p) : listed = some p := by
  cases listed with
  | none =>
    obtain ⟨-, heq⟩ := reaches_done.1 h
    cases heq
    obtain rfl := List.mem_singleton.1 hv
    cases hp
  | some identifier =>
    obtain ⟨answer, ha, heq⟩ := reaches_map_done.1 h
    obtain ⟨answer', rfl, rfl⟩ := reaches_ask_done ha
    rcases answer with (unknown | e) | profile
    · cases heq
      obtain rfl := List.mem_singleton.1 hv
      cases hp
    · cases heq
    · cases heq
      rw [profile_of_checkProfile hv hp, hlog identifier profile List.mem_cons_self]

/-- A search for faults blames only profiles among those that it goes through. -/
lemma listed_of_checkProfiles {profiles : List (Option String)} (hlog : Honest log)
    (h : Reaches (checkProfiles Service.lookup profileKey mode r found profiles) log
      (.done (.ok violations))) (hv : v ∈ violations) (hp : v.profile? = some p) :
    v ∈ found ∨ some p ∈ profiles := by
  induction profiles generalizing found log with
  | nil =>
    obtain ⟨-, heq⟩ := reaches_done.1 h
    cases heq
    exact .inl hv
  | cons listed profiles ih =>
    simp only [checkProfiles] at h
    rcases reaches_bind h with ⟨_, _, -, heq⟩ | ⟨judged, log₁, log₂, rfl, hj, hf⟩
    · cases heq
    cases judged with
    | error e =>
      obtain ⟨-, heq⟩ := reaches_done.1 hf
      cases heq
    | ok faults =>
      have hfaults : v ∈ faults → some p ∈ listed :: profiles := fun hv => by
        have hlog₁ : Honest log₁ := fun _ _ ht => hlog _ _ (List.mem_append_left _ ht)
        rw [listed_of_checkListed hlog₁ hj hv hp]
        exact List.mem_cons_self
      dsimp only at hf
      split at hf
      · obtain ⟨-, heq⟩ := reaches_done.1 hf
        cases heq
        exact .inr (hfaults (List.mem_of_mem_take hv))
      · rcases ih (fun _ _ ht => hlog _ _ (List.mem_append_right _ ht)) hf with hv | hm
        · exact (List.mem_append.1 hv).imp_right hfaults
        · exact .inr (List.mem_cons_of_mem _ hm)

/-- A record is rejected for its profile attribute, or for what the search for faults comes upon. -/
lemma violations_of_rejected
    (h : Reaches (s.validate r) log (.done (.error (.rejected pid reason)))) :
    ∃ violations, reason = Violation.reason violations ∧
      (violations = [.missingProfileAttribute s.profileKey] ∨
        violations = [.emptyProfileAttribute s.profileKey] ∨
        Reaches (checkProfiles Service.lookup s.profileKey s.mode r [] (r.values s.profileKey)) log
          (.done (.ok violations))) := by
  unfold Service.validate at h
  split at h
  · cases (reaches_done.1 h).2
  unfold Validation.validate at h
  dsimp only at h
  split at h
  · cases (reaches_done.1 h).2
    exact ⟨_, rfl, .inl rfl⟩
  split at h
  · cases (reaches_done.1 h).2
    exact ⟨_, rfl, .inr (.inl rfl)⟩
  rcases reaches_bind h with ⟨_, _, -, heq⟩ | ⟨result, log₁, log₂, rfl, hc, hf⟩
  · cases heq
  split at hf
  · have hheeds := (Service.heeds_checkProfiles hc).1
    cases (reaches_done.1 hf).2
    obtain ⟨e, he⟩ := hheeds.error _ rfl
    cases hheeds.outage e he
  · cases (reaches_done.1 hf).2
  · obtain ⟨rfl, heq⟩ := reaches_done.1 hf
    cases heq
    rw [List.append_nil]
    exact ⟨_, rfl, .inr (.inr hc)⟩

end Validation

section Runs

open Procedure Validation

variable {r : Registry} {c : Cache.Config} {past : List (Cache.State × Cache.Event)} {st : Cache.State}
  {identifier text : String} {l : Cache.Loaded} {log : List Taken}

/-- Every load in a run was answered by a client of the registry. -/
def Registry.Answers (r : Registry) (past : List (Cache.State × Cache.Event)) : Prop :=
  ∀ (t : Cache.State) (k : Nat) result, (t, .answer k result) ∈ past →
    ∀ identifier f load since, t.callers[k]? = some ⟨identifier, .loading f load since⟩ →
      ∃ exchange, result = r.reply exchange identifier

lemma identifier_of_delivered (hw : r.base.scheme = "http" ∨ r.base.scheme = "https")
    (ha : r.Answers past) (h : Cache.Delivered past identifier l) : l.definition.identifier = identifier := by
  obtain ⟨t, k, f, n, ht, hk⟩ := h
  obtain ⟨exchange, hreply⟩ := ha t k _ ht identifier f l.load n hk
  obtain ⟨-, -, -, -, -, -, -, -, -, -, hid⟩ := (Registry.reply_eq_some_iff hw).1 hreply.symm
  exact hid

lemma honest_of_served {endpoint : String} (hw : r.base.scheme = "http" ∨ r.base.scheme = "https")
    (hr : Cache.Run c endpoint past st) (ha : r.Answers past) (hs : Service.Served log st) :
    Honest log := by
  intro identifier profile ht
  obtain ⟨k, o, hk, heq⟩ := hs identifier _ ht
  cases o with
  | ok l =>
    cases heq
    exact identifier_of_delivered hw ha (hr.sourced.held hk rfl)
  | error failure => cases heq

/-- Whatever is answered to a client of a registry of the web, it comes to a definition only if the
answer is one of that identifier, to nothing only if there can be or is no such object, and else to an
error that says where. So what a cache in front of it keeps, shows and answers under an identifier has
that identifier, and what validation against it blames on a profile is blamed on one that is listed. -/
theorem Registry.reply_identified (hbase : Url.ofText? text = .ok r.base)
    (hw : r.base.scheme = "http" ∨ r.base.scheme = "https") :
    (∀ exchange identifier,
      (∀ d, r.reply exchange identifier = .ok (some d) ↔ ∃ url status body,
        r.objectUrl? identifier = some url ∧ exchange url = .answered status body ∧ 200 ≤ status ∧
          status < 300 ∧ ∃ document, TypeDocument.ofSource body = .ok document ∧
            document.toDefinition = .ok d ∧ d.identifier = identifier) ∧
      (r.reply exchange identifier = .ok none ↔
        (∃ part ∈ parts identifier, part = "" ∨ part = "." ∨ part = "..") ∨
          ∃ url body, r.objectUrl? identifier = some url ∧ exchange url = .answered 404 body) ∧
      ∀ e, r.reply exchange identifier = .error e → e.endpoint = r.endpoint ∧
        ∃ rest, e.message = "type registry at " ++ r.endpoint ++ rest) ∧
    ∀ c past st, Cache.Run c r.endpoint past st → r.Answers past →
      (∀ identifier stored, (identifier, stored) ∈ st.entries →
        stored.loaded.definition.identifier = identifier) ∧
      (∀ identifier l, st.find c identifier = some l → l.definition.identifier = identifier) ∧
      (∀ (k : Nat) identifier l, st.callers[k]? = some ⟨identifier, .answered (.ok l)⟩ →
        l.definition.identifier = identifier) ∧
      ∀ (s : Service) record log pid reason, Service.Served log st →
        Reaches (s.validate record) log (.done (.error (.rejected pid reason))) →
        ∃ violations, reason = Violation.reason violations ∧
          (violations = [.missingProfileAttribute s.profileKey] ∨
            violations = [.emptyProfileAttribute s.profileKey] ∨
            Reaches (checkProfiles Service.lookup s.profileKey s.mode record []
              (record.values s.profileKey)) log (.done (.ok violations))) ∧
          ∀ v ∈ violations, ∀ p, v.profile? = some p → some p ∈ record.values s.profileKey := by
  refine ⟨fun exchange identifier => ⟨fun d => reply_eq_some_iff hw, reply_eq_none_iff hbase hw, ?_⟩, ?_⟩
  · intro e he
    have hend := endpoint_of_reply hw he
    exact ⟨hend, hend ▸ e.message_eq⟩
  · intro c past st hr ha
    refine ⟨fun identifier stored hm => ?_, fun identifier l hf => ?_, fun k identifier l hk => ?_, ?_⟩
    · exact identifier_of_delivered hw ha (hr.sourced.kept hm)
    · exact identifier_of_delivered hw ha (hr.sourced.delivered_of_find hf)
    · exact identifier_of_delivered hw ha (hr.sourced.held hk rfl)
    · intro s record log pid reason hs h
      obtain ⟨violations, hreason, hfound⟩ := violations_of_rejected h
      refine ⟨violations, hreason, hfound, fun v hv p hp => ?_⟩
      rcases hfound with rfl | rfl | hc
      · obtain rfl := List.mem_singleton.1 hv
        cases hp
      · obtain rfl := List.mem_singleton.1 hv
        cases hp
      · exact (listed_of_checkProfiles (honest_of_served hw hr ha hs) hc hv hp).resolve_left List.not_mem_nil

def loopback : Registry where
  base := { scheme := "http", host := some (.v6 ⟨[0, 0, 0, 0, 0, 0, 0, 1]⟩), path := .segments [""] }
  timeout := .ofSeconds 5

/-- A profile with one mandatory attribute, as it is published. -/
def documentP : TypeDocument :=
  ⟨"p", none, none, none, false, [⟨true, ⟨"a", none, none, none, false, []⟩⟩]⟩

/-- Every request is answered with one profile. -/
def answerP (_ : Url) : Exchange := .answered 200 (.ofString documentP.toJson.text)

def profileP : TypeDefinition :=
  ⟨"p", none, none, none, false, [("a", ⟨true, ⟨"a", none, none, none, false, []⟩⟩)]⟩

def ofProfileP : Record := ⟨"r", [("profile", [⟨"profile", none, some "p"⟩])]⟩

/-- A caller loads `p`, stores it and answers with it. -/
def loadP : List Cache.Event :=
  [.arrive "p", .proceed 0, .proceed 0, .proceed 0, .proceed 0, .answer 0 (.ok (some profileP)),
    .proceed 0, .proceed 0, .proceed 0]

theorem Registry.reply_identified_loopback :
    (loopback.reply answerP "p" = .ok (some profileP) ∧
      ∃ e, loopback.reply answerP "q" = .error e ∧ e.endpoint = loopback.endpoint) ∧
    ∃ past st, Cache.Run {} loopback.endpoint past st ∧
      (∃ l, st.callers[0]? = some ⟨"p", .answered (.ok l)⟩ ∧ l.definition.identifier = "p") ∧
      ∃ log, Service.Served log st ∧ ∃ reason,
        Reaches (Service.validate ⟨"profile", .failFast, .strict⟩ ofProfileP) log
          (.done (.error (.rejected "r" reason))) ∧
        ∃ violations, reason = Violation.reason violations ∧
          ∀ v ∈ violations, ∀ p, v.profile? = some p → some p ∈ ofProfileP.values "profile" := by
  have hbase : Url.ofText? "http://[::1]/" = .ok loopback.base :=
    ok_of_toOption (by decide +kernel)
  have hread : TypeDocument.ofSource (.ofString documentP.toJson.text) = .ok documentP :=
    TypeDocument.ofText_of_nesting_le documentP (by decide +kernel)
  obtain ⟨hreply, hruns⟩ := reply_identified hbase (.inl rfl)
  have hurl : loopback.objectUrl? "p" = some _ := objectUrl?_eq_some_iff.2 ⟨by decide, _, rfl, rfl⟩
  have hp : loopback.reply answerP "p" = .ok (some profileP) :=
    ((hreply answerP "p").1 profileP).2 ⟨_, 200, _, hurl, rfl, by decide, by decide, _, hread, rfl, rfl⟩
  refine ⟨⟨hp, ?_⟩, ?_⟩
  · obtain ⟨hsome, hnone, herror⟩ := hreply answerP "q"
    cases hq : loopback.reply answerP "q" with
    | error e => exact ⟨e, rfl, (herror e hq).1⟩
    | ok found =>
      cases found with
      | none =>
        rcases hnone.1 hq with hparts | ⟨url, body, -, hx⟩
        · exact absurd hparts (by decide)
        · cases hx
      | some d =>
        obtain ⟨url, status, body, -, hx, -, -, document, hdoc, hd, hid⟩ := (hsome d).1 hq
        cases hx
        rw [hread] at hdoc
        cases hdoc
        cases hd
        exact absurd hid (by decide)
  · obtain ⟨past, st, hr, ⟨l, hk, hl⟩, ha⟩ : ∃ past st, Cache.Run {} loopback.endpoint past st ∧
        (∃ l, st.callers[0]? = some ⟨"p", .answered (.ok l)⟩ ∧ l.definition = profileP) ∧
        loopback.Answers past := by
      refine ⟨_, _, .replay .start (rfl : replay _ [] _ loadP = some (_, _)), ⟨_, rfl, rfl⟩, ?_⟩
      intro t k result ht identifier f load since hk
      simp only [List.mem_cons, Prod.mk.injEq, reduceCtorEq, and_false, false_or, or_false,
        List.not_mem_nil, Cache.Event.answer.injEq] at ht
      obtain ⟨rfl, rfl, rfl⟩ := ht
      cases hk
      exact ⟨answerP, hp.symm⟩
    obtain ⟨-, -, hanswered, hrejected⟩ := hruns {} past st hr ha
    have hs : Service.Served [⟨.lookup "p", .ok profileP⟩] st := by
      intro identifier answer ht
      cases List.mem_singleton.1 ht
      exact ⟨0, .ok l, hk, congrArg Except.ok hl.symm⟩
    have hreach : Reaches (Service.validate ⟨"profile", .failFast, .strict⟩ ofProfileP)
        [⟨.lookup "p", .ok profileP⟩] (.done (.error (.rejected "r" _))) := .ask (.refl _)
    obtain ⟨violations, hreason, -, hlisted⟩ := hrejected _ _ _ _ _ hs hreach
    exact ⟨past, st, hr, ⟨l, hk, hanswered 0 "p" l hk⟩, _, hs, _, hreach, violations, hreason, hlisted⟩

end Runs

end TypedPid
