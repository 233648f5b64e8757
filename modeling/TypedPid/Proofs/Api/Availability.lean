import TypedPid.Api
import TypedPid.Proofs.Cache.Origin
import TypedPid.Proofs.Service.Admission

/-!
What the types that a request looks up make of its answer. An outage of the registry is told as a problem
that may pass, and nothing else is; a type that does not exist is a fault of the request.
-/

namespace TypedPid

namespace Service

open Procedure

variable {s : Service} {profileKey : String} {mode : ReportMode} {r : Record} {log log₁ log₂ : List Taken}
  {pid typeIdentifier : String} {dryRun : Bool}

/-- A lookup ended with an error of the registry. -/
def Outage (log : List Taken) (e : LoadError) : Prop :=
  ∃ identifier, (⟨.lookup identifier, .error (.unavailable e)⟩ : Taken) ∈ log

/-- A lookup was answered that there is no such type. -/
def Unknown (log : List Taken) (identifier : String) : Prop :=
  ∃ asked, (⟨.lookup asked, .error (.notFound identifier)⟩ : Taken) ∈ log

section Logs

variable {e : LoadError} {identifier : String}

lemma outage_append : Outage (log₁ ++ log₂) e ↔ Outage log₁ e ∨ Outage log₂ e := by
  simp only [Outage, List.mem_append, exists_or]

lemma unknown_append :
    Unknown (log₁ ++ log₂) identifier ↔ Unknown log₁ identifier ∨ Unknown log₂ identifier := by
  simp only [Unknown, List.mem_append, exists_or]

lemma not_outage (h : ∀ t ∈ log, ¬ IsLookup t.action) : ¬ Outage log e := by
  rintro ⟨asked, ht⟩
  exact h _ ht ⟨asked, rfl⟩

lemma not_unknown (h : ∀ t ∈ log, ¬ IsLookup t.action) : ¬ Unknown log identifier := by
  rintro ⟨asked, ht⟩
  exact h _ ht ⟨asked, rfl⟩

end Logs

section Loads

variable {c : Cache.Config} {endpoint : String} {past : List (Cache.State × Cache.Event)}
  {st : Cache.State} {identifier : String}

/-- Every lookup was answered as a caller of the cache was, who asked for the same type. -/
def Served (log : List Taken) (st : Cache.State) : Prop :=
  ∀ identifier answer, (⟨.lookup identifier, answer⟩ : Taken) ∈ log →
    ∃ (k : Nat) (o : Cache.Outcome), st.callers[k]? = some ⟨identifier, .answered o⟩ ∧
      answer = o.map (·.definition)

lemma Served.origin (hs : Served log st) (hr : Cache.Run c endpoint past st) {error : LookupError}
    (h : (⟨.lookup identifier, .error error⟩ : Taken) ∈ log) :
    ∃ k, Cache.Origin c endpoint past k identifier (.error error) := by
  obtain ⟨k, o, hk, heq⟩ := hs identifier _ h
  cases o with
  | ok l => cases heq
  | error failure =>
    cases heq
    exact ⟨k, hr.sourced.held hk rfl⟩

end Loads

section Validation

/-- What a search for faults comes to agrees with how the lookups ended that it made. -/
structure Heeds (log : List Taken) (result : Except ValidationError (List Violation)) : Prop where
  outage : ∀ e, Outage log e → result = .error (.ofLoadError e)
  error : ∀ e, result = .error e → ∃ e', Outage log e'
  unknown : ∀ identifier, Unknown log identifier → result ≠ .ok []

variable {result : Except ValidationError (List Violation)} {violations : List Violation}

lemma heeds_nil : Heeds [] (.ok violations) where
  outage := by simp [Outage]
  error := by simp
  unknown := by simp [Unknown]

lemma Heeds.append (h₁ : Heeds log₁ (.ok violations)) (h₂ : Heeds log₂ result)
    (hn : violations ≠ [] → result ≠ .ok []) : Heeds (log₁ ++ log₂) result where
  outage e h := by
    rcases outage_append.1 h with h | h
    · cases h₁.outage e h
    · exact h₂.outage e h
  error e h := by
    obtain ⟨e', h⟩ := h₂.error e h
    exact ⟨e', outage_append.2 (.inr h)⟩
  unknown identifier h := by
    rcases unknown_append.1 h with h | h
    · apply hn
      rintro rfl
      exact h₁.unknown identifier h rfl
    · exact h₂.unknown identifier h

lemma heeds_checkListed {listed : Option String}
    (h : Reaches (Validation.checkListed lookup profileKey r listed) log (.done result)) :
    Heeds log result := by
  cases listed with
  | none =>
    obtain ⟨rfl, heq⟩ := reaches_done.1 h
    cases heq
    exact heeds_nil
  | some identifier =>
    obtain ⟨answer, ha, rfl⟩ := reaches_map_done.1 h
    obtain ⟨answer', rfl, rfl⟩ := reaches_ask_done ha
    rcases answer with (unknown | e) | profile
    · exact ⟨by simp [Outage], by simp [Validation.checkAnswer], by simp [Validation.checkAnswer]⟩
    · refine ⟨?_, fun _ _ => ⟨e, identifier, by simp⟩, by simp [Unknown]⟩
      rintro e' ⟨asked, ht⟩
      simp at ht
      obtain ⟨rfl, rfl⟩ := ht
      rfl
    · exact ⟨by simp [Outage], by simp [Validation.checkAnswer], by simp [Unknown]⟩

lemma heeds_checkProfiles {found : List Violation} {listed : List (Option String)}
    (h : Reaches (Validation.checkProfiles lookup profileKey mode r found listed) log (.done result)) :
    Heeds log result ∧ (found ≠ [] → result ≠ .ok []) := by
  induction listed generalizing found log with
  | nil =>
    obtain ⟨rfl, heq⟩ := reaches_done.1 h
    cases heq
    exact ⟨heeds_nil, by simp⟩
  | cons l listed ih =>
    simp only [Validation.checkProfiles] at h
    rcases reaches_bind h with ⟨_, _, -, heq⟩ | ⟨judged, log₁, log₂, rfl, hj, hf⟩
    · cases heq
    have hheeds := heeds_checkListed hj
    cases judged with
    | error e =>
      obtain ⟨rfl, heq⟩ := reaches_done.1 hf
      cases heq
      rw [List.append_nil]
      exact ⟨hheeds, by simp⟩
    | ok violations =>
      dsimp only at hf
      split at hf
      · next hfirst =>
        obtain ⟨rfl, heq⟩ := reaches_done.1 hf
        cases heq
        have hne : Except.ok (violations.take 1) ≠ (.ok [] : Except ValidationError _) := by
          simpa using hfirst.2
        exact ⟨hheeds.append heeds_nil fun _ => hne, fun _ => hne⟩
      · obtain ⟨hrest, hn⟩ := ih hf
        exact ⟨hheeds.append hrest fun hv => hn (by simp [hv]), fun hv => hn (by simp [hv])⟩

/-- The verdict on a record agrees with how the lookups ended. -/
structure Judges (r : Record) (log : List Taken) (verdict : Except ValidationError Unit) : Prop where
  outage : ∀ e, Outage log e → verdict = .error (.serviceUnavailable e.endpoint)
  unavailable : ∀ endpoint, verdict = .error (.serviceUnavailable endpoint) → ∃ e, Outage log e
  unknown : (∀ e, ¬ Outage log e) → ∀ identifier, Unknown log identifier →
    ∃ reason, verdict = .error (.rejected r.pid reason)

variable {verdict : Except ValidationError Unit}

lemma judges_nil (h : ∀ endpoint, verdict ≠ .error (.serviceUnavailable endpoint)) :
    Judges r [] verdict where
  outage := by simp [Outage]
  unavailable endpoint hv := absurd hv (h endpoint)
  unknown := by simp [Unknown]

lemma judges_validate (h : Reaches (s.validate r) log (.done verdict)) : Judges r log verdict := by
  unfold validate at h
  split at h
  · obtain ⟨rfl, heq⟩ := reaches_done.1 h
    cases heq
    exact judges_nil (by simp)
  unfold Validation.validate at h
  dsimp only at h
  split at h
  · obtain ⟨rfl, heq⟩ := reaches_done.1 h
    cases heq
    exact judges_nil (by simp)
  split at h
  · obtain ⟨rfl, heq⟩ := reaches_done.1 h
    cases heq
    exact judges_nil (by simp)
  rcases reaches_bind h with ⟨_, _, -, heq⟩ | ⟨result, log₁, log₂, rfl, hc, hf⟩
  · cases heq
  have hheeds := (heeds_checkProfiles hc).1
  split at hf
  · next e =>
    obtain ⟨rfl, heq⟩ := reaches_done.1 hf
    cases heq
    rw [List.append_nil]
    have herror := hheeds.error e rfl
    exact ⟨fun e' he => by simpa [ValidationError.ofLoadError] using hheeds.outage e' he,
      fun _ _ => herror, fun hn => absurd herror (by simpa using hn)⟩
  · obtain ⟨rfl, heq⟩ := reaches_done.1 hf
    cases heq
    rw [List.append_nil]
    exact ⟨fun e he => by simpa using hheeds.outage e he, by simp,
      fun _ identifier hu => absurd rfl (hheeds.unknown identifier hu)⟩
  · obtain ⟨rfl, heq⟩ := reaches_done.1 hf
    cases heq
    rw [List.append_nil]
    exact ⟨fun e he => by simpa using hheeds.outage e he, by simp, fun _ _ _ => ⟨_, rfl⟩⟩

end Validation

section Requests

def error? {ε α : Type} : Except ε α → Option ε
  | .error e => some e
  | .ok _ => none

/-- The error that a request is answered with, if it is. -/
def Request.failure? : (q : Request) → q.Answer → Option ServiceError
  | .register _ _, answer => error? answer
  | .update _, answer => error? answer
  | .resolve _, answer => error? answer
  | .view _ _, answer => error? answer
  | .delete _, answer => error? answer
  | .list, _ => none

/-- How a request is answered if a lookup ended with an error of the registry. -/
def Request.unavailable : Request → LoadError → ServiceError
  | .view _ _, e => .lookup (.unavailable e)
  | _, e => .validation (.serviceUnavailable e.endpoint)

/-- Whether an error is how a request is answered if a type does not exist. -/
def Request.Misses (identifier : String) (failure : ServiceError) : Request → Prop
  | .register r _ => ∃ reason, failure = .validation (.rejected r.pid reason)
  | .update r => ∃ reason, failure = .validation (.rejected r.pid reason)
  | .view _ _ => failure = .lookup (.notFound identifier)
  | _ => False

/-- The error of a request, if there is one, agrees with how the lookups ended that it made. -/
structure Answers (q : Request) (log : List Taken) (failure? : Option ServiceError) : Prop where
  outage : ∀ e, Outage log e → failure? = some (q.unavailable e)
  retryable : ∀ failure, failure? = some failure → failure.isRetryable = true → ∃ e, Outage log e
  unknown : (∀ e, ¬ Outage log e) → ∀ identifier, Unknown log identifier →
    ∃ failure, failure? = some failure ∧ q.Misses identifier failure

variable {q : Request} {result : Except ServiceError Record}

lemma answers_of_not_lookup {failure? : Option ServiceError} (hlog : ∀ t ∈ log, ¬ IsLookup t.action)
    (h : ∀ failure, failure? = some failure → failure.isRetryable = false) :
    Answers q log failure? where
  outage e he := absurd he (not_outage hlog)
  retryable failure hf hr := by
    rw [h failure hf] at hr
    cases hr
  unknown _ identifier hu := absurd hu (not_unknown hlog)

lemma store_of_enter {e : ServiceError} (h : Reaches (enter r) log (.done (.error e))) :
    e.isRetryable = false := by
  rw [enter_eq] at h
  obtain ⟨_, log', -, h⟩ := (reaches_ask.1 h).resolve_left (by simp)
  split at h
  · cases (reaches_done.1 h).2
  · cases (reaches_done.1 h).2
    rfl

lemma store_of_accept {e : ServiceError} (h : Reaches (accept r) log (.done (.error e))) :
    e.isRetryable = false := by
  by_cases hp : r.pid = ""
  · rw [accept_of_pid_eq hp] at h
    obtain ⟨_, log', -, h⟩ := (reaches_ask.1 h).resolve_left (by simp)
    exact store_of_enter h
  · rw [accept_of_pid_ne hp] at h
    obtain ⟨registered, log', -, h⟩ := (reaches_ask.1 h).resolve_left (by simp)
    split at h
    · cases (reaches_done.1 h).2
      rfl
    · exact store_of_enter h

lemma within_enter (r : Record) : Within (¬ IsLookup ·) (enter r) := by
  rw [enter_eq]
  refine .ask (by rintro ⟨_, ⟨⟩⟩) fun answer => ?_
  split <;> exact .done _

lemma within_accept (r : Record) : Within (¬ IsLookup ·) (accept r) := by
  by_cases hp : r.pid = ""
  · rw [accept_of_pid_eq hp]
    exact .ask (by rintro ⟨_, ⟨⟩⟩) fun _ => within_enter _
  · rw [accept_of_pid_ne hp]
    refine .ask (by rintro ⟨_, ⟨⟩⟩) fun registered => ?_
    split
    · exact .done _
    · exact within_enter r

/-- What is done once a record is valid has no more to do with its types. -/
lemma answers_of_validate {f : Except ValidationError Unit → Procedure (Except ServiceError Record)}
    (hq : ∀ e, q.unavailable e = .validation (.serviceUnavailable e.endpoint))
    (hm : ∀ identifier reason, q.Misses identifier (.validation (.rejected r.pid reason)))
    (hbad : ∀ e, f (.error e) = .done (.error (.validation e)))
    (hwithin : Within (¬ IsLookup ·) (f (.ok ())))
    (hgood : ∀ log e, Reaches (f (.ok ())) log (.done (.error e)) → e.isRetryable = false)
    (h : Reaches (s.validate r >>= f) log (.done result)) : Answers q log (error? result) := by
  rcases reaches_bind h with ⟨_, _, -, heq⟩ | ⟨verdict, checks, rest, rfl, hv, hf⟩
  · cases heq
  have hj := judges_validate hv
  cases verdict with
  | error e =>
    rw [hbad, reaches_done] at hf
    obtain ⟨rfl, heq⟩ := hf
    cases heq
    rw [List.append_nil]
    refine ⟨fun e' he => ?_, ?_, fun hn identifier hu => ?_⟩
    · cases hj.outage e' he
      rw [hq]
      rfl
    · rintro failure ⟨⟩ hr
      cases e with
      | serviceUnavailable endpoint => exact hj.unavailable endpoint rfl
      | rejected pid reason => cases hr
    · obtain ⟨reason, heq⟩ := hj.unknown hn identifier hu
      cases heq
      exact ⟨_, rfl, hm identifier reason⟩
  | ok u =>
    have hrest := hwithin.taken hf
    have hchecks : ∀ e, ¬ Outage checks e := by
      intro e he
      cases hj.outage e he
    refine ⟨fun e he => ?_, ?_, fun _ identifier hu => ?_⟩
    · exact absurd (outage_append.1 he) (not_or.2 ⟨hchecks e, not_outage hrest⟩)
    · rintro failure hfailure hr
      cases result with
      | error e =>
        cases hfailure
        rw [hgood _ _ hf] at hr
        cases hr
      | ok record => cases hfailure
    · have hu := (unknown_append.1 hu).resolve_right (not_unknown hrest)
      obtain ⟨reason, heq⟩ := hj.unknown hchecks identifier hu
      cases heq

lemma answers_register (h : Reaches (s.register r dryRun) log (.done result)) :
    Answers (.register r dryRun) log (error? result) := by
  refine answers_of_validate (fun _ => rfl) (fun _ reason => ⟨reason, rfl⟩) (fun _ => rfl) ?_ ?_ h
  · dsimp only
    split
    · exact .done _
    · exact within_accept r
  · intro log e h
    dsimp only at h
    split at h
    · cases (reaches_done.1 h).2
    · exact store_of_accept h

lemma answers_update (h : Reaches (s.update r) log (.done result)) :
    Answers (.update r) log (error? result) := by
  refine answers_of_validate (fun _ => rfl) (fun _ reason => ⟨reason, rfl⟩) (fun _ => rfl) ?_ ?_ h
  · refine .ask (by rintro ⟨_, ⟨⟩⟩) fun updated => ?_
    cases updated <;> exact .done _
  · intro log e h
    obtain ⟨updated, log', -, h⟩ := (reaches_ask.1 h).resolve_left (by rintro ⟨-, ⟨⟩⟩)
    cases updated <;> cases (reaches_done.1 h).2
    rfl

lemma not_isRetryable_mapError {α : Type} {found : Except StoreError α} {failure : ServiceError}
    (h : error? (found.mapError ServiceError.store) = some failure) : failure.isRetryable = false := by
  cases found <;> cases h
  rfl

lemma answers_view (h : Reaches (view pid typeIdentifier) log (.done result)) :
    Answers (.view pid typeIdentifier) log (error? result) := by
  obtain ⟨found, rest, rfl, hfound⟩ := (reaches_ask.1 h).resolve_left (by rintro ⟨-, ⟨⟩⟩)
  rcases found with (unknown | e) | d
  · obtain ⟨rfl, heq⟩ := reaches_done.1 hfound
    cases heq
    refine ⟨by simp [Outage], by rintro _ ⟨⟩ ⟨⟩, ?_⟩
    rintro - identifier ⟨asked, ht⟩
    simp at ht
    exact ⟨_, rfl, by rw [ht.2]; rfl⟩
  · obtain ⟨rfl, heq⟩ := reaches_done.1 hfound
    cases heq
    refine ⟨?_, fun _ _ _ => ⟨e, typeIdentifier, by simp⟩, by simp [Unknown]⟩
    rintro e' ⟨asked, ht⟩
    simp at ht
    rw [ht.2]
    rfl
  · obtain ⟨shown, rfl, rfl⟩ := reaches_ask_done hfound
    refine ⟨by simp [Outage], fun failure hf hr => ?_, by simp [Unknown]⟩
    rw [not_isRetryable_mapError hf] at hr
    cases hr

lemma answers_handle {answer : q.Answer} (h : Reaches (s.handle q) log (.done answer)) :
    Answers q log (q.failure? answer) := by
  cases q with
  | register r dryRun => exact answers_register h
  | update r => exact answers_update h
  | view pid typeIdentifier => exact answers_view h
  | resolve pid =>
    obtain ⟨found, rfl, rfl⟩ := reaches_ask_done h
    exact answers_of_not_lookup (by simp [IsLookup]) fun _ => not_isRetryable_mapError
  | delete pid =>
    obtain ⟨found, rfl, rfl⟩ := reaches_ask_done h
    exact answers_of_not_lookup (by simp [IsLookup]) fun _ => not_isRetryable_mapError
  | list =>
    obtain ⟨pids, rfl, -⟩ := reaches_ask_done h
    exact answers_of_not_lookup (by simp [IsLookup]) (by rintro _ ⟨⟩)

end Requests

section Reports

/-- An error is told as a problem document with this status and code, to whichever request. -/
structure Reported (e : ServiceError) (status : Nat) (code : String) (retryable : Bool) : Prop where
  passes : e.isRetryable = retryable
  answered : ∀ id, (Api.failure id e).status = status
  typed : ∀ id, (Api.failure id e).headers.lookup "content-type" = some "application/problem+json"
  described : ∀ id, ∃ fields, (Api.failure id e).body = (Json.Value.object fields).text ∧
    fields.lookup "status" = some (.number status) ∧ fields.lookup "code" = some (.string code) ∧
    fields.lookup "retryable" = some (.bool retryable)

variable {failure : ServiceError}

lemma reported (e : ServiceError) : Reported e (Api.Problem.ofServiceError e).kind.status
    (Api.Problem.ofServiceError e).code e.isRetryable := by
  have hr : (Api.Problem.ofServiceError e).isRetryable = e.isRetryable := by
    rcases e with (_ | _) | (_ | _ | _) | (_ | _) <;> rfl
  refine ⟨rfl, fun _ => rfl, fun _ => rfl, fun id => ⟨_, rfl, rfl, rfl, ?_⟩⟩
  rw [← hr]
  rfl

lemma reported_unavailable (q : Request) (e : LoadError) :
    Reported (q.unavailable e) 503 "registry_unavailable" true := by
  cases q <;> exact reported _

lemma reported_lasting (h : failure.isRetryable = false) : ∃ status code,
    Reported failure status code false ∧ status ≠ 503 ∧ code ≠ "registry_unavailable" := by
  refine ⟨_, _, h ▸ reported failure, ?_⟩
  rcases failure with (_ | _) | (_ | _ | _) | (_ | _)
  case validation.serviceUnavailable => cases h
  case lookup.unavailable => cases h
  all_goals simp [Api.Problem.ofServiceError, Api.ProblemKind.status]

/-- A request is answered with a problem that may pass if and only if a lookup of it ended with an error
of the registry; if it is to store a record, that names the place where the registry is. If none did,
but one was answered that there is no such type, a record is not valid and a view is not found. Where
the cache answers the lookups, each of these ended as a load of its type did. -/
theorem reported_of_lookups {q : Request} {answer : q.Answer}
    (h : Reaches (s.handle q) log (.done answer)) :
    (∀ e, Outage log e → q.failure? answer = some (q.unavailable e) ∧
      Reported (q.unavailable e) 503 "registry_unavailable" true) ∧
    (∀ failure, q.failure? answer = some failure → (∀ e, ¬ Outage log e) → ∃ status code,
      Reported failure status code false ∧ status ≠ 503 ∧ code ≠ "registry_unavailable") ∧
    ((∀ e, ¬ Outage log e) → ∀ identifier, Unknown log identifier → ∃ failure,
      q.failure? answer = some failure ∧ q.Misses identifier failure ∧
        match q with
        | .view _ _ => Reported failure 404 "type_not_found" false
        | _ => Reported failure 400 "validation_failed" false) ∧
    ∀ c endpoint past st, Cache.Run c endpoint past st → Served log st → ∀ identifier error,
      (⟨.lookup identifier, .error error⟩ : Taken) ∈ log →
        match error with
        | .unavailable e => ∃ k, Cache.EndedDuring c endpoint past k identifier (.error e)
        | .notFound _ => ∃ k, Cache.EndedDuring c endpoint past k identifier (.ok none) := by
  have ha := answers_handle h
  refine ⟨fun e he => ⟨ha.outage e he, reported_unavailable q e⟩, fun failure hf hn => ?_,
    fun hn identifier hu => ?_, fun c endpoint past st hr hs identifier error hl => ?_⟩
  · apply reported_lasting
    rw [← Bool.not_eq_true]
    intro hr
    obtain ⟨e, he⟩ := ha.retryable failure hf hr
    exact hn e he
  · obtain ⟨failure, hf, hm⟩ := ha.unknown hn identifier hu
    refine ⟨failure, hf, hm, ?_⟩
    cases q with
    | register r dryRun =>
      obtain ⟨reason, rfl⟩ := hm
      exact reported _
    | update r =>
      obtain ⟨reason, rfl⟩ := hm
      exact reported _
    | view pid typeIdentifier =>
      cases hm
      exact reported _
    | resolve pid => cases hm
    | delete pid => cases hm
    | list => cases hm
  · obtain ⟨k, horigin⟩ := hs.origin hr hl
    cases error with
    | unavailable e => exact ⟨k, horigin⟩
    | notFound other => exact ⟨k, horigin.2⟩

/-- One type does not exist, and the registry does not deliver the other one. -/
def listingLost : Record :=
  ⟨"r", [("profile", [⟨"profile", none, some "u"⟩, ⟨"profile", none, some "q"⟩])]⟩

/-- The answers to the lookups of both types. -/
def lostLog : List Taken :=
  [⟨.lookup "u", .error (.notFound "u")⟩, ⟨.lookup "q", .error (.unavailable (.status "registry" 502))⟩]

/-- Two callers, one for each type, and how their loads end. -/
def lostLoads : List Cache.Event :=
  [.arrive "u", .proceed 0, .proceed 0, .proceed 0, .proceed 0, .answer 0 (.ok none), .proceed 0,
    .arrive "q", .proceed 1, .proceed 1, .proceed 1, .proceed 1,
    .answer 1 (.error (.status "registry" 502)), .proceed 1]

lemma exists_served_lostLog : ∃ past st, Cache.Run {} "registry" past st ∧ Served lostLog st := by
  have hr : Cache.Run {} "registry" _ _ :=
    .replay .start (rfl : replay _ [] _ lostLoads = some (_, _))
  refine ⟨_, _, hr, fun identifier answer hl => ?_⟩
  rcases List.mem_cons.1 hl with heq | hl
  · cases heq
    exact ⟨0, _, rfl, rfl⟩
  · cases List.mem_singleton.1 hl
    exact ⟨1, _, rfl, rfl⟩

theorem reported_of_lookups_listingLost :
    (Reaches (handle ⟨"profile", .aggregate, .strict⟩ (.update listingLost)) lostLog
        (.done (.error (.validation (.serviceUnavailable "registry")))) ∧
      Reported (.validation (.serviceUnavailable "registry")) 503 "registry_unavailable" true) ∧
    (Reaches (handle ⟨"profile", .failFast, .strict⟩ (.update listingLost)) (lostLog.take 1)
        (.done (.error (.validation (.rejected "r" (Violation.reason [.unknownProfile "u"]))))) ∧
      Reported (.validation (.rejected "r" (Violation.reason [.unknownProfile "u"]))) 400
        "validation_failed" false) ∧
    Reaches (handle ⟨"profile", .failFast, .strict⟩ (.view "free" "u")) (lostLog.take 1)
        (.done (.error (.lookup (.notFound "u")))) ∧
      Reported (.lookup (.notFound "u")) 404 "type_not_found" false ∧
    ∃ past st, Cache.Run {} "registry" past st ∧ Served lostLog st ∧
      (∃ k, Cache.EndedDuring {} "registry" past k "u" (.ok none)) ∧
      ∃ k, Cache.EndedDuring {} "registry" past k "q" (.error (.status "registry" 502)) := by
  have hall : Reaches (handle ⟨"profile", .aggregate, .strict⟩ (.update listingLost)) lostLog
      (.done (.error (.validation (.serviceUnavailable "registry")))) := by
    refine .ask ?_
    refine .ask ?_
    exact .refl _
  have hfirst : Reaches (handle ⟨"profile", .failFast, .strict⟩ (.update listingLost)) (lostLog.take 1)
      (.done (.error (.validation (.rejected "r" (Violation.reason [.unknownProfile "u"]))))) := by
    refine .ask ?_
    exact .refl _
  have hview : Reaches (handle ⟨"profile", .failFast, .strict⟩ (.view "free" "u")) (lostLog.take 1)
      (.done (.error (.lookup (.notFound "u")))) := by
    refine .ask ?_
    exact .refl _
  have hn : ∀ e, ¬ Outage (lostLog.take 1) e := by simp [Outage, lostLog]
  have hu : Unknown (lostLog.take 1) "u" := ⟨"u", .head _⟩
  have hout := (reported_of_lookups hall).1 (.status "registry" 502) ⟨"q", .tail _ (.head _)⟩
  obtain ⟨_, hf, -, hrejected⟩ := (reported_of_lookups hfirst).2.2.1 hn "u" hu
  obtain ⟨_, hf', -, hmissed⟩ := (reported_of_lookups hview).2.2.1 hn "u" hu
  cases hf
  cases hf'
  obtain ⟨past, st, hr, hserved⟩ := exists_served_lostLog
  have hloads := (reported_of_lookups hall).2.2.2 {} "registry" past st hr hserved
  exact ⟨⟨hall, hout.2⟩, ⟨hfirst, hrejected⟩, hview, hmissed, past, st, hr, hserved,
    hloads "u" _ (.head _), hloads "q" _ (.tail _ (.head _))⟩

end Reports

end Service

end TypedPid
