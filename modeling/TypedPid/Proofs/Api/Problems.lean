import TypedPid.Proofs.Api.Effects

/-!
What a request is told that fails. It gets a document that describes the problem, unless its path or
its query cannot be read, or it registers what cannot be located: then it is told in plain text.
-/

namespace TypedPid.Api

open Http Procedure
open Service hiding Request

variable {s : Service} {st st' : Store} {a : Arrival} {h : Headers} {r : Request} {id text : String}
  {log : List Taken} {response inner : Response} {endpoint : Endpoint} {p : Problem}

/-- What a request is called: what its client calls it, without blanks at the ends, or else by its
number. -/
inductive Called (a : Arrival) (h : Headers) : String → Prop
  | given {value id : String} : h.first? "x-request-id" = some value →
      Header.isVisible value = true → Header.Trims value id → id ≠ "" → Called a h id
  | generated : (∀ value, h.first? "x-request-id" = some value → Header.isVisible value = true →
      ∀ c ∈ value.toList, Header.isBlank c = true) → Called a h ("req_" ++ a.number)

/-- A response is the document with these fields, about the request that is called so. Who asks only
for headers does not get the text. -/
structure Describes (a : Arrival) (r : Request) (response : Response)
    (fields : List (String × Json.Value)) (id : String) : Prop where
  type : response.headers.lookup "content-type" = some "application/problem+json"
  body : response.body = if r.method = "HEAD" then "" else (Json.Value.object fields).text
  status : fields.lookup "status" = some (.number response.status)
  retryable : fields.lookup "retryable" = some (.bool (response.status = 503))
  request : fields.lookup "request_id" = some (.string id)
  first : fields.lookup "instance" = some (.string id)
  called : Called a r.headers id

def IsProblem (a : Arrival) (r : Request) (response : Response) : Prop :=
  ∃ fields id, Describes a r response fields id

section Names

lemma visible?_eq_some_iff {name value : String} : h.visible? name = some value ↔
    h.first? name = some value ∧ Header.isVisible value = true := by
  rw [Headers.visible?, Option.filter_eq_some_iff]

lemma trim_eq_empty {value : String} (h : Header.trim value = "") :
    ∀ c ∈ value.toList, Header.isBlank c = true := by
  obtain ⟨before, after, hvalue, hblank, -⟩ := Header.trims_trim value
  intro c hc
  rw [hvalue, h] at hc
  apply hblank
  simpa using hc

lemma called_requestId : Called a h (requestId a h) := by
  cases hv : h.visible? "x-request-id" with
  | none =>
    have hid : requestId a h = "req_" ++ a.number := by
      simp only [requestId, hv, Option.map_none, Option.filter_none, Option.getD_none]
    rw [hid]
    apply Called.generated
    intro value hfirst hvisible
    rw [visible?_eq_some_iff.2 ⟨hfirst, hvisible⟩] at hv
    cases hv
  | some value =>
    obtain ⟨hfirst, hvisible⟩ := visible?_eq_some_iff.1 hv
    by_cases ht : Header.trim value = ""
    · have hid : requestId a h = "req_" ++ a.number := by
        simp [requestId, hv, ht, Option.filter]
      rw [hid]
      apply Called.generated
      intro value' hfirst' _
      rw [hfirst] at hfirst'
      cases hfirst'
      exact trim_eq_empty ht
    · have hid : requestId a h = Header.trim value := by
        simp [requestId, hv, ht, Option.filter]
      rw [hid]
      exact .given hfirst hvisible (Header.trims_trim value) ht

end Names

section Documents

lemma isRetryable_eq : p.isRetryable = decide (p.kind.status = 503) := by
  cases hk : p.kind <;> simp [Problem.isRetryable, hk, ProblemKind.status]

lemma isProblem_problem (hp : p.firstRequest = none) :
    IsProblem a r (sent r (problem (requestId a r.headers) p)) := by
  have hfirst : ∀ id, (p.withRequest id).firstRequest = some id := by
    intro id
    simp only [Problem.withRequest, hp, Option.none_or]
  refine ⟨_, requestId a r.headers, ?_, sent_body, ?_, ?_, ?_, ?_, called_requestId⟩
  · rw [sent_headers]
    rfl
  · rw [sent_status]
    rfl
  · rw [sent_status]
    simp [List.lookup_cons, problem, isRetryable_eq, Problem.withRequest]
  · simp [List.lookup_cons, Problem.withRequest]
  · simp [List.lookup_cons, hfirst]

lemma not_isProblem_plain {status : Nat} : ¬ IsProblem a r (sent r (.plain status text)) := by
  rintro ⟨fields, id, hd⟩
  have htype := hd.type
  rw [sent_headers] at htype
  change some "text/plain; charset=utf-8" = some "application/problem+json" at htype
  revert htype
  decide

end Documents

/-- A request to an endpoint that is answered with an error is answered with a problem document, if and
only if its path and query can be read and it does not register what cannot be located. -/
theorem isProblem_iff (h : Alone st (handle s a r) log response st') (hr : Routed r endpoint)
    (hm : ∀ text, (⟨.mint, text⟩ : Taken) ∈ log → IsUuid text) (he : 400 ≤ response.status) :
    IsProblem a r response ↔
      Readable r endpoint ∧ ¬ ∃ submitted, Unlocatable s st r log submitted := by
  obtain ⟨inner, hs, rfl⟩ := (alone_handle hr).1 h
  have hf : ¬ inner.Succeeds := by
    intro hsucceeds
    have hlt := hsucceeds.2
    rw [sent_status] at he
    omega
  constructor
  · intro hproblem
    have hn : ¬ ∃ submitted, Unlocatable s st r log submitted := by
      rintro ⟨submitted, hu⟩
      rw [(hu.answered h).1] at hproblem
      exact not_isProblem_plain hproblem
    rcases (serve_outcome hs).fails hr hm hf with ⟨-, ⟨-, text, rfl⟩ | ⟨hreadable, -⟩⟩ | hu
    · exact absurd hproblem not_isProblem_plain
    · exact ⟨hreadable, hn⟩
    · exact absurd hu hn
  · rintro ⟨hreadable, hn⟩
    rcases (serve_outcome hs).fails hr hm hf with ⟨-, ⟨hno, -⟩ | ⟨-, p, hp, rfl⟩⟩ | hu
    · exact absurd hreadable hno
    · exact isProblem_problem hp
    · exact absurd hu hn

/-- A record comes in, and nothing says that it is JSON. -/
def untyped : Request where
  method := "POST"
  target := ⟨Route.recordPath, none⟩
  headers := [("x-request-id", " 42 ")]

theorem isProblem_iff_untyped : ∃ log response st',
    Alone {} (handle ⟨"profile", .failFast, .strict⟩ ⟨"1", "now"⟩ untyped) log response st' ∧
    Routed untyped .register ∧ (∀ text, (⟨.mint, text⟩ : Taken) ∈ log → IsUuid text) ∧
    400 ≤ response.status ∧ IsProblem ⟨"1", "now"⟩ untyped response := by
  have hroute : Route.ofPath? Route.recordPath = some .registration := by decide
  have hr : Routed untyped .register := ⟨_, hroute, by decide⟩
  have h : Alone {} (handle ⟨"profile", .failFast, .strict⟩ ⟨"1", "now"⟩ untyped) [] _ {} :=
    (alone_handle hr).2 ⟨_, .done _ _, rfl⟩
  have hm : ∀ text, (⟨.mint, text⟩ : Taken) ∈ [] → IsUuid text := by simp
  have he : 400 ≤ 400 := Nat.le_refl _
  have hn : ¬ ∃ submitted,
      Unlocatable ⟨"profile", .failFast, .strict⟩ {} untyped [] submitted := by
    rintro ⟨submitted, hu⟩
    obtain ⟨rest, hb⟩ := hu.brings
    cases hb.record
  exact ⟨_, _, _, h, hr, hm, he, (isProblem_iff h hr hm he).2 ⟨.head _, hn⟩⟩

/-- The flag of a dry run is neither true nor false. -/
def undecided : Request where
  method := "POST"
  target := ⟨"/api/v1/pit/pid", some "dryrun=maybe"⟩
  headers := [("content-type", "application/json")]
  body := Utf8.encode "\x7b\"pid\":\"a\"\x7d"

theorem plain_text_failure : ∃ log response st',
    Alone {} (handle ⟨"profile", .failFast, .acceptAll⟩ ⟨"1", "now"⟩ undecided) log response st' ∧
    Routed undecided .register ∧ response.status = 400 ∧
    ¬ IsProblem ⟨"1", "now"⟩ undecided response := by
  have hroute : Route.ofPath? "/api/v1/pit/pid" = some .registration := by decide
  have hr : Routed undecided .register := ⟨_, hroute, by decide⟩
  have hflag : (parameters undecided).flag? "dryrun" = .error (.notBoolean "dryrun") := by
    decide +kernel
  have h : Alone {} (handle ⟨"profile", .failFast, .acceptAll⟩ ⟨"1", "now"⟩ undecided) []
      (sent undecided (invalidQuery (.notBoolean "dryrun"))) {} := by
    apply (alone_handle hr).2
    refine ⟨_, ?_, rfl⟩
    rw [serve, register, hflag]
    exact .done _ _
  exact ⟨_, _, _, h, hr, rfl, not_isProblem_plain⟩

end TypedPid.Api
