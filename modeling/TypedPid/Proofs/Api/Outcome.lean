import TypedPid.Api
import TypedPid.Proofs.Http.Reading
import TypedPid.Proofs.Record.Entries
import TypedPid.Proofs.Service.Alone
import TypedPid.Proofs.Text.Decoding

/-!
What can become of a request. Each endpoint answers in one of a few ways, and each way says what the
store is afterwards.
-/

namespace TypedPid

namespace Api

open Http Procedure
open Service hiding Request

variable {s : Service} {st st' : Store} {a : Arrival} {r : Request} {id written pid : String}
  {log rest : List Taken} {response : Response} {endpoint : Endpoint} {submitted record : Record}

/-- The path and the method of a request are those of an endpoint. -/
def Routed (r : Request) (endpoint : Endpoint) : Prop :=
  ∃ route, Route.ofPath? r.target.path = some route ∧ route.endpoint? r.method = some endpoint

/-- What an endpoint reads from the path and the query is there and makes sense. -/
def Readable (r : Request) : Endpoint → Prop
  | .register => Form.given "dryrun" (parameters r) ∈ [[], ["true"], ["false"]]
  | .resolve written =>
    (∃ pid, Route.decode? written = some pid) ∧ (Form.given "view" (parameters r)).length ≤ 1
  | .update written => ∃ pid, Route.decode? written = some pid
  | .delete written => ∃ pid, Route.decode? written = some pid
  | _ => True

/-- The body is a valid record that is to be kept. -/
structure Brings (s : Service) (r : Request) (log rest : List Taken) (submitted : Record) : Prop where
  kept : Form.given "dryrun" (parameters r) ∈ [[], ["false"]]
  record : Submission.record r = .ok submitted
  valid : Validated s submitted log rest

/-- How a request is answered that does not go on to other endpoints, and what the store is then. -/
inductive Outcome (s : Service) (st : Store) (id : String) (r : Request) (log : List Taken) :
    Endpoint → Response → Store → Prop
  | well {endpoint : Endpoint} {response : Response} : endpoint = .health ∨ endpoint = .alive →
      response.status = 200 → Outcome s st id r log endpoint response st
  | unreadable {endpoint : Endpoint} (text : String) : ¬ Readable r endpoint →
      Outcome s st id r log endpoint (.plain 400 text) st
  | refused {endpoint : Endpoint} (p : Problem) : Readable r endpoint → p.firstRequest = none →
      Outcome s st id r log endpoint (problem id p) st
  | checked {submitted : Record} : Form.given "dryrun" (parameters r) = ["true"] →
      Submission.record r = .ok submitted →
      Outcome s st id r log .register (.json 200 submitted.toJson) st
  | registered {submitted record : Record} {rest : List Taken} :
      Brings s r log rest submitted → Named submitted rest record →
      Keyed.lookup record.pid st.records = none →
      Outcome s st id r log .register (created record) (st.put record)
  | repeated {submitted record : Record} {rest : List Taken} :
      Brings s r log rest submitted → Named submitted rest record →
      submitted.pid = "" → Keyed.lookup record.pid st.records = some record →
      Outcome s st id r log .register (created record) st
  | replaced {written pid : String} {submitted kept : Record} : Route.decode? written = some pid →
      Submission.record r = .ok submitted → Keyed.lookup pid st.records = some kept →
      Outcome s st id r log (.update written) (.json 200 (submitted.setPid pid).toJson)
        (st.put (submitted.setPid pid))
  | resolved {written pid : String} {kept shown : Record} : Route.decode? written = some pid →
      Keyed.lookup pid st.records = some kept → shown.pid = kept.pid →
      Outcome s st id r log (.resolve written) (.json 200 shown.toJson) st
  | listed : Outcome s st id r log .list (.json 200 (.array (st.list.map .string))) st

section Endpoints

lemma Outcome.failed {e : ServiceError} (h : Readable r endpoint) :
    Outcome s st id r log endpoint (failure id e) st := by
  apply Outcome.refused _ h
  unfold Problem.ofServiceError
  split
  rfl

lemma readable_register : Readable r .register ↔
    ∃ flag, (parameters r).flag? "dryrun" = .ok flag := by
  simp only [Readable, Form.flag?_eq_ok_iff, List.mem_cons, List.not_mem_nil, or_false]
  constructor
  · rintro (h | h | h)
    · exact ⟨none, h⟩
    · exact ⟨some true, h⟩
    · exact ⟨some false, h⟩
  · rintro ⟨_ | _ | _, h⟩
    · exact .inl h
    · exact .inr (.inr h)
    · exact .inr (.inl h)

lemma given_true {flag : Option Bool} (h : (parameters r).flag? "dryrun" = .ok flag)
    (hd : flag.getD false = true) : Form.given "dryrun" (parameters r) = ["true"] := by
  rw [Form.flag?_eq_ok_iff.1 h]
  rcases flag with _ | _ | _
  · cases hd
  · cases hd
  · rfl

lemma kept_iff : Form.given "dryrun" (parameters r) ∈ [[], ["false"]] ↔
    ∃ flag, (parameters r).flag? "dryrun" = .ok flag ∧ flag.getD false = false := by
  simp only [Form.flag?_eq_ok_iff, List.mem_cons, List.not_mem_nil, or_false]
  constructor
  · rintro (h | h)
    · exact ⟨none, h, rfl⟩
    · exact ⟨some false, h, rfl⟩
  · rintro ⟨_ | _ | _, h, hd⟩
    · exact .inl h
    · exact .inr h
    · cases hd

lemma given_view : (Form.given "view" (parameters r)).length ≤ 1 ↔
    ∃ typeIdentifier?, (parameters r).text? "view" = .ok typeIdentifier? := by
  simp only [Form.text?_eq_ok_iff]
  constructor
  · intro hlen
    match hg : Form.given "view" (parameters r), hlen with
    | [], _ => exact ⟨none, rfl⟩
    | [text], _ => exact ⟨some text, rfl⟩
  · rintro ⟨typeIdentifier?, h⟩
    rw [h]
    cases typeIdentifier? <;> simp

/-- What is told of the answer of the service. -/
def reply {α : Type} (id : String) (good : α → Response) : Except ServiceError α → Response
  | .error e => failure id e
  | .ok a => good a

lemma alone_reply {α : Type} {p : Procedure (Except ServiceError α)}
    {f : Except ServiceError α → Procedure Response} (good : α → Response)
    (hf : ∀ answer, f answer = .done (reply id good answer)) :
    Alone st (p >>= f) log response st' ↔
      ∃ answer, Alone st p log answer st' ∧ response = reply id good answer :=
  alone_bind_done hf

lemma alone_registered {flag : Option Bool} (hflag : (parameters r).flag? "dryrun" = .ok flag)
    (hsub : Submission.record r = .ok submitted) :
    Alone st (register s id r) log response st' ↔
      ∃ answer, Alone st (s.register submitted (flag.getD false)) log answer st' ∧
        response = reply id
          (fun kept => if flag.getD false then .json 200 kept.toJson else created kept) answer := by
  simp only [register, hflag, hsub]
  apply alone_reply
  rintro (e | kept) <;> rfl

lemma register_outcome (h : Alone st (register s id r) log response st') :
    Outcome s st id r log .register response st' := by
  cases hflag : (parameters r).flag? "dryrun" with
  | error fault =>
    rw [register, hflag] at h
    obtain ⟨-, rfl, rfl⟩ := alone_done.1 h
    apply Outcome.unreadable
    rw [readable_register, hflag]
    simp
  | ok flag =>
  have hreadable : Readable r .register := readable_register.2 ⟨flag, hflag⟩
  cases hsub : Submission.record r with
  | error e =>
    simp only [register, hflag, hsub] at h
    obtain ⟨-, rfl, rfl⟩ := alone_done.1 h
    exact .refused _ hreadable rfl
  | ok submitted =>
  obtain ⟨answer, hs, rfl⟩ := (alone_registered hflag hsub).1 h
  rcases alone_register hs with ⟨⟨e, rfl⟩, rfl⟩ | ⟨rest, hv, hrest⟩
  · exact .failed hreadable
  cases hd : flag.getD false with
  | true =>
    rw [hd, if_pos rfl] at hrest
    obtain ⟨rfl, rfl⟩ := hrest
    exact .checked (given_true hflag hd) hsub
  | false =>
    rw [hd, if_neg Bool.false_ne_true] at hrest
    have hbrings : Brings s r log rest submitted := ⟨kept_iff.2 ⟨flag, hflag, hd⟩, hsub, hv⟩
    obtain ⟨record, hn, hor⟩ := alone_accept hrest
    rcases hor with ⟨hfree, rfl, rfl⟩ | ⟨kept, hk, rfl, ⟨e, rfl⟩ | ⟨hp, rfl, rfl⟩⟩
    · exact .registered hbrings hn hfree
    · exact .failed hreadable
    · exact .repeated hbrings hn hp hk

lemma register_of_brings (hb : Brings s r log rest submitted) (hp : submitted.pid ≠ "")
    (hfree : Keyed.lookup submitted.pid st.records = none)
    (h : Alone st (register s id r) log response st') :
    response = created submitted ∧ st' = st.put submitted := by
  obtain ⟨flag, hflag, hd⟩ := kept_iff.1 hb.kept
  obtain ⟨answer, hs, rfl⟩ := (alone_registered hflag hb.record).1 h
  rw [hd] at hs ⊢
  obtain ⟨rfl, rfl⟩ := alone_register_free hs hb.valid hp hfree
  exact ⟨rfl, rfl⟩

lemma replacement_eq {p : String} {r' : Record} (h : replacement p record = .ok r') :
    r' = record.setPid p := by
  unfold replacement at h
  split at h
  · cases h
    rfl
  · split at h
    · next hp =>
      cases h
      rw [← hp]
      rfl
    · cases h

lemma replacement_error {p : Problem} (h : replacement pid record = .error p) :
    p.firstRequest = none := by
  unfold replacement at h
  split at h
  · cases h
  · split at h
    · cases h
    · cases h
      rfl

lemma update_outcome (hdecode : Route.decode? written = some pid)
    (h : Alone st (update s id r pid) log response st') :
    Outcome s st id r log (.update written) response st' := by
  have hreadable : Readable r (.update written) := ⟨pid, hdecode⟩
  unfold update at h
  split at h
  · obtain ⟨-, rfl, rfl⟩ := alone_done.1 h
    exact .refused _ hreadable rfl
  next submitted hsub =>
  split at h
  · next p hp =>
    obtain ⟨-, rfl, rfl⟩ := alone_done.1 h
    exact .refused _ hreadable (replacement_error hp)
  next r' hr' =>
  obtain rfl := replacement_eq hr'
  obtain ⟨answer, hs, rfl⟩ :=
    (alone_reply (.json 200 ·.toJson) (by rintro (e | kept) <;> rfl)).1 h
  rcases alone_update hs with ⟨⟨e, rfl⟩, rfl⟩ | ⟨rfl, ⟨kept, hk⟩, rfl⟩
  · exact .failed hreadable
  · exact .replaced hdecode hsub hk

lemma alone_resolved (h : (parameters r).text? "view" = .ok none) :
    Alone st (resolve id r pid) log response st' ↔ log = [⟨.store (.query pid), st.query pid⟩] ∧
      st' = st ∧ response = reply id (.json 200 ·.toJson) ((st.query pid).mapError .store) := by
  simp only [resolve, h]
  rw [alone_reply (.json 200 ·.toJson) (by rintro (e | kept) <;> rfl)]
  constructor
  · rintro ⟨answer, hs, rfl⟩
    obtain ⟨rfl, rfl, rfl⟩ := alone_resolve.1 hs
    exact ⟨rfl, rfl, rfl⟩
  · rintro ⟨rfl, rfl, rfl⟩
    exact ⟨_, alone_resolve.2 ⟨rfl, rfl, rfl⟩, rfl⟩

lemma resolve_outcome (hdecode : Route.decode? written = some pid)
    (h : Alone st (resolve id r pid) log response st') :
    Outcome s st id r log (.resolve written) response st' := by
  cases htext : (parameters r).text? "view" with
  | error fault =>
    rw [resolve, htext] at h
    obtain ⟨-, rfl, rfl⟩ := alone_done.1 h
    apply Outcome.unreadable
    rw [Readable, given_view, htext]
    simp
  | ok typeIdentifier? =>
  have hreadable : Readable r (.resolve written) := ⟨⟨pid, hdecode⟩, given_view.2 ⟨_, htext⟩⟩
  cases typeIdentifier? with
  | none =>
    obtain ⟨rfl, rfl, rfl⟩ := (alone_resolved htext).1 h
    cases hl : Keyed.lookup pid st'.records with
    | none =>
      rw [query_of_lookup_none hl]
      exact .failed hreadable
    | some kept =>
      rw [query_of_lookup hl]
      exact .resolved hdecode hl rfl
  | some typeIdentifier =>
    simp only [resolve, htext] at h
    obtain ⟨answer, hs, rfl⟩ :=
      (alone_reply (.json 200 ·.toJson) (by rintro (e | kept) <;> rfl)).1 h
    obtain ⟨rfl, ⟨e, rfl⟩ | ⟨d, kept, hl, rfl⟩⟩ := alone_view hs
    · exact .failed hreadable
    · exact .resolved hdecode hl (kept.project_pid d)

lemma delete_outcome (hdecode : Route.decode? written = some pid)
    (h : Alone st (delete id pid) log response st') :
    Outcome s st id r log (.delete written) response st' := by
  obtain ⟨answer, hs, rfl⟩ :=
    (alone_reply (fun _ => .empty 204) (by rintro (e | kept) <;> rfl)).1 h
  obtain ⟨⟨e, rfl⟩, rfl⟩ := alone_delete hs
  exact .failed ⟨pid, hdecode⟩

lemma withPid_outcome {f : String → Procedure Response}
    (hnone : Route.decode? written = none → ¬ Readable r endpoint)
    (hf : ∀ pid, Route.decode? written = some pid → Alone st (f pid) log response st' →
      Outcome s st id r log endpoint response st')
    (h : Alone st (withPid written f) log response st') :
    Outcome s st id r log endpoint response st' := by
  unfold withPid at h
  split at h
  · next pid hp => exact hf pid hp h
  · next hp =>
    obtain ⟨-, rfl, rfl⟩ := alone_done.1 h
    exact .unreadable _ (hnone hp)

theorem serve_outcome (h : Alone st (serve s a r endpoint) log response st') :
    Outcome s st (requestId a r.headers) r log endpoint response st' := by
  have hundecoded : ∀ {written}, Route.decode? written = none →
      ¬ ∃ pid, Route.decode? written = some pid := by
    intro written hn hsome
    rw [hn] at hsome
    simp at hsome
  cases endpoint with
  | health =>
    obtain ⟨types, log', -, hd⟩ := (alone_take_outside (by simp)).1 h
    obtain ⟨-, rfl, rfl⟩ := alone_done.1 hd
    exact .well (.inl rfl) rfl
  | alive =>
    obtain ⟨-, rfl, rfl⟩ := alone_done.1 h
    exact .well (.inr rfl) rfl
  | register => exact register_outcome h
  | resolve written =>
    exact withPid_outcome (fun hn hr => hundecoded hn hr.1) (fun pid hp => resolve_outcome hp) h
  | update written => exact withPid_outcome hundecoded (fun pid hp => update_outcome hp) h
  | delete written => exact withPid_outcome hundecoded (fun pid hp => delete_outcome hp) h
  | list =>
    obtain ⟨pids, hs, rfl⟩ := alone_map.1 h
    obtain ⟨rfl, rfl⟩ := alone_list hs
    exact .listed

end Endpoints

section Requests

/-- The response to a request on its way out. -/
def sent (r : Request) (response : Response) : Response :=
  if r.method = "HEAD" then (response.withHeaders anyOrigin).withoutBody
  else response.withHeaders anyOrigin

@[simp] lemma sent_status : (sent r response).status = response.status := by
  unfold sent
  split <;> rfl

lemma sent_headers : (sent r response).headers = response.headers ++ anyOrigin := by
  unfold sent
  split <;> rfl

lemma sent_body : (sent r response).body = if r.method = "HEAD" then "" else response.body := by
  unfold sent
  split <;> rfl

lemma Routed.ne_options (h : Routed r endpoint) : r.method ≠ "OPTIONS" := by
  obtain ⟨route, -, he⟩ := h
  intro hm
  rw [hm] at he
  cases route <;> simp [Route.endpoint?] at he

lemma handle_eq (h : r.method ≠ "OPTIONS") : handle s a r = sent r <$> answer s a r := by
  rw [handle, if_neg h]
  rfl

lemma answer_of_routed (h : Routed r endpoint) : answer s a r = serve s a r endpoint := by
  obtain ⟨route, hp, he⟩ := h
  simp only [answer, hp, he]

lemma alone_handle (h : Routed r endpoint) : Alone st (handle s a r) log response st' ↔
    ∃ inner, Alone st (serve s a r endpoint) log inner st' ∧ response = sent r inner := by
  rw [handle_eq h.ne_options, alone_map, answer_of_routed h]

lemma unrouted (h : Alone st (handle s a r) log response st')
    (hn : ∀ endpoint, ¬ Routed r endpoint) :
    ((r.method = "OPTIONS" ∧ response.status = 200) ∨ response.status ∈ [404, 405]) ∧ st' = st := by
  by_cases hm : r.method = "OPTIONS"
  · rw [handle, if_pos hm] at h
    obtain ⟨-, rfl, rfl⟩ := alone_done.1 h
    exact ⟨.inl ⟨hm, rfl⟩, rfl⟩
  · rw [handle_eq hm, alone_map] at h
    obtain ⟨inner, h, rfl⟩ := h
    unfold answer at h
    split at h
    · obtain ⟨-, rfl, rfl⟩ := alone_done.1 h
      simp [Response.empty]
    next route hp =>
    split at h
    · obtain ⟨-, rfl, rfl⟩ := alone_done.1 h
      simp [Response.empty, Response.withHeaders]
    · next endpoint he => exact absurd ⟨route, hp, he⟩ (hn endpoint)

lemma handle_outcome (h : Alone st (handle s a r) log response st') :
    (((r.method = "OPTIONS" ∧ response.status = 200) ∨ response.status ∈ [404, 405]) ∧ st' = st ∧
      ∀ endpoint, ¬ Routed r endpoint) ∨
    ∃ endpoint inner, Routed r endpoint ∧ response = sent r inner ∧
      Outcome s st (requestId a r.headers) r log endpoint inner st' := by
  by_cases hr : ∃ endpoint, Routed r endpoint
  · obtain ⟨endpoint, hr⟩ := hr
    obtain ⟨inner, hs, rfl⟩ := (alone_handle hr).1 h
    exact .inr ⟨endpoint, inner, hr, rfl, serve_outcome hs⟩
  · rw [not_exists] at hr
    obtain ⟨hstatus, hst⟩ := unrouted h hr
    exact .inl ⟨hstatus, hst, hr⟩

end Requests

section Posting

lemma record_of_text {text : String} (hjson : Submission.isJson r.headers = true)
    (hbody : r.body = Utf8.encode text) (hlen : (Utf8.encode text).length ≤ Submission.maxLength) :
    Submission.record r = (Record.ofText text).mapError .unreadable := by
  have hread : Utf8.decode (Utf8.encode text) = text.toList.map some := by
    rw [Utf8.encode, Utf8.decode_flatMap_encodeChar]
  rw [Submission.record, hjson, hbody, if_neg (by decide), if_neg (Nat.not_lt.2 hlen), hread]
  rfl

lemma alone_posted {checks : List Taken} (hr : Routed r .register)
    (hkept : Form.given "dryrun" (parameters r) ∈ [[], ["false"]])
    (hsub : Submission.record r = .ok submitted)
    (hv : Alone st (s.validate submitted) checks (.ok ()) st)
    (ha : Alone st (accept submitted) log (.ok record) st') :
    Alone st (handle s a r) (checks ++ log) (sent r (created record)) st' := by
  obtain ⟨flag, hflag, hd⟩ := kept_iff.1 hkept
  have hs : Alone st (s.register submitted (flag.getD false)) (checks ++ log) (.ok record) st' := by
    rw [hd]
    exact hv.bind ha
  refine (alone_handle hr).2 ⟨_, (alone_registered hflag hsub).2 ⟨_, hs, rfl⟩, ?_⟩
  rw [hd]
  rfl

/-- A client sends a record as a text. -/
def posting (text : String) : Request where
  method := "POST"
  target := ⟨Route.recordPath, none⟩
  headers := [("content-type", "application/json")]
  body := Utf8.encode text

lemma record_posting {text : String} (hlen : (Utf8.encode text).length ≤ Submission.maxLength)
    (hrec : Record.ofText text = .ok submitted) :
    Submission.record (posting text) = .ok submitted := by
  have hjson : Submission.isJson [("content-type", "application/json")] = true := by decide +kernel
  rw [record_of_text hjson rfl hlen, hrec]
  rfl

lemma alone_posting {text : String} (hlen : (Utf8.encode text).length ≤ Submission.maxLength)
    (hrec : Record.ofText text = .ok submitted)
    (ha : Alone st (accept submitted) log (.ok record) st') :
    Alone st (handle ⟨"profile", .failFast, .acceptAll⟩ a (posting text)) log
      (sent (posting text) (created record)) st' := by
  have hpath : Route.ofPath? Route.recordPath = some .registration := by decide
  have hmethod : Route.registration.endpoint? "POST" = some .register := by decide
  have hkept : Form.given "dryrun" (parameters (posting text)) ∈ [[], ["false"]] := .head _
  have hchecks : Alone st (validate ⟨"profile", .failFast, .acceptAll⟩ submitted) [] (.ok ()) st :=
    alone_done.2 ⟨rfl, rfl, rfl⟩
  exact alone_posted ⟨_, hpath, hmethod⟩ hkept (record_posting hlen hrec) hchecks ha

end Posting

end Api

end TypedPid
