import Mathlib.Data.List.Basic
import TypedPid.Proofs.Api.Outcome
import TypedPid.Proofs.Text.Decoding

/-!
What a request does to the registered records. A request that fails changes nothing, unless what it
registered cannot be located; one that succeeds changes at most the record that it answers with.
-/

namespace TypedPid

namespace Http

def Response.Succeeds (response : Response) : Prop := 200 ≤ response.status ∧ response.status < 300

lemma Header.isValue_eq_false_iff {s : String} : Header.isValue s = false ↔
    ∃ c ∈ s.toList, c ≠ '\t' ∧ (c.toNat < 0x20 ∨ c.toNat = 0x7F) := by
  simp only [Header.isValue, List.all_eq_false, Bool.or_eq_true, Bool.and_eq_true,
    decide_eq_true_eq, not_or, not_and_or, Nat.not_le, not_not, ne_eq]

end Http

namespace Service

open Procedure

/-- A text as it is minted: hexadecimal digits in groups. -/
def IsUuid (text : String) : Prop :=
  text.length = 36 ∧ ∀ c ∈ text.toList, Hex.isDigit c = true ∨ c = '-'

/-- Whoever resolves the identifier is answered with the record. -/
def Resolves (st : Store) (pid : String) (record : Record) : Prop :=
  ∀ log answer st', Alone st (resolve pid) log answer st' ↔
    log = [⟨.store (.query pid), .ok record⟩] ∧ answer = .ok record ∧ st' = st

/-- A record stands under its identifier, can be resolved, and nothing else is changed. -/
structure Keeps (st st' : Store) (record : Record) : Prop where
  stored : Keyed.lookup record.pid st'.records = some record
  others : ∀ k, k ≠ record.pid → Keyed.lookup k st'.records = Keyed.lookup k st.records
  resolves : Resolves st' record.pid record

variable {st st' : Store} {record submitted : Record} {pid : String} {log : List Taken}

lemma resolves_of_lookup (h : Keyed.lookup pid st.records = some record) :
    Resolves st pid record := by
  intro log answer st'
  rw [alone_resolve, query_of_lookup h]
  rfl

lemma keeps_put (st : Store) (record : Record) : Keeps st (st.put record) record := by
  have hstored : Keyed.lookup record.pid (st.put record).records = some record := by
    rw [lookup_put, if_pos rfl]
  refine ⟨hstored, ?_, resolves_of_lookup hstored⟩
  intro k hk
  rw [lookup_put, if_neg hk]

lemma put_ne (h : Keyed.lookup record.pid st.records = none) : st.put record ≠ st := by
  intro heq
  have hstored := (keeps_put st record).stored
  rw [heq, h] at hstored
  cases hstored

lemma isValue_of_isUuid {text : String} (h : IsUuid text) : Http.Header.isValue text = true := by
  rw [← Bool.not_eq_false, Http.Header.isValue_eq_false_iff]
  rintro ⟨c, hc, -, hcontrol⟩
  rcases h.2 c hc with hd | rfl
  · have hbounds := Hex.isDigit_bounds hd
    omega
  · revert hcontrol
    decide

end Service

namespace Api

open Http Procedure
open Service hiding Request

variable {s : Service} {st st' : Store} {a : Arrival} {r : Request} {id : String}
  {log rest : List Taken} {response : Response} {submitted record : Record} {endpoint : Endpoint}
  {written : String}

/-- A valid record comes in under an identifier of its own, which is free, but has a control character
that no header can hold. -/
structure Unlocatable (s : Service) (st : Store) (r : Request) (log : List Taken)
    (submitted : Record) : Prop where
  routed : Routed r .register
  brings : ∃ rest, Brings s r log rest submitted
  free : Keyed.lookup submitted.pid st.records = none
  control : ∃ c ∈ submitted.pid.toList, c ≠ '\t' ∧ (c.toNat < 0x20 ∨ c.toNat = 0x7F)

section Locations

lemma isValue_location (pid : String) :
    Header.isValue (Route.recordPath ++ pid) = Header.isValue pid := by
  have hpath : Header.isValue Route.recordPath = true := by decide
  rw [Header.isValue_append, hpath, Bool.true_and]

lemma created_of_isValue (h : Header.isValue record.pid = true) : created record =
    (Response.json 201 record.toJson).withHeaders [("location", Route.recordPath ++ record.pid)] := by
  rw [created, isValue_location, if_pos h]

lemma created_of_not_isValue (h : Header.isValue record.pid = false) :
    created record = .plain 500 "failed to parse header value" := by
  rw [created, isValue_location, h, if_neg Bool.false_ne_true]

lemma Unlocatable.answered (hu : Unlocatable s st r log submitted)
    (h : Alone st (handle s a r) log response st') :
    response = sent r (.plain 500 "failed to parse header value") ∧ st' = st.put submitted := by
  obtain ⟨rest, hbrings⟩ := hu.brings
  obtain ⟨inner, hs, rfl⟩ := (alone_handle hu.routed).1 h
  have hp : submitted.pid ≠ "" := by
    intro hp
    have hcontrol := hu.control
    rw [hp] at hcontrol
    simp at hcontrol
  obtain ⟨rfl, rfl⟩ := register_of_brings hbrings hp hu.free hs
  rw [created_of_not_isValue (Header.isValue_eq_false_iff.2 hu.control)]
  exact ⟨rfl, rfl⟩

lemma named_of_brings (hb : Brings s r log rest submitted) (hn : Named submitted rest record) :
    (submitted.pid ≠ "" ∧ record = submitted) ∨ (submitted.pid = "" ∧
      ∃ text, (⟨.mint, text⟩ : Taken) ∈ log ∧ record = submitted.setPid (Store.pidPrefix ++ text)) := by
  obtain ⟨checks, rfl, -⟩ := hb.valid
  cases hn with
  | own hp => exact .inl ⟨hp, rfl⟩
  | minted text hp => exact .inr ⟨hp, text, by simp, rfl⟩

lemma not_isValue_of_named (hm : ∀ text, (⟨.mint, text⟩ : Taken) ∈ log → IsUuid text)
    (hb : Brings s r log rest submitted) (hn : Named submitted rest record)
    (hv : Header.isValue record.pid = false) : record = submitted := by
  rcases named_of_brings hb hn with ⟨-, rfl⟩ | ⟨-, text, ht, rfl⟩
  · rfl
  · have hvalue : Header.isValue (Store.pidPrefix ++ text) = true := by
      rw [Header.isValue_append, isValue_of_isUuid (hm text ht)]
      decide
    change Header.isValue (Store.pidPrefix ++ text) = false at hv
    rw [hvalue] at hv
    cases hv

end Locations

section Methods

lemma Routed.post (h : Routed r .register) : r.method = "POST" := by
  obtain ⟨route, -, he⟩ := h
  cases route <;> simp only [Route.endpoint?] at he <;> grind

lemma Routed.put (h : Routed r (.update written)) : r.method = "PUT" := by
  obtain ⟨route, -, he⟩ := h
  cases route <;> simp only [Route.endpoint?] at he <;> grind

lemma Routed.of_put (h : Routed r endpoint) (hm : r.method = "PUT") :
    ∃ written, endpoint = .update written := by
  obtain ⟨route, -, he⟩ := h
  rw [hm] at he
  cases route <;> simp [Route.endpoint?] at he
  exact ⟨_, he.symm⟩

end Methods

section Writings

lemma le_problem_status (p : Problem) : 400 ≤ (problem id p).status := by
  change 400 ≤ p.kind.status
  cases p.kind <;> decide

lemma Outcome.writes (ho : Outcome s st id r log endpoint response st') : st' = st ∨
    (endpoint = .register ∧ Form.given "dryrun" (parameters r) ∈ [[], ["false"]]) ∨
      ∃ written, endpoint = .update written := by
  cases ho with
  | registered hb _ _ => exact .inr (.inl ⟨rfl, hb.kept⟩)
  | replaced _ _ _ => exact .inr (.inr ⟨_, rfl⟩)
  | _ => exact .inl rfl

lemma created_of_status (h : (created record).status = 201) : created record =
    (Response.json 201 record.toJson).withHeaders [("location", Route.recordPath ++ record.pid)] := by
  cases hv : Header.isValue record.pid with
  | true => exact created_of_isValue hv
  | false =>
    rw [created_of_not_isValue hv] at h
    cases h

lemma Outcome.creates (ho : Outcome s st id r log endpoint response st')
    (hs : response.status = 201) : endpoint = .register ∧ ∃ submitted record rest,
      Brings s r log rest submitted ∧ Named submitted rest record ∧ response = created record ∧
      ((Keyed.lookup record.pid st.records = none ∧ st' = st.put record) ∨
        (submitted.pid = "" ∧ Keyed.lookup record.pid st.records = some record ∧ st' = st)) := by
  cases ho with
  | well _ hstatus =>
    rw [hstatus] at hs
    cases hs
  | refused p _ _ =>
    have hle : 400 ≤ (problem id p).status := le_problem_status p
    omega
  | registered hb hn hfree => exact ⟨rfl, _, _, _, hb, hn, rfl, .inl ⟨hfree, rfl⟩⟩
  | repeated hb hn hp hk => exact ⟨rfl, _, _, _, hb, hn, rfl, .inr ⟨hp, hk, rfl⟩⟩
  | _ => cases hs

lemma Outcome.replaces (ho : Outcome s st id r log (.update written) response st')
    (hs : response.status = 200) : ∃ pid submitted, Route.decode? written = some pid ∧
      Submission.record r = .ok submitted ∧ response.body = (submitted.setPid pid).toJson.text ∧
      (∃ kept, Keyed.lookup pid st.records = some kept) ∧ Keeps st st' (submitted.setPid pid) := by
  cases ho with
  | well hend _ => simp at hend
  | unreadable text _ => cases hs
  | refused p _ _ =>
    have hle : 400 ≤ (problem id p).status := le_problem_status p
    omega
  | @replaced written pid submitted kept hd hsub hk =>
    exact ⟨pid, submitted, hd, hsub, rfl, ⟨kept, hk⟩, keeps_put st _⟩

end Writings

lemma Outcome.fails (ho : Outcome s st id r log endpoint response st') (hr : Routed r endpoint)
    (hm : ∀ text, (⟨.mint, text⟩ : Taken) ∈ log → IsUuid text) (hf : ¬ response.Succeeds) :
    (st' = st ∧ ((¬ Readable r endpoint ∧ ∃ text, response = .plain 400 text) ∨
      (Readable r endpoint ∧ ∃ p, p.firstRequest = none ∧ response = problem id p))) ∨
    ∃ submitted, Unlocatable s st r log submitted := by
  have hvalue : ∀ {submitted record rest}, Brings s r log rest submitted →
      Named submitted rest record → ¬ (created record).Succeeds →
      Header.isValue record.pid = false ∧ record = submitted := by
    intro submitted record rest hb hn hf
    cases hv : Header.isValue record.pid with
    | true =>
      rw [created_of_isValue hv] at hf
      exact absurd (show 200 ≤ 201 ∧ 201 < 300 by decide) hf
    | false => exact ⟨rfl, not_isValue_of_named hm hb hn hv⟩
  cases ho with
  | well _ hstatus =>
    rw [Response.Succeeds, hstatus] at hf
    exact absurd (by decide) hf
  | unreadable text hn => exact .inl ⟨rfl, .inl ⟨hn, text, rfl⟩⟩
  | refused p hp hfirst => exact .inl ⟨rfl, .inr ⟨hp, p, hfirst, rfl⟩⟩
  | @registered submitted record rest hb hn hfree =>
    obtain ⟨hv, rfl⟩ := hvalue hb hn hf
    exact .inr ⟨record, hr, ⟨rest, hb⟩, hfree, Header.isValue_eq_false_iff.1 hv⟩
  | @repeated submitted record rest hb hn hp _ =>
    obtain ⟨-, rfl⟩ := hvalue hb hn hf
    exact absurd hp hn.pid_ne
  | _ => exact absurd (show 200 ≤ 200 ∧ 200 < 300 by decide) hf

/-- A request that does not succeed leaves the records as they were if and only if it does not register
a record whose location cannot be written down. -/
theorem kept_of_failure_iff (h : Alone st (handle s a r) log response st')
    (hm : ∀ text, (⟨.mint, text⟩ : Taken) ∈ log → IsUuid text) (hf : ¬ response.Succeeds) :
    st' = st ↔ ¬ ∃ submitted, Unlocatable s st r log submitted := by
  constructor
  · rintro hst ⟨submitted, hu⟩
    obtain ⟨-, hput⟩ := hu.answered h
    exact put_ne hu.free (hput.symm.trans hst)
  · intro hn
    rcases handle_outcome h with ⟨-, hst, -⟩ | ⟨endpoint, inner, hr, rfl, ho⟩
    · exact hst
    have hf' : ¬ inner.Succeeds := by
      rwa [Response.Succeeds, sent_status] at hf
    rcases ho.fails hr hm hf' with ⟨hst, -⟩ | hu
    · exact hst
    · exact absurd hu hn

/-- A record with a line break in its identifier is registered. -/
def lineBreak : Request := posting "\x7b\"pid\":\"sandboxed/a\\nb\"\x7d"

lemma alone_lineBreak : Alone {} (handle ⟨"profile", .failFast, .acceptAll⟩ ⟨"1", "now"⟩ lineBreak)
    [⟨.store (.isRegistered "sandboxed/a\nb"), false⟩,
      ⟨.store (.register ⟨"sandboxed/a\nb", []⟩), .ok "sandboxed/a\nb"⟩]
    (sent lineBreak (.plain 500 "failed to parse header value"))
    (Store.put {} ⟨"sandboxed/a\nb", []⟩) := by
  have hrec : Record.ofText "\x7b\"pid\":\"sandboxed/a\\nb\"\x7d" = .ok ⟨"sandboxed/a\nb", []⟩ := by
    cbv
  have hv : Header.isValue "sandboxed/a\nb" = false := by decide
  have hcreated : created ⟨"sandboxed/a\nb", []⟩ = .plain 500 "failed to parse header value" :=
    created_of_not_isValue hv
  rw [← hcreated]
  exact alone_posting (by decide) hrec (accept_own (by decide) rfl)

theorem kept_of_failure_iff_lineBreak : ∃ log response st',
    Alone {} (handle ⟨"profile", .failFast, .acceptAll⟩ ⟨"1", "now"⟩ lineBreak) log response st' ∧
    (∀ text, (⟨.mint, text⟩ : Taken) ∈ log → IsUuid text) ∧ ¬ response.Succeeds ∧
    ∃ submitted, Unlocatable ⟨"profile", .failFast, .acceptAll⟩ {} lineBreak log submitted := by
  have hm : ∀ text, (⟨.mint, text⟩ : Taken) ∈
      [(⟨.store (.isRegistered "sandboxed/a\nb"), false⟩ : Taken),
        ⟨.store (.register ⟨"sandboxed/a\nb", []⟩), .ok "sandboxed/a\nb"⟩] → IsUuid text := by
    simp
  have hf : ¬ (sent lineBreak (.plain 500 "failed to parse header value")).Succeeds := by
    simp [Response.Succeeds, Response.plain]
  have hiff := kept_of_failure_iff alone_lineBreak hm hf
  refine ⟨_, _, _, alone_lineBreak, hm, hf, ?_⟩
  by_contra hn
  cases hiff.2 hn

/-- The client is told that the request failed, and the record is registered all the same. -/
theorem registered_in_failure : ∃ log response st',
    Alone {} (handle ⟨"profile", .failFast, .acceptAll⟩ ⟨"1", "now"⟩ lineBreak) log response st' ∧
    response.status = 500 ∧ st' ≠ {} := by
  refine ⟨_, _, _, alone_lineBreak, rfl, ?_⟩
  rintro ⟨⟩

/-- What a request that succeeds does to the records. Reading and dry runs change nothing. What is
created was not there before: it is what came in, or has a minted identifier in place of an empty one.
What is replaced was there, and is what came in, with the identifier of the path. In both cases the
record is the one that is answered. -/
theorem effect_of_success (h : Alone st (handle s a r) log response st')
    (hm : ∀ text, (⟨.mint, text⟩ : Taken) ∈ log →
      Keyed.lookup (Store.pidPrefix ++ text) st.records = none)
    (hs : response.Succeeds) :
    (r.method ∈ ["GET", "HEAD"] ∨
      (r.method = "POST" ∧ Form.given "dryrun" (parameters r) = ["true"]) → st' = st) ∧
    (response.status = 201 → ∃ submitted record, Submission.record r = .ok submitted ∧
      ((submitted.pid ≠ "" ∧ record = submitted) ∨ (submitted.pid = "" ∧
        ∃ text, (⟨.mint, text⟩ : Taken) ∈ log ∧ record = submitted.setPid (Store.pidPrefix ++ text))) ∧
      response.body = record.toJson.text ∧ Keyed.lookup record.pid st.records = none ∧
      Keeps st st' record) ∧
    (r.method = "PUT" → response.status = 200 → ∃ written pid submitted, Routed r (.update written) ∧
      Route.decode? written = some pid ∧ Submission.record r = .ok submitted ∧
      response.body = (submitted.setPid pid).toJson.text ∧
      (∃ kept, Keyed.lookup pid st.records = some kept) ∧ Keeps st st' (submitted.setPid pid)) := by
  rcases handle_outcome h with ⟨hstatus, rfl, -⟩ | ⟨endpoint, inner, hr, rfl, ho⟩
  · have hne : response.status ≠ 201 ∧ (r.method = "PUT" → response.status ≠ 200) := by
      rcases hstatus with ⟨hmethod, hstatus⟩ | hstatus
      · rw [hmethod, hstatus]
        decide
      · simp only [List.mem_cons, List.not_mem_nil, or_false] at hstatus
        omega
    exact ⟨fun _ => rfl, fun h201 => absurd h201 hne.1, fun hput h200 => absurd h200 (hne.2 hput)⟩
  rw [sent_status]
  refine ⟨?_, ?_, ?_⟩
  · intro hmethod
    rcases ho.writes with hst | ⟨rfl, hkept⟩ | ⟨written, rfl⟩
    · exact hst
    · rw [hr.post] at hmethod
      rcases hmethod with hmethod | ⟨-, hdry⟩
      · simp at hmethod
      · rw [hdry] at hkept
        simp at hkept
    · rw [hr.put] at hmethod
      simp at hmethod
  · intro h201
    obtain ⟨rfl, submitted, record, rest, hb, hn, rfl, hor⟩ := ho.creates h201
    refine ⟨submitted, record, hb.record, named_of_brings hb hn, ?_, ?_⟩
    · rw [sent_body, hr.post, if_neg (by decide), created_of_status h201]
      rfl
    · rcases hor with ⟨hfree, rfl⟩ | ⟨hp, hk, -⟩
      · exact ⟨hfree, keeps_put st record⟩
      · -- a minted identifier that is taken was not fresh
        rcases named_of_brings hb hn with ⟨hp', -⟩ | ⟨-, text, ht, rfl⟩
        · exact absurd hp hp'
        · have hfree := hm text ht
          change Keyed.lookup (Store.pidPrefix ++ text) st.records = _ at hk
          rw [hfree] at hk
          cases hk
  · intro hput h200
    obtain ⟨written, rfl⟩ := hr.of_put hput
    obtain ⟨pid, submitted, hd, hsub, hbody, hrest⟩ := ho.replaces h200
    refine ⟨written, pid, submitted, hr, hd, hsub, ?_, hrest⟩
    rw [sent_body, hput, if_neg (by decide), hbody]

theorem effect_of_success_minted : ∃ log response st',
    Alone (Store.put {} ⟨"own", []⟩) (handle ⟨"profile", .failFast, .acceptAll⟩ ⟨"1", "now"⟩
      (posting "\x7b\x7d")) log response st' ∧
    (∀ text, (⟨.mint, text⟩ : Taken) ∈ log →
      Keyed.lookup (Store.pidPrefix ++ text) (Store.put {} ⟨"own", []⟩).records = none) ∧
    response.Succeeds ∧ ∃ submitted record, Submission.record (posting "\x7b\x7d") = .ok submitted ∧
      response.body = record.toJson.text ∧
      Keyed.lookup record.pid (Store.put {} ⟨"own", []⟩).records = none ∧
      Keeps (Store.put {} ⟨"own", []⟩) st' record := by
  have hfree : Keyed.lookup (Store.pidPrefix ++ "5f0c0a2e-8a4c-4d3b-9a3e-0d5f8c1b7e42")
      (Store.put {} ⟨"own", []⟩).records = none := by decide
  have hrec : Record.ofText "\x7b\x7d" = .ok ⟨"", []⟩ := by cbv
  obtain ⟨log, response, st', h, hm, hs, h201⟩ : ∃ log response st',
      Alone (Store.put {} ⟨"own", []⟩) (handle ⟨"profile", .failFast, .acceptAll⟩ ⟨"1", "now"⟩
        (posting "\x7b\x7d")) log response st' ∧
      (∀ text, (⟨.mint, text⟩ : Taken) ∈ log →
        Keyed.lookup (Store.pidPrefix ++ text) (Store.put {} ⟨"own", []⟩).records = none) ∧
      response.Succeeds ∧ response.status = 201 := by
    have h := alone_posting (a := ⟨"1", "now"⟩) (by decide) hrec (accept_minted _ rfl hfree)
    rw [created_of_isValue (by decide)] at h
    refine ⟨_, _, _, h, ?_, ⟨Nat.le_add_right 200 1, Nat.lt_add_one_of_le (by decide)⟩, rfl⟩
    intro text ht
    rw [mem_minted.1 ht]
    exact hfree
  obtain ⟨submitted, record, hsub, -, hbody, hnew, hkeeps⟩ := (effect_of_success h hm hs).2.1 h201
  exact ⟨log, response, st', h, hm, hs, submitted, record, hsub, hbody, hnew, hkeeps⟩

end Api

end TypedPid
