import Mathlib.Data.String.Basic
import TypedPid.Proofs.Api.Effects
import TypedPid.Proofs.Json.Writing

/-!
What is at the location that a new record is said to have. The location is the identifier behind a path,
as it is: what a target cannot hold, cuts off or decodes is not found there again.
-/

namespace TypedPid

namespace Service

open Procedure

variable {s : Service} {st st' : Store} {past : List (Traffic × Event)} {w : Traffic}

/-- Every record is kept under its own identifier. -/
def Filed (st : Store) : Prop :=
  ∀ k kept, Keyed.lookup k st.records = some kept → kept.pid = k

lemma filed_empty : Filed {} := by
  intro k kept hk
  cases hk

lemma filed_put (h : Filed st) (record : Record) : Filed (st.put record) := by
  intro k kept hk
  rw [lookup_put] at hk
  split at hk
  · next heq =>
    cases hk
    exact heq.symm
  · exact h k kept hk

lemma filed_of_alone {α : Type} {p : Procedure α} {log : List Taken} {a : α}
    (h : Alone st p log a st') (hfiled : Filed st) : Filed st' := by
  induction h with
  | done st a => exact hfiled
  | @store st st' o next log a _ ih =>
    apply ih
    rcases perform_store o with heq | ⟨r, -, heq⟩
    · rw [heq]
      exact hfiled
    · rw [heq]
      exact filed_put hfiled r
  | outside answer _ _ ih => exact ih hfiled

lemma Run.filed (h : Run s past w) : Filed w.store := fun _ _ hk => (h.storedBy hk).1

end Service

namespace Api

open Http Procedure
open Service hiding Request

variable {s : Service} {st st' : Store} {a : Arrival} {r : Request} {id written pid : String}
  {log : List Taken} {response : Response} {record kept : Record} {target : Target}

section Paths

lemma after?_append (beginning written : String) :
    Route.after? beginning (beginning ++ written) = some written := by
  have hbegins : beginning.toList.isPrefixOf (beginning.toList ++ written.toList) = true :=
    List.isPrefixOf_iff_prefix.2 (List.prefix_append _ _)
  rw [Route.after?, String.toList_append, if_pos hbegins, ← String.length_toList, List.drop_left,
    String.ofList_toList]

lemma ofPath?_recordPath (written : String) : Route.ofPath? (Route.recordPath ++ written) =
    some (if written = "" then .registration else .record written) := by
  have hne : ∀ path : String, path.toList.take 16 ≠ Route.recordPath.toList →
      Route.recordPath ++ written ≠ path := by
    rintro path hpath rfl
    apply hpath
    have hlen : 16 = Route.recordPath.toList.length := by decide
    rw [String.toList_append, hlen, List.take_left]
  rw [Route.ofPath?, if_neg (hne _ (by decide)), if_neg (hne _ (by decide)),
    if_neg (hne _ (by decide)), after?_append]
  by_cases hw : written = ""
  · have hpath : Route.recordPath ++ written = Route.recordPath := by
      rw [hw, String.append_empty]
    rw [if_pos (.inr hpath), if_pos hw]
  · have hpath : ¬ (Route.recordPath ++ written = "/api/v1/pit/pid" ∨
        Route.recordPath ++ written = Route.recordPath) := by
      rintro (h | h)
      · exact hne _ (by decide) h
      · exact hw (String.append_eq_left_iff.1 h)
    rw [if_neg hpath, if_neg hw]
    rfl

lemma toList_recordPath (pid : String) : (Route.recordPath ++ pid).toList =
    '/' :: ("api/v1/pit/pid/".toList ++ pid.toList) := by
  have hpath : Route.recordPath.toList = '/' :: "api/v1/pit/pid/".toList := by decide
  rw [String.toList_append, hpath, List.cons_append]

lemma isPathChar_recordPath : ∀ c ∈ Route.recordPath.toList, Target.isPathChar c = true :=
  List.all_eq_true.1 (by decide)

/-- An identifier that a target holds as it is, and in which nothing is decoded. -/
structure Addressable (pid : String) : Prop where
  chars : ∀ c ∈ pid.toList, Target.isPathChar c = true
  plain : ∀ a b, Hex.isDigit a = true → Hex.isDigit b = true → ¬ ['%', a, b] <:+: pid.toList
  length : (Route.recordPath ++ pid).utf8ByteSize ≤ Target.maxLength

lemma Addressable.decode (h : Addressable pid) : Route.decode? pid = some pid := by
  rw [Route.decode?, Percent.decode_plain (Percent.plain_encode_iff.2 h.plain), Utf8.encode,
    Utf8.decode?_flatMap_encodeChar, String.ofList_toList]

lemma Addressable.ofText? (h : Addressable pid) :
    Target.ofText? (Route.recordPath ++ pid) = some ⟨Route.recordPath ++ pid, none⟩ := by
  apply Target.ofText?_of_isPathChar (toList_recordPath pid) _ h.length
  rw [String.toList_append]
  exact List.forall_mem_append.2 ⟨isPathChar_recordPath, h.chars⟩

lemma isPathChar_of_isDigit {c : Char} (h : Hex.isDigit c = true) : Target.isPathChar c = true := by
  have hall : ∀ n < 0x80, Hex.isDigit (Char.ofNat n) = true →
      Target.isPathChar (Char.ofNat n) = true := by decide
  have hbounds := Hex.isDigit_bounds h
  have hc := hall c.toNat (by omega)
  rw [Char.ofNat_toNat] at hc
  exact hc h

lemma utf8ByteSize_le (text : String) : text.utf8ByteSize ≤ 4 * text.length := by
  have hlist : ∀ cs : List Char, String.utf8Len cs ≤ 4 * cs.length := by
    intro cs
    induction cs with
    | nil => simp
    | cons c cs ih =>
      have hc := c.utf8Size_le_four
      rw [String.utf8Len_cons, List.length_cons]
      omega
  rw [← String.length_toList, ← String.ofList_toList (s := text), String.utf8ByteSize_ofList,
    String.toList_ofList]
  exact hlist _

lemma addressable_of_isUuid {text : String} (h : IsUuid text) :
    Addressable (Store.pidPrefix ++ text) := by
  have hchars : ∀ c ∈ (Store.pidPrefix ++ text).toList,
      (Target.isPathChar c && c ≠ '%') = true := by
    rw [String.toList_append]
    apply List.forall_mem_append.2 ⟨List.all_eq_true.1 (by decide), _⟩
    intro c hc
    rcases h.2 c hc with hd | rfl
    · have hpercent : c ≠ '%' := by
        rintro rfl
        revert hd
        decide
      rw [isPathChar_of_isDigit hd, Bool.true_and, decide_eq_true hpercent]
    · decide
  simp only [Bool.and_eq_true, decide_eq_true_eq] at hchars
  refine ⟨fun c hc => (hchars c hc).1, ?_, ?_⟩
  · intro a b _ _ hin
    exact (hchars '%' (hin.subset List.mem_cons_self)).2 rfl
  · have hlen := utf8ByteSize_le text
    have hpath : Route.recordPath.utf8ByteSize = 16 := by decide
    have hbegins : Store.pidPrefix.utf8ByteSize = 10 := by decide
    rw [h.1] at hlen
    rw [String.utf8ByteSize_append, String.utf8ByteSize_append, hpath, hbegins, Target.maxLength]
    omega

lemma eq_of_decode? (hw : written.toList <+: pid.toList) (h : Route.decode? written = some pid) :
    written = pid ∧ Percent.Plain (Utf8.encode pid) := by
  have hbytes : Utf8.encode pid = Percent.decode (Utf8.encode written) := Utf8.encode_of_decode? h
  obtain ⟨rest, hrest⟩ := hw
  have hsplit : Utf8.encode pid = Utf8.encode written ++ rest.flatMap Utf8.encodeChar := by
    rw [Utf8.encode, ← hrest, List.flatMap_append]
    rfl
  have hlen := congrArg List.length (hbytes.symm.trans hsplit)
  rw [List.length_append] at hlen
  -- decoding makes bytes fewer, so there is nothing to decode, and nothing is cut off
  rcases Percent.plain_or_length_lt (Utf8.encode written) with hplain | hlt
  · rw [Percent.decode_plain hplain] at hlen hbytes
    have hnil : rest.flatMap Utf8.encodeChar = [] := List.length_eq_zero_iff.1 (by omega)
    have hrest' : rest = [] := by
      cases rest with
      | nil => rfl
      | cons c rest =>
        rw [List.flatMap_cons, List.append_eq_nil_iff] at hnil
        exact absurd hnil.1 (Utf8.encodeChar_ne_nil c)
    rw [hrest', List.append_nil] at hrest
    refine ⟨String.toList_inj.1 hrest, ?_⟩
    rw [hbytes]
    exact hplain
  · omega

end Paths

section Reading

/-- A request for what is at a place. -/
structure Asks (location : String) (r : Request) : Prop where
  method : r.method = "GET"
  target : Target.ofText? location = some r.target

lemma alone_get (hr : Routed r (.resolve written)) (hd : Route.decode? written = some pid)
    (hv : Form.given "view" (parameters r) = []) :
    Alone st (handle s a r) log response st' ↔
      log = [⟨.store (.query pid), st.query pid⟩] ∧ st' = st ∧ response = sent r
        (reply (requestId a r.headers) (.json 200 ·.toJson) ((st.query pid).mapError .store)) := by
  have htext : (parameters r).text? "view" = .ok none := Form.text?_eq_ok_iff.2 hv
  simp only [alone_handle hr, serve, withPid, hd, alone_resolved htext]
  constructor
  · rintro ⟨inner, ⟨hlog, hst, rfl⟩, hresponse⟩
    exact ⟨hlog, hst, hresponse⟩
  · rintro ⟨hlog, hst, hresponse⟩
    exact ⟨_, ⟨hlog, hst, rfl⟩, hresponse⟩

lemma routed_get (hmethod : r.method = "GET") (hpath : r.target.path = Route.recordPath ++ written)
    (endpoint : Endpoint) : Routed r endpoint ↔ written ≠ "" ∧ endpoint = .resolve written := by
  rw [Routed, hpath, hmethod, ofPath?_recordPath]
  by_cases hw : written = ""
  · simp [hw, Route.endpoint?]
  · simp [hw, Route.endpoint?, eq_comm]

lemma Asks.path (h : Asks (Route.recordPath ++ pid) r) : ∃ written,
    r.target.path = Route.recordPath ++ written ∧ written.toList <+: pid.toList ∧
      (∀ c ∈ written.toList, Target.isPathChar c = true) ∧
      (Route.recordPath ++ pid).utf8ByteSize ≤ Target.maxLength := by
  obtain ⟨hpath, hchars, hlen⟩ := Target.of_ofText? (toList_recordPath pid) h.target
  have heq : r.target.path = Route.recordPath ++ String.ofList (Target.stem pid.toList) := by
    apply String.toList_inj.1
    rw [hpath, String.toList_append, String.toList_append, Target.stem_append isPathChar_recordPath,
      String.toList_ofList]
  refine ⟨_, heq, ?_, ?_, hlen⟩
  · rw [String.toList_ofList]
    exact Target.stem_prefix _
  · rw [heq, String.toList_append] at hchars
    exact (List.forall_mem_append.1 hchars).2

lemma Outcome.resolves (ho : Outcome s st id r log (.resolve written) response st')
    (hs : response.status = 200) : ∃ (pid : String) (kept shown : Record),
      Route.decode? written = some pid ∧ Keyed.lookup pid st.records = some kept ∧
      shown.pid = kept.pid ∧ response.body = shown.toJson.text := by
  cases ho with
  | well hend _ => simp at hend
  | unreadable text _ => cases hs
  | refused p _ _ =>
    have hle : 400 ≤ (problem id p).status := le_problem_status p
    omega
  | resolved hd hk hshown => exact ⟨_, _, _, hd, hk, hshown, rfl⟩

lemma found_iff (hfiled : Filed st) (hp : record.pid ≠ "")
    (hk : Keyed.lookup record.pid st.records = some record)
    (hget : Asks (Route.recordPath ++ record.pid) r) (h : Alone st (handle s a r) log response st') :
    (response.status = 200 ∧ response.body = record.toJson.text) ↔ Addressable record.pid := by
  constructor
  · rintro ⟨h200, hbody⟩
    obtain ⟨written, hpath, hbegins, hchars, hlen⟩ := hget.path
    rcases handle_outcome h with ⟨⟨hmethod, -⟩ | hstatus, -, -⟩ | ⟨endpoint, inner, hr, rfl, ho⟩
    · rw [hget.method] at hmethod
      exact absurd hmethod (by decide)
    · rw [h200] at hstatus
      exact absurd hstatus (by decide)
    obtain ⟨-, rfl⟩ := (routed_get hget.method hpath endpoint).1 hr
    rw [sent_status] at h200
    obtain ⟨pid, kept, shown, hd, hkept, hshown, hinner⟩ := ho.resolves h200
    rw [sent_body, hget.method, if_neg (by decide), hinner] at hbody
    have hpid : record.pid = pid :=
      calc record.pid = shown.pid := (Json.pid_of_text_eq hbody).symm
        _ = kept.pid := hshown
        _ = pid := hfiled pid kept hkept
    rw [← hpid] at hd
    obtain ⟨rfl, hplain⟩ := eq_of_decode? hbegins hd
    exact ⟨hchars, Percent.plain_encode_iff.1 hplain, hlen⟩
  · intro had
    have htarget : r.target = ⟨Route.recordPath ++ record.pid, none⟩ :=
      Option.some.inj (hget.target.symm.trans had.ofText?)
    have hpath : r.target.path = Route.recordPath ++ record.pid := by rw [htarget]
    have hv : Form.given "view" (parameters r) = [] := by
      rw [parameters, htarget]
      rfl
    have hr : Routed r (.resolve record.pid) := (routed_get hget.method hpath _).2 ⟨hp, rfl⟩
    obtain ⟨-, -, hresponse⟩ := (alone_get hr had.decode hv).1 h
    rw [query_of_lookup hk] at hresponse
    rw [hresponse, sent_status, sent_body, hget.method, if_neg (by decide)]
    exact ⟨rfl, rfl⟩

end Reading

/-- A registration that succeeds says where the record is. A request for what is there is answered with
the same record if and only if the identifier can stand in a path; one that was minted can. -/
theorem found_at_location_iff (hfiled : Filed st) (h : Alone st (handle s a r) log response st')
    (hm : ∀ text, (⟨.mint, text⟩ : Taken) ∈ log → IsUuid text) (hs : response.status = 201) :
    ∃ submitted record, Submission.record r = .ok submitted ∧ response.body = record.toJson.text ∧
      response.headers.lookup "location" = some (Route.recordPath ++ record.pid) ∧
      (submitted.pid ≠ "" → record = submitted) ∧ (submitted.pid = "" → Addressable record.pid) ∧
      (Addressable record.pid → ∃ get, Asks (Route.recordPath ++ record.pid) get) ∧
      ∀ s' a' get, Asks (Route.recordPath ++ record.pid) get →
        (∃ log' answer st'', Alone st' (handle s' a' get) log' answer st'') ∧
        ∀ log' answer st'', Alone st' (handle s' a' get) log' answer st'' →
          ((answer.status = 200 ∧ answer.body = response.body) ↔ Addressable record.pid) := by
  rcases handle_outcome h with ⟨⟨-, hstatus⟩ | hstatus, -, -⟩ | ⟨endpoint, inner, hr, rfl, ho⟩
  · rw [hs] at hstatus
    cases hstatus
  · rw [hs] at hstatus
    exact absurd hstatus (by decide)
  rw [sent_status] at hs
  obtain ⟨rfl, submitted, record, rest, hb, hn, rfl, hor⟩ := ho.creates hs
  have hcreated := created_of_status hs
  have hbody : (sent r (created record)).body = record.toJson.text := by
    rw [sent_body, hr.post, if_neg (by decide), hcreated]
    rfl
  have hstored : Keyed.lookup record.pid st'.records = some record := by
    rcases hor with ⟨-, rfl⟩ | ⟨-, hk, rfl⟩
    · exact (keeps_put st record).stored
    · exact hk
  refine ⟨submitted, record, hb.record, hbody, ?_, ?_, ?_, ?_, ?_⟩
  · rw [sent_headers, hcreated]
    rfl
  · intro hp
    rcases named_of_brings hb hn with ⟨-, hrecord⟩ | ⟨hp', -⟩
    · exact hrecord
    · exact absurd hp' hp
  · intro hp
    rcases named_of_brings hb hn with ⟨hp', -⟩ | ⟨-, text, ht, rfl⟩
    · exact absurd hp hp'
    · exact addressable_of_isUuid (hm text ht)
  · intro had
    exact ⟨⟨"GET", _, [], []⟩, rfl, had.ofText?⟩
  · intro s' a' get hget
    refine ⟨exists_alone _ _, fun log' answer st'' hanswer => ?_⟩
    rw [hbody]
    exact found_iff (filed_of_alone h hfiled) hn.pid_ne hstored hget hanswer

theorem found_at_location_iff_own : ∃ log response st', Filed {} ∧
    Alone {} (handle ⟨"profile", .failFast, .acceptAll⟩ ⟨"1", "now"⟩
      (posting "\x7b\"pid\":\"own\"\x7d")) log response st' ∧
    (∀ text, (⟨.mint, text⟩ : Taken) ∈ log → IsUuid text) ∧ response.status = 201 ∧
    ∃ location get log' answer st'', response.headers.lookup "location" = some location ∧
      Asks location get ∧
      Alone st' (handle ⟨"profile", .failFast, .acceptAll⟩ ⟨"2", "later"⟩ get) log' answer st'' ∧
      answer.status = 200 ∧ answer.body = response.body := by
  have hrec : Record.ofText "\x7b\"pid\":\"own\"\x7d" = .ok ⟨"own", []⟩ := by cbv
  obtain ⟨log, response, st', h, hm, hs⟩ : ∃ log response st',
      Alone {} (handle ⟨"profile", .failFast, .acceptAll⟩ ⟨"1", "now"⟩
        (posting "\x7b\"pid\":\"own\"\x7d")) log response st' ∧
      (∀ text, (⟨.mint, text⟩ : Taken) ∈ log → IsUuid text) ∧ response.status = 201 := by
    have hfree : Keyed.lookup "own" (Store.records {}) = none := rfl
    have h := alone_posting (a := ⟨"1", "now"⟩) (by decide) hrec (accept_own (by decide) hfree)
    rw [created_of_isValue (by decide)] at h
    exact ⟨_, _, _, h, by simp, rfl⟩
  obtain ⟨submitted, record, hsub, -, hlocation, hown, -, hasks, hfound⟩ :=
    found_at_location_iff filed_empty h hm hs
  rw [record_posting (by decide) hrec] at hsub
  cases hsub
  obtain rfl := hown (by decide)
  have had : Addressable "own" := by
    refine ⟨List.all_eq_true.1 (by decide), ?_, by decide⟩
    intro a b _ _ hin
    exact absurd (hin.subset List.mem_cons_self) (by decide)
  obtain ⟨get, hget⟩ := hasks had
  obtain ⟨⟨log', answer, st'', hanswer⟩, hiff⟩ :=
    hfound ⟨"profile", .failFast, .acceptAll⟩ ⟨"2", "later"⟩ get hget
  obtain ⟨h200, hsame⟩ := (hiff log' answer st'' hanswer).2 had
  exact ⟨log, response, st', filed_empty, h, hm, hs, _, get, log', answer, st'', hlocation, hget,
    hanswer, h200, hsame⟩

/-- A question mark ends the path: the request is for another record. -/
def cutShort : Request where
  method := "GET"
  target := ⟨"/api/v1/pit/pid/a", some "b"⟩

theorem not_found_at_location : ∃ log response st' location log' answer st'',
    Alone {} (handle ⟨"profile", .failFast, .acceptAll⟩ ⟨"1", "now"⟩
      (posting "\x7b\"pid\":\"a?b\"\x7d")) log response st' ∧
    response.status = 201 ∧ response.headers.lookup "location" = some location ∧
    Asks location cutShort ∧
    Alone st' (handle ⟨"profile", .failFast, .acceptAll⟩ ⟨"2", "later"⟩ cutShort) log' answer st'' ∧
    answer.status = 404 := by
  have hrec : Record.ofText "\x7b\"pid\":\"a?b\"\x7d" = .ok ⟨"a?b", []⟩ := by cbv
  have hfree : Keyed.lookup "a?b" (Store.records {}) = none := rfl
  have h := alone_posting (a := ⟨"1", "now"⟩) (by decide) hrec (accept_own (by decide) hfree)
  rw [created_of_isValue (by decide)] at h
  have hasks : Asks (Route.recordPath ++ "a?b") cutShort := ⟨rfl, by decide +kernel⟩
  have hroute : Routed cutShort (.resolve "a") := (routed_get rfl rfl _).2 ⟨by decide, rfl⟩
  have hd : Route.decode? "a" = some "a" := by decide +kernel
  have hv : Form.given "view" (parameters cutShort) = [] := by decide +kernel
  exact ⟨_, _, _, _, _, _, _, h, rfl, rfl, hasks, (alone_get hroute hd hv).2 ⟨rfl, rfl, rfl⟩, rfl⟩

end Api

end TypedPid
