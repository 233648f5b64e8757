import TypedPid.Proofs.Except
import TypedPid.Proofs.Registry.Locators
import TypedPid.Url.Reader

/-!
What a client makes of the answers of a registry, whatever is answered.
-/

namespace TypedPid

namespace Url

variable {scheme text : String} {cs : List Char} {u : Url}

lemma hasPath_behindSlashes (h : behindSlashes scheme cs = .ok u) :
    u.scheme = scheme ∧ ∃ segments, u.path = .segments segments := by
  simp only [behindSlashes] at h
  -- with a user before the host, and without
  split at h
  all_goals
    split at h
    · cases h
    · obtain ⟨_, -, h⟩ := bind_eq_ok_iff.1 h
      split at h
      · cases h
      · cases h
        exact ⟨rfl, _, rfl⟩

lemma hasPath_ofFile (h : ofFile cs = .ok u) : ∃ segments, u.path = .segments segments := by
  cases cs with
  | nil =>
    cases h
    exact ⟨_, rfl⟩
  | cons a rest =>
    simp only [ofFile] at h
    split at h
    · cases h
      exact ⟨_, rfl⟩
    · cases rest with
      | nil =>
        cases h
        exact ⟨_, rfl⟩
      | cons b rest =>
        dsimp only at h
        split at h
        · split at h
          all_goals
            obtain ⟨_, -, h⟩ := bind_eq_ok_iff.1 h
            cases h
            exact ⟨_, rfl⟩
        · cases h
          exact ⟨_, rfl⟩

lemma scheme_ofOther (h : ofOther scheme cs = .ok u) : u.scheme = scheme := by
  unfold ofOther at h
  split at h
  · exact (hasPath_behindSlashes h).1
  · cases h
    rfl
  · cases h
    rfl

/-- A locator of the web has a path of segments. -/
lemma hasPath_of_web (h : ofText? text = .ok u) (hw : u.scheme = "http" ∨ u.scheme = "https") :
    ∃ segments, u.path = .segments segments := by
  unfold ofText? at h
  split at h
  · cases h
  · next scheme rest _ =>
    split at h
    · exact hasPath_ofFile h
    · split at h
      · exact (hasPath_behindSlashes h).2
      · next hspecial =>
        rw [scheme_ofOther h] at hw
        rcases hw with rfl | rfl <;> exact absurd rfl hspecial

end Url

/-- Every failure to deliver says where. -/
lemma LoadError.message_eq (e : LoadError) :
    ∃ rest, e.message = "type registry at " ++ e.endpoint ++ rest := by
  cases e <;> exact ⟨_, String.append_assoc⟩

namespace Registry

variable {r : Registry} {exchange : Url → Exchange} {identifier text : String} {url : Url}
  {x : Exchange} {d : TypeDefinition} {e : LoadError} {body : Json.Source} {status : Nat}

/-- What a client comes to, given how requests are answered. -/
def reply (r : Registry) (exchange : Url → Exchange) (identifier : String) : LoadResult :=
  r.load (m := Id) exchange identifier

lemma received_eq_ok_iff : received identifier body = .ok d ↔
    ∃ document, TypeDocument.ofSource body = .ok document ∧ document.toDefinition = .ok d ∧
      d.identifier = identifier := by
  simp only [received, TypeDocument.definition?, bind_eq_ok_iff, mapError_eq_ok_iff]
  constructor
  · rintro ⟨d', ⟨document, hd, hdef⟩, h⟩
    split at h
    · next hid =>
      cases h
      exact ⟨document, hd, hdef, hid⟩
    · cases h
  · rintro ⟨document, hd, hdef, hid⟩
    exact ⟨d, ⟨document, hd, hdef⟩, if_pos hid⟩

lemma result_eq_some_iff : r.result identifier x = .ok (some d) ↔
    ∃ status body, x = .answered status body ∧ 200 ≤ status ∧ status < 300 ∧
      received identifier body = .ok d := by
  cases x with
  | answered status body =>
    simp only [result]
    split
    · next h404 =>
      subst h404
      simp
    · split
      · next hok => simp [map_eq_ok_iff, mapError_eq_ok_iff, hok]
      · next hno =>
        refine iff_of_false (by simp) ?_
        rintro ⟨status', body', heq, hlo, hhi, -⟩
        cases heq
        exact hno ⟨hlo, hhi⟩
  | failed message => simp [result]
  | timedOut => simp [result]

lemma result_eq_none_iff : r.result identifier x = .ok none ↔ ∃ body, x = .answered 404 body := by
  cases x with
  | answered status body =>
    simp only [result]
    split
    · next h404 => simp [h404]
    · next h404 =>
      split <;> simp [map_eq_ok_iff, h404]
  | failed message => simp [result]
  | timedOut => simp [result]

lemma endpoint_of_result (h : r.result identifier x = .error e) : e.endpoint = r.endpoint := by
  cases x with
  | answered status body =>
    simp only [result] at h
    split at h
    · cases h
    · split at h
      · cases hr : received identifier body with
        | ok d =>
          rw [hr] at h
          cases h
        | error cause =>
          rw [hr] at h
          cases h
          rfl
      · cases h
        rfl
  | failed message =>
    cases h
    rfl
  | timedOut =>
    cases h
    rfl

lemma scheme_of_objectUrl? (h : r.objectUrl? identifier = some url) : url.scheme = r.base.scheme := by
  obtain ⟨-, _, -, rfl⟩ := objectUrl?_eq_some_iff.1 h
  rfl

section Web

variable (hbase : Url.ofText? text = .ok r.base) (hw : r.base.scheme = "http" ∨ r.base.scheme = "https")

include hbase hw

lemma objectUrl?_eq_none_iff : r.objectUrl? identifier = none ↔
    ∃ part ∈ parts identifier, part = "" ∨ part = "." ∨ part = ".." := by
  obtain ⟨segments, hpath⟩ := Url.hasPath_of_web hbase hw
  rw [objectUrl?, hpath]
  dsimp only
  split
  · next h => simpa [List.any_eq_true] using h
  · next h => simpa [List.any_eq_true] using h

omit hbase in
/-- A request is sent for every identifier that can name an object, and for no other one. -/
lemma reply_eq : r.reply exchange identifier =
    match r.objectUrl? identifier with
    | none => .ok none
    | some url => r.result identifier (exchange url) := by
  cases h : r.objectUrl? identifier with
  | none =>
    simp only [reply, load, h]
    rfl
  | some url =>
    have hurl : url.scheme = "http" ∨ url.scheme = "https" := scheme_of_objectUrl? h ▸ hw
    simp only [reply, load, h, if_pos hurl]
    rfl

omit hbase in
lemma reply_eq_some_iff : r.reply exchange identifier = .ok (some d) ↔
    ∃ url status body, r.objectUrl? identifier = some url ∧ exchange url = .answered status body ∧
      200 ≤ status ∧ status < 300 ∧ ∃ document, TypeDocument.ofSource body = .ok document ∧
        document.toDefinition = .ok d ∧ d.identifier = identifier := by
  rw [reply_eq hw]
  cases r.objectUrl? identifier with
  | none => simp
  | some url => simp [result_eq_some_iff, received_eq_ok_iff]

lemma reply_eq_none_iff : r.reply exchange identifier = .ok none ↔
    (∃ part ∈ parts identifier, part = "" ∨ part = "." ∨ part = "..") ∨
      ∃ url body, r.objectUrl? identifier = some url ∧ exchange url = .answered 404 body := by
  rw [reply_eq hw, ← objectUrl?_eq_none_iff hbase hw]
  cases r.objectUrl? identifier with
  | none => simp
  | some url => simp [result_eq_none_iff]

omit hbase in
lemma endpoint_of_reply (h : r.reply exchange identifier = .error e) :
    e.endpoint = r.endpoint := by
  rw [reply_eq hw] at h
  cases hurl : r.objectUrl? identifier with
  | none =>
    rw [hurl] at h
    cases h
  | some url =>
    rw [hurl] at h
    exact endpoint_of_result h

end Web

end Registry
end TypedPid
