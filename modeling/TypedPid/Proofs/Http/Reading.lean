import Mathlib.Data.List.TakeWhile
import Mathlib.Tactic.Common
import TypedPid.Http.Form
import TypedPid.Http.Message

/-! Parts of a request: parameters of its query that are given once, values of headers, its target. -/

namespace TypedPid.Http

namespace Form

/-- All values that a name is given. -/
def given (name : String) (f : Form) : List String := (f.filter (·.1 = name)).map (·.2)

def truth (b : Bool) : String := if b then "true" else "false"

variable {α : Type} {name : String} {read : String → Except Fault α} {found : Option α} {f : Form}

lemma value?_some (a : α) : value? name read (some a) f = .ok found ↔
    given name f = [] ∧ found = some a := by
  induction f with
  | nil => simp [value?, given, eq_comm]
  | cons pair rest ih =>
    obtain ⟨other, text⟩ := pair
    by_cases h : other = name
    · simp [value?, given, h]
    · simpa [value?, given, h] using ih

lemma value?_none : value? name read none f = .ok found ↔ (given name f = [] ∧ found = none) ∨
    ∃ text a, given name f = [text] ∧ read text = .ok a ∧ found = some a := by
  induction f with
  | nil => simp [value?, given, eq_comm]
  | cons pair rest ih =>
    obtain ⟨other, text⟩ := pair
    by_cases h : other = name
    · have hgiven : given name ((other, text) :: rest) = text :: given name rest := by
        simp [given, h]
      rw [hgiven, value?, if_pos h]
      cases hr : read text with
      | error fault => simp [hr, bind, Except.bind]
      | ok a =>
        have hv : value? name read (some a) rest = .ok found ↔ given name rest = [] ∧ found = some a :=
          value?_some a
        simp [hr, bind, Except.bind, hv, and_comm]
    · have hgiven : given name ((other, text) :: rest) = given name rest := by
        simp [given, h]
      rw [hgiven, value?, if_neg h]
      exact ih

lemma text?_eq_ok_iff {found : Option String} :
    text? name f = .ok found ↔ given name f = found.toList := by
  rw [text?, value?_none]
  cases found <;> simp

lemma flag?_eq_ok_iff {found : Option Bool} :
    flag? name f = .ok found ↔ given name f = found.toList.map truth := by
  rw [flag?, value?_none]
  cases found with
  | none => simp
  | some b =>
    simp only [reduceCtorEq, and_false, false_or, Option.toList_some, List.map_cons, List.map_nil]
    constructor
    · rintro ⟨text, a, hg, ha, hb⟩
      cases hb
      split at ha
      · next ht =>
        cases ha
        rw [hg, ht]
        rfl
      · split at ha
        · next hf =>
          cases ha
          rw [hg, hf]
          rfl
        · cases ha
    · intro hg
      refine ⟨truth b, b, hg, ?_, rfl⟩
      cases b <;> rfl

end Form

namespace Header

/-- A text is what is left of a value without the blanks at both its ends. -/
def Trims (value text : String) : Prop :=
  ∃ before after, value.toList = before ++ text.toList ++ after ∧
    (∀ c ∈ before ++ after, isBlank c = true) ∧
    (∀ c, text.toList.head? = some c → isBlank c = false) ∧
    ∀ c, text.toList.getLast? = some c → isBlank c = false

variable {s t : String} {c : Char}

lemma isBlank_of_mem_takeWhile {cs : List Char} (h : c ∈ cs.takeWhile isBlank) : isBlank c = true :=
  List.mem_takeWhile_imp h

lemma head?_dropWhile {cs : List Char} (h : (cs.dropWhile isBlank).head? = some c) :
    isBlank c = false := by
  have hn := List.head?_dropWhile_not isBlank cs
  rw [h] at hn
  exact hn

lemma trims_trim (value : String) : Trims value (trim value) := by
  let front := value.toList.dropWhile isBlank
  have htrim : (trim value).toList = (front.reverse.dropWhile isBlank).reverse :=
    String.toList_ofList
  have hsplit : front = (trim value).toList ++ (front.reverse.takeWhile isBlank).reverse := by
    rw [htrim, ← List.reverse_append, List.takeWhile_append_dropWhile, List.reverse_reverse]
  refine ⟨value.toList.takeWhile isBlank, (front.reverse.takeWhile isBlank).reverse, ?_, ?_, ?_, ?_⟩
  · rw [List.append_assoc, ← hsplit, List.takeWhile_append_dropWhile]
  · intro c hc
    rcases List.mem_append.1 hc with hc | hc
    · exact isBlank_of_mem_takeWhile hc
    · exact isBlank_of_mem_takeWhile (List.mem_reverse.1 hc)
  · intro c hc
    have hfront : front.head? = some c := by
      rw [hsplit, List.head?_append, hc]
      rfl
    exact head?_dropWhile hfront
  · intro c hc
    rw [htrim, List.getLast?_reverse] at hc
    exact head?_dropWhile hc

lemma isValue_append : isValue (s ++ t) = (isValue s && isValue t) := by
  simp [isValue]

end Header

namespace Target

variable {target : Target} {text : String} {beginning cs : List Char}

lemma ofText?_of_slash (h : text.toList = '/' :: cs) : ofText? text =
    if maxLength < text.utf8ByteSize then none else ofPathAndQuery? ('/' :: cs) := by
  unfold ofText?
  rw [h]
  rfl

/-- What is left of the end of a path in front of a query and a fragment. -/
def stem (cs : List Char) : List Char := (cs.takeWhile (· ≠ '#')).takeWhile (· ≠ '?')

lemma stem_prefix (cs : List Char) : stem cs <+: cs :=
  (List.takeWhile_prefix _).trans (List.takeWhile_prefix _)

lemma isPathChar_ne {c : Char} (h : isPathChar c = true) : c ≠ '#' ∧ c ≠ '?' := by
  constructor
  · rintro rfl
    revert h
    decide
  · rintro rfl
    revert h
    decide

lemma stem_append (h : ∀ c ∈ beginning, isPathChar c = true) :
    stem (beginning ++ cs) = beginning ++ stem cs := by
  have hfragment : ∀ c ∈ beginning, decide (c ≠ '#') = true :=
    fun c hc => decide_eq_true (isPathChar_ne (h c hc)).1
  have hquery : ∀ c ∈ beginning, decide (c ≠ '?') = true :=
    fun c hc => decide_eq_true (isPathChar_ne (h c hc)).2
  rw [stem, List.takeWhile_append_of_pos hfragment, List.takeWhile_append_of_pos hquery, stem]

lemma of_ofText? (hslash : text.toList = '/' :: cs) (h : ofText? text = some target) :
    target.path.toList = stem text.toList ∧ (∀ c ∈ target.path.toList, isPathChar c = true) ∧
      text.utf8ByteSize ≤ maxLength := by
  rw [ofText?_of_slash hslash] at h
  split at h
  · cases h
  next hlen =>
  have hstem : stem (['/'] ++ cs) = ['/'] ++ stem cs := stem_append (List.all_eq_true.1 rfl)
  rw [ofPathAndQuery?] at h
  simp only [Option.ite_none_right_eq_some, List.all_eq_true] at h
  obtain ⟨⟨hpath, -⟩, h⟩ := h
  have htarget : target.path = String.ofList (stem ('/' :: cs)) := by
    cases h
    change (if (stem (['/'] ++ cs)).isEmpty then "/" else String.ofList (stem (['/'] ++ cs))) = _
    rw [hstem]
    exact congrArg String.ofList hstem.symm
  rw [hslash, htarget, String.toList_ofList]
  exact ⟨rfl, hpath, Nat.not_lt.1 hlen⟩

lemma ofText?_of_isPathChar (hslash : text.toList = '/' :: cs)
    (hchars : ∀ c ∈ text.toList, isPathChar c = true) (hlen : text.utf8ByteSize ≤ maxLength) :
    ofText? text = some ⟨text, none⟩ := by
  have hne : ∀ c ∈ text.toList, c ≠ '#' ∧ c ≠ '?' := fun c hc => isPathChar_ne (hchars c hc)
  have hfragment : text.toList.takeWhile (· ≠ '#') = text.toList :=
    List.takeWhile_eq_self_iff.2 fun c hc => decide_eq_true (hne c hc).1
  have hquery : text.toList.takeWhile (· ≠ '?') = text.toList :=
    List.takeWhile_eq_self_iff.2 fun c hc => decide_eq_true (hne c hc).2
  have hrest : text.toList.dropWhile (· ≠ '?') = [] :=
    List.dropWhile_eq_nil_iff.2 fun c hc => decide_eq_true (hne c hc).2
  rw [ofText?_of_slash hslash, if_neg (Nat.not_lt.2 hlen), ← hslash, ofPathAndQuery?]
  have hempty : text.toList.isEmpty = false := by
    rw [hslash]
    rfl
  simp only [hfragment, hquery, hrest, hempty, List.all_eq_true.2 hchars, List.all_nil, and_self,
    if_true, Bool.false_eq_true, if_false, List.isEmpty_nil, String.ofList_toList]

end Target

end TypedPid.Http
