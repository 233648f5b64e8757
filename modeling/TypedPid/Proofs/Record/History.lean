import Mathlib.Data.List.DropRight
import TypedPid.Proofs.Record.Projection

/-!
What a record tells of its past. Under each key there are the entries that were pushed under it since it
was last removed, in this order, and nothing that is done to other keys or to the identifier counts.
-/

namespace TypedPid

namespace Edit

/-- Whether an edit changes the record itself, and does not derive a view of it. -/
def isDirect : Edit → Bool
  | project _ => false
  | _ => true

def key? : Edit → Option String
  | add key _ _ => some key
  | withEntry key _ => some key
  | push e => some e.key
  | remove key => some key
  | _ => none

def brought? : Edit → Option Entry
  | add key name value => some ⟨key, name, some value⟩
  | withEntry key value => some ⟨key, none, some value⟩
  | push e => some e
  | _ => none

def removes (k : String) : Edit → Bool
  | remove key => key = k
  | _ => false

/-- The entries that some edits pushed under a key after they last removed it. -/
def standing (k : String) (edits : List Edit) : List Entry :=
  ((edits.rtakeWhile fun e => !e.removes k).filterMap brought?).filter (·.key = k)

variable {e : Edit} {k : String}

lemma key_of_removes (h : e.removes k = true) : e.key? = some k := by
  cases e with
  | remove key => exact congrArg some (of_decide_eq_true h)
  | _ => cases h

lemma key_of_brought? {entry : Entry} (h : e.brought? = some entry) : e.key? = some entry.key := by
  cases e <;> cases h <;> rfl

lemma standing_snoc (k : String) (edits : List Edit) (e : Edit) : standing k (edits ++ [e]) =
    if e.removes k then [] else standing k edits ++ e.brought?.toList.filter (·.key = k) := by
  rw [standing, List.rtakeWhile_concat]
  cases e.removes k with
  | true => rfl
  | false =>
    rw [Bool.not_false, if_pos rfl, if_neg Bool.false_ne_true, List.filterMap_append,
      List.filter_append, standing, List.filterMap_cons]
    cases e.brought? <;> rfl

lemma standing_snoc_of_ne (h : e.key? ≠ some k) (edits : List Edit) :
    standing k (edits ++ [e]) = standing k edits := by
  have hremoves : ¬ e.removes k = true := fun hr => h (key_of_removes hr)
  have hentry : e.brought?.toList.filter (·.key = k) = [] := by
    refine List.filter_eq_nil_iff.2 fun entry he hk => h ?_
    rw [key_of_brought? (Option.mem_toList.1 he), of_decide_eq_true hk]
  rw [standing_snoc, if_neg hremoves, hentry, List.append_nil]

end Edit

open Edit

namespace Record

variable {r : Record} {e : Edit} {edits : List Edit} {es : List Entry} {k : String}

/-- The record that some edits make of a new one. -/
def edited (pid : String) (edits : List Edit) : Record :=
  edits.foldl (fun r e => e.apply r) (empty pid)

/-- Just these entries are told under a key. -/
structure Tells (r : Record) (k : String) (es : List Entry) : Prop where
  values : r.values k = es.map (·.value)
  has : r.has k = true ↔ es ≠ []
  value : r.value? k = (es.filterMap (·.value)).head?
  listed : k ∈ r.attributes ↔ es ≠ []
  removed : (r.remove k).1 = if es = [] then none else some es

/-- No attribute is without entries. -/
def Filled (r : Record) : Prop := ∀ k, k ∈ r.attributes ↔ r.entriesOf k ≠ []

lemma edited_snoc (pid : String) (edits : List Edit) (e : Edit) :
    edited pid (edits ++ [e]) = e.apply (edited pid edits) := by
  rw [edited, List.foldl_append]
  rfl

lemma entriesOf_apply (h : e.isDirect = true) (r : Record) (k : String) :
    (e.apply r).entriesOf k =
      if e.removes k then [] else r.entriesOf k ++ e.brought?.toList.filter (·.key = k) := by
  have hpush (entry : Entry) : (r.push entry).entriesOf k =
      r.entriesOf k ++ [entry].filter (·.key = k) := by
    rw [entriesOf_push, List.filter_singleton]
    by_cases hk : entry.key = k <;> simp [hk]
  cases e with
  | setPid pid => exact (List.append_nil _).symm
  | add key name value => exact hpush _
  | withEntry key value => exact hpush _
  | push entry => exact hpush _
  | remove key =>
    rw [Edit.apply, entriesOf_remove]
    by_cases hk : key = k
    · simp [removes, hk]
    · simp [removes, hk, Ne.symm hk, brought?]
  | project d => cases h

lemma Filled.push (h : r.Filled) (entry : Entry) : (r.push entry).Filled := by
  intro k
  rw [mem_attributes_push, entriesOf_push, h k]
  by_cases hk : entry.key = k
  · simp [hk]
  · simp [hk, Ne.symm hk]

lemma Filled.remove (h : r.Filled) (key : String) : (r.remove key).2.Filled := by
  intro k
  rw [mem_attributes_remove, entriesOf_remove, h k]
  by_cases hk : k = key <;> simp [hk]

lemma Filled.apply (h : r.Filled) (he : e.isDirect = true) : (e.apply r).Filled := by
  cases e with
  | setPid pid => exact h
  | add key name value => exact h.push _
  | withEntry key value => exact h.push _
  | push entry => exact h.push entry
  | remove key => exact h.remove key
  | project d => cases he

lemma Filled.tells (h : r.Filled) (k : String) : r.Tells k (r.entriesOf k) := by
  have hhas : r.has k = true ↔ r.entriesOf k ≠ [] := Keyed.contains_iff_mem_keys.trans (h k)
  refine ⟨rfl, hhas, ?_, h k, ?_⟩
  · rw [value?, List.head?_filterMap]
  · rw [Record.remove, lookup_entries]
    by_cases hk : r.entriesOf k = []
    · rw [if_pos hk, if_neg fun ht => hhas.1 ht hk]
    · rw [if_neg hk, if_pos (hhas.2 hk)]

lemma made_edited (pid : String) (edits : List Edit) : Made (edited pid edits) := by
  induction edits using List.reverseRecOn with
  | nil => exact .empty pid
  | append_singleton edits e ih =>
    rw [edited_snoc]
    exact .edit e ih

lemma filled_edited (pid : String) (h : ∀ e ∈ edits, e.isDirect = true) :
    (edited pid edits).Filled := by
  induction edits using List.reverseRecOn with
  | nil => exact fun k => iff_of_false List.not_mem_nil fun hne => hne rfl
  | append_singleton edits e ih =>
    obtain ⟨hbefore, he⟩ := List.forall_mem_append.1 h
    rw [edited_snoc]
    exact (ih hbefore).apply (he e (List.mem_singleton_self e))

lemma entriesOf_edited (pid : String) (h : ∀ e ∈ edits, e.isDirect = true) (k : String) :
    (edited pid edits).entriesOf k = standing k edits := by
  -- From the end, since it is the last removal that counts.
  induction edits using List.reverseRecOn with
  | nil => rfl
  | append_singleton edits e ih =>
    obtain ⟨hbefore, he⟩ := List.forall_mem_append.1 h
    rw [edited_snoc, entriesOf_apply (he e (List.mem_singleton_self e)), ih hbefore, standing_snoc]

lemma tells_edited (pid : String) (h : ∀ e ∈ edits, e.isDirect = true) (k : String) :
    (edited pid edits).Tells k (standing k edits) := by
  rw [← entriesOf_edited pid h]
  exact (filled_edited pid h).tells k

/-- After any edits a record has just those attributes under which entries stand that were pushed and not
removed since, in ascending order, and it tells these entries of each. An edit that is not about a key
leaves what is told of this key as it is. -/
theorem edits_told (pid : String) (h : ∀ e ∈ edits, e.isDirect = true) :
    (edited pid edits).attributes.Pairwise (· < ·) ∧
    ∀ k, (edited pid edits).Tells k (standing k edits) ∧
      ∀ e : Edit, e.isDirect = true → e.key? ≠ some k →
        (e.apply (edited pid edits)).Tells k (standing k edits) := by
  have hordered : Keyed.Ordered (edited pid edits).entries := (made_edited pid edits).wellFiled.ordered
  refine ⟨hordered, fun k => ⟨tells_edited pid h k, fun e he hk => ?_⟩⟩
  have hall : ∀ e' ∈ edits ++ [e], e'.isDirect = true :=
    List.forall_mem_append.2 ⟨h, List.forall_mem_singleton.2 he⟩
  rw [← edited_snoc, ← standing_snoc_of_ne hk]
  exact tells_edited pid hall k

/-- A key that is removed and pushed again, values that are repeated or not there, and other keys between. -/
def changes : List Edit :=
  [.add "a" (some "x") "0", .push ⟨"b", none, some "1"⟩, .remove "a", .push ⟨"a", some "", none⟩,
    .setPid "p", .withEntry "a" "2", .remove "b", .add "a" (some "y") "2", .remove "c"]

theorem edits_told_changes : (∀ e ∈ changes, e.isDirect = true) ∧
    (edited "" changes).values "a" = [none, some "2", some "2"] ∧
    (edited "" changes).value? "a" = some "2" ∧
    (edited "" changes).has "b" = false ∧
    ((edited "" changes).remove "b").1 = none ∧
    ((Edit.withEntry "b" "3").apply (edited "" changes)).values "a" = [none, some "2", some "2"] := by
  have h : ∀ e ∈ changes, e.isDirect = true := by decide
  have ha : standing "a" changes =
      [⟨"a", some "", none⟩, ⟨"a", none, some "2"⟩, ⟨"a", some "y", some "2"⟩] := rfl
  have hb : standing "b" changes = [] := rfl
  obtain ⟨-, htold⟩ := edits_told "" h
  obtain ⟨hfirst, hkept⟩ := htold "a"
  obtain ⟨hsecond, -⟩ := htold "b"
  rw [ha] at hfirst hkept
  rw [hb] at hsecond
  refine ⟨h, hfirst.values, hfirst.value, ?_, hsecond.removed, ?_⟩
  · exact Bool.eq_false_iff.2 fun hhas => hsecond.has.1 hhas rfl
  · exact (hkept (.withEntry "b" "3") rfl (by decide)).values

end Record

end TypedPid
