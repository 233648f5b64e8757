import Mathlib.Data.List.Sort
import Mathlib.Tactic.Common
import TypedPid.Keyed

/-!
More on finite maps from text keys: which pairs are in them after a change, how many there are, what is
found after all values are changed or some pairs left out, and what a list of pairs makes. A map is
determined by what is found in it.
-/

namespace TypedPid

lemma nodup_of_ascending {keys : List String} (h : keys.Pairwise (· < ·)) : keys.Nodup := by
  refine h.imp fun hlt heq => ?_
  exact absurd (heq ▸ hlt) (String.lt_irrefl _)

namespace Keyed

section Pairs

variable {α : Type} {m m' : Keyed α} {k : String} {v : α} {a : String × α}

lemma nodup_keys (h : Ordered m) : (keys m).Nodup := nodup_of_ascending h

lemma mem_iff_lookup (h : Ordered m) : (k, v) ∈ m ↔ lookup k m = some v :=
  ⟨lookup_of_mem h, mem_of_lookup⟩

lemma contains_of_mem (h : a ∈ m) : contains a.1 m = true :=
  contains_iff_mem_keys.2 (List.mem_map_of_mem h)

lemma mem_insert (h : Ordered m) : a ∈ insert k v m ↔ a = (k, v) ∨ a ∈ m ∧ a.1 ≠ k := by
  obtain ⟨k', v'⟩ := a
  rw [mem_iff_lookup (insert_ordered k v h), lookup_insert, mem_iff_lookup h]
  by_cases hk : k' = k
  · simp [hk, eq_comm]
  · simp [hk]

lemma mem_erase : a ∈ erase k m ↔ a ∈ m ∧ a.1 ≠ k := by simp [erase]

lemma length_insert_le : (insert k v m).length ≤ m.length + 1 := by
  induction m with
  | nil => simp [insert]
  | cons a m ih =>
    rw [insert]
    split
    · simp
    · split
      · simp
      · simpa using ih

lemma length_insert_of_contains (h : Ordered m) (hk : contains k m = true) :
    (insert k v m).length = m.length := by
  induction m with
  | nil => cases hk
  | cons a m ih =>
    obtain ⟨k', v'⟩ := a
    obtain ⟨hlt, hm⟩ := ordered_cons.1 h
    rcases List.mem_cons.1 (contains_iff_mem_keys.1 hk) with rfl | hmem
    · simp [insert]
    · obtain ⟨b, hb, rfl⟩ := List.mem_map.1 hmem
      have hgt : k' < b.1 := hlt b hb
      have hne : b.1 ≠ k' := fun heq => String.lt_irrefl k' (heq ▸ hgt)
      rw [insert, if_neg (String.lt_asymm hgt), if_neg hne, List.length_cons, List.length_cons,
        ih hm (contains_of_mem hb)]

lemma length_erase (h : Ordered m) (hk : contains k m = true) :
    (erase k m).length + 1 = m.length := by
  induction m with
  | nil => cases hk
  | cons a m ih =>
    obtain ⟨k', v'⟩ := a
    obtain ⟨hlt, hm⟩ := ordered_cons.1 h
    by_cases heq : k' = k
    · subst heq
      have hrest : erase k' m = m := by
        refine List.filter_eq_self.2 fun b hb => ?_
        have hne : b.1 ≠ k' := fun heq => String.lt_irrefl k' (heq ▸ hlt b hb)
        simpa using hne
      have hcons : erase k' ((k', v') :: m) = erase k' m := by simp [erase]
      rw [hcons, hrest, List.length_cons]
    · have hcons : erase k ((k', v') :: m) = (k', v') :: erase k m := by
        simp [erase, heq]
      have hk' : contains k m = true := by
        simpa [contains, lookup, Ne.symm heq] using hk
      rw [hcons, List.length_cons, List.length_cons, ih hm hk']

lemma ordered_filter (P : String × α → Bool) (h : Ordered m) : Ordered (m.filter P) :=
  List.Pairwise.sublist (List.Sublist.map _ List.filter_sublist) h

lemma lookup_filter {P : String × α → Bool} (h : Ordered m) :
    lookup k (m.filter P) = (lookup k m).filter fun v => P (k, v) := by
  ext v
  rw [← mem_iff_lookup (ordered_filter P h), List.mem_filter, Option.filter_eq_some_iff,
    mem_iff_lookup h]

lemma contains_filter_iff {P : String → Bool} (k : String) (m : Keyed α) :
    contains k (m.filter fun e => P e.1) = true ↔ contains k m = true ∧ P k = true := by
  rw [contains_iff_mem_keys, contains_iff_mem_keys, keys, keys]
  constructor
  · intro hk
    obtain ⟨e, he, rfl⟩ := List.mem_map.1 hk
    obtain ⟨he, hP⟩ := List.mem_filter.1 he
    exact ⟨List.mem_map_of_mem he, hP⟩
  · rintro ⟨hk, hP⟩
    obtain ⟨e, he, rfl⟩ := List.mem_map.1 hk
    exact List.mem_map_of_mem (List.mem_filter.2 ⟨he, hP⟩)

/-- A map is determined by what is found in it. -/
lemma eq_of_lookup (h : Ordered m) (h' : Ordered m') (hl : ∀ k, lookup k m = lookup k m') : m = m' := by
  have hmem (e : String × α) : e ∈ m ↔ e ∈ m' := by
    constructor
    · exact fun he => mem_of_lookup ((hl e.1).symm.trans (lookup_of_mem h he))
    · exact fun he => mem_of_lookup ((hl e.1).trans (lookup_of_mem h' he))
  have hirrefl : Std.Irrefl fun e e' : String × α => e.1 < e'.1 := ⟨fun e => String.lt_irrefl e.1⟩
  have hantisymm : Std.Antisymm fun e e' : String × α => e.1 < e'.1 :=
    ⟨fun e e' hlt hgt => absurd hgt (String.lt_asymm hlt)⟩
  exact (List.pairwise_map.1 h).eq_of_mem_iff (List.pairwise_map.1 h') hmem

end Pairs

section Values

variable {α β : Type}

/-- Changes what is filed, under every key in the same way. -/
def mapValues (f : α → β) (m : Keyed α) : Keyed β := m.map fun e => (e.1, f e.2)

@[simp] lemma keys_mapValues (f : α → β) (m : Keyed α) : keys (mapValues f m) = keys m := by
  simp [keys, mapValues]

lemma ordered_mapValues {f : α → β} {m : Keyed α} : Ordered (mapValues f m) ↔ Ordered m := by
  rw [Ordered, keys_mapValues, Ordered]

lemma lookup_mapValues (f : α → β) (m : Keyed α) (k : String) :
    lookup k (mapValues f m) = (lookup k m).map f := by
  induction m with
  | nil => rfl
  | cons e rest ih =>
    change (if k = e.1 then some (f e.2) else lookup k (mapValues f rest)) =
      (if k = e.1 then some e.2 else lookup k rest).map f
    rw [ih]
    split <;> rfl

end Values

section Built

variable {α : Type}

/-- What stands under a key in a row of pairs, one after another. -/
def named (k : String) (es : List (String × α)) : List α := (es.filter (·.1 = k)).map (·.2)

lemma named_nil (k : String) : named k ([] : List (String × α)) = [] := rfl

lemma named_cons (k : String) (e : String × α) (es : List (String × α)) :
    named k (e :: es) = if e.1 = k then e.2 :: named k es else named k es := by
  rw [named, List.filter_cons]
  by_cases h : e.1 = k <;> simp [h, named]

lemma mem_named {e : String × α} {es : List (String × α)} (h : e ∈ es) : e.2 ∈ named e.1 es := by
  refine List.mem_map_of_mem (List.mem_filter.2 ⟨h, ?_⟩)
  simp

lemma insert_of_forall_lt {m : Keyed α} {k : String} (v : α) (h : ∀ e ∈ m, e.1 < k) :
    insert k v m = m ++ [(k, v)] := by
  induction m with
  | nil => rfl
  | cons e rest ih =>
    obtain ⟨hfirst, hrest⟩ := List.forall_mem_cons.1 h
    have hlt : ¬ k < e.1 := fun hk => String.lt_irrefl k (String.lt_trans hk hfirst)
    have hne : k ≠ e.1 := fun heq => String.lt_irrefl k (heq ▸ hfirst)
    rw [insert, if_neg hlt, if_neg hne, ih hrest, List.cons_append]

lemma foldl_insert {m acc : Keyed α} (h : Ordered (acc ++ m)) :
    m.foldl (fun m e => insert e.1 e.2 m) acc = acc ++ m := by
  induction m generalizing acc with
  | nil => rw [List.foldl_nil, List.append_nil]
  | cons e rest ih =>
    have hlt : ∀ e' ∈ acc, e'.1 < e.1 := by
      rw [Ordered, keys, List.map_append, List.pairwise_append] at h
      exact fun e' he' => h.2.2 e'.1 (List.mem_map_of_mem he') e.1 List.mem_cons_self
    have hacc : insert e.1 e.2 acc = acc ++ [e] := insert_of_forall_lt e.2 hlt
    rw [List.append_cons] at h
    rw [List.foldl_cons, hacc, ih h, List.append_assoc, List.singleton_append]

lemma ofList_eq_self {m : Keyed α} (h : Ordered m) : ofList m = m := by
  have hm : Ordered ([] ++ m) := h
  rw [ofList, foldl_insert hm, List.nil_append]

lemma mem_of_mem_foldl_insert {es : List (String × α)} {acc : Keyed α} {e : String × α}
    (h : e ∈ es.foldl (fun m e => insert e.1 e.2 m) acc) : e ∈ acc ∨ e ∈ es := by
  induction es generalizing acc with
  | nil => exact .inl h
  | cons e' es ih =>
    rcases ih h with h | h
    · rcases mem_insert_key h with rfl | h
      · exact .inr List.mem_cons_self
      · exact .inl h
    · exact .inr (List.mem_cons_of_mem _ h)

lemma mem_of_mem_ofList {es : List (String × α)} {e : String × α} (h : e ∈ ofList es) : e ∈ es :=
  (mem_of_mem_foldl_insert h).resolve_left List.not_mem_nil

lemma lookup_foldl_insert (es : List (String × α)) (acc : Keyed α) (k : String) :
    lookup k (es.foldl (fun m e => insert e.1 e.2 m) acc) =
      (named k es).getLast?.or (lookup k acc) := by
  induction es generalizing acc with
  | nil => rfl
  | cons e es ih =>
    rw [List.foldl_cons, ih, lookup_insert, named_cons]
    by_cases h : k = e.1
    · rw [if_pos h, if_pos h.symm, List.getLast?_cons]
      cases (named k es).getLast? <;> rfl
    · rw [if_neg h, if_neg (Ne.symm h)]

/-- Of the pairs with a key the last one counts. -/
lemma lookup_ofList (es : List (String × α)) (k : String) :
    lookup k (ofList es) = (named k es).getLast? := by
  rw [ofList, lookup_foldl_insert, lookup, Option.or_none]

end Built

end Keyed

end TypedPid
