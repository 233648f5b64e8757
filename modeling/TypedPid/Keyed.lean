/-!
Finite maps from text keys, as lists of pairs in strictly ascending order of their keys. The order
is the one of code points, which is also the order of the UTF-8 bytes. `insert` and `erase` keep the
order, and `lookup_insert`, `lookup_erase` say what they do to the map that the list stands for.
-/
namespace TypedPid

/-- Pairs of a key and what is filed under it. -/
abbrev Keyed (α : Type u) := List (String × α)

namespace Keyed

variable {α : Type u}

def keys (m : Keyed α) : List String := m.map Prod.fst

/-- Every key is smaller than all that follow it. -/
def Ordered (m : Keyed α) : Prop := (keys m).Pairwise (· < ·)

def lookup (k : String) : Keyed α → Option α
  | [] => none
  | (k', v) :: rest => if k = k' then some v else lookup k rest

/-- Files `v` under `k`, in place of what was filed there. -/
def insert (k : String) (v : α) : Keyed α → Keyed α
  | [] => [(k, v)]
  | (k', v') :: rest =>
    if k < k' then (k, v) :: (k', v') :: rest
    else if k = k' then (k, v) :: rest
    else (k', v') :: insert k v rest

def erase (k : String) (m : Keyed α) : Keyed α := m.filter (fun e => e.1 ≠ k)

def contains (k : String) (m : Keyed α) : Bool := (lookup k m).isSome

/-- Files the pairs one after another; of two pairs with one key the later stays. -/
def ofList (entries : List (String × α)) : Keyed α := entries.foldl (fun m e => insert e.1 e.2 m) []

theorem ordered_nil : Ordered ([] : Keyed α) := List.Pairwise.nil

theorem ordered_cons {k : String} {v : α} {m : Keyed α} :
    Ordered ((k, v) :: m) ↔ (∀ e ∈ m, k < e.1) ∧ Ordered m := by
  simp [Ordered, keys]

theorem mem_insert_key {k : String} {v : α} {m : Keyed α} {e : String × α} (h : e ∈ insert k v m) :
    e = (k, v) ∨ e ∈ m := by
  induction m with
  | nil => simpa [insert] using h
  | cons e' rest ih =>
    obtain ⟨k', v'⟩ := e'
    simp only [insert] at h
    split at h
    · simpa using h
    · split at h
      · rcases List.mem_cons.1 h with h | h
        · exact .inl h
        · exact .inr (List.mem_cons_of_mem _ h)
      · rcases List.mem_cons.1 h with h | h
        · exact .inr (h ▸ List.mem_cons_self)
        · rcases ih h with h | h
          · exact .inl h
          · exact .inr (List.mem_cons_of_mem _ h)

theorem insert_ordered {m : Keyed α} (k : String) (v : α) (h : Ordered m) :
    Ordered (insert k v m) := by
  induction m with
  | nil => simp [insert, Ordered, keys]
  | cons e rest ih =>
    obtain ⟨k', v'⟩ := e
    obtain ⟨hk, hrest⟩ := ordered_cons.1 h
    simp only [insert]
    split
    · next hlt =>
      refine ordered_cons.2 ⟨fun e he => ?_, h⟩
      rcases List.mem_cons.1 he with rfl | he
      · exact hlt
      · exact String.lt_trans hlt (hk e he)
    · split
      · next hlt heq =>
        subst heq
        exact ordered_cons.2 ⟨hk, hrest⟩
      · next hlt hne =>
        refine ordered_cons.2 ⟨fun e he => ?_, ih hrest⟩
        rcases mem_insert_key he with rfl | he
        · rcases String.le_total k k' with hle | hle
          · exact absurd (String.le_antisymm hle (String.not_lt.1 hlt)) hne
          · exact String.not_le.1 fun hle' => hne (String.le_antisymm hle' hle)
        · exact hk e he

theorem erase_ordered {m : Keyed α} (k : String) (h : Ordered m) : Ordered (erase k m) :=
  List.Pairwise.sublist (List.Sublist.map _ List.filter_sublist) h

theorem ofList_ordered (entries : List (String × α)) : Ordered (ofList entries) := by
  suffices ∀ m : Keyed α, Ordered m → Ordered (entries.foldl (fun m e => insert e.1 e.2 m) m) from
    this [] ordered_nil
  induction entries with
  | nil => exact fun m h => h
  | cons e rest ih => exact fun m h => ih _ (insert_ordered _ _ h)

theorem lookup_insert (m : Keyed α) (k k' : String) (v : α) :
    lookup k' (insert k v m) = if k' = k then some v else lookup k' m := by
  induction m with
  | nil => simp [insert, lookup]
  | cons e rest ih =>
    obtain ⟨k₁, v₁⟩ := e
    simp only [insert]
    split
    · simp [lookup]
    · split
      · next heq =>
        subst heq
        by_cases h : k' = k <;> simp [lookup, h]
      · next hne =>
        simp only [lookup, ih]
        by_cases h₁ : k' = k₁
        · subst h₁
          simp [Ne.symm hne]
        · simp [h₁]

theorem lookup_erase (m : Keyed α) (k k' : String) :
    lookup k' (erase k m) = if k' = k then none else lookup k' m := by
  induction m with
  | nil => simp [erase, lookup]
  | cons e rest ih =>
    obtain ⟨k₁, v₁⟩ := e
    simp only [erase, List.filter_cons] at ih ⊢
    by_cases h₁ : k₁ = k
    · subst h₁
      simp only [ne_eq, not_true_eq_false, decide_false, Bool.false_eq_true, if_false, ih, lookup]
      by_cases h : k' = k₁ <;> simp [h]
    · simp only [ne_eq, h₁, not_false_eq_true, decide_true, if_true, lookup, ih]
      by_cases h : k' = k₁
      · subst h
        simp [h₁]
      · simp [h]

theorem mem_of_lookup {k : String} {v : α} {m : Keyed α} (h : lookup k m = some v) :
    (k, v) ∈ m := by
  induction m with
  | nil => cases h
  | cons e rest ih =>
    obtain ⟨k', v'⟩ := e
    simp only [lookup] at h
    split at h
    · next heq =>
      cases h
      exact heq ▸ List.mem_cons_self
    · exact List.mem_cons_of_mem _ (ih h)

theorem lookup_of_mem {k : String} {v : α} {m : Keyed α} (h : Ordered m) (hm : (k, v) ∈ m) :
    lookup k m = some v := by
  induction m with
  | nil => cases hm
  | cons e rest ih =>
    obtain ⟨k', v'⟩ := e
    obtain ⟨hk, hrest⟩ := ordered_cons.1 h
    rcases List.mem_cons.1 hm with heq | hm
    · cases heq
      exact if_pos rfl
    · have hne : k ≠ k' := fun heq => String.lt_irrefl k (heq ▸ hk _ hm)
      rw [lookup, if_neg hne, ih hrest hm]

theorem contains_iff_mem_keys {k : String} {m : Keyed α} : contains k m ↔ k ∈ keys m := by
  induction m with
  | nil => simp [contains, lookup, keys]
  | cons e rest ih =>
    obtain ⟨k', v'⟩ := e
    simp only [contains, keys] at ih
    by_cases h : k = k' <;> simp [contains, lookup, keys, h, ih]

end Keyed
end TypedPid
