import TypedPid.Proofs.Keyed
import TypedPid.Record

/-!
The entries of records. Each attribute keeps its own row of entries, and what is pushed or removed under
one key or left out of a view does not touch the rows of the others.
-/

namespace TypedPid

namespace Record

variable {r : Record} {d : TypeDefinition} {e : Entry} {es : List Entry} {k : String}

lemma entriesOf_push (r : Record) (e : Entry) (k : String) :
    (r.push e).entriesOf k = r.entriesOf k ++ if e.key = k then [e] else [] := by
  rw [entriesOf, push, Keyed.lookup_insert]
  by_cases h : k = e.key
  · simp [h]
  · rw [if_neg h, if_neg (Ne.symm h), List.append_nil, entriesOf]

lemma mem_attributes_push (r : Record) (e : Entry) (k : String) :
    k ∈ (r.push e).attributes ↔ k ∈ r.attributes ∨ k = e.key := by
  rw [attributes, attributes, ← Keyed.contains_iff_mem_keys, ← Keyed.contains_iff_mem_keys, push,
    Keyed.contains, Keyed.contains, Keyed.lookup_insert]
  by_cases h : k = e.key <;> simp [h]

lemma entriesOf_remove (r : Record) (a k : String) :
    (r.remove a).2.entriesOf k = if k = a then [] else r.entriesOf k := by
  rw [entriesOf, remove, Keyed.lookup_erase]
  split
  · rfl
  · rw [entriesOf]

lemma mem_attributes_remove (r : Record) (a k : String) :
    k ∈ (r.remove a).2.attributes ↔ k ∈ r.attributes ∧ k ≠ a := by
  simp only [attributes, ← Keyed.contains_iff_mem_keys, Keyed.contains, remove, Keyed.lookup_erase]
  by_cases h : k = a <;> simp [h]

lemma entriesOf_foldl_push (es : List Entry) (r : Record) (k : String) :
    (es.foldl push r).entriesOf k = r.entriesOf k ++ es.filter (·.key = k) := by
  induction es generalizing r with
  | nil => simp
  | cons e es ih =>
    rw [List.foldl_cons, ih, entriesOf_push, List.append_assoc, List.filter_cons]
    by_cases h : e.key = k <;> simp [h]

lemma mem_attributes_foldl_push (es : List Entry) (r : Record) (k : String) :
    k ∈ (es.foldl push r).attributes ↔ k ∈ r.attributes ∨ ∃ e ∈ es, e.key = k := by
  induction es generalizing r with
  | nil => simp
  | cons e es ih =>
    rw [List.foldl_cons, ih, mem_attributes_push, or_assoc, eq_comm (a := k)]
    simp

lemma pid_foldl_push (es : List Entry) (r : Record) : (es.foldl push r).pid = r.pid := by
  induction es generalizing r with
  | nil => rfl
  | cons e es ih => exact ih (r.push e)

/-- What a view keeps of the entries under one key. -/
def shown (d : TypeDefinition) (key : String) (es : List Entry) : List Entry :=
  if d.declares key then es.map fun e => ⟨key, none, e.value⟩ else []

lemma key_of_mem_shown (h : e ∈ shown d k es) : e.key = k := by
  unfold shown at h
  split at h
  · obtain ⟨_, -, rfl⟩ := List.mem_map.1 h
    rfl
  · cases h

lemma filter_shown (key k : String) :
    (shown d key es).filter (·.key = k) = if key = k then shown d key es else [] := by
  split
  · next h =>
    exact List.filter_eq_self.2 fun e he => by simpa [key_of_mem_shown he] using h
  · next h =>
    exact List.filter_eq_nil_iff.2 fun e he => by simpa [key_of_mem_shown he] using h

lemma filter_flatMap_shown {m : Keyed (List Entry)} (h : Keyed.Ordered m) :
    (m.flatMap fun e => shown d e.1 e.2).filter (·.key = k) =
      shown d k ((Keyed.lookup k m).getD []) := by
  have hnil : shown d k [] = [] := by simp [shown]
  induction m with
  | nil => exact hnil.symm
  | cons e rest ih =>
    obtain ⟨key, es⟩ := e
    obtain ⟨hlt, hrest⟩ := Keyed.ordered_cons.1 h
    rw [List.flatMap_cons, List.filter_append, filter_shown, ih hrest, Keyed.lookup]
    by_cases hk : key = k
    · subst hk
      have hnone : Keyed.lookup key rest = none := by
        rw [← Option.not_isSome_iff_eq_none]
        intro hsome
        obtain ⟨other, hmem⟩ := Option.isSome_iff_exists.1 hsome
        exact String.lt_irrefl key (hlt _ (Keyed.mem_of_lookup hmem))
      simp [hnone, hnil]
    · simp [hk, Ne.symm hk]

lemma project_eq (r : Record) (d : TypeDefinition) :
    r.project d = (r.entries.flatMap fun e => shown d e.1 e.2).foldl push (empty r.pid) := rfl

lemma project_pid (r : Record) (d : TypeDefinition) : (r.project d).pid = r.pid := by
  rw [project_eq, pid_foldl_push, empty]

lemma entriesOf_project (h : Keyed.Ordered r.entries) :
    (r.project d).entriesOf k = shown d k (r.entriesOf k) := by
  rw [project_eq, entriesOf_foldl_push, filter_flatMap_shown h]
  rfl

/-- A view has the values of the attributes that its type declares. -/
lemma values_project (h : Keyed.Ordered r.entries) (d : TypeDefinition) (k : String) :
    (r.project d).values k = if d.declares k then r.values k else [] := by
  rw [values, entriesOf_project h, shown]
  split
  · simp [values, Function.comp_def]
  · rfl

/-- A view has those of these attributes under which there is an entry. -/
lemma mem_attributes_project (h : Keyed.Ordered r.entries) (d : TypeDefinition) (k : String) :
    k ∈ (r.project d).attributes ↔ d.declares k = true ∧ r.values k ≠ [] := by
  have hnone : k ∉ (empty r.pid).attributes := List.not_mem_nil
  have hsome : (∃ e ∈ r.entries.flatMap fun e => shown d e.1 e.2, e.key = k) ↔
      shown d k (r.entriesOf k) ≠ [] := by
    rw [entriesOf, ← filter_flatMap_shown h, ne_eq, List.filter_eq_nil_iff]
    simp only [decide_eq_true_eq, not_forall, not_not, exists_prop]
  rw [project_eq, mem_attributes_foldl_push, or_iff_right hnone, hsome, shown, values]
  split <;> simp_all

end Record

end TypedPid
