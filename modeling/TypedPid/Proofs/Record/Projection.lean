import TypedPid.Proofs.Record.Roundtrip

/-!
Views of records. A view is determined by what it shows under each attribute. So a view of a view is one
of the record itself, by the attributes that both definitions declare.
-/

namespace TypedPid

namespace TypeDefinition

/-- The definition with those of its attributes only that another one declares too. -/
def common (d e : TypeDefinition) : TypeDefinition :=
  { d with subTypes := d.subTypes.filter fun s => e.declares s.1 }

lemma declares_common (d e : TypeDefinition) (k : String) :
    (d.common e).declares k = true ↔ d.declares k = true ∧ e.declares k = true :=
  Keyed.contains_filter_iff k d.subTypes

end TypeDefinition

namespace Record

variable {r r' : Record} {d e f : TypeDefinition} {k : String}

/-- What a definition lets see of a record: under the attributes that it declares all values, but no
labels, and of the other attributes nothing. -/
structure IsView (r : Record) (d : TypeDefinition) (view : Record) : Prop where
  pid : view.pid = r.pid
  values : ∀ k, view.values k = if d.declares k then r.values k else []
  has : ∀ k, view.has k = true ↔ d.declares k = true ∧ r.entriesOf k ≠ []
  filed : ∀ row ∈ view.entries, ∀ entry ∈ row.2, entry.key = row.1 ∧ entry.name = none

lemma lookup_entries (r : Record) (k : String) :
    Keyed.lookup k r.entries = if r.has k then some (r.entriesOf k) else none := by
  rw [has, Keyed.contains, entriesOf]
  cases Keyed.lookup k r.entries <;> rfl

/-- A record is determined by what it has under each attribute. -/
lemma eq_of_entriesOf (h : Keyed.Ordered r.entries) (h' : Keyed.Ordered r'.entries)
    (hpid : r.pid = r'.pid) (hhas : ∀ k, r.has k = r'.has k)
    (hentries : ∀ k, r.entriesOf k = r'.entriesOf k) : r = r' := by
  have heq : r.entries = r'.entries := by
    refine Keyed.eq_of_lookup h h' fun k => ?_
    rw [lookup_entries, lookup_entries, hhas, hentries]
  obtain ⟨pid, entries⟩ := r
  obtain ⟨pid', entries'⟩ := r'
  rw [Record.mk.injEq]
  exact ⟨hpid, heq⟩

lemma name_of_mem_shown {entry : Entry} {es : List Entry} (h : entry ∈ shown d k es) :
    entry.name = none := by
  unfold shown at h
  split at h
  · obtain ⟨_, -, rfl⟩ := List.mem_map.1 h
    rfl
  · cases h

lemma shown_shown (hf : f.declares k = true ↔ d.declares k = true ∧ e.declares k = true)
    (es : List Entry) : shown e k (shown d k es) = shown f k es := by
  by_cases hd : d.declares k <;> by_cases he : e.declares k <;> simp [shown, hd, he, hf]

lemma has_project (h : Keyed.Ordered r.entries) (d : TypeDefinition) (k : String) :
    (r.project d).has k = true ↔ d.declares k = true ∧ r.entriesOf k ≠ [] := by
  rw [has, Keyed.contains_iff_mem_keys, ← attributes, mem_attributes_project h, values, ne_eq,
    List.map_eq_nil_iff]

lemma isView_project (h : Keyed.Ordered r.entries) (d : TypeDefinition) :
    r.IsView d (r.project d) := by
  have hfiled := wellFiled_project r d
  refine ⟨r.project_pid d, values_project h d, has_project h d, fun row hrow entry hentry => ?_⟩
  have hmem := mem_entriesOf hfiled.ordered hrow hentry
  rw [entriesOf_project h] at hmem
  exact ⟨hfiled.keys row hrow entry hentry, name_of_mem_shown hmem⟩

/-- A view of a view shows what both definitions declare. -/
lemma project_project (h : Keyed.Ordered r.entries)
    (hf : ∀ k, f.declares k = true ↔ d.declares k = true ∧ e.declares k = true) :
    (r.project d).project e = r.project f := by
  have hd := (wellFiled_project r d).ordered
  refine eq_of_entriesOf (wellFiled_project _ e).ordered (wellFiled_project r f).ordered ?_ ?_ ?_
  · rw [project_pid, project_pid, project_pid]
  · intro k
    rw [Bool.eq_iff_iff, has_project hd, has_project h, entriesOf_project h, hf]
    by_cases hk : d.declares k <;> simp [shown, hk]
  · intro k
    rw [entriesOf_project hd, entriesOf_project h, entriesOf_project h, shown_shown (hf k)]

/-- The projection of a record is its view. To project once more changes nothing, and to project by two
definitions is, in either order, to project by the attributes that both of them declare. -/
theorem views_restrict_and_commute (h : Keyed.Ordered r.entries) (d e : TypeDefinition) :
    r.IsView d (r.project d) ∧
    (r.project d).project d = r.project d ∧
    (r.project d).project e = (r.project e).project d ∧
    (r.project d).project e = r.project (d.common e) ∧
    ∀ k, (d.common e).declares k = true ↔ d.declares k = true ∧ e.declares k = true := by
  have hcommon : (r.project d).project e = r.project (d.common e) :=
    project_project h (d.declares_common e)
  have hswapped : (r.project e).project d = r.project (d.common e) :=
    project_project h fun k => (d.declares_common e k).trans and_comm
  have hself : (r.project d).project d = r.project d :=
    project_project h fun k => (and_self_iff).symm
  exact ⟨isView_project h d, hself, hcommon.trans hswapped.symm, hcommon, d.declares_common e⟩

/-- A definition that declares some attributes. -/
def declaring (keys : List String) : TypeDefinition :=
  ⟨"p", none, none, none, false, keys.map fun k => (k, ⟨false, ⟨k, none, none, none, false, []⟩⟩)⟩

/-- Values that are repeated or not there, labels, and an attribute without entries. -/
def labelled : Record :=
  ⟨"r", [("a", [⟨"a", some "x", some "1"⟩, ⟨"a", none, none⟩, ⟨"a", some "", some "1"⟩]), ("b", []),
    ("c", [⟨"c", none, some "2"⟩])]⟩

theorem views_restrict_and_commute_labelled : Keyed.Ordered labelled.entries ∧
    (labelled.project (declaring ["a", "b"])).values "a" = [some "1", none, some "1"] ∧
    (labelled.project (declaring ["a", "b"])).has "b" = false ∧
    (labelled.project (declaring ["a", "b"])).project (declaring ["a", "c"]) =
      (labelled.project (declaring ["a", "c"])).project (declaring ["a", "b"]) := by
  have h : Keyed.Ordered labelled.entries := by
    change ["a", "b", "c"].Pairwise (· < ·)
    decide
  obtain ⟨hview, -, hcomm, -, -⟩ :=
    views_restrict_and_commute h (declaring ["a", "b"]) (declaring ["a", "c"])
  refine ⟨h, hview.values "a", Bool.eq_false_iff.2 fun hb => ?_, hcomm⟩
  exact ((hview.has "b").1 hb).2 rfl

end Record

end TypedPid
