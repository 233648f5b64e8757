import TypedPid.Proofs.Json.Readers
import TypedPid.Proofs.Record.Entries

/-!
Records that are written and read back. An entry is written with its key, but read without: it gets the
key that it is filed under, which is its own in every record that was read or made entry by entry. Of
what is written only empty names are lost.
-/

namespace TypedPid

open Json

/-- What can be done to a record. -/
inductive Edit where
  | setPid (pid : String)
  | add (key : String) (name : Option String) (value : String)
  | withEntry (key value : String)
  | push (e : Entry)
  | remove (key : String)
  | project (d : TypeDefinition)

def Edit.apply : Edit → Record → Record
  | setPid pid, r => r.setPid pid
  | add key name value, r => r.add key name value
  | withEntry key value, r => r.add key none value
  | push e, r => r.push e
  | remove key, r => (r.remove key).2
  | project d, r => r.project d

namespace Entry

def withoutEmptyName (e : Entry) : Entry := { e with name := e.name.filter (· ≠ "") }

/-- What is read under a key for an entry that was written. -/
def readBack (key : String) (e : Entry) : Entry := { e.withoutEmptyName with key }

variable {e : Entry} {key : String}

lemma withoutEmptyName_eq_self_iff : e.withoutEmptyName = e ↔ e.name ≠ some "" := by
  obtain ⟨key, _ | name, value⟩ := e
  · simp [withoutEmptyName]
  · by_cases h : name = "" <;> simp [withoutEmptyName, h]

lemma name_withoutEmptyName_ne (e : Entry) : e.withoutEmptyName.name ≠ some "" := by
  rw [← withoutEmptyName_eq_self_iff]
  simp [withoutEmptyName]

lemma reader_gives (key : String) :
    (Entry.reader key).Gives fun e => e.key = key ∧ e.name ≠ some "" := by
  intro n e h
  obtain ⟨draft, -, rfl⟩ := map_eq_ok_iff.1 h
  refine ⟨rfl, ?_⟩
  simp [Draft.entry]

lemma reader_toJson (e : Entry) (key : String) :
    Entry.reader key e.toJson.tree = .ok (e.readBack key) := by
  obtain ⟨_, _ | name, _ | value⟩ := e <;> rfl

end Entry

namespace Record

/-- Records that come out of a new record, or one that was read, by edits. -/
inductive Made : Record → Prop
  | empty (pid : String) : Made (empty pid)
  | read {s : Source} {r : Record} : Record.ofSource s = .ok r → Made r
  | edit {r : Record} (e : Edit) : Made r → Made (e.apply r)

/-- The keys are in order, and every entry stands under its own. -/
structure WellFiled (m : Keyed (List Entry)) : Prop where
  ordered : Keyed.Ordered m
  keys : ∀ a ∈ m, ∀ e ∈ a.2, e.key = a.1

/-- What is filed in a record that was read. -/
structure AsRead (m : Keyed (List Entry)) : Prop extends WellFiled m where
  names : ∀ a ∈ m, ∀ e ∈ a.2, e.name ≠ some ""

def withoutEmptyNames (r : Record) : Record :=
  { r with entries := Keyed.mapValues (List.map Entry.withoutEmptyName) r.entries }

variable {r : Record} {e : Entry} {k : String} {s : Source}

lemma wellFiled_nil : WellFiled [] := ⟨Keyed.ordered_nil, List.forall_mem_nil _⟩

lemma exists_of_mem_entriesOf (he : e ∈ r.entriesOf k) : ∃ es, (k, es) ∈ r.entries ∧ e ∈ es := by
  rw [entriesOf] at he
  cases hes : Keyed.lookup k r.entries with
  | none =>
    rw [hes] at he
    cases he
  | some es =>
    rw [hes] at he
    exact ⟨es, Keyed.mem_of_lookup hes, he⟩

lemma WellFiled.key_of_mem (h : WellFiled r.entries) (he : e ∈ r.entriesOf k) : e.key = k := by
  obtain ⟨es, hes, he⟩ := exists_of_mem_entriesOf he
  exact h.keys (k, es) hes e he

lemma WellFiled.push (h : WellFiled r.entries) (e : Entry) : WellFiled (r.push e).entries := by
  refine ⟨Keyed.insert_ordered _ _ h.ordered, fun a ha e' he' => ?_⟩
  rcases Keyed.mem_insert_key ha with rfl | ha
  · rcases List.mem_append.1 he' with he' | he'
    · exact h.key_of_mem he'
    · rw [List.mem_singleton.1 he']
  · exact h.keys a ha e' he'

lemma WellFiled.foldl_push (h : WellFiled r.entries) (es : List Entry) :
    WellFiled (es.foldl Record.push r).entries := by
  induction es generalizing r with
  | nil => exact h
  | cons e es ih => exact ih (h.push e)

lemma wellFiled_project (r : Record) (d : TypeDefinition) : WellFiled (r.project d).entries := by
  have hempty : WellFiled (empty r.pid).entries := wellFiled_nil
  exact hempty.foldl_push _

lemma WellFiled.apply (h : WellFiled r.entries) (e : Edit) : WellFiled (e.apply r).entries := by
  cases e with
  | setPid pid => exact ⟨h.ordered, h.keys⟩
  | add key name value => exact h.push _
  | withEntry key value => exact h.push _
  | push e => exact h.push e
  | remove key =>
    have hsub : ∀ a ∈ Keyed.erase key r.entries, a ∈ r.entries := fun a ha => (List.mem_filter.1 ha).1
    exact ⟨Keyed.erase_ordered key h.ordered, fun a ha => h.keys a (hsub a ha)⟩
  | project d => exact wellFiled_project r d

lemma asRead_nil : AsRead [] := ⟨wellFiled_nil, List.forall_mem_nil _⟩

lemma readEntries_gives : readEntries.Gives AsRead := by
  intro n m h
  obtain ⟨es, hes, rfl⟩ := map_eq_ok_iff.1 h
  have hgives : ∀ a ∈ Keyed.ofList es, ∀ e ∈ a.2, e.key = a.1 ∧ e.name ≠ some "" := by
    intro a ha
    exact readMap_gives (fun key => readList_gives (Entry.reader_gives key)) hes a
      (Keyed.mem_of_mem_ofList ha)
  exact ⟨⟨Keyed.ofList_ordered es, fun a ha e he => (hgives a ha e he).1⟩,
    fun a ha e he => (hgives a ha e he).2⟩

lemma reader_gives : Record.reader.Gives fun r => AsRead r.entries := by
  intro n r h
  obtain ⟨draft, hdraft, rfl⟩ := map_eq_ok_iff.1 h
  have hfields : ∀ f ∈ Record.fields, f.Keeps fun s => AsRead (s.entries.getD []) := by
    refine List.forall_mem_cons.2 ⟨?_, List.forall_mem_singleton.2 ?_⟩
    · exact keeps_of (P := fun _ => True) (fun _ _ _ => trivial) fun _ _ _ hs => hs
    · exact keeps_of readEntries_gives fun _ _ hm _ => hm
  have hinitial : AsRead ((Draft.entries {}).getD []) := asRead_nil
  exact readStructure_gives hfields hinitial hdraft

lemma asRead_of_ofSource (h : Record.ofSource s = .ok r) : AsRead r.entries :=
  gives_of_read (P := fun r : Record => AsRead r.entries) reader_gives h

lemma Made.wellFiled (h : Made r) : WellFiled r.entries := by
  induction h with
  | empty pid => exact wellFiled_nil
  | read h => exact (asRead_of_ofSource h).toWellFiled
  | edit e _ ih => exact ih.apply e

lemma readEntries_toJson (m : Keyed (List Entry)) :
    readEntries (Value.tree (.object (m.map fun a => (a.1, .array (a.2.map Entry.toJson))))) =
      .ok (Keyed.ofList (m.map fun a => (a.1, a.2.map (Entry.readBack a.1)))) := by
  have hlist (key : String) (es : List Entry) :
      readList (Entry.reader key) (Value.tree (.array (es.map Entry.toJson))) =
        .ok (es.map (Entry.readBack key)) := readList_map (fun e => e.reader_toJson key) es
  have hmap := readMap_map hlist m
  rw [readEntries, hmap]
  rfl

lemma WellFiled.readBack_eq (h : WellFiled r.entries) :
    Keyed.ofList (r.entries.map fun a => (a.1, a.2.map (Entry.readBack a.1))) =
      r.withoutEmptyNames.entries := by
  have hmap : (r.entries.map fun a => (a.1, a.2.map (Entry.readBack a.1))) =
      r.withoutEmptyNames.entries := by
    refine List.map_congr_left fun a ha => Prod.ext rfl (List.map_congr_left fun e he => ?_)
    rw [← h.keys a ha e he]
    rfl
  rw [hmap]
  exact Keyed.ofList_eq_self (Keyed.ordered_mapValues.2 h.ordered)

lemma reader_of_members {n : Node} {m : Keyed (List Entry)} (pid : String)
    (h : readEntries n = .ok m) :
    Record.reader (.object [(some "pid", .string (some pid)), (some "entries", n)] true) =
      .ok ⟨pid, m⟩ := by
  have hpid : (readString (.string (some pid))).map (fun a => (⟨some a, none⟩ : Draft)) =
      .ok ⟨some pid, none⟩ := rfl
  have hentries : (readEntries n).map (fun m => (⟨some pid, some m⟩ : Draft)) =
      .ok ⟨some pid, some m⟩ := by
    rw [h]
    rfl
  rw [Record.reader, readStructure, readMembers_field rfl rfl hpid,
    readMembers_field rfl rfl hentries]
  rfl

lemma WellFiled.ofText_eq (h : WellFiled r.entries) :
    Record.ofText r.text = .ok r.withoutEmptyNames := by
  have hentries := readEntries_toJson r.entries
  rw [h.readBack_eq] at hentries
  rw [Record.ofText, Record.ofSource, Record.text, read_text]
  exact reader_of_members r.pid hentries

lemma entriesOf_withoutEmptyNames (r : Record) (key : String) :
    r.withoutEmptyNames.entriesOf key = (r.entriesOf key).map Entry.withoutEmptyName := by
  rw [entriesOf, entriesOf, withoutEmptyNames, Keyed.lookup_mapValues]
  cases Keyed.lookup key r.entries <;> rfl

lemma mem_entriesOf {a : String × List Entry} (h : Keyed.Ordered r.entries) (ha : a ∈ r.entries)
    (he : e ∈ a.2) : e ∈ r.entriesOf a.1 := by
  rw [entriesOf, Keyed.lookup_of_mem h ha]
  exact he

lemma withoutEmptyNames_eq_self_iff (h : Keyed.Ordered r.entries) :
    r.withoutEmptyNames = r ↔ ∀ key, ∀ e ∈ r.entriesOf key, e.name ≠ some "" := by
  constructor
  · intro heq key e he
    rw [← heq, entriesOf_withoutEmptyNames] at he
    obtain ⟨e', -, rfl⟩ := List.mem_map.1 he
    exact e'.name_withoutEmptyName_ne
  · intro hnames
    have hes (a : String × List Entry) (ha : a ∈ r.entries) :
        a.2.map Entry.withoutEmptyName = a.2 :=
      calc a.2.map Entry.withoutEmptyName
        _ = a.2.map id := List.map_congr_left fun e he =>
          Entry.withoutEmptyName_eq_self_iff.2 (hnames a.1 e (mem_entriesOf h ha he))
        _ = a.2 := List.map_id a.2
    have hentries : Keyed.mapValues (List.map Entry.withoutEmptyName) r.entries = r.entries :=
      calc r.entries.map fun a => (a.1, a.2.map Entry.withoutEmptyName)
        _ = r.entries.map id := List.map_congr_left fun a ha => Prod.ext rfl (hes a ha)
        _ = r.entries := List.map_id r.entries
    rw [withoutEmptyNames, hentries]

/-- A record is read back from its text, but with no name where a name is empty. So it comes back as it
was if and only if it has no empty name, and it has none if it was read itself. -/
theorem ofText_text (h : Made r) :
    Record.ofText r.text = .ok r.withoutEmptyNames ∧
    (Record.ofText r.text = .ok r ↔ ∀ key, ∀ e ∈ r.entriesOf key, e.name ≠ some "") ∧
    ∀ s, Record.ofSource s = .ok r → Record.ofText r.text = .ok r := by
  have hfiled := h.wellFiled
  have hback := hfiled.ofText_eq
  have hself : Record.ofText r.text = .ok r ↔ ∀ key, ∀ e ∈ r.entriesOf key, e.name ≠ some "" := by
    rw [hback, Except.ok.injEq, withoutEmptyNames_eq_self_iff hfiled.ordered]
  refine ⟨hback, hself, fun s hs => hself.2 fun key e he => ?_⟩
  obtain ⟨es, hes, he⟩ := exists_of_mem_entriesOf he
  exact (asRead_of_ofSource hs).names (key, es) hes e he

/-- A name that is empty, a value that is not there and characters that are escaped. -/
def annotated : Record :=
  ⟨"a\"\n\x01λ", [("key\\", [⟨"key\\", some "", none⟩, ⟨"key\\", some "😀/", some "\t"⟩])]⟩

theorem ofText_text_annotated : Made annotated ∧
    Record.ofText annotated.text = .ok ⟨"a\"\n\x01λ",
      [("key\\", [⟨"key\\", none, none⟩, ⟨"key\\", some "😀/", some "\t"⟩])]⟩ ∧
    Record.ofText annotated.text ≠ .ok annotated := by
  have hempty := Made.empty "a\"\n\x01λ"
  have hmade : Made annotated :=
    (hempty.edit (.push ⟨"key\\", some "", none⟩)).edit (.add "key\\" (some "😀/") "\t")
  obtain ⟨hback, hself, -⟩ := ofText_text hmade
  refine ⟨hmade, hback, fun heq => ?_⟩
  exact hself.1 heq "key\\" ⟨"key\\", some "", none⟩ (by decide) rfl

end Record

end TypedPid
