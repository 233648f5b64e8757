import TypedPid.Proofs.Json.Fields
import TypedPid.Proofs.Record.Projection

/-!
What a text says of a record. A record that is read from an object is determined by its identifier and, for
each attribute, by the names and values of its entries. Whatever else the object holds, and the order of its
fields, makes no difference. So a text cannot file an entry under another key than the entry's own.
-/

namespace TypedPid

open Json Keyed

namespace Json.Node

variable {n : Node} {fs : List (String × Node)} {name : String} {index : Nat}

def fields : Node → List (String × Node)
  | object members _ => members.filterMap fun m => m.1.map (·, m.2)
  | _ => []

def items : Node → List Node
  | array items _ => items
  | _ => []

def text? : Node → Option String
  | string s => s
  | _ => none

/-- What stands under a name, the last if there is more. -/
def field? (name : String) (n : Node) : Option Node := (named name n.fields).getLast?

/-- A part of a structure, be it an object or an array. -/
def part? (name : String) (index : Nat) (n : Node) : Option Node := (n.field? name).or n.items[index]?

lemma fields_ofFields (fs : List (String × Node)) : (ofFields fs).fields = fs := by
  rw [ofFields, fields, tagged, List.filterMap_map]
  exact List.filterMap_some

lemma field?_ofFields (name : String) (fs : List (String × Node)) :
    (ofFields fs).field? name = (named name fs).getLast? := by
  rw [field?, fields_ofFields]

lemma part?_ofFields (name : String) (index : Nat) (fs : List (String × Node)) :
    (ofFields fs).part? name index = (named name fs).getLast? := by
  have hitem : (ofFields fs).items[index]? = none := rfl
  rw [part?, hitem, Option.or_none, field?_ofFields]

end Json.Node

open Json.Node

section Entries

/-- The name of an entry. An empty one is no name. -/
def Entry.nameIn (n : Node) : Option String := ((n.part? "name" 0).bind text?).filter (· ≠ "")

def Entry.valueIn (n : Node) : Option String := (n.part? "value" 1).bind text?

variable {n n' : Node} {e : Entry} {key : String}

lemma text?_of_readString {a : String} (h : readString n = .ok a) : n.text? = some a := by
  cases n with
  | string s =>
    cases s with
    | none => cases h
    | some s =>
      cases h
      rfl
  | _ => cases h

lemma text?_of_readOptional {o : Option String} (h : readOptional readString n = .ok o) :
    n.text? = o := by
  cases n with
  | null =>
    cases h
    rfl
  | string s =>
    obtain ⟨a, ha, rfl⟩ := map_eq_ok_iff.1 h
    exact text?_of_readString ha
  | _ => cases h

lemma textIn_of_fills {o : Option (Option String)} {name : String} {index : Nat}
    {fs : List (String × Node)} (h : Fills (readOptional readString) none (named name fs) o) :
    ((ofFields fs).part? name index).bind text? = o.getD none := by
  rw [part?_ofFields]
  rcases h.absent_or_read with ⟨hlast, rfl⟩ | ⟨n, a, hlast, rfl, hn⟩
  · rw [hlast]
    rfl
  · rw [hlast]
    exact text?_of_readOptional hn

lemma Entry.places : Places Entry.Draft.name (fun a s => { s with name := some a }) Entry.Draft.value
    (fun a s => { s with value := some a }) where
  get_set _ _ := rfl
  get'_set _ _ := rfl
  get_set' _ _ := rfl
  get'_set' _ _ := rfl
  ext := by
    rintro ⟨_, _⟩ ⟨_, _⟩ rfl rfl
    rfl

lemma Entry.textIn_items {items : List Node} {t : Entry.Draft} {closed : Bool}
    (h : readFields 0 fields items {} = .ok t) :
    t.name.getD none = ((Node.array items closed).part? "name" 0).bind text? ∧
    t.value.getD none = ((Node.array items closed).part? "value" 1).bind text? := by
  have hpart (name : String) (index : Nat) :
      (Node.array items closed).part? name index = items[index]? := rfl
  rw [hpart, hpart]
  cases items with
  | nil =>
    cases h
    exact ⟨rfl, rfl⟩
  | cons n items =>
    obtain ⟨t₁, ht₁, h⟩ := bind_eq_ok_iff.1 h
    obtain ⟨name, hname, rfl⟩ := map_eq_ok_iff.1 (mapError_eq_ok_iff.1 ht₁)
    cases items with
    | nil =>
      cases h
      exact ⟨(text?_of_readOptional hname).symm, rfl⟩
    | cons m items =>
      obtain ⟨t₂, ht₂, h⟩ := bind_eq_ok_iff.1 h
      obtain ⟨value, hvalue, rfl⟩ := map_eq_ok_iff.1 (mapError_eq_ok_iff.1 ht₂)
      cases items with
      | nil =>
        cases h
        exact ⟨(text?_of_readOptional hname).symm, (text?_of_readOptional hvalue).symm⟩
      | cons _ _ => cases h

lemma Entry.eq_of_reader (h : Entry.reader key n = .ok e) : e = ⟨key, nameIn n, valueIn n⟩ := by
  obtain ⟨draft, hdraft, rfl⟩ := map_eq_ok_iff.1 h
  cases n with
  | object members closed =>
    obtain ⟨fs, hn⟩ := exists_ofFields_of_readStructure hdraft
    rw [hn, readStructure_ofFields_eq_ok_iff] at hdraft
    obtain ⟨hname, hvalue, -⟩ := (readMembers_eq_ok_iff places (by decide)).1 hdraft
    rw [hn, nameIn, valueIn, textIn_of_fills hname, textIn_of_fills hvalue, Draft.entry]
  | array items closed =>
    obtain ⟨t, ht, hf⟩ := bind_eq_ok_iff.1 hdraft
    obtain ⟨-, rfl⟩ := finish_eq_ok_iff.1 hf
    obtain ⟨hname, hvalue⟩ := textIn_items ht
    rw [nameIn, valueIn, ← hname, ← hvalue, Draft.entry]
  | _ => cases hdraft

/-- The entries of an attribute. -/
def Entry.row (key : String) (n : Node) : List Entry := n.items.map fun n => ⟨key, nameIn n, valueIn n⟩

lemma row_of_readList {es : List Entry} (h : readList (Entry.reader key) n = .ok es) :
    es = Entry.row key n := by
  obtain ⟨items, rfl, hitems⟩ := readList_eq_ok_iff.1 h
  clear h
  induction hitems with
  | nil => rfl
  | cons he _ ih => exact congrArg₂ List.cons (Entry.eq_of_reader he) ih

/-- The lists that were read for an attribute. -/
def ReadRows (key : String) : List Node → List (List Entry) → Prop :=
  List.Forall₂ fun n es => readList (Entry.reader key) n = .ok es

lemma rows_of_readMap {fs : List (String × Node)} {es : List (String × List Entry)}
    (h : List.Forall₂ (fun f e => f.1 = e.1 ∧ readList (Entry.reader f.1) f.2 = .ok e.2) fs es)
    (key : String) : ReadRows key (named key fs) (named key es) :=
  named_forall₂ (R := fun key n es => readList (Entry.reader key) n = .ok es) h key

lemma eq_map_row {ns : List Node} {rows : List (List Entry)} (h : ReadRows key ns rows) :
    rows = ns.map (Entry.row key) := by
  rw [← List.forall₂_eq_eq_eq, List.forall₂_map_right_iff]
  exact (h.imp fun _ _ => row_of_readList).flip

lemma Record.lookup_of_readEntries {m : Keyed (List Entry)} (h : Record.readEntries n = .ok m)
    (key : String) : lookup key m = (n.field? key).map (Entry.row key) := by
  obtain ⟨es, hes, rfl⟩ := map_eq_ok_iff.1 h
  obtain ⟨fs, rfl⟩ := exists_ofFields_of_readMap hes
  have hrows := rows_of_readMap (readMap_ofFields_eq_ok_iff.1 hes) key
  rw [lookup_ofList, field?_ofFields, eq_map_row hrows, List.getLast?_map]

end Entries

namespace Record

/-- What a text says of a record: its identifier, and the names and values under each attribute. -/
structure Contents where
  pid : String
  row? : String → Option (List (Option String × Option String))

def contents (n : Node) : Contents where
  pid := ((n.field? "pid").bind text?).getD ""
  row? key := ((n.field? "entries").bind (field? key)).map fun row =>
    row.items.map fun n => (Entry.nameIn n, Entry.valueIn n)

/-- A record with some contents, each entry of which has the key that it is filed under. -/
structure Holds (r : Record) (c : Contents) : Prop where
  pid : r.pid = c.pid
  ordered : Ordered r.entries
  rows : ∀ key, lookup key r.entries = (c.row? key).map fun row => row.map fun e => ⟨key, e.1, e.2⟩

variable {r r' : Record} {c : Contents} {n n' : Node} {s : Source}

lemma Holds.unique (h : r.Holds c) (h' : r'.Holds c) : r = r' := by
  have hpid : r.pid = r'.pid := h.pid.trans h'.pid.symm
  have hentries : r.entries = r'.entries :=
    Keyed.eq_of_lookup h.ordered h'.ordered fun key => (h.rows key).trans (h'.rows key).symm
  obtain ⟨_, _⟩ := r
  cases hpid
  cases hentries
  rfl

lemma places : Places Draft.pid (fun a s => { s with pid := some a }) Draft.entries
    (fun a s => { s with entries := some a }) where
  get_set _ _ := rfl
  get'_set _ _ := rfl
  get_set' _ _ := rfl
  get'_set' _ _ := rfl
  ext := by
    rintro ⟨_, _⟩ ⟨_, _⟩ rfl rfl
    rfl

lemma holds_of_reader {members : List (Option String × Node)} {closed : Bool}
    (h : Record.reader (.object members closed) = .ok r) :
    r.Holds (contents (.object members closed)) := by
  have hordered := (Record.reader_gives h).ordered
  obtain ⟨draft, hdraft, rfl⟩ := map_eq_ok_iff.1 h
  obtain ⟨fs, hn⟩ := exists_ofFields_of_readStructure hdraft
  rw [hn, readStructure_ofFields_eq_ok_iff] at hdraft
  obtain ⟨hpid, hentries, -⟩ := (readMembers_eq_ok_iff places (by decide)).1 hdraft
  refine ⟨?_, hordered, fun key => ?_⟩
  · rw [hn, contents, field?_ofFields]
    rcases hpid.absent_or_read with ⟨hlast, hnone⟩ | ⟨m, a, hlast, hsome, hm⟩
    · rw [hlast, hnone]
      rfl
    · rw [hlast, hsome, Option.bind_some, text?_of_readString hm]
  · simp only [hn, contents, field?_ofFields]
    rcases hentries.absent_or_read with ⟨hlast, hnone⟩ | ⟨m, a, hlast, hsome, hm⟩
    · rw [hlast, hnone]
      rfl
    · rw [hlast, hsome, Option.getD_some, lookup_of_readEntries hm key, Option.bind_some, Option.map_map]
      refine congrArg (Option.map · (m.field? key)) (funext fun row => ?_)
      rw [Entry.row, Function.comp_apply, List.map_map]
      rfl

/-- Entries that differ in the order of their fields, and in those that are no part of an entry. -/
def EntryVariant (n n' : Node) : Prop := n = n' ∨ VariantObject {"name", "value"} (fun _ => Eq) n n'

def RowVariant (n n' : Node) : Prop :=
  ∃ items items', n = .array items true ∧ n' = .array items' true ∧ List.Forall₂ EntryVariant items items'

/-- The order of distinct attributes makes no difference, but that of one which is given again does. -/
def EntriesVariant : Node → Node → Prop := VariantObject Set.univ fun _ => RowVariant

def RecordVariant : Node → Node → Prop :=
  VariantObject {"pid", "entries"} fun name => if name = "entries" then EntriesVariant else Eq

variable {e : Entry} {es : List Entry} {m : Keyed (List Entry)} {key : String}

lemma EntryVariant.reader (h : EntryVariant n n') (hn : Entry.reader key n = .ok e) :
    Entry.reader key n' = .ok e := by
  rcases h with rfl | ⟨fs, fs', rfl, rfl, hfs⟩
  · exact hn
  · obtain ⟨draft, hdraft, rfl⟩ := map_eq_ok_iff.1 hn
    rw [readStructure_ofFields_eq_ok_iff] at hdraft
    have hdraft' := readMembers_variant Entry.places (by decide) (fun _ _ _ heq h => heq ▸ h)
      (fun _ _ _ heq h => heq ▸ h) hfs hdraft
    exact map_eq_ok_iff.2 ⟨draft, readStructure_ofFields_eq_ok_iff.2 hdraft', rfl⟩

lemma RowVariant.readList (h : RowVariant n n') (hn : Json.readList (Entry.reader key) n = .ok es) :
    Json.readList (Entry.reader key) n' = .ok es := by
  obtain ⟨items, items', rfl, rfl, hitems⟩ := h
  obtain ⟨_, heq, hes⟩ := readList_eq_ok_iff.1 hn
  cases heq
  exact readList_eq_ok_iff.2 ⟨items', rfl, forall₂_congr (fun _ _ _ h => h.reader) hitems hes⟩

lemma EntriesVariant.readEntries (h : EntriesVariant n n') (hn : Record.readEntries n = .ok m) :
    Record.readEntries n' = .ok m := by
  obtain ⟨fs, fs', rfl, rfl, hfs⟩ := h
  obtain ⟨es, hes, rfl⟩ := map_eq_ok_iff.1 hn
  have hrows (key : String) : ReadRows key (named key fs') (named key es) :=
    forall₂_congr (fun _ _ _ h => h.readList) (hfs.related key trivial)
      (rows_of_readMap (readMap_ofFields_eq_ok_iff.1 hes) key)
  have hread : ∀ f ∈ fs', Json.readList (Entry.reader f.1) f.2 = .ok (Entry.row f.1 f.2) := by
    intro f hf
    obtain ⟨row, hrow⟩ := exists_of_forall₂ (hrows f.1) (mem_named hf)
    rwa [← row_of_readList hrow]
  have hes' : List.Forall₂ (fun f e => f.1 = e.1 ∧ Json.readList (Entry.reader f.1) f.2 = .ok e.2) fs'
      (fs'.map fun f => (f.1, Entry.row f.1 f.2)) :=
    List.forall₂_map_right_iff.2 (List.forall₂_same.2 fun f hf => ⟨rfl, hread f hf⟩)
  refine map_eq_ok_iff.2 ⟨_, readMap_ofFields_eq_ok_iff.2 hes', ?_⟩
  -- The attributes may stand in another order, so the maps are compared by what is found in them.
  refine Keyed.eq_of_lookup (ofList_ordered _) (ofList_ordered _) fun key => ?_
  rw [lookup_ofList, lookup_ofList, eq_map_row (hrows key), eq_map_row (rows_of_readMap hes' key)]

lemma RecordVariant.reader (h : RecordVariant n n') (hn : Record.reader n = .ok r) :
    Record.reader n' = .ok r := by
  obtain ⟨fs, fs', rfl, rfl, hfs⟩ := h
  obtain ⟨draft, hdraft, rfl⟩ := map_eq_ok_iff.1 hn
  rw [readStructure_ofFields_eq_ok_iff] at hdraft
  have hdraft' := readMembers_variant places (by decide) (fun _ _ _ heq h => heq ▸ h)
    (fun _ _ _ hvar h => EntriesVariant.readEntries hvar h) hfs hdraft
  exact map_eq_ok_iff.2 ⟨draft, readStructure_ofFields_eq_ok_iff.2 hdraft', rfl⟩

/-- A record is determined by what its text says of the identifier and of the names and values under each
attribute. It is read as well from any variant of its text, and whatever is read, no entry is filed under
a key other than its own. -/
theorem ofSource_contents {members : List (Option String × Node)} {closed : Bool}
    (hobject : (parse s).1 = .object members closed) (h : Record.ofSource s = .ok r) :
    r.Holds (contents (parse s).1) ∧
    (∀ q : Record, q.Holds (contents (parse s).1) → q = r) ∧
    (∀ s', RecordVariant (parse s).1 (parse s').1 → (skipSpace (parse s').2).isEmpty = true →
      Record.ofSource s' = .ok r) ∧
    ∀ t q, Record.ofSource t = .ok q → ∀ row ∈ q.entries, ∀ e ∈ row.2, e.key = row.1 := by
  have hreader := (read_eq_ok_iff.1 h).1
  have hholds : r.Holds (contents (parse s).1) := by
    rw [hobject] at hreader ⊢
    exact holds_of_reader hreader
  refine ⟨hholds, fun q hq => hq.unique hholds, fun s' hs' hrest => ?_, fun t q hq => ?_⟩
  · exact read_eq_ok_iff.2 ⟨hs'.reader hreader, hrest⟩
  · exact (asRead_of_ofSource hq).keys

/-- An attribute with an entry, and one without. -/
def plain : Value := .object [("pid", .string "p"), ("entries", .object [
  ("a", .array [.object [("value", .string "1")]]), ("b", .array [])])]

/-- The same in another order, with an entry that has the key of the other attribute. -/
def mixed : Value := .object [("x", .array [.bool true]), ("entries", .object [
  ("b", .array []), ("a", .array [.object [("key", .string "b"), ("value", .string "1")]])]),
  ("pid", .string "p")]

lemma recordVariant_mixed : RecordVariant plain.tree mixed.tree := by
  have hentry : EntryVariant (.ofFields [("value", .string (some "1"))])
      (.ofFields [("key", .string (some "b")), ("value", .string (some "1"))]) := by
    refine .inr ⟨_, _, rfl, rfl, ?_, ?_⟩
    · rintro name (rfl | rfl) <;> exact List.forall₂_refl _
    · rintro f hf -
      revert f
      decide
  have hentries : EntriesVariant
      (.ofFields [("a", .array [.ofFields [("value", .string (some "1"))]] true), ("b", .array [] true)])
      (.ofFields [("b", .array [] true),
        ("a", .array [.ofFields [("key", .string (some "b")), ("value", .string (some "1"))]] true)]) := by
    refine ⟨_, _, rfl, rfl, fun name _ => ?_, fun f _ hname => absurd trivial hname⟩
    simp only [named_cons, named_nil]
    by_cases ha : "a" = name
    · subst ha
      exact .cons ⟨_, _, rfl, rfl, .cons hentry .nil⟩ .nil
    · by_cases hb : "b" = name
      · subst hb
        exact .cons ⟨_, _, rfl, rfl, .nil⟩ .nil
      · simp [ha, hb]
  refine ⟨[("pid", .string (some "p")), ("entries", _)],
    [("x", .array [.bool true] true), ("entries", _), ("pid", .string (some "p"))], rfl, rfl, ?_, ?_⟩
  · rintro name (rfl | rfl)
    · exact .cons (Eq.refl (Node.string (some "p"))) .nil
    · exact .cons hentries .nil
  · rintro f hf -
    revert f
    decide

theorem ofSource_contents_mixed :
    Record.ofText plain.text = .ok ⟨"p", [("a", [⟨"a", none, some "1"⟩]), ("b", [])]⟩ ∧
    Record.ofText mixed.text = Record.ofText plain.text := by
  have hplain := parse_text plain
  have hmixed := parse_text mixed
  have h : Record.ofText plain.text = .ok ⟨"p", [("a", [⟨"a", none, some "1"⟩]), ("b", [])]⟩ := by
    rw [Record.ofText, Record.ofSource, read_text]
    rfl
  obtain ⟨-, -, hvariants, -⟩ := ofSource_contents (congrArg Prod.fst hplain) h
  refine ⟨h, (hvariants (Source.ofString mixed.text) ?_ ?_).trans h.symm⟩
  · rw [hplain, hmixed]
    exact recordVariant_mixed
  · rw [hmixed]
    rfl

end Record

end TypedPid
