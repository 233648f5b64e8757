import Mathlib.Data.List.Forall2
import TypedPid.Proofs.Except
import TypedPid.Proofs.Json.Roundtrip

/-!
What the readers of lists, maps and structures give, from what the readers of their parts give. A list or
a map is read part by part. So a reader gives only what has a property if its parts do, and it reads what is
written as the parts are read.
-/

namespace TypedPid.Json

variable {α β σ : Type}

/-- Fields as members, with names that can all be read. -/
def tagged (fs : List (String × Node)) : List (Option String × Node) := fs.map fun f => (some f.1, f.2)

/-- The object of some fields, up to its end. -/
def Node.ofFields (fs : List (String × Node)) : Node := .object (tagged fs) true

/-- Whatever the reader gives has the property. -/
def Reader.Gives (read : Reader α) (P : α → Prop) : Prop := ∀ ⦃n a⦄, read n = .ok a → P a

/-- Reading the field keeps a property of what is gathered. -/
def FieldReader.Keeps (f : FieldReader σ) (P : σ → Prop) : Prop :=
  ∀ ⦃n s s'⦄, P s → f.read n s = .ok s' → P s'

variable {read : Reader α} {P : α → Prop} {Q : σ → Prop} {fields : List (FieldReader σ)} {s s' : σ}
  {index : Nat} {closed : Bool} {a : α} {as : List α} {n : Node} {ns : List Node} {reads : String → Reader α}
  {fs : List (String × Node)} {ms : List (Option String × Node)} {es : List (String × α)}

lemma finish_eq_ok_iff {b : α} : finish closed a = .ok b ↔ closed = true ∧ a = b := by
  cases closed <;> simp [finish]

lemma read_eq_ok_iff {source : Source} : Json.read read source = .ok a ↔
    read (parse source).1 = .ok a ∧ (skipSpace (parse source).2).isEmpty = true := by
  rw [Json.read, bind_eq_ok_iff]
  simp only [finish_eq_ok_iff]
  constructor
  · rintro ⟨_, ha, hrest, rfl⟩
    exact ⟨ha, hrest⟩
  · rintro ⟨ha, hrest⟩
    exact ⟨a, ha, hrest, rfl⟩

lemma gives_of_read {source : Source} (h : read.Gives P) (hr : Json.read read source = .ok a) :
    P a := h (read_eq_ok_iff.1 hr).1

lemma readItems_eq_ok_iff :
    readItems read index ns = .ok as ↔ List.Forall₂ (fun n a => read n = .ok a) ns as := by
  induction ns generalizing index as with
  | nil =>
    rw [readItems, List.forall₂_nil_left_iff, Except.ok.injEq, eq_comm]
  | cons n ns ih =>
    rw [readItems, bind_eq_ok_iff, List.forall₂_cons_left_iff]
    constructor
    · rintro ⟨a, ha, h⟩
      obtain ⟨rest, hrest, h⟩ := bind_eq_ok_iff.1 h
      cases h
      exact ⟨a, rest, mapError_eq_ok_iff.1 ha, ih.1 hrest, rfl⟩
    · rintro ⟨a, rest, ha, hrest, rfl⟩
      exact ⟨a, mapError_eq_ok_iff.2 ha, bind_eq_ok_iff.2 ⟨rest, ih.2 hrest, rfl⟩⟩

lemma readList_eq_ok_iff : readList read n = .ok as ↔
    ∃ items, n = .array items true ∧ List.Forall₂ (fun n a => read n = .ok a) items as := by
  cases n with
  | array items closed =>
    simp only [readList, bind_eq_ok_iff, finish_eq_ok_iff, readItems_eq_ok_iff, Node.array.injEq]
    constructor
    · rintro ⟨as, h, rfl, rfl⟩
      exact ⟨items, ⟨rfl, rfl⟩, h⟩
    · rintro ⟨_, ⟨rfl, rfl⟩, h⟩
      exact ⟨as, h, rfl, rfl⟩
  | _ => simp [readList]

lemma exists_tagged_of_readPairs (h : readPairs reads ms = .ok es) : ∃ fs, ms = tagged fs := by
  induction ms generalizing es with
  | nil => exact ⟨[], rfl⟩
  | cons m ms ih =>
    obtain ⟨_ | key, n⟩ := m
    · cases h
    · obtain ⟨a, -, h⟩ := bind_eq_ok_iff.1 h
      obtain ⟨rest, hrest, -⟩ := bind_eq_ok_iff.1 h
      obtain ⟨fs, rfl⟩ := ih hrest
      exact ⟨(key, n) :: fs, rfl⟩

lemma readPairs_eq_ok_iff : readPairs reads (tagged fs) = .ok es ↔
    List.Forall₂ (fun f e => f.1 = e.1 ∧ reads f.1 f.2 = .ok e.2) fs es := by
  induction fs generalizing es with
  | nil =>
    have hnil : readPairs reads (tagged []) = .ok [] := rfl
    rw [hnil, List.forall₂_nil_left_iff, Except.ok.injEq, eq_comm]
  | cons f fs ih =>
    rw [tagged, List.map_cons, readPairs, bind_eq_ok_iff, List.forall₂_cons_left_iff]
    constructor
    · rintro ⟨a, ha, h⟩
      obtain ⟨rest, hrest, h⟩ := bind_eq_ok_iff.1 h
      cases h
      exact ⟨(f.1, a), rest, ⟨rfl, mapError_eq_ok_iff.1 ha⟩, ih.1 hrest, rfl⟩
    · rintro ⟨⟨key, a⟩, rest, ⟨rfl, ha⟩, hrest, rfl⟩
      exact ⟨a, mapError_eq_ok_iff.2 ha, bind_eq_ok_iff.2 ⟨rest, ih.2 hrest, rfl⟩⟩

lemma readMap_ofFields_eq_ok_iff : readMap reads (.ofFields fs) = .ok es ↔
    List.Forall₂ (fun f e => f.1 = e.1 ∧ reads f.1 f.2 = .ok e.2) fs es := by
  rw [← readPairs_eq_ok_iff, Node.ofFields, readMap, bind_eq_ok_iff]
  simp only [finish_eq_ok_iff, true_and, exists_eq_right]

lemma exists_ofFields_of_readMap (h : readMap reads n = .ok es) : ∃ fs, n = .ofFields fs := by
  cases n with
  | object members closed =>
    obtain ⟨es', hes, h⟩ := bind_eq_ok_iff.1 h
    obtain ⟨rfl, -⟩ := finish_eq_ok_iff.1 h
    obtain ⟨fs, rfl⟩ := exists_tagged_of_readPairs hes
    exact ⟨fs, rfl⟩
  | _ => cases h

lemma readList_gives (h : read.Gives P) : (readList read).Gives fun as => ∀ a ∈ as, P a := by
  intro n as hr
  obtain ⟨items, rfl, hitems⟩ := readList_eq_ok_iff.1 hr
  have hflip : List.Forall₂ (fun a n => P a ∧ read n = .ok a) as items :=
    hitems.flip.imp fun _ _ ha => ⟨h ha, ha⟩
  exact ((List.forall₂_and_left _ _).1 hflip).1

lemma readMap_gives {P : String → α → Prop} (h : ∀ key, (reads key).Gives (P key)) :
    (readMap reads).Gives fun es => ∀ e ∈ es, P e.1 e.2 := by
  intro n es hr
  obtain ⟨fs, rfl⟩ := exists_ofFields_of_readMap hr
  have hflip : List.Forall₂ (fun e f => P e.1 e.2 ∧ f.1 = e.1) es fs :=
    (readMap_ofFields_eq_ok_iff.1 hr).flip.imp fun e f hf => ⟨hf.1 ▸ h f.1 hf.2, hf.1⟩
  exact ((List.forall₂_and_left _ _).1 hflip).1

lemma keeps_of {name : String} {get : σ → Option α} {set : α → σ → σ} (h : read.Gives P)
    (hset : ∀ a s, P a → Q s → Q (set a s)) : (FieldReader.of name get set read).Keeps Q := by
  intro n s s' hs hr
  obtain ⟨a, ha, rfl⟩ := map_eq_ok_iff.1 hr
  exact hset a s (h ha) hs

lemma readMember_keeps {f : FieldReader σ} {n : Node} (hf : f.Keeps Q) (hs : Q s)
    (hr : f.readMember n s = .ok s') : Q s' := by
  unfold FieldReader.readMember at hr
  split at hr
  · cases hr
  · exact hf hs (mapError_eq_ok_iff.1 hr)

lemma readMembers_keeps {ms : List (Option String × Node)} (hf : ∀ f ∈ fields, f.Keeps Q) (hs : Q s)
    (hr : readMembers fields ms s = .ok s') : Q s' := by
  induction ms generalizing s with
  | nil =>
    cases hr
    exact hs
  | cons m ms ih =>
    obtain ⟨_ | key, n⟩ := m
    · cases hr
    · rw [readMembers] at hr
      split at hr
      · next f hfind =>
        obtain ⟨s₁, hs₁, hr⟩ := bind_eq_ok_iff.1 hr
        exact ih (readMember_keeps (hf f (List.mem_of_find?_eq_some hfind)) hs hs₁) hr
      · split at hr
        · exact ih hs hr
        · cases hr

lemma readFields_keeps {ns : List Node} (hf : ∀ f ∈ fields, f.Keeps Q) (hs : Q s)
    (hr : readFields index fields ns s = .ok s') : Q s' := by
  induction ns generalizing index fields s with
  | nil =>
    cases fields <;> cases hr <;> exact hs
  | cons n ns ih =>
    cases fields with
    | nil => cases hr
    | cons f fs =>
      obtain ⟨hfirst, hrest⟩ := List.forall_mem_cons.1 hf
      obtain ⟨s₁, hs₁, hr⟩ := bind_eq_ok_iff.1 hr
      exact ih hrest (hfirst hs (mapError_eq_ok_iff.1 hs₁)) hr

lemma readStructure_gives {expected : String} (hf : ∀ f ∈ fields, f.Keeps Q) (hs : Q s) :
    Reader.Gives (readStructure expected fields s) Q := by
  intro n s' hr
  cases n with
  | object members closed =>
    obtain ⟨s₁, hs₁, hr⟩ := bind_eq_ok_iff.1 hr
    obtain ⟨-, rfl⟩ := finish_eq_ok_iff.1 hr
    exact readMembers_keeps hf hs hs₁
  | array items closed =>
    obtain ⟨s₁, hs₁, hr⟩ := bind_eq_ok_iff.1 hr
    obtain ⟨-, rfl⟩ := finish_eq_ok_iff.1 hr
    exact readFields_keeps hf hs hs₁
  | _ => cases hr

/-- A member is read as the field of its name, if that was not read before. -/
lemma readMembers_field {f : FieldReader σ} {key : String} {n : Node}
    {rest : List (Option String × Node)} (hf : fields.find? (·.name = key) = some f)
    (hs : f.isSet s = false) (hr : f.read n s = .ok s') :
    readMembers fields ((some key, n) :: rest) s = readMembers fields rest s' := by
  have hm : f.readMember n s = .ok s' := by
    rw [FieldReader.readMember, hs, if_neg Bool.false_ne_true, Reader.at, hr]
    rfl
  simp only [readMembers, hf, hm, ok_bind]

lemma readItems_map {write : β → Value} {value : β → α}
    (h : ∀ b, read (write b).tree = .ok (value b)) (bs : List β) :
    readItems read index (bs.map fun b => (write b).tree) = .ok (bs.map value) := by
  rw [readItems_eq_ok_iff, List.forall₂_map_left_iff, List.forall₂_map_right_iff, List.forall₂_same]
  exact fun b _ => h b

lemma readList_tree (read : Reader α) (vs : List Value) :
    readList read (Value.array vs).tree = readItems read 0 (Value.itemTrees vs) := by
  rw [Value.tree, readList]
  cases readItems read 0 (Value.itemTrees vs) <;> rfl

lemma readList_map {write : β → Value} {value : β → α}
    (h : ∀ b, read (write b).tree = .ok (value b)) (bs : List β) :
    readList read (Value.tree (.array (bs.map write))) = .ok (bs.map value) := by
  rw [readList_tree, Value.itemTrees_eq_map, List.map_map]
  exact readItems_map h bs

lemma readMap_map {write : β → Value} {value : String → β → α}
    (h : ∀ key b, reads key (write b).tree = .ok (value key b)) (bs : List (String × β)) :
    readMap reads (Value.tree (.object (bs.map fun e => (e.1, write e.2)))) =
      .ok (bs.map fun e => (e.1, value e.1 e.2)) := by
  have htree : Value.tree (.object (bs.map fun e => (e.1, write e.2))) =
      .ofFields (bs.map fun e => (e.1, (write e.2).tree)) := by
    rw [Value.tree, Value.fieldTrees_eq_map, Node.ofFields, tagged, List.map_map, List.map_map]
    rfl
  rw [htree, readMap_ofFields_eq_ok_iff, List.forall₂_map_left_iff, List.forall₂_map_right_iff,
    List.forall₂_same]
  exact fun e _ => ⟨rfl, h e.1 e.2⟩

end TypedPid.Json
