import Mathlib.Data.Set.Insert
import TypedPid.Proofs.Json.Readers
import TypedPid.Proofs.Keyed

/-!
What readers make of the fields of an object. A structure is determined by what stands under the names of
its fields. Fields with other names only have to be complete, and how fields with different names are mixed
does not matter.
-/

namespace TypedPid.Json

open Keyed

variable {α β σ : Type} {fs fs' : List (String × Node)} {n : Node} {ns ns' : List Node} {name : String}

/-- Of the fields with other names than these it only matters that they are complete. -/
def CompleteBut (names : Set String) (fs : List (String × Node)) : Prop :=
  ∀ f ∈ fs, f.1 ∉ names → f.2.complete = true

/-- Fields that have related nodes under some names, and under each of these in the same order. What they
have under other names is complete, but counts for nothing. -/
structure Variant (names : Set String) (R : String → Node → Node → Prop) (fs fs' : List (String × Node)) :
    Prop where
  related : ∀ name ∈ names, List.Forall₂ (R name) (named name fs) (named name fs')
  complete : CompleteBut names fs'

/-- Objects, up to their ends, of fields of which the second are a variant of the first. -/
def VariantObject (names : Set String) (R : String → Node → Node → Prop) (n n' : Node) : Prop :=
  ∃ fs fs', n = .ofFields fs ∧ n' = .ofFields fs' ∧ Variant names R fs fs'

lemma exists_of_forall₂ {P : Node → α → Prop} {as : List α} (h : List.Forall₂ P ns as) (hn : n ∈ ns) :
    ∃ a, P n a := by
  induction h with
  | nil => cases hn
  | cons ha _ ih =>
    rcases List.mem_cons.1 hn with rfl | hn
    · exact ⟨_, ha⟩
    · exact ih hn

lemma forall₂_congr {R : Node → Node → Prop} {P : Node → α → Prop} {as : List α}
    (hR : ∀ n n' a, R n n' → P n a → P n' a) (h : List.Forall₂ R ns ns') (hP : List.Forall₂ P ns as) :
    List.Forall₂ P ns' as := by
  induction h generalizing as with
  | nil => exact hP
  | cons hn _ ih =>
    cases hP with
    | cons ha hP => exact .cons (hR _ _ _ hn ha) (ih hP)

lemma named_forall₂ {R : String → α → β → Prop} {as : List (String × α)}
    {bs : List (String × β)} (h : List.Forall₂ (fun a b => a.1 = b.1 ∧ R a.1 a.2 b.2) as bs)
    (key : String) : List.Forall₂ (R key) (named key as) (named key bs) := by
  induction h with
  | nil => exact .nil
  | @cons a b _ _ hab _ ih =>
    obtain ⟨hkey, hR⟩ := hab
    rw [named_cons, named_cons, ← hkey]
    by_cases ha : a.1 = key
    · rw [if_pos ha, if_pos ha]
      exact .cons (ha ▸ hR) ih
    · rw [if_neg ha, if_neg ha]
      exact ih

section Structures

/-- What an optional field holds after the nodes that stand under its name were read. There is at most one
node for it. -/
inductive Fills (read : Reader α) : Option α → List Node → Option α → Prop
  | kept (held : Option α) : Fills read held [] held
  | read {n : Node} {a : α} : read n = .ok a → Fills read none [n] (some a)

variable {read : Reader α} {held held' : Option α} {a : α}

lemma fills_nil_iff : Fills read held [] held' ↔ held = held' := by
  constructor
  · intro h
    cases h
    rfl
  · rintro rfl
    exact .kept held

lemma fills_cons_iff : Fills read held (n :: ns) held' ↔
    held = none ∧ ∃ a, read n = .ok a ∧ Fills read (some a) ns held' := by
  constructor
  · intro h
    cases h with
    | read h => exact ⟨rfl, _, h, .kept _⟩
  · rintro ⟨rfl, a, ha, h⟩
    cases h with
    | kept => exact .read ha

lemma Fills.absent_or_read (h : Fills read none ns held) :
    ns.getLast? = none ∧ held = none ∨ ∃ n a, ns.getLast? = some n ∧ held = some a ∧ read n = .ok a := by
  cases h with
  | kept => exact .inl ⟨rfl, rfl⟩
  | read h => exact .inr ⟨_, _, rfl, rfl, h⟩

/-- Nodes of which a reader makes the same fill a field alike. -/
lemma Fills.congr {R : Node → Node → Prop} (hR : ∀ n n' a, R n n' → read n = .ok a → read n' = .ok a)
    (h : Fills read held ns held') (hns : List.Forall₂ R ns ns') : Fills read held ns' held' := by
  cases h with
  | kept =>
    cases hns
    exact .kept held
  | read h =>
    obtain ⟨n', _, hn, hnil, rfl⟩ := List.forall₂_cons_left_iff.1 hns
    cases hnil
    exact .read (hR _ _ _ hn h)

/-- Two optional fields, which make up a structure. -/
structure Places (get : σ → Option α) (set : α → σ → σ) (get' : σ → Option β) (set' : β → σ → σ) :
    Prop where
  get_set : ∀ a s, get (set a s) = some a
  get'_set : ∀ a s, get' (set a s) = get' s
  get_set' : ∀ b s, get (set' b s) = get s
  get'_set' : ∀ b s, get' (set' b s) = some b
  ext : ∀ s t, get s = get t → get' s = get' t → s = t

variable {get : σ → Option α} {set : α → σ → σ} {get' : σ → Option β} {set' : β → σ → σ}
  {read' : Reader β} {name' : String} {s t : σ} {ms : List (Option String × Node)}

lemma readMember_eq_ok_iff : (FieldReader.of name get set read).readMember n s = .ok t ↔
    get s = none ∧ ∃ a, read n = .ok a ∧ set a s = t := by
  rw [FieldReader.readMember, FieldReader.of]
  dsimp only
  split
  · next hset => simp [Option.isSome_iff_ne_none.1 hset]
  · next hset =>
    rw [Option.not_isSome_iff_eq_none] at hset
    rw [Reader.at, mapError_eq_ok_iff, map_eq_ok_iff, and_iff_right hset]

lemma exists_tagged_of_readMembers {fields : List (FieldReader σ)}
    (h : readMembers fields ms s = .ok t) : ∃ fs, ms = tagged fs := by
  induction ms generalizing s with
  | nil => exact ⟨[], rfl⟩
  | cons m ms ih =>
    obtain ⟨_ | key, n⟩ := m
    · cases h
    · have hrest : ∃ s, readMembers fields ms s = .ok t := by
        rw [readMembers] at h
        split at h
        · obtain ⟨s, -, h⟩ := bind_eq_ok_iff.1 h
          exact ⟨s, h⟩
        · split at h
          · exact ⟨s, h⟩
          · cases h
      obtain ⟨s, hs⟩ := hrest
      obtain ⟨fs, rfl⟩ := ih hs
      exact ⟨(key, n) :: fs, rfl⟩

lemma completeBut_cons_iff {names : Set String} {f : String × Node} :
    CompleteBut names (f :: fs) ↔ (f.1 ∉ names → f.2.complete = true) ∧ CompleteBut names fs :=
  List.forall_mem_cons

lemma readMembers_known_iff {fields : List (FieldReader σ)} {key : String}
    (h : fields.find? (·.name = key) = some (.of name get set read)) :
    readMembers fields ((some key, n) :: ms) s = .ok t ↔
      get s = none ∧ ∃ a, read n = .ok a ∧ readMembers fields ms (set a s) = .ok t := by
  simp only [readMembers, h, bind_eq_ok_iff, readMember_eq_ok_iff]
  constructor
  · rintro ⟨_, ⟨hs, a, ha, rfl⟩, hrest⟩
    exact ⟨hs, a, ha, hrest⟩
  · rintro ⟨hs, a, ha, hrest⟩
    exact ⟨_, ⟨hs, a, ha, rfl⟩, hrest⟩

lemma readMembers_unknown_iff {fields : List (FieldReader σ)} {key : String}
    (h : fields.find? (·.name = key) = none) : readMembers fields ((some key, n) :: ms) s = .ok t ↔
      n.complete = true ∧ readMembers fields ms s = .ok t := by
  simp only [readMembers, h]
  cases n.complete <;> simp

lemma readMembers_eq_ok_iff (h : Places get set get' set') (hne : name ≠ name') :
    readMembers [.of name get set read, .of name' get' set' read'] (tagged fs) s = .ok t ↔
      Fills read (get s) (named name fs) (get t) ∧ Fills read' (get' s) (named name' fs) (get' t) ∧
        CompleteBut {name, name'} fs := by
  -- The structure grows by each field that it knows, so nothing is assumed of how it begins.
  induction fs generalizing s with
  | nil =>
    have hnil : CompleteBut {name, name'} [] := List.forall_mem_nil _
    rw [named_nil, named_nil, fills_nil_iff, fills_nil_iff, and_iff_left hnil]
    constructor
    · intro heq
      cases heq
      exact ⟨rfl, rfl⟩
    · rintro ⟨hget, hget'⟩
      rw [h.ext s t hget hget']
      rfl
  | cons f fs ih =>
    obtain ⟨key, n⟩ := f
    rw [named_cons, named_cons, completeBut_cons_iff, tagged, List.map_cons, ← tagged]
    by_cases hkey : key = name
    · have hfind : [FieldReader.of name get set read, .of name' get' set' read'].find? (·.name = key) =
          some (.of name get set read) := by simp [FieldReader.of, hkey]
      have hknown : key ∈ ({name, name'} : Set String) := by simp [hkey]
      rw [readMembers_known_iff hfind, if_pos hkey, if_neg (hkey.trans_ne hne), fills_cons_iff]
      simp only [ih, h.get_set, h.get'_set, hknown, not_true, false_implies, true_and]
      tauto
    · by_cases hkey' : key = name'
      · have hfind : [FieldReader.of name get set read, .of name' get' set' read'].find? (·.name = key) =
            some (.of name' get' set' read') := by simp [FieldReader.of, hkey', hne]
        have hknown : key ∈ ({name, name'} : Set String) := by simp [hkey']
        rw [readMembers_known_iff hfind, if_neg hkey, if_pos hkey', fills_cons_iff]
        simp only [ih, h.get_set', h.get'_set', hknown, not_true, false_implies, true_and]
        tauto
      · have hfind : [FieldReader.of name get set read, .of name' get' set' read'].find? (·.name = key) =
            none := by simp [FieldReader.of, Ne.symm hkey, Ne.symm hkey']
        have hunknown : key ∉ ({name, name'} : Set String) := by simp [hkey, hkey']
        rw [readMembers_unknown_iff hfind, if_neg hkey, if_neg hkey', ih]
        simp only [hunknown, not_false_iff, true_implies]
        tauto

lemma readStructure_ofFields_eq_ok_iff {expected : String} {fields : List (FieldReader σ)} :
    readStructure expected fields s (.ofFields fs) = .ok t ↔ readMembers fields (tagged fs) s = .ok t := by
  rw [Node.ofFields, readStructure, bind_eq_ok_iff]
  simp only [finish_eq_ok_iff, true_and, exists_eq_right]

lemma exists_ofFields_of_readStructure {expected : String} {fields : List (FieldReader σ)} {closed : Bool}
    (h : readStructure expected fields s (.object ms closed) = .ok t) :
    ∃ fs, Node.object ms closed = .ofFields fs := by
  obtain ⟨t', ht, h⟩ := bind_eq_ok_iff.1 h
  obtain ⟨rfl, -⟩ := finish_eq_ok_iff.1 h
  obtain ⟨fs, rfl⟩ := exists_tagged_of_readMembers ht
  exact ⟨fs, rfl⟩

/-- A structure is read from a variant of its fields as from the fields themselves. -/
lemma readMembers_variant {R : String → Node → Node → Prop} (h : Places get set get' set')
    (hne : name ≠ name') (hR : ∀ n n' a, R name n n' → read n = .ok a → read n' = .ok a)
    (hR' : ∀ n n' b, R name' n n' → read' n = .ok b → read' n' = .ok b)
    (hfs : Variant {name, name'} R fs fs')
    (ht : readMembers [.of name get set read, .of name' get' set' read'] (tagged fs) s = .ok t) :
    readMembers [.of name get set read, .of name' get' set' read'] (tagged fs') s = .ok t := by
  rw [readMembers_eq_ok_iff h hne] at ht ⊢
  obtain ⟨hfills, hfills', -⟩ := ht
  exact ⟨hfills.congr hR (hfs.related name (.inl rfl)),
    hfills'.congr hR' (hfs.related name' (.inr rfl)), hfs.complete⟩

end Structures

end TypedPid.Json
