import Mathlib.Data.List.DropRight
import TypedPid.Definition
import TypedPid.Proofs.Except
import TypedPid.Proofs.Keyed

/-!
Definitions as builders make them. Whatever a builder is asked for, it files each attribute under the
identifier of its own definition, and no definition without an identifier comes out of it.
-/

namespace TypedPid

namespace Unicode

/-- Text of which nothing is left when it is trimmed. -/
def Blank (s : String) : Prop := ∀ c ∈ s.toList, isBlank c = true

lemma isEmpty_trim_iff (s : String) : (trim s).isEmpty = true ↔ Blank s := by
  have htrim : trim s = String.ofList ((s.toList.dropWhile isBlank).rdropWhile isBlank) := rfl
  rw [htrim, String.isEmpty_iff, String.ofList_eq_empty_iff, List.rdropWhile_eq_nil_iff,
    ← List.dropWhile_eq_nil_iff, List.dropWhile_idempotent, List.dropWhile_eq_nil_iff, Blank]

end Unicode

open Unicode

lemma ValuePattern.source_of_ofString? {source : String} {p : ValuePattern}
    (h : ValuePattern.ofString? source = .ok p) : p.source = source := by
  unfold ValuePattern.ofString? at h
  split at h
  · cases h
    rfl
  · cases h

namespace TypeDefinition

variable {d e : TypeDefinition} {s : Declared TypeDefinition} {a : String} {path : List String}

section Attributes

lemma declares_iff (d : TypeDefinition) (a : String) :
    d.declares a = true ↔ ∃ s, d.subType? a = some s := Option.isSome_iff_exists

lemma mem_attributes_iff (d : TypeDefinition) (a : String) :
    a ∈ d.attributes ↔ ∃ s, d.subType? a = some s := by
  rw [← declares_iff]
  exact Keyed.contains_iff_mem_keys.symm

lemma mem_mandatoryAttributes_iff (h : Keyed.Ordered d.subTypes) :
    a ∈ d.mandatoryAttributes ↔ ∃ s, d.subType? a = some s ∧ s.mandatory = true := by
  constructor
  · intro ha
    obtain ⟨⟨_, s⟩, hs, rfl⟩ := List.mem_map.1 ha
    obtain ⟨hs, hm⟩ := List.mem_filter.1 hs
    exact ⟨s, Keyed.lookup_of_mem h hs, hm⟩
  · rintro ⟨s, hs, hm⟩
    have hmem : (a, s) ∈ d.subTypes := Keyed.mem_of_lookup hs
    exact List.mem_map_of_mem (List.mem_filter.2 ⟨hmem, hm⟩)

lemma mandatoryAttributes_ascending (h : Keyed.Ordered d.subTypes) :
    d.mandatoryAttributes.Pairwise (· < ·) := by
  have hkept : Keyed.Ordered (d.subTypes.filter (·.2.mandatory)) := Keyed.ordered_filter _ h
  exact hkept

end Attributes

section Depth

/-- The definition that is found by going down from attribute to attribute. -/
def at? (d : TypeDefinition) : List String → Option TypeDefinition
  | [] => some d
  | a :: path => (d.subType? a).bind fun s => s.definition.at? path

/-- A definition with an identifier, which files each attribute under the identifier of its type. -/
structure Orderly (d : TypeDefinition) : Prop where
  named : ¬ Blank d.identifier
  ordered : Keyed.Ordered d.subTypes
  keys : ∀ s ∈ d.subTypes, s.2.definition.identifier = s.1

/-- A definition that is orderly down to every depth. -/
def WellMade (d : TypeDefinition) : Prop := ∀ path e, d.at? path = some e → e.Orderly

lemma WellMade.orderly (h : d.WellMade) : d.Orderly := h [] d rfl

lemma WellMade.nested (h : d.WellMade) (hs : d.subType? a = some s) : s.definition.WellMade := by
  intro path e he
  refine h (a :: path) e ?_
  rw [at?, hs, Option.bind_some, he]

lemma wellMade_of_nested (h : d.Orderly) (hn : ∀ s ∈ d.subTypes, s.2.definition.WellMade) :
    d.WellMade := by
  intro path e he
  cases path with
  | nil =>
    cases he
    exact h
  | cons a path =>
    obtain ⟨s, hs, he⟩ := Option.bind_eq_some_iff.1 he
    exact hn (a, s) (Keyed.mem_of_lookup hs) path e he

end Depth

namespace Builder

variable {b : Builder}

/-- What can be asked of a builder. -/
inductive Call where
  | name (text : String)
  | description (text : String)
  | pattern (source : String)
  | allowAdditionalAttributes (allow : Bool)
  | declare (mandatory : Bool) (d : TypeDefinition)

def Call.apply (b : Builder) : Call → Builder
  | .name text => { b with name := some text }
  | .description text => { b with description := some text }
  | .pattern source => { b with pattern := some source }
  | .allowAdditionalAttributes allow => { b with additionalAttributes := allow }
  | .declare mandatory d => b.declare mandatory d

/-- A definition is what its builder was told. -/
structure Makes (b : Builder) (d : TypeDefinition) : Prop where
  named : ¬ Blank b.identifier
  identifier : d.identifier = b.identifier
  name : d.name = b.name
  description : d.description = b.description
  pattern : d.pattern.map (·.source) = b.pattern
  additionalAttributes : d.additionalAttributes = b.additionalAttributes
  subTypes : d.subTypes = b.subTypes

lemma makes_of_build (h : b.build = .ok d) : b.Makes d := by
  rw [build] at h
  split at h
  · cases h
  · next hnamed =>
    rw [isEmpty_trim_iff] at hnamed
    split at h
    · next hp =>
      cases h
      exact ⟨hnamed, rfl, rfl, rfl, hp.symm, rfl, rfl⟩
    · next source hp =>
      split at h
      · next p hsource =>
        cases h
        refine ⟨hnamed, rfl, rfl, rfl, ?_, rfl, rfl⟩
        rw [hp, Option.map_some, ValuePattern.source_of_ofString? hsource]
      · cases h

/-- What was declared so far is in order, and well made itself. -/
structure Tidy (b : Builder) : Prop where
  ordered : Keyed.Ordered b.subTypes
  keys : ∀ s ∈ b.subTypes, s.2.definition.identifier = s.1
  nested : ∀ s ∈ b.subTypes, s.2.definition.WellMade

lemma tidy_new (identifier : String) : Tidy { identifier } :=
  ⟨Keyed.ordered_nil, List.forall_mem_nil _, List.forall_mem_nil _⟩

lemma Tidy.of_subTypes {b' : Builder} (h : b.Tidy) (hs : b'.subTypes = b.subTypes) : b'.Tidy := by
  refine ⟨?_, ?_, ?_⟩ <;> rw [hs]
  exacts [h.ordered, h.keys, h.nested]

lemma Tidy.declare (h : b.Tidy) (mandatory : Bool) (hd : d.WellMade) :
    (b.declare mandatory d).Tidy := by
  refine ⟨Keyed.insert_ordered _ _ h.ordered, fun s hs => ?_, fun s hs => ?_⟩
  · rcases Keyed.mem_insert_key hs with rfl | hs
    · rfl
    · exact h.keys s hs
  · rcases Keyed.mem_insert_key hs with rfl | hs
    · exact hd
    · exact h.nested s hs

lemma Tidy.apply (h : b.Tidy) (c : Call)
    (hd : ∀ mandatory d, c = .declare mandatory d → d.WellMade) : (c.apply b).Tidy := by
  cases c with
  | name text => exact h.of_subTypes rfl
  | description text => exact h.of_subTypes rfl
  | pattern source => exact h.of_subTypes rfl
  | allowAdditionalAttributes allow => exact h.of_subTypes rfl
  | declare mandatory d => exact h.declare mandatory (hd mandatory d rfl)

lemma Tidy.foldl_apply {calls : List Call} (h : b.Tidy)
    (hd : ∀ mandatory d, .declare mandatory d ∈ calls → d.WellMade) :
    (calls.foldl Call.apply b).Tidy := by
  induction calls generalizing b with
  | nil => exact h
  | cons c calls ih =>
    have hc : (c.apply b).Tidy := by
      refine h.apply c fun mandatory d heq => hd mandatory d ?_
      rw [heq]
      exact List.mem_cons_self
    exact ih hc fun mandatory d hm => hd mandatory d (List.mem_cons_of_mem _ hm)

lemma Tidy.build (h : b.Tidy) (hb : b.build = .ok d) : d.WellMade := by
  have hmakes := makes_of_build hb
  have hsub := hmakes.subTypes
  refine wellMade_of_nested ⟨?_, ?_, ?_⟩ ?_
  · rw [hmakes.identifier]
    exact hmakes.named
  · rw [hsub]
    exact h.ordered
  · rw [hsub]
    exact h.keys
  · rw [hsub]
    exact h.nested

end Builder

end TypeDefinition

end TypedPid
