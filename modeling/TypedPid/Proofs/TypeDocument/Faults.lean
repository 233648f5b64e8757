import TypedPid.Proofs.Definition.Building
import TypedPid.TypeDocument

/-!
Documents that have no meaning. The documents of a tree are looked at in postorder, those that stand
within a document before itself, and the first one that is at fault decides what is reported.
-/

namespace TypedPid

open Unicode

namespace TypeDocument

open TypeDefinition

variable {d e : TypeDocument} {p : Declared TypeDocument} {properties : List (Declared TypeDocument)}
  {b b' : Builder} {error : DefinitionError}

/-- A document, and those that stand within it at every depth. -/
inductive Within (e : TypeDocument) : TypeDocument → Prop
  | self : Within e e
  | property {d : TypeDocument} {p : Declared TypeDocument} :
      p ∈ d.properties → Within e p.definition → Within e d

mutual

/-- All documents of a tree, each after those that stand within it. -/
def postorder : TypeDocument → List TypeDocument
  | ⟨identifier, name, description, pattern, additionalAttributes, properties⟩ =>
    postorderAll properties ++
      [⟨identifier, name, description, pattern, additionalAttributes, properties⟩]

def postorderAll : List (Declared TypeDocument) → List TypeDocument
  | [] => []
  | ⟨_, d⟩ :: rest => d.postorder ++ postorderAll rest

end

/-- What a document says of itself makes sense, whatever stands within it. -/
structure Sound (d : TypeDocument) : Prop where
  named : ¬ Blank d.identifier
  pattern : ∀ source, d.pattern = some source → ∃ p, ValuePattern.ofString? source = .ok p

/-- What is wrong with a document itself. A blank identifier is reported before a broken pattern. -/
inductive Fault (d : TypeDocument) : DefinitionError → Prop
  | unnamed : Blank d.identifier → Fault d .emptyIdentifier
  | broken {source : String} {cause : Regex.SyntaxError} : ¬ Blank d.identifier →
      d.pattern = some source → ValuePattern.ofString? source = .error cause →
      Fault d (.invalidPattern d.identifier cause)

section Postorder

lemma postorder_eq (d : TypeDocument) : d.postorder = postorderAll d.properties ++ [d] := by
  cases d
  rw [postorder]

lemma mem_postorderAll_iff :
    e ∈ postorderAll properties ↔ ∃ p ∈ properties, e ∈ p.definition.postorder := by
  induction properties with
  | nil => simp [postorderAll]
  | cons p rest ih => simp [postorderAll, ih]

lemma Within.mem_postorder (h : e.Within d) : e ∈ d.postorder := by
  induction h with
  | self =>
    rw [postorder_eq]
    exact List.mem_append_right _ (List.mem_singleton_self _)
  | property hp _ ih =>
    rw [postorder_eq]
    exact List.mem_append_left _ (mem_postorderAll_iff.2 ⟨_, hp, ih⟩)

mutual

lemma within_of_mem_postorder : ∀ d : TypeDocument, ∀ e ∈ d.postorder, e.Within d
  | ⟨identifier, name, description, pattern, additionalAttributes, properties⟩, e, h => by
    rw [postorder_eq] at h
    rcases List.mem_append.1 h with h | h
    · obtain ⟨p, hp, hwithin⟩ := within_of_mem_postorderAll properties e h
      exact .property hp hwithin
    · rw [List.mem_singleton.1 h]
      exact .self

lemma within_of_mem_postorderAll : ∀ properties : List (Declared TypeDocument),
    ∀ e ∈ postorderAll properties, ∃ p ∈ properties, e.Within p.definition
  | [], _, h => (List.not_mem_nil h).elim
  | ⟨mandatory, d⟩ :: rest, e, h => by
    rw [postorderAll] at h
    rcases List.mem_append.1 h with h | h
    · exact ⟨⟨mandatory, d⟩, List.mem_cons_self, within_of_mem_postorder d e h⟩
    · obtain ⟨p, hp, hwithin⟩ := within_of_mem_postorderAll rest e h
      exact ⟨p, List.mem_cons_of_mem _ hp, hwithin⟩

end

lemma mem_postorder_iff : e ∈ d.postorder ↔ e.Within d :=
  ⟨within_of_mem_postorder d e, Within.mem_postorder⟩

end Postorder

section Meaning

/-- The builder of the definition that a document stands for, before its properties are declared. -/
def bare (d : TypeDocument) : Builder where
  identifier := d.identifier
  name := d.name
  description := d.description
  pattern := d.pattern
  additionalAttributes := d.additionalAttributes

lemma toDefinition_eq (d : TypeDocument) :
    d.toDefinition = declareAll d.properties d.bare >>= Builder.build := by
  cases d
  rw [toDefinition]
  rfl

/-- Nothing but attributes is declared. -/
lemma eq_of_declareAll (h : declareAll properties b = .ok b') :
    b' = { b with subTypes := b'.subTypes } := by
  induction properties generalizing b with
  | nil =>
    cases h
    rfl
  | cons p rest ih =>
    rw [declareAll] at h
    obtain ⟨nested, -, h⟩ := bind_eq_ok_iff.1 h
    have heq := ih h
    exact heq

/-- What is wrong with a document itself, if anything is. -/
def fault? (d : TypeDocument) : Option DefinitionError := failure? d.bare.build

lemma failure?_build (d : TypeDocument) (subTypes : Keyed (Declared TypeDefinition)) :
    failure? { d.bare with subTypes }.build = d.fault? := by
  simp only [fault?, Builder.build]
  split
  · rfl
  · split
    · rfl
    · split <;> rfl

lemma fault?_of_blank (h : Blank d.identifier) : d.fault? = some .emptyIdentifier := by
  have hempty : (trim d.bare.identifier).isEmpty = true := (isEmpty_trim_iff _).2 h
  rw [fault?, Builder.build, if_pos hempty, failure?]

lemma fault?_of_named (h : ¬ Blank d.identifier) :
    d.fault? = d.pattern.bind fun source =>
      (failure? (ValuePattern.ofString? source)).map (.invalidPattern d.identifier) := by
  have hnamed : ¬ (trim d.bare.identifier).isEmpty = true := fun he => h ((isEmpty_trim_iff _).1 he)
  have hpattern : d.bare.pattern = d.pattern := rfl
  rw [fault?, Builder.build, if_neg hnamed, hpattern]
  cases d.pattern with
  | none => rfl
  | some source =>
    rw [Option.bind_some]
    dsimp only
    cases ValuePattern.ofString? source <;> rfl

lemma fault?_eq_none_iff : d.fault? = none ↔ d.Sound := by
  by_cases hblank : Blank d.identifier
  · rw [fault?_of_blank hblank]
    constructor
    · intro h
      cases h
    · exact fun h => absurd hblank h.named
  · simp only [fault?_of_named hblank, Option.bind_eq_none_iff, Option.map_eq_none_iff,
      failure?_eq_none_iff]
    exact ⟨fun h => ⟨hblank, h⟩, fun h => h.pattern⟩

lemma fault?_eq_some_iff : d.fault? = some error ↔ d.Fault error := by
  by_cases hblank : Blank d.identifier
  · rw [fault?_of_blank hblank]
    constructor
    · intro h
      cases h
      exact .unnamed hblank
    · intro h
      cases h with
      | unnamed _ => rfl
      | broken hnamed _ _ => exact absurd hblank hnamed
  · rw [fault?_of_named hblank]
    constructor
    · intro h
      obtain ⟨source, hp, h⟩ := Option.bind_eq_some_iff.1 h
      obtain ⟨cause, hcause, rfl⟩ := Option.map_eq_some_iff.1 h
      exact .broken hblank hp (failure?_eq_some_iff.1 hcause)
    · intro h
      cases h with
      | unnamed h => exact absurd h hblank
      | broken _ hp hcause => rw [hp, Option.bind_some, hcause, failure?, Option.map_some]

mutual

/-- The first fault in postorder keeps a document from having a meaning. -/
lemma failure?_toDefinition : ∀ d : TypeDocument,
    failure? d.toDefinition = d.postorder.findSome? fault?
  | ⟨identifier, name, description, pattern, additionalAttributes, properties⟩ => by
    rw [postorder_eq, List.findSome?_append, List.findSome?_singleton, toDefinition_eq,
      ← failure?_declareAll properties (bare _)]
    refine failure?_bind fun b hb => ?_
    rw [eq_of_declareAll hb]
    exact failure?_build _ _

lemma failure?_declareAll : ∀ (properties : List (Declared TypeDocument)) (b : Builder),
    failure? (declareAll properties b) = (postorderAll properties).findSome? fault?
  | [], _ => rfl
  | ⟨mandatory, d⟩ :: rest, b => by
    rw [declareAll, postorderAll, List.findSome?_append, ← failure?_toDefinition d]
    exact failure?_bind fun nested _ => failure?_declareAll rest (b.declare mandatory nested)

end

/-- A document has a meaning if and only if all documents of its tree make sense. Otherwise the first one
in postorder that does not is reported, by its own fault. -/
theorem meaning_or_first_fault (d : TypeDocument) :
    ((∃ meaning, d.toDefinition = .ok meaning) ↔ ∀ e : TypeDocument, e.Within d → e.Sound) ∧
    ∀ error, d.toDefinition = .error error ↔ ∃ before faulty after,
      d.postorder = before ++ faulty :: after ∧ (∀ e ∈ before, e.Sound) ∧ faulty.Fault error := by
  constructor
  · rw [← failure?_eq_none_iff, failure?_toDefinition, List.findSome?_eq_none_iff]
    simp only [mem_postorder_iff, fault?_eq_none_iff]
  · intro error
    rw [← failure?_eq_some_iff, failure?_toDefinition, List.findSome?_eq_some_iff]
    simp only [fault?_eq_some_iff, fault?_eq_none_iff, and_comm]

end Meaning

end TypeDocument

end TypedPid
