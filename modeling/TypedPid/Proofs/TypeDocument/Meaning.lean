import TypedPid.Proofs.TypeDocument.Faults

/-!
What documents mean. The definition that a document stands for says what the document says, at every
level; of several properties with one identifier it knows the last one only.
-/

namespace TypedPid

open TypeDefinition

namespace TypeDocument

variable {d : TypeDocument} {meaning nested : TypeDefinition} {p : Declared TypeDocument}
  {properties : List (Declared TypeDocument)} {b b' : Builder} {a : String}

/-- The last property with an identifier. -/
def property? (d : TypeDocument) (a : String) : Option (Declared TypeDocument) :=
  d.properties.reverse.find? (·.definition.identifier = a)

/-- The document that is found by going down from attribute to attribute. -/
def at? (d : TypeDocument) : List String → Option TypeDocument
  | [] => some d
  | a :: path => (d.property? a).bind fun p => p.definition.at? path

/-- A definition says what a document says. The types of the attributes have the documents of their own. -/
structure Conveys (d : TypeDocument) (meaning : TypeDefinition) : Prop where
  identifier : meaning.identifier = d.identifier
  name : meaning.name = d.name
  description : meaning.description = d.description
  pattern : meaning.pattern.map (·.source) = d.pattern
  additionalAttributes : meaning.additionalAttributes = d.additionalAttributes
  declares : ∀ a, meaning.declares a = true ↔ ∃ p ∈ d.properties, p.definition.identifier = a
  /-- An attribute is what the last property with its identifier makes it. -/
  subType : ∀ a p, d.property? a = some p → ∃ nested,
    p.definition.toDefinition = .ok nested ∧ meaning.subType? a = some ⟨p.mandatory, nested⟩
  attributes_ascending : meaning.attributes.Pairwise (· < ·)
  mem_attributes : ∀ a, a ∈ meaning.attributes ↔ ∃ p ∈ d.properties, p.definition.identifier = a
  mandatory_ascending : meaning.mandatoryAttributes.Pairwise (· < ·)
  mem_mandatory : ∀ a, a ∈ meaning.mandatoryAttributes ↔
    ∃ p, d.property? a = some p ∧ p.mandatory = true

section Declarations

lemma property?_eq_none_iff :
    d.property? a = none ↔ ¬ ∃ p ∈ d.properties, p.definition.identifier = a := by
  simp [property?]

lemma property?_isSome_iff :
    (∃ p, d.property? a = some p) ↔ ∃ p ∈ d.properties, p.definition.identifier = a := by
  rw [← Option.isSome_iff_exists, Option.isSome_iff_ne_none, ne_eq, property?_eq_none_iff, not_not]

lemma exists_makes (h : d.toDefinition = .ok meaning) :
    ∃ b, declareAll d.properties d.bare = .ok b ∧ b.build = .ok meaning := by
  rw [toDefinition_eq] at h
  exact bind_eq_ok_iff.1 h

lemma identifier_of_toDefinition (h : d.toDefinition = .ok meaning) :
    meaning.identifier = d.identifier := by
  obtain ⟨b, hb, hbuild⟩ := exists_makes h
  rw [(Builder.makes_of_build hbuild).identifier, eq_of_declareAll hb]
  rfl

/-- The last of the properties with an identifier is declared; where there is none, what was declared
before still is. -/
lemma lookup_declareAll (h : declareAll properties b = .ok b') (a : String) :
    match properties.reverse.find? (·.definition.identifier = a) with
    | some p => ∃ nested, p.definition.toDefinition = .ok nested ∧
        Keyed.lookup a b'.subTypes = some ⟨p.mandatory, nested⟩
    | none => Keyed.lookup a b'.subTypes = Keyed.lookup a b.subTypes := by
  induction properties generalizing b with
  | nil =>
    cases h
    rfl
  | cons p rest ih =>
    obtain ⟨mandatory, document⟩ := p
    rw [declareAll] at h
    obtain ⟨nested, hnested, h⟩ := bind_eq_ok_iff.1 h
    have hlast := ih h
    rw [List.reverse_cons, List.find?_append]
    cases hrest : rest.reverse.find? (·.definition.identifier = a) with
    | some q =>
      rw [hrest] at hlast
      exact hlast
    | none =>
      rw [hrest] at hlast
      have hinsert : Keyed.lookup a (b.declare mandatory nested).subTypes =
          if a = document.identifier then some ⟨mandatory, nested⟩ else Keyed.lookup a b.subTypes := by
        rw [Builder.declare, Keyed.lookup_insert, identifier_of_toDefinition hnested]
      rw [hinsert] at hlast
      by_cases ha : document.identifier = a
      · rw [if_pos ha.symm] at hlast
        simpa [ha] using ⟨nested, hnested, hlast⟩
      · rw [if_neg (Ne.symm ha)] at hlast
        simpa [ha] using hlast

mutual

lemma wellMade_of_toDefinition : ∀ (d : TypeDocument) (meaning : TypeDefinition),
    d.toDefinition = .ok meaning → meaning.WellMade
  | ⟨_, _, _, _, _, properties⟩, meaning, h => by
    obtain ⟨b, hb, hbuild⟩ := exists_makes h
    have htidy := tidy_of_declareAll properties _ b hb ((Builder.tidy_new "").of_subTypes rfl)
    exact htidy.build hbuild

lemma tidy_of_declareAll : ∀ (properties : List (Declared TypeDocument)) (b b' : Builder),
    declareAll properties b = .ok b' → b.Tidy → b'.Tidy
  | [], _, _, h, htidy => by
    cases h
    exact htidy
  | ⟨mandatory, d⟩ :: rest, b, b', h, htidy => by
    rw [declareAll] at h
    obtain ⟨nested, hnested, h⟩ := bind_eq_ok_iff.1 h
    have hd := wellMade_of_toDefinition d nested hnested
    exact tidy_of_declareAll rest _ b' h (htidy.declare mandatory hd)

end

lemma subType?_of_toDefinition (h : d.toDefinition = .ok meaning) (a : String) :
    match d.property? a with
    | some p => ∃ nested, p.definition.toDefinition = .ok nested ∧
        meaning.subType? a = some ⟨p.mandatory, nested⟩
    | none => meaning.subType? a = none := by
  obtain ⟨b, hb, hbuild⟩ := exists_makes h
  have hlast := lookup_declareAll hb a
  rw [TypeDefinition.subType?, (Builder.makes_of_build hbuild).subTypes]
  exact hlast

lemma declared_iff (h : d.toDefinition = .ok meaning) (a : String) :
    (∃ s, meaning.subType? a = some s) ↔ ∃ p ∈ d.properties, p.definition.identifier = a := by
  have hlast := subType?_of_toDefinition h a
  rw [← property?_isSome_iff]
  cases hp : d.property? a with
  | none =>
    rw [hp] at hlast
    simp [hlast]
  | some p =>
    rw [hp] at hlast
    obtain ⟨nested, -, hs⟩ := hlast
    simp [hs]

lemma mandatory_iff (h : d.toDefinition = .ok meaning) (a : String) :
    (∃ s, meaning.subType? a = some s ∧ s.mandatory = true) ↔
      ∃ p, d.property? a = some p ∧ p.mandatory = true := by
  have hlast := subType?_of_toDefinition h a
  cases hp : d.property? a with
  | none =>
    rw [hp] at hlast
    simp [hlast]
  | some p =>
    rw [hp] at hlast
    obtain ⟨nested, -, hs⟩ := hlast
    simp [hs]

lemma conveys_of_toDefinition (h : d.toDefinition = .ok meaning) : d.Conveys meaning := by
  obtain ⟨b, hb, hbuild⟩ := exists_makes h
  have hmakes := Builder.makes_of_build hbuild
  have hbare := eq_of_declareAll hb
  have hordered := (wellMade_of_toDefinition d meaning h).orderly.ordered
  rw [hbare] at hmakes
  exact {
    identifier := hmakes.identifier
    name := hmakes.name
    description := hmakes.description
    pattern := hmakes.pattern
    additionalAttributes := hmakes.additionalAttributes
    declares := fun a => (declares_iff meaning a).trans (declared_iff h a)
    subType := fun a p hp => by
      have hlast := subType?_of_toDefinition h a
      rw [hp] at hlast
      exact hlast
    attributes_ascending := hordered
    mem_attributes := fun a => (mem_attributes_iff meaning a).trans (declared_iff h a)
    mandatory_ascending := mandatoryAttributes_ascending hordered
    mem_mandatory := fun a => (mem_mandatoryAttributes_iff hordered).trans (mandatory_iff h a) }

end Declarations

/-- Definitions that come out of calls of builders or out of documents, or that stand within another one.
What a builder is given has the same origins. -/
inductive Produced : TypeDefinition → Prop
  | built (identifier : String) (calls : List Builder.Call) {d : TypeDefinition} :
      (∀ mandatory e, .declare mandatory e ∈ calls → Produced e) →
      (calls.foldl Builder.Call.apply { identifier }).build = .ok d → Produced d
  | documented {document : TypeDocument} {d : TypeDefinition} :
      document.toDefinition = .ok d → Produced d
  | nested {d : TypeDefinition} {a : String} {s : Declared TypeDefinition} :
      Produced d → d.subType? a = some s → Produced s.definition

lemma Produced.wellMade (h : Produced meaning) : meaning.WellMade := by
  induction h with
  | built identifier calls _ hbuild ih =>
    exact ((Builder.tidy_new identifier).foldl_apply ih).build hbuild
  | documented h => exact wellMade_of_toDefinition _ _ h
  | nested _ hs ih => exact ih.nested hs

lemma conveys_at (h : d.toDefinition = .ok meaning) (path : List String) :
    Option.Rel Conveys (d.at? path) (meaning.at? path) := by
  induction path generalizing d meaning with
  | nil => exact .some (conveys_of_toDefinition h)
  | cons a path ih =>
    have hlast := subType?_of_toDefinition h a
    rw [TypeDocument.at?, TypeDefinition.at?]
    cases hp : d.property? a with
    | none =>
      rw [hp] at hlast
      rw [hlast]
      exact .none
    | some p =>
      rw [hp] at hlast
      obtain ⟨nested, hnested, hs⟩ := hlast
      rw [hs]
      exact ih hnested

/-- The definition of a document conveys it at every level: where the last properties lead to a document,
the attributes lead to a definition that says the same, and nowhere else do they lead. And whatever a
definition comes from, it files each attribute under the identifier of its type and no identifier is
blank, down to every depth. -/
theorem conveyed_at_every_level :
    (∀ (d : TypeDocument) (meaning : TypeDefinition), d.toDefinition = .ok meaning →
      ∀ path, Option.Rel Conveys (d.at? path) (meaning.at? path)) ∧
    ∀ meaning, Produced meaning → ∀ path e, meaning.at? path = some e → e.Orderly :=
  ⟨fun _ _ h path => conveys_at h path, fun _ h => h.wellMade⟩

/-- What the last property with the identifier `a` stands for in `amended`. -/
def later : TypeDefinition :=
  ⟨"a", some "later", none, none, false, [("c", ⟨true, ⟨"c", none, none, none, false, []⟩⟩)]⟩

/-- A mandatory attribute is declared once more as an optional one, with an attribute of its own. -/
def amended : TypeDocument :=
  ⟨"p", none, some "", none, true, [⟨true, ⟨"a", none, none, none, false, []⟩⟩,
    ⟨true, ⟨"b", none, none, none, false, []⟩⟩,
    ⟨false, ⟨"a", some "later", none, none, false, [⟨true, ⟨"c", none, none, none, false, []⟩⟩]⟩⟩]⟩

def amendedMeaning : TypeDefinition :=
  ⟨"p", none, some "", none, true,
    [("a", ⟨false, later⟩), ("b", ⟨true, ⟨"b", none, none, none, false, []⟩⟩)]⟩

theorem conveyed_at_every_level_amended :
    amended.toDefinition = .ok amendedMeaning ∧ amendedMeaning.mandatoryAttributes = ["b"] ∧
    (∃ document, amended.at? ["a"] = some document ∧ document.Conveys later) ∧
    ∃ outer, Produced outer ∧ outer.at? ["p", "a"] = some later ∧ later.Orderly := by
  have hmeaning : amended.toDefinition = .ok amendedMeaning := rfl
  obtain ⟨hlevels, hdepths⟩ := conveyed_at_every_level
  have hlater : Option.Rel Conveys (amended.at? ["a"]) (some later) :=
    hlevels amended amendedMeaning hmeaning ["a"]
  have houter : Produced ⟨"q", some "outer", none, none, false, [("p", ⟨true, amendedMeaning⟩)]⟩ := by
    refine .built "q" [.declare true amendedMeaning, .name "outer"] (fun mandatory e he => ?_) rfl
    obtain ⟨-, rfl⟩ : mandatory = true ∧ e = amendedMeaning := by simpa using he
    exact .documented hmeaning
  refine ⟨hmeaning, rfl, ?_, _, houter, rfl, hdepths _ houter ["p", "a"] later rfl⟩
  generalize amended.at? ["a"] = found at hlater
  cases hlater with
  | some h => exact ⟨_, rfl, h⟩

end TypeDocument

end TypedPid
