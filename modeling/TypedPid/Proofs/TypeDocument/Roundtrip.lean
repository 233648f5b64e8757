import TypedPid.Lookup
import TypedPid.Proofs.Json.Readers

/-!
Type documents that are written and read back. A property is read in two passes, of which the first one
follows arrays and objects only so far; a document whose text nests no deeper comes back as it was.
-/

namespace TypedPid

open Json

namespace Json.Value

mutual

/-- How many arrays and objects of a value stand one within the other. -/
def nesting : Value → Nat
  | array items => nestingItems items + 1
  | object fields => nestingFields fields + 1
  | _ => 0

def nestingItems : List Value → Nat
  | [] => 0
  | v :: vs => max v.nesting (nestingItems vs)

def nestingFields : List (String × Value) → Nat
  | [] => 0
  | (_, v) :: fs => max v.nesting (nestingFields fs)

end

lemma nestingFields_append (fs gs : List (String × Value)) :
    nestingFields (fs ++ gs) = max (nestingFields fs) (nestingFields gs) := by
  induction fs with
  | nil => simp [nestingFields]
  | cons f fs ih => rw [List.cons_append, nestingFields, nestingFields, ih, Nat.max_assoc]

end Json.Value

namespace TypeDocument

open Value

variable {properties : List (Declared TypeDocument)} {fuel : Nat}

lemma fieldTrees_toMembers (d : TypeDocument) :
    fieldTrees d.toMembers = (some "identifier", .string (some d.identifier)) ::
      (fieldTrees (optionalField "name" d.name) ++
        (fieldTrees (optionalField "description" d.description) ++
          (fieldTrees (optionalField "pattern" d.pattern) ++
            [(some "additionalAttributes", .bool d.additionalAttributes),
              (some "properties", (array (propertyValues d.properties)).tree)]))) := by
  cases d
  simp only [toMembers, fieldTrees_append, List.append_assoc]
  rfl

lemma nestingFields_optionalField (name : String) (s : Option String) :
    nestingFields (optionalField name s) = 0 := by
  cases s <;> rfl

lemma nesting_toMembers (d : TypeDocument) :
    nestingFields d.toMembers = nestingItems (propertyValues d.properties) + 1 := by
  cases d
  simp [toMembers, nestingFields_append, nestingFields_optionalField, nestingFields, nesting]

section Readable

lemma readableMembers_append (limit depth : Nat) (ms ns : List (Option String × Node)) :
    Node.readableMembers limit depth (ms ++ ns) =
      (Node.readableMembers limit depth ms && Node.readableMembers limit depth ns) := by
  induction ms with
  | nil => rfl
  | cons m ms ih =>
    obtain ⟨k, n⟩ := m
    rw [List.cons_append, Node.readableMembers, Node.readableMembers, ih]
    simp only [Bool.and_assoc]

lemma readable_optionalField (limit depth : Nat) (name : String) (s : Option String) :
    Node.readableMembers limit depth (fieldTrees (optionalField name s)) = true := by
  cases s <;> rfl

mutual

lemma readable_toMembers : ∀ (d : TypeDocument) (limit depth : Nat), depth ≤ limit →
    (Node.readableMembers limit depth (fieldTrees d.toMembers) = true ↔
      depth + nestingFields d.toMembers ≤ limit)
  | ⟨identifier, name, description, pattern, additional, properties⟩, limit, depth, h => by
    rw [nesting_toMembers, fieldTrees_toMembers]
    simp only [Node.readableMembers, readableMembers_append, readable_optionalField, Node.readable,
      Value.tree, Option.isSome_some, Bool.true_and, Bool.and_true, Bool.and_eq_true,
      decide_eq_true_eq]
    constructor
    · rintro ⟨hlt, hp⟩
      have := (readable_propertyValues properties limit (depth + 1) hlt).1 hp
      omega
    · intro hle
      exact ⟨by omega, (readable_propertyValues properties limit (depth + 1) (by omega)).2 (by omega)⟩

lemma readable_propertyValues : ∀ (properties : List (Declared TypeDocument)) (limit depth : Nat),
    depth ≤ limit → (Node.readableItems limit depth (itemTrees (propertyValues properties)) = true ↔
      depth + nestingItems (propertyValues properties) ≤ limit)
  | [], limit, depth, h => by simpa [propertyValues, itemTrees, Node.readableItems, nestingItems] using h
  | ⟨mandatory, d⟩ :: rest, limit, depth, h => by
    have hrest := readable_propertyValues rest limit depth h
    simp only [propertyValues, itemTrees, Value.tree, Value.fieldTrees, Node.readableItems,
      Node.readable, Node.readableMembers, nestingItems, nesting, nestingFields, Option.isSome_some,
      Bool.true_and, Bool.and_true, Bool.and_eq_true, decide_eq_true_eq, hrest, Nat.zero_max]
    constructor
    · rintro ⟨⟨hlt, hd⟩, hr⟩
      have := (readable_toMembers d limit (depth + 1) hlt).1 hd
      omega
    · intro hle
      exact ⟨⟨by omega, (readable_toMembers d limit (depth + 1) (by omega)).2 (by omega)⟩, by omega⟩

end

end Readable

section Reading

/-- What is gathered from the members of a document. -/
def draft (d : TypeDocument) (properties : List (Declared TypeDocument)) : Draft where
  identifier := some d.identifier
  name := d.name.map some
  description := d.description.map some
  pattern := d.pattern.map some
  additionalAttributes := some d.additionalAttributes
  properties := some properties

/-- A document has no parts but these. -/
lemma mk_eq_self (d : TypeDocument) : TypeDocument.mk d.identifier d.name d.description d.pattern
    d.additionalAttributes d.properties = d := by
  cases d
  rfl

lemma document_draft (d : TypeDocument) (properties : List (Declared TypeDocument)) :
    (d.draft properties).document = .ok { d with properties } := by
  obtain ⟨_, _ | _, _ | _, _ | _, _, _⟩ := d <;> rfl

lemma readMembers_optionalField {σ : Type} {fs : List (FieldReader σ)} {name : String}
    {get : σ → Option (Option String)} {set : Option String → σ → σ} (v : Option String)
    (rest : List (Option String × Node)) (gathered : Option (Option String) → σ)
    (hf : fs.find? (·.name = name) = some (.of name get set (readOptional readString)))
    (hget : get (gathered none) = none) (hset : ∀ a, set a (gathered none) = gathered (some a)) :
    readMembers fs (fieldTrees (optionalField name v) ++ rest) (gathered none) =
      readMembers fs rest (gathered (v.map some)) := by
  cases v with
  | none => rfl
  | some a =>
    refine readMembers_field hf (congrArg Option.isSome hget) ?_
    rw [Option.map_some, ← hset]
    rfl

/-- The members of a document are read one after another; the last of them are its properties. -/
lemma readMembers_toMembers (read : Reader (List (Declared TypeDocument))) (d : TypeDocument) :
    readMembers (fields read) (fieldTrees d.toMembers) {} =
      (read.at (.member "properties") (array (propertyValues d.properties)).tree).map d.draft := by
  let named (name : Option (Option String)) : Draft := { identifier := some d.identifier, name }
  let described (description : Option (Option String)) : Draft :=
    { named (d.name.map some) with description }
  let restricted (pattern : Option (Option String)) : Draft :=
    { described (d.description.map some) with pattern }
  let limited : Draft :=
    { restricted (d.pattern.map some) with additionalAttributes := some d.additionalAttributes }
  have hread : (FieldReader.of "identifier" Draft.identifier
      (fun a s => { s with identifier := some a }) readString).read (.string (some d.identifier)) {} =
      .ok (named none) := rfl
  have hallow : (FieldReader.of "additionalAttributes" Draft.additionalAttributes
      (fun a s => { s with additionalAttributes := some a }) readBool).read
      (.bool d.additionalAttributes) (restricted (d.pattern.map some)) = .ok limited := rfl
  rw [fieldTrees_toMembers, readMembers_field rfl rfl hread,
    readMembers_optionalField d.name _ named rfl rfl fun _ => rfl]
  change readMembers _ _ (described none) = _
  rw [readMembers_optionalField d.description _ described rfl rfl fun _ => rfl]
  change readMembers _ _ (restricted none) = _
  rw [readMembers_optionalField d.pattern _ restricted rfl rfl fun _ => rfl,
    readMembers_field rfl rfl hallow]
  have hlast : readMembers (fields read)
      [(some "properties", (array (propertyValues d.properties)).tree)] limited =
      (Reader.at (fun n => (read n).map d.draft) (.member "properties")
        (array (propertyValues d.properties)).tree >>= .ok) := rfl
  rw [hlast]
  cases hp : read (array (propertyValues d.properties)).tree with
  | error e => simp only [Reader.at, hp]; rfl
  | ok ps => simp only [Reader.at, hp]; rfl

lemma key_ne_mandatory (d : TypeDocument) :
    ∀ m ∈ fieldTrees d.toMembers, ∃ key, m.1 = some key ∧ key ≠ "mandatory" := by
  obtain ⟨_, _ | _, _ | _, _ | _, _, _⟩ := d <;>
    simp [toMembers, optionalField, fieldTrees]

lemma readObligation_eq {ms : List (Option String × Node)} (mandatory : Option Bool)
    (h : ∀ m ∈ ms, ∃ key, m.1 = some key ∧ key ≠ "mandatory") :
    readObligation mandatory ms =
      if Node.readableMembers nestingLimit 3 ms then .ok mandatory else .error .malformed := by
  induction ms with
  | nil => rfl
  | cons m ms ih =>
    obtain ⟨⟨key, hkey, hne⟩, hms⟩ := List.forall_mem_cons.1 h
    obtain ⟨k, n⟩ := m
    obtain rfl : k = some key := hkey
    rw [Node.readableMembers]
    simp only [readObligation, if_neg hne, ih hms]
    cases n.readable nestingLimit 3 <;> rfl

lemma readProperty_object (fuel : Nat) (mandatory : Bool) (d : TypeDocument) :
    readProperty (fuel + 1)
        (.object ((some "mandatory", .bool mandatory) :: fieldTrees d.toMembers) true) =
      if Node.readableMembers nestingLimit 3 (fieldTrees d.toMembers) then
        ((readList (readProperty fuel)).at (.member "properties")
          (array (propertyValues d.properties)).tree).map fun ps => ⟨mandatory, { d with properties := ps }⟩
      else .error .malformed := by
  have hothers : ((some "mandatory", .bool mandatory) :: fieldTrees d.toMembers).filter
      (·.1 ≠ some "mandatory") = fieldTrees d.toMembers := by
    rw [List.filter_cons_of_neg (by simp)]
    refine List.filter_eq_self.2 fun m hm => ?_
    obtain ⟨key, hkey, hne⟩ := key_ne_mandatory d m hm
    simpa [hkey] using hne
  have hmandatory : readObligation none ((some "mandatory", .bool mandatory) :: fieldTrees d.toMembers) =
      readObligation (some mandatory) (fieldTrees d.toMembers) := rfl
  rw [readProperty, hothers, hmandatory, readObligation_eq _ (key_ne_mandatory d)]
  dsimp only
  rw [readMembers_toMembers]
  split
  · cases (readList (readProperty fuel)).at (.member "properties")
        (array (propertyValues d.properties)).tree with
    | error e => rfl
    | ok ps =>
      have hdocument := document_draft d ps
      simp only [ok_bind, finish, if_true, Except.map, hdocument]
      rfl
  · rfl

lemma reader_toJson (d : TypeDocument) :
    reader d.toJson.tree = (readProperties.at (.member "properties")
      (array (propertyValues d.properties)).tree).map fun ps => { d with properties := ps } := by
  change (readStructure "struct TypeDefinitionDocument" (fields readProperties) {}
    (.object (fieldTrees d.toMembers) true) >>= Draft.document) = _
  simp only [readStructure, readMembers_toMembers]
  cases readProperties.at (.member "properties") (array (propertyValues d.properties)).tree with
  | error e => rfl
  | ok ps => exact document_draft d ps

lemma nesting_toJson (d : TypeDocument) :
    d.toJson.nesting = nestingItems (propertyValues d.properties) + 2 := by
  rw [toJson, nesting, nesting_toMembers]

lemma nesting_property (mandatory : Bool) (d : TypeDocument) (rest : List (Declared TypeDocument)) :
    nestingItems (propertyValues (⟨mandatory, d⟩ :: rest)) =
      max (nestingItems (propertyValues d.properties) + 2) (nestingItems (propertyValues rest)) := by
  simp [propertyValues, nestingItems, nesting, nestingFields, nesting_toMembers]

lemma readItems_propertyValues (hfuel : nestingItems (propertyValues properties) ≤ fuel)
    (hlimit : nestingItems (propertyValues properties) + 2 ≤ nestingLimit) (index : Nat) :
    readItems (readProperty fuel) index (itemTrees (propertyValues properties)) = .ok properties := by
  induction fuel generalizing properties index with
  | zero =>
    cases properties with
    | nil => rfl
    | cons p rest =>
      rw [nesting_property] at hfuel
      omega
  | succ fuel ih =>
    induction properties generalizing index with
    | nil => rfl
    | cons p rest ihrest =>
      obtain ⟨mandatory, d⟩ := p
      rw [nesting_property] at hfuel hlimit
      have hrest := ihrest (by omega) (by omega) (index + 1)
      have hreadable := (readable_toMembers d nestingLimit 3 (by decide)).2
        (by rw [nesting_toMembers]; omega)
      have hproperties : readItems (readProperty fuel) 0 (itemTrees (propertyValues d.properties)) =
          .ok d.properties := ih (by omega) (by omega) 0
      have hp : readProperty (fuel + 1) (Value.object (("mandatory", .bool mandatory) :: d.toMembers)).tree =
          .ok ⟨mandatory, d⟩ := by
        rw [Value.tree, Value.fieldTrees, Value.tree, readProperty_object, if_pos hreadable, Reader.at,
          readList_tree, hproperties]
        exact congrArg (fun d => Except.ok (Declared.mk mandatory d)) (mk_eq_self d)
      rw [propertyValues, itemTrees, readItems, Reader.at, hp, hrest]
      rfl

lemma nesting_of_readItems {index : Nat} {read : List (Declared TypeDocument)}
    (h : readItems (readProperty fuel) index (itemTrees (propertyValues properties)) = .ok read) :
    nestingItems (propertyValues properties) + 2 ≤ nestingLimit := by
  induction properties generalizing index read with
  | nil => decide
  | cons p rest ih =>
    obtain ⟨mandatory, d⟩ := p
    rw [propertyValues, itemTrees, readItems] at h
    obtain ⟨p, hp, h⟩ := bind_eq_ok_iff.1 h
    obtain ⟨ps, hps, -⟩ := bind_eq_ok_iff.1 h
    have hrest := ih hps
    have hproperty := mapError_eq_ok_iff.1 hp
    cases fuel with
    | zero => cases hproperty
    | succ fuel =>
      rw [Value.tree, Value.fieldTrees, Value.tree, readProperty_object] at hproperty
      split at hproperty
      · next hreadable =>
        rw [readable_toMembers d nestingLimit 3 (by decide), nesting_toMembers] at hreadable
        rw [nesting_property]
        omega
      · cases hproperty

lemma ofText_eq_readItems (d : TypeDocument) : TypeDocument.ofText d.toJson.text =
    ((readItems (readProperty nestingLimit) 0 (itemTrees (propertyValues d.properties))).mapError
      (.within (.member "properties"))).map fun ps => { d with properties := ps } := by
  rw [TypeDocument.ofText, ofSource, read_text, reader_toJson, Reader.at, readProperties, readList_tree]

lemma ofText_of_nesting_le (d : TypeDocument) (h : d.toJson.nesting ≤ nestingLimit) :
    TypeDocument.ofText d.toJson.text = .ok d := by
  have hnesting := nesting_toJson d
  rw [ofText_eq_readItems, readItems_propertyValues (by omega) (by omega)]
  exact congrArg Except.ok (mk_eq_self d)

/-- A document is read back from its text as it was if and only if the text nests no deeper than a
reader goes; and what it then stands for is what it stood for. -/
theorem ofText_toJson (d : TypeDocument) :
    (TypeDocument.ofText d.toJson.text = .ok d ↔ d.toJson.nesting ≤ nestingLimit) ∧
    (d.toJson.nesting ≤ nestingLimit →
      definition? (Source.ofString d.toJson.text) = d.toDefinition.mapError .meaningless) := by
  refine ⟨⟨fun h => ?_, ofText_of_nesting_le d⟩, fun h => ?_⟩
  · rw [ofText_eq_readItems] at h
    obtain ⟨ps, hps, -⟩ := map_eq_ok_iff.1 h
    rw [nesting_toJson d]
    exact nesting_of_readItems (mapError_eq_ok_iff.1 hps)
  · have hsource := ofText_of_nesting_le d h
    rw [TypeDocument.ofText] at hsource
    rw [definition?, hsource]
    rfl

end Reading

/-- Documents one within the other, with empty texts and characters that are escaped. -/
def nested : Nat → TypeDocument
  | 0 => ⟨"a\"\n\x01λ", some "", none, some "\\d+", true, []⟩
  | n + 1 => ⟨"b", none, some "😀/", none, false, [⟨true, nested n⟩, ⟨false, nested 0⟩]⟩

lemma nesting_nested (n : Nat) : (nested n).toJson.nesting = 2 * n + 2 := by
  induction n with
  | zero => rw [nesting_toJson, nested, propertyValues, nestingItems]
  | succ n ih =>
    rw [nesting_toJson] at ih ⊢
    rw [nested, nesting_property, nesting_property, nested.eq_1]
    simp only [propertyValues, nestingItems]
    omega

theorem ofText_toJson_nested : (nested 62).toJson.nesting ≤ nestingLimit ∧
    TypeDocument.ofText (nested 62).toJson.text = .ok (nested 62) ∧
    definition? (Source.ofString (nested 62).toJson.text) =
      (nested 62).toDefinition.mapError .meaningless ∧
    TypeDocument.ofText (nested 63).toJson.text ≠ .ok (nested 63) := by
  have hshallow : (nested 62).toJson.nesting ≤ nestingLimit := by
    rw [nesting_nested]
    decide
  have hdeep : ¬ (nested 63).toJson.nesting ≤ nestingLimit := by
    rw [nesting_nested]
    decide
  obtain ⟨hback, hdefinition⟩ := ofText_toJson (nested 62)
  exact ⟨hshallow, hback.2 hshallow, hdefinition hshallow, fun h => hdeep ((ofText_toJson (nested 63)).1.1 h)⟩

end TypeDocument

end TypedPid
