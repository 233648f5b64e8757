import Mathlib.Tactic.Common
import TypedPid.Validation

/-! Validation accepts exactly the records that conform to every profile that they list. -/

namespace TypedPid.Validation

/-- A value that is there and that the pattern of its type, if there is one, covers. -/
def Fits (d : TypeDefinition) (value : Option String) : Prop :=
  ∃ text, value = some text ∧ ∀ p, d.pattern = some p → p.accepts text

structure Conforms (profileKey : String) (r : Record) (profile : TypeDefinition) : Prop where
  mandatory : ∀ a ∈ profile.mandatoryAttributes, a ∈ r.attributes
  /-- Each attribute is declared, and its values fit; or it is not declared but allowed. -/
  attributes : ∀ a ∈ r.attributes,
    (∃ declared, profile.subType? a = some declared ∧
      ∀ value ∈ r.values a, Fits declared.definition value) ∨
    (profile.subType? a = none ∧ (a = profileKey ∨ profile.additionalAttributes))

section Checks

variable {profileKey : String} {r : Record}

lemma has_iff (r : Record) (a : String) : r.has a ↔ a ∈ r.attributes :=
  Keyed.contains_iff_mem_keys

lemma mem_attributes_of_values_ne_nil {a : String} (hv : r.values a ≠ []) : a ∈ r.attributes := by
  rw [← has_iff]
  by_contra hn
  refine hv ?_
  simp only [Record.has, Keyed.contains, Option.isSome_iff_ne_none, not_not] at hn
  simp [Record.values, Record.entriesOf, hn]

lemma accepts_iff (d : TypeDefinition) (text : String) :
    d.accepts text ↔ ∀ p, d.pattern = some p → p.accepts text := by
  cases hp : d.pattern with
  | none => simp [TypeDefinition.accepts, hp]
  | some p => simp [TypeDefinition.accepts, hp]

lemma checkValue_eq_none (a : String) (d : TypeDefinition) (value : Option String) :
    checkValue a d value = none ↔ Fits d value := by
  cases value with
  | none => simp [checkValue, Fits]
  | some text => simp [checkValue, Fits, ← accepts_iff]

lemma checkAttribute_eq_nil (profile : TypeDefinition) (a : String) :
    checkAttribute profileKey r profile a = [] ↔
      (∃ declared, profile.subType? a = some declared ∧
        ∀ value ∈ r.values a, Fits declared.definition value) ∨
      (profile.subType? a = none ∧ (a = profileKey ∨ profile.additionalAttributes)) := by
  cases hd : profile.subType? a with
  | none => simp [checkAttribute, hd, or_iff_not_imp_left]
  | some declared => simp [checkAttribute, hd, List.filterMap_eq_nil_iff, checkValue_eq_none]

lemma checkProfile_eq_nil (profile : TypeDefinition) :
    checkProfile profileKey r profile = [] ↔ Conforms profileKey r profile := by
  have hm : profile.mandatoryAttributes.filter (fun a => !r.has a) = [] ↔
      ∀ a ∈ profile.mandatoryAttributes, a ∈ r.attributes := by
    simp [List.filter_eq_nil_iff, has_iff]
  simp only [checkProfile, List.append_eq_nil_iff, List.map_eq_nil_iff, hm,
    List.flatMap_eq_nil_iff, checkAttribute_eq_nil]
  exact ⟨fun h => ⟨h.1, h.2⟩, fun h => ⟨h.1, h.2⟩⟩

lemma checkAnswer_eq_ok_nil (answer : Except LookupError TypeDefinition) :
    checkAnswer profileKey r answer = .ok [] ↔
      ∃ profile, answer = .ok profile ∧ Conforms profileKey r profile := by
  cases answer with
  | ok profile => simp [checkAnswer, checkProfile_eq_nil]
  | error e => cases e <;> simp [checkAnswer]

end Checks

section FixedAnswers

variable (lookup : String → Except LookupError TypeDefinition) (profileKey : String)
  (mode : ReportMode) (r : Record)

def judge : Option String → Except ValidationError (List Violation)
  | none => .ok [.nullProfileValue profileKey]
  | some identifier => checkAnswer profileKey r (lookup identifier)

/-- What validation says when each lookup has a fixed answer. -/
def verdict : Except ValidationError Unit :=
  (validate (m := Id) (fun identifier => pure (lookup identifier)) profileKey mode r).run

def search (found : List Violation) (listed : List (Option String)) :
    Except ValidationError (List Violation) :=
  (checkProfiles (m := Id) (fun identifier => pure (lookup identifier)) profileKey mode r
    found listed).run

lemma search_nil (found : List Violation) :
    search lookup profileKey mode r found [] = .ok found := rfl

lemma search_cons (found : List Violation) (l : Option String) (listed : List (Option String)) :
    search lookup profileKey mode r found (l :: listed) =
      match judge lookup profileKey r l with
      | .error e => .error e
      | .ok violations =>
        if mode = .failFast ∧ violations ≠ [] then .ok (violations.take 1)
        else search lookup profileKey mode r (found ++ violations) listed := by
  have hj : (checkListed (m := Id) (fun identifier => pure (lookup identifier))
      profileKey r l).run = judge lookup profileKey r l := by
    cases l <;> rfl
  simp only [search, checkProfiles, Id.run_bind, hj]
  cases judge lookup profileKey r l with
  | error e => rfl
  | ok violations =>
    dsimp only
    split <;> rfl

/-- What is listed is a profile to which the record conforms. -/
def Satisfied (listed : Option String) : Prop :=
  ∃ identifier profile, listed = some identifier ∧ lookup identifier = .ok profile ∧
    Conforms profileKey r profile

variable {lookup profileKey mode r}

lemma judge_eq_ok_nil (l : Option String) :
    judge lookup profileKey r l = .ok [] ↔ Satisfied lookup profileKey r l := by
  cases l with
  | none => simp [judge, Satisfied]
  | some identifier => simp [judge, Satisfied, checkAnswer_eq_ok_nil]

lemma search_eq_ok_nil (found : List Violation) (listed : List (Option String)) :
    search lookup profileKey mode r found listed = .ok [] ↔
      found = [] ∧ ∀ l ∈ listed, Satisfied lookup profileKey r l := by
  induction listed generalizing found with
  | nil => simp [search_nil]
  | cons l listed ih =>
    rw [search_cons, List.forall_mem_cons, ← judge_eq_ok_nil]
    cases judge lookup profileKey r l with
    | error e => simp
    | ok violations =>
      dsimp only
      split
      · next h => simp [h.2]
      · rw [ih, List.append_eq_nil_iff]
        simp only [Except.ok.injEq]
        tauto

lemma verdict_of_not_mem (h : profileKey ∉ r.attributes) :
    verdict lookup profileKey mode r = .error (.rejected r.pid
      (Violation.reason [.missingProfileAttribute profileKey])) := by
  rw [← has_iff, Bool.not_eq_true] at h
  simp [verdict, validate, h]

lemma verdict_of_values_nil (h : profileKey ∈ r.attributes) (hv : r.values profileKey = []) :
    verdict lookup profileKey mode r = .error (.rejected r.pid
      (Violation.reason [.emptyProfileAttribute profileKey])) := by
  rw [← has_iff] at h
  simp [verdict, validate, h, hv]

lemma verdict_of_values (h : profileKey ∈ r.attributes) (hv : r.values profileKey ≠ []) :
    verdict lookup profileKey mode r =
      match search lookup profileKey mode r [] (r.values profileKey) with
      | .error e => .error e
      | .ok [] => .ok ()
      | .ok violations => .error (.rejected r.pid (Violation.reason violations)) := by
  rw [← has_iff] at h
  have he : (r.values profileKey).isEmpty = false := by simpa using hv
  simp only [verdict, validate, h, he, search, Bool.not_true, Bool.false_eq_true, if_false,
    Id.run_bind]
  split <;> simp_all

lemma verdict_eq_ok_iff_search (h : profileKey ∈ r.attributes) (hv : r.values profileKey ≠ []) :
    verdict lookup profileKey mode r = .ok () ↔
      search lookup profileKey mode r [] (r.values profileKey) = .ok [] := by
  rw [verdict_of_values h hv]
  split <;> simp_all

lemma verdict_eq_ok_iff_satisfied : verdict lookup profileKey mode r = .ok () ↔
    r.values profileKey ≠ [] ∧ ∀ l ∈ r.values profileKey, Satisfied lookup profileKey r l := by
  by_cases hv : r.values profileKey = []
  · by_cases h : profileKey ∈ r.attributes
    · simp [verdict_of_values_nil h hv, hv]
    · simp [verdict_of_not_mem h, hv]
  · rw [verdict_eq_ok_iff_search (mem_attributes_of_values_ne_nil hv) hv, search_eq_ok_nil]
    simp [hv]

/-- A record is accepted if and only if it lists profiles, each of them resolves, and the record
conforms to all of them. -/
theorem verdict_eq_ok_iff :
    verdict lookup profileKey mode r = .ok () ↔
      profileKey ∈ r.attributes ∧ r.values profileKey ≠ [] ∧ none ∉ r.values profileKey ∧
      (∀ identifier, some identifier ∈ r.values profileKey →
        ∃ profile, lookup identifier = .ok profile) ∧
      ∀ identifier profile, some identifier ∈ r.values profileKey →
        lookup identifier = .ok profile → Conforms profileKey r profile := by
  rw [verdict_eq_ok_iff_satisfied]
  constructor
  · rintro ⟨hv, hs⟩
    refine ⟨mem_attributes_of_values_ne_nil hv, hv, fun hn => ?_, fun identifier hi => ?_,
      fun identifier profile hi hp => ?_⟩
    · obtain ⟨_, _, hl, _⟩ := hs none hn
      cases hl
    · obtain ⟨_, profile, hl, hp, _⟩ := hs (some identifier) hi
      cases hl
      exact ⟨profile, hp⟩
    · obtain ⟨_, _, hl, hp', hc⟩ := hs (some identifier) hi
      cases hl
      rw [hp] at hp'
      cases hp'
      exact hc
  · rintro ⟨_, hv, hn, hr, hc⟩
    refine ⟨hv, fun l hl => ?_⟩
    cases l with
    | none => exact absurd hl hn
    | some identifier =>
      obtain ⟨profile, hp⟩ := hr identifier hl
      exact ⟨identifier, profile, rfl, hp, hc identifier profile hl hp⟩

end FixedAnswers

end TypedPid.Validation
