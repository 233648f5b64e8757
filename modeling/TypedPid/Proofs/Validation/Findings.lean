import Mathlib.Data.List.Sort
import TypedPid.Proofs.Validation.Conformance

/-!
What validation tells of a record in each report mode. There is one row of findings, whatever the
mode: all that going through the listed profiles comes upon. Without aggregation the first finding
decides; with it, the first profile that could not be fetched, or else all findings together.
-/

namespace TypedPid.Validation

inductive Finding where
  | fault (violation : Violation)
  | unavailable (e : LoadError)

namespace Finding

def violation? : Finding → Option Violation
  | fault violation => some violation
  | unavailable _ => none

def loadError? : Finding → Option LoadError
  | fault _ => none
  | unavailable e => some e

/-- The error that tells of one finding alone. -/
def error (pid : String) : Finding → ValidationError
  | fault violation => .rejected pid violation.message
  | unavailable e => .serviceUnavailable e.endpoint

lemma findSome?_map_fault (violations : List Violation) :
    (violations.map fault).findSome? loadError? = none := by
  simp [List.findSome?_eq_none_iff, loadError?]

lemma filterMap_map_fault (violations : List Violation) :
    (violations.map fault).filterMap violation? = violations := by
  simp [List.filterMap_map, Function.comp_def, violation?]

lemma eq_map_fault {all : List Finding} (h : all.findSome? loadError? = none) :
    all = (all.filterMap violation?).map fault := by
  induction all with
  | nil => rfl
  | cons finding all ih =>
    cases finding with
    | fault violation => exact congrArg (fault violation :: ·) (ih h)
    | unavailable e => cases h

end Finding

instance (d : TypeDefinition) (value : Option String) : Decidable (Fits d value) :=
  decidable_of_iff (checkValue "" d value = none) (checkValue_eq_none "" d value)

def ascending (keys : List String) : List String := keys.insertionSort (· ≤ ·)

def missing (r : Record) (profile : TypeDefinition) : List String :=
  ascending (profile.attributes.filter fun a =>
    (profile.subType? a).any (·.mandatory) ∧ a ∉ r.attributes)

def misfit (a : String) (d : TypeDefinition) : Option String → Violation
  | none => .nullValue a d.identifier
  | some text => .valueMismatch a d.identifier text

def attributeFaults (profileKey : String) (r : Record) (profile : TypeDefinition) (a : String) :
    List Violation :=
  match profile.subType? a with
  | some declared =>
    ((r.values a).filter fun value => ¬ Fits declared.definition value).map
      (misfit a declared.definition)
  | none =>
    if a = profileKey ∨ profile.additionalAttributes then []
    else [.attributeNotAllowed a profile.identifier]

def profileFaults (profileKey : String) (r : Record) (profile : TypeDefinition) : List Violation :=
  (missing r profile).map (.missingMandatoryAttribute · profile.identifier) ++
    (ascending r.attributes).flatMap (attributeFaults profileKey r profile)

section Rows

variable (lookup : String → Except LookupError TypeDefinition) (profileKey : String) (r : Record)

def listedFindings : Option String → List Finding
  | none => [.fault (.nullProfileValue profileKey)]
  | some identifier =>
    match lookup identifier with
    | .ok profile => (profileFaults profileKey r profile).map .fault
    | .error (.notFound unknown) => [.fault (.unknownProfile unknown)]
    | .error (.unavailable e) => [.unavailable e]

/-- All findings, profile by profile in the order in which the record lists them. -/
def findings : List Finding :=
  (r.values profileKey).flatMap (listedFindings lookup profileKey r)

end Rows

/-- What the first finding alone decides. -/
def tellFirst (pid : String) : List Finding → Except ValidationError Unit
  | [] => .ok ()
  | finding :: _ => .error (finding.error pid)

/-- What all findings decide together. Where a profile could not be fetched, nothing else counts. -/
def tellAll (pid : String) (all : List Finding) : Except ValidationError Unit :=
  match all.findSome? Finding.loadError? with
  | some e => .error (.serviceUnavailable e.endpoint)
  | none =>
    if all = [] then .ok ()
    else .error (.rejected pid (" ".intercalate ((all.filterMap (·.violation?)).map (·.message))))

section Faults

variable {lookup : String → Except LookupError TypeDefinition} {profileKey : String}
  {mode : ReportMode} {r : Record} {profile : TypeDefinition}

lemma ascending_eq_self {keys : List String} (h : keys.Pairwise (· < ·)) : ascending keys = keys := by
  refine List.Pairwise.insertionSort_eq (h.imp fun {a b} hab => ?_)
  exact (String.le_total a b).resolve_right (String.not_le.2 hab)

lemma mandatoryAttributes_eq (h : Keyed.Ordered profile.subTypes) :
    profile.mandatoryAttributes =
      profile.attributes.filter fun a => (profile.subType? a).any (·.mandatory) := by
  rw [TypeDefinition.mandatoryAttributes, TypeDefinition.attributes, Keyed.keys, List.filter_map]
  congr 1
  refine List.filter_congr fun e he => ?_
  simp [TypeDefinition.subType?, Keyed.lookup_of_mem h he]

lemma missing_eq (h : Keyed.Ordered profile.subTypes) :
    missing r profile = profile.mandatoryAttributes.filter fun a => !r.has a := by
  have hsorted : profile.attributes.Pairwise (· < ·) := h
  rw [missing, ascending_eq_self (hsorted.filter _), mandatoryAttributes_eq h, List.filter_filter]
  refine List.filter_congr fun a _ => ?_
  simp [← has_iff, Bool.and_comm]

lemma attributeFaults_eq (a : String) :
    attributeFaults profileKey r profile a = checkAttribute profileKey r profile a := by
  cases hd : profile.subType? a with
  | none => simp only [attributeFaults, checkAttribute, hd]
  | some declared =>
    have hv : ∀ value, checkValue a declared.definition value =
        if Fits declared.definition value then none else some (misfit a declared.definition value) := by
      intro value
      by_cases hv : Fits declared.definition value
      · rw [if_pos hv, checkValue_eq_none]
        exact hv
      · rw [if_neg hv]
        rw [← checkValue_eq_none a] at hv
        cases value with
        | none => rfl
        | some text => simpa [checkValue, misfit] using hv
    simp only [attributeFaults, checkAttribute, hd]
    induction r.values a with
    | nil => rfl
    | cons value values ih =>
      rw [List.filterMap_cons, hv]
      by_cases hf : Fits declared.definition value <;> simpa [hf] using ih

lemma profileFaults_eq (hr : Keyed.Ordered r.entries) (hp : Keyed.Ordered profile.subTypes) :
    profileFaults profileKey r profile = checkProfile profileKey r profile := by
  have hsorted : r.attributes.Pairwise (· < ·) := hr
  have ha : attributeFaults profileKey r profile = checkAttribute profileKey r profile :=
    funext attributeFaults_eq
  rw [profileFaults, checkProfile, missing_eq hp, ascending_eq_self hsorted, ha]

variable (hr : Keyed.Ordered r.entries)
  (hp : ∀ identifier profile, lookup identifier = .ok profile → Keyed.Ordered profile.subTypes)

include hr hp

lemma judge_cases (l : Option String) :
    (∃ violations, judge lookup profileKey r l = .ok violations ∧
      listedFindings lookup profileKey r l = violations.map .fault) ∨
    ∃ e, judge lookup profileKey r l = .error (.ofLoadError e) ∧
      listedFindings lookup profileKey r l = [.unavailable e] := by
  cases l with
  | none => exact .inl ⟨_, rfl, rfl⟩
  | some identifier =>
    rw [judge, listedFindings]
    rcases hl : lookup identifier with (unknown | e) | profile
    · exact .inl ⟨_, rfl, rfl⟩
    · exact .inr ⟨e, rfl, rfl⟩
    · exact .inl ⟨_, rfl, congrArg _ (profileFaults_eq hr (hp identifier profile hl))⟩

lemma search_aggregate (found : List Violation) (listed : List (Option String)) :
    search lookup profileKey .aggregate r found listed =
      match (listed.flatMap (listedFindings lookup profileKey r)).findSome? Finding.loadError? with
      | some e => .error (.ofLoadError e)
      | none => .ok (found ++ (listed.flatMap (listedFindings lookup profileKey r)).filterMap
          (·.violation?)) := by
  induction listed generalizing found with
  | nil => simp [search_nil]
  | cons l listed ih =>
    rw [search_cons, List.flatMap_cons, List.findSome?_append, List.filterMap_append]
    rcases judge_cases hr hp l with ⟨violations, hj, hl⟩ | ⟨e, hj, hl⟩
    · rw [hj, hl, Finding.findSome?_map_fault, Finding.filterMap_map_fault, Option.none_or,
        ← List.append_assoc]
      exact ih _
    · rw [hj, hl]
      rfl

lemma search_failFast (listed : List (Option String)) :
    search lookup profileKey .failFast r [] listed =
      match listed.flatMap (listedFindings lookup profileKey r) with
      | [] => .ok []
      | .fault violation :: _ => .ok [violation]
      | .unavailable e :: _ => .error (.ofLoadError e) := by
  induction listed with
  | nil => rfl
  | cons l listed ih =>
    rw [search_cons, List.flatMap_cons]
    rcases judge_cases hr hp l with ⟨violations, hj, hl⟩ | ⟨e, hj, hl⟩
    · rw [hj, hl]
      cases violations with
      | nil => exact ih
      | cons violation rest => rfl
    · rw [hj, hl]
      rfl

variable (hv : r.values profileKey ≠ [])

include hv

lemma verdict_aggregate :
    verdict lookup profileKey .aggregate r = tellAll r.pid (findings lookup profileKey r) := by
  rw [verdict_of_values (mem_attributes_of_values_ne_nil hv) hv, search_aggregate hr hp,
    ← findings, tellAll]
  cases hall : (findings lookup profileKey r).findSome? Finding.loadError? with
  | some e => rfl
  | none =>
    rw [Finding.eq_map_fault hall, Finding.filterMap_map_fault]
    cases (findings lookup profileKey r).filterMap Finding.violation? <;> rfl

lemma verdict_failFast :
    verdict lookup profileKey .failFast r = tellFirst r.pid (findings lookup profileKey r) := by
  rw [verdict_of_values (mem_attributes_of_values_ne_nil hv) hv, search_failFast hr hp, ← findings]
  match findings lookup profileKey r with
  | [] => rfl
  | .fault violation :: _ => rfl
  | .unavailable e :: _ => rfl

end Faults

/-- Validation tells in each mode what the findings decide, and accepts the same records in both,
those without a finding. Records and profiles keep their attributes in ascending order. -/
theorem verdict_eq_tell {lookup : String → Except LookupError TypeDefinition} {profileKey : String}
    {r : Record} (hr : Keyed.Ordered r.entries)
    (hp : ∀ identifier profile, lookup identifier = .ok profile → Keyed.Ordered profile.subTypes)
    (hv : r.values profileKey ≠ []) :
    verdict lookup profileKey .aggregate r = tellAll r.pid (findings lookup profileKey r) ∧
    verdict lookup profileKey .failFast r = tellFirst r.pid (findings lookup profileKey r) ∧
    ∀ mode, verdict lookup profileKey mode r = .ok () ↔ findings lookup profileKey r = [] := by
  have ha := verdict_aggregate hr hp hv
  have hf := verdict_failFast hr hp hv
  refine ⟨ha, hf, fun mode => ?_⟩
  cases mode with
  | failFast =>
    rw [hf]
    cases findings lookup profileKey r <;> simp [tellFirst]
  | aggregate =>
    rw [ha, tellAll]
    cases hall : (findings lookup profileKey r).findSome? Finding.loadError? with
    | some e =>
      have hne : findings lookup profileKey r ≠ [] := by
        intro hn
        rw [hn] at hall
        cases hall
      simp [hne]
    | none => by_cases hn : findings lookup profileKey r = [] <;> simp [hn]

/-- One profile is known and one cannot be fetched. -/
def halfAnswered : String → Except LookupError TypeDefinition
  | "p" => .ok ⟨"p", none, none, none, false,
      [("a", ⟨true, ⟨"a", none, none, none, false, []⟩⟩),
        ("b", ⟨true, ⟨"b", none, none, none, false, []⟩⟩)]⟩
  | "q" => .error (.unavailable (.status "registry" 503))
  | identifier => .error (.notFound identifier)

/-- A record with a null value and with an attribute too many. -/
def listingAll (profiles : List String) : Record :=
  ⟨"r", [("b", [⟨"b", none, none⟩]),
    ("profile", profiles.map fun identifier => ⟨"profile", none, some identifier⟩),
    ("z", [⟨"z", none, some "1"⟩])]⟩

lemma ordered_listingAll (profiles : List String) :
    Keyed.Ordered (listingAll profiles).entries := by
  change ["b", "profile", "z"].Pairwise (· < ·)
  decide

lemma ordered_halfAnswered (identifier : String) (profile : TypeDefinition)
    (h : halfAnswered identifier = .ok profile) : Keyed.Ordered profile.subTypes := by
  unfold halfAnswered at h
  split at h
  · cases h
    change ["a", "b"].Pairwise (· < ·)
    decide
  · cases h
  · cases h

theorem verdict_eq_tell_halfAnswered :
    (verdict halfAnswered "profile" .failFast (listingAll ["p", "u", "q"]) =
        .error (.rejected "r" "Mandatory attribute a of profile p is missing.") ∧
      verdict halfAnswered "profile" .aggregate (listingAll ["p", "u", "q"]) =
        .error (.serviceUnavailable "registry")) ∧
    verdict halfAnswered "profile" .aggregate (listingAll ["u", "p"]) =
      .error (.rejected "r" ("No type found for identifier u. " ++
        "Mandatory attribute a of profile p is missing. " ++
        "Validation of value null for attribute b against type b failed. " ++
        "Attribute z is not allowed in profile p")) := by
  have h : ∀ profiles, (listingAll profiles).values "profile" ≠ [] → _ := fun profiles hv =>
    verdict_eq_tell (ordered_listingAll profiles) ordered_halfAnswered hv
  rw [(h ["p", "u", "q"] (by decide)).1, (h ["p", "u", "q"] (by decide)).2.1,
    (h ["u", "p"] (by decide)).1]
  decide +kernel

end TypedPid.Validation
