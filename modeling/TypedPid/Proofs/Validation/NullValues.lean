import TypedPid.Proofs.Record.Entries
import TypedPid.Proofs.Validation.Conformance

/-!
Values that are not there. One of them makes a record invalid, unless it stands under an attribute that no
listed profile looks at: all of them are open and leave it undeclared.
-/

namespace TypedPid

namespace Record

/-- The record with the same attributes, less the entries without a value. -/
def withoutNulls (r : Record) : Record :=
  { r with entries := Keyed.mapValues (List.filter (·.value.isSome)) r.entries }

variable {r : Record} {a : String} {value : Option String}

@[simp] lemma attributes_withoutNulls (r : Record) : r.withoutNulls.attributes = r.attributes :=
  Keyed.keys_mapValues _ _

lemma values_withoutNulls (r : Record) (a : String) :
    r.withoutNulls.values a = (r.values a).filter (·.isSome) := by
  rw [values, values, entriesOf, entriesOf, withoutNulls, Keyed.lookup_mapValues, List.filter_map]
  cases Keyed.lookup a r.entries <;> rfl

lemma values_withoutNulls_of_not_mem (h : none ∉ r.values a) :
    r.withoutNulls.values a = r.values a := by
  rw [values_withoutNulls, List.filter_eq_self]
  rintro (_ | text) hv
  · exact absurd hv h
  · rfl

lemma mem_values_of_withoutNulls (h : value ∈ r.withoutNulls.values a) : value ∈ r.values a := by
  rw [values_withoutNulls] at h
  exact (List.mem_filter.1 h).1

end Record

namespace Validation

variable {lookup : String → Except LookupError TypeDefinition} {profileKey : String}
  {mode : ReportMode} {r : Record} {profile : TypeDefinition} {a : String}

variable (lookup profileKey r) in
/-- No profile that the record lists looks at the values of the attribute. -/
structure Overlooked (a : String) : Prop where
  other : a ≠ profileKey
  undeclared : ∀ identifier profile, some identifier ∈ r.values profileKey →
    lookup identifier = .ok profile → profile.subType? a = none ∧ profile.additionalAttributes = true

lemma not_fits_none (d : TypeDefinition) : ¬ Fits d none := by
  rintro ⟨text, htext, -⟩
  cases htext

lemma Conforms.withoutNulls (h : Conforms profileKey r profile) :
    Conforms profileKey r.withoutNulls profile := by
  refine ⟨?_, ?_⟩
  · rw [Record.attributes_withoutNulls]
    exact h.mandatory
  · intro a ha
    rw [Record.attributes_withoutNulls] at ha
    rcases h.attributes a ha with ⟨declared, hd, hfits⟩ | hallowed
    · exact .inl ⟨declared, hd, fun value hv => hfits value (Record.mem_values_of_withoutNulls hv)⟩
    · exact .inr hallowed

lemma Conforms.of_withoutNulls (h : Conforms profileKey r.withoutNulls profile)
    (hnull : ∀ a, none ∈ r.values a → profile.subType? a = none) : Conforms profileKey r profile := by
  obtain ⟨hmandatory, hattributes⟩ := h
  rw [Record.attributes_withoutNulls] at hmandatory hattributes
  refine ⟨hmandatory, fun a ha => ?_⟩
  rcases hattributes a ha with ⟨declared, hd, hfits⟩ | hallowed
  · have hn : none ∉ r.values a := by
      intro hn
      rw [hnull a hn] at hd
      cases hd
    rw [Record.values_withoutNulls_of_not_mem hn] at hfits
    exact .inl ⟨declared, hd, hfits⟩
  · exact .inr hallowed

lemma Conforms.undeclared_of_null (h : Conforms profileKey r profile) (hn : none ∈ r.values a)
    (hne : a ≠ profileKey) : profile.subType? a = none ∧ profile.additionalAttributes = true := by
  rcases h.attributes a (mem_attributes_of_values_ne_nil (List.ne_nil_of_mem hn)) with
    ⟨declared, -, hfits⟩ | ⟨hnone, heq | hopen⟩
  · exact absurd (hfits none hn) (not_fits_none _)
  · exact absurd heq hne
  · exact ⟨hnone, hopen⟩

/-- A record is accepted if and only if it is accepted without its null values and each of these stands
under an attribute that no listed profile looks at. -/
theorem accepted_iff_withoutNulls : verdict lookup profileKey mode r = .ok () ↔
    verdict lookup profileKey mode r.withoutNulls = .ok () ∧
      ∀ a, none ∈ r.values a → Overlooked lookup profileKey r a := by
  rw [verdict_eq_ok_iff_satisfied, verdict_eq_ok_iff_satisfied]
  constructor
  · rintro ⟨hv, hs⟩
    have hn : none ∉ r.values profileKey := by
      intro hn
      obtain ⟨_, _, hl, _⟩ := hs none hn
      cases hl
    rw [Record.values_withoutNulls_of_not_mem hn]
    refine ⟨⟨hv, fun l hl => ?_⟩, fun a ha => ?_⟩
    · obtain ⟨identifier, profile, rfl, hp, hc⟩ := hs l hl
      exact ⟨identifier, profile, rfl, hp, hc.withoutNulls⟩
    · have hne : a ≠ profileKey := by
        rintro rfl
        exact hn ha
      refine ⟨hne, fun identifier profile hi hp => ?_⟩
      obtain ⟨_, _, hl, hp', hc⟩ := hs (some identifier) hi
      cases hl
      rw [hp] at hp'
      cases hp'
      exact hc.undeclared_of_null ha hne
  · rintro ⟨⟨hv, hs⟩, hnull⟩
    have hn : none ∉ r.values profileKey := fun hn => (hnull profileKey hn).other rfl
    rw [Record.values_withoutNulls_of_not_mem hn] at hv hs
    refine ⟨hv, fun l hl => ?_⟩
    obtain ⟨identifier, profile, rfl, hp, hc⟩ := hs l hl
    exact ⟨identifier, profile, rfl, hp,
      hc.of_withoutNulls fun a ha => ((hnull a ha).undeclared identifier profile hl hp).1⟩

/-- An open profile that declares nothing, and no other. -/
def onlyOpen : String → Except LookupError TypeDefinition
  | "open" => .ok ⟨"open", none, none, none, true, []⟩
  | identifier => .error (.notFound identifier)

/-- A record with a null value under an attribute that no profile declares. -/
def nullExtra : Record :=
  ⟨"r", [("extra", [⟨"extra", none, none⟩]), ("profile", [⟨"profile", none, some "open"⟩])]⟩

theorem null_accepted : none ∈ nullExtra.values "extra" ∧
    ∀ mode, verdict onlyOpen "profile" mode nullExtra = .ok () := by
  refine ⟨by decide, ?_⟩
  rintro (_ | _) <;> rfl

end Validation

end TypedPid
