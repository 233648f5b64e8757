import TypedPid.Proofs.Record.Entries
import TypedPid.Proofs.Validation.Conformance

/-!
Views of valid records. A view is valid in its turn as long as no mandatory attribute is lost in it, and
lost are those under which the record has no entry.
-/

namespace TypedPid

namespace Record

variable {r : Record} {d : TypeDefinition} {key a : String} {name : Option String} {text : String}

/-- The view of a record that lists the profile which it is a view of. -/
def profileView (r : Record) (d : TypeDefinition) (profileKey : String) (name : Option String)
    (identifier : String) : Record :=
  if d.declares profileKey then r.project d else (r.project d).add profileKey name identifier

lemma values_push (r : Record) (e : Entry) (a : String) :
    (r.push e).values a = r.values a ++ if e.key = a then [e.value] else [] := by
  rw [values, entriesOf_push, List.map_append, values]
  split <;> rfl

lemma values_profileView (h : Keyed.Ordered r.entries) (hv : r.values key = [some text]) (a : String) :
    (r.profileView d key name text).values a =
      if d.declares a ∨ a = key then r.values a else [] := by
  unfold profileView
  split
  · next hd =>
    rw [values_project h]
    by_cases ha : a = key
    · simp [ha, hd]
    · simp [ha]
  · next hd =>
    rw [add, values_push, values_project h]
    by_cases ha : a = key
    · simp [ha, hd, hv]
    · simp [ha, Ne.symm ha]

lemma mem_attributes_profileView (h : Keyed.Ordered r.entries) (hv : r.values key = [some text])
    (a : String) : a ∈ (r.profileView d key name text).attributes ↔
      (d.declares a ∨ a = key) ∧ r.values a ≠ [] := by
  unfold profileView
  split
  · next hd =>
    rw [mem_attributes_project h]
    by_cases ha : a = key
    · simp [ha, hd]
    · simp [ha]
  · next hd =>
    rw [add, mem_attributes_push, mem_attributes_project h]
    by_cases ha : a = key
    · simp [ha, hv]
    · simp [ha]

end Record

namespace Validation

variable {lookup : String → Except LookupError TypeDefinition} {profileKey : String}
  {mode : ReportMode} {r : Record} {profile : TypeDefinition} {identifier a : String}
  {name : Option String}

lemma declares_of_mandatory (h : a ∈ profile.mandatoryAttributes) : profile.declares a = true := by
  obtain ⟨e, he, rfl⟩ := List.mem_map.1 h
  exact Keyed.contains_iff_mem_keys.2 (List.mem_map_of_mem (List.mem_filter.1 he).1)

lemma verdict_eq_ok_iff_conforms (hv : r.values profileKey = [some identifier])
    (hp : lookup identifier = .ok profile) :
    verdict lookup profileKey mode r = .ok () ↔ Conforms profileKey r profile := by
  rw [verdict_eq_ok_iff_satisfied, hv]
  simp [Satisfied, hp]

lemma conforms_profileView_iff (h : Keyed.Ordered r.entries)
    (hv : r.values profileKey = [some identifier]) (hc : Conforms profileKey r profile) :
    Conforms profileKey (r.profileView profile profileKey name identifier) profile ↔
      ∀ a ∈ profile.mandatoryAttributes, r.values a ≠ [] := by
  have hmem (a : String) : a ∈ (r.profileView profile profileKey name identifier).attributes ↔
      (profile.declares a ∨ a = profileKey) ∧ r.values a ≠ [] :=
    Record.mem_attributes_profileView h hv a
  constructor
  · intro hview a ha
    exact ((hmem a).1 (hview.mandatory a ha)).2
  · intro hkept
    refine ⟨fun a ha => (hmem a).2 ⟨.inl (declares_of_mandatory ha), hkept a ha⟩, fun a ha => ?_⟩
    obtain ⟨hd, hne⟩ := (hmem a).1 ha
    rw [Record.values_profileView h hv, if_pos hd]
    exact hc.attributes a (mem_attributes_of_values_ne_nil hne)

/-- The view of a valid record by the only profile that it lists, with that profile listed, is valid if
and only if the record has an entry under every mandatory attribute. The view keeps the mandatory
attributes under which there is one. -/
theorem profileView_accepted_iff (h : Keyed.Ordered r.entries)
    (hok : verdict lookup profileKey mode r = .ok ()) (hv : r.values profileKey = [some identifier])
    (hp : lookup identifier = .ok profile) (name : Option String) :
    (verdict lookup profileKey mode (r.profileView profile profileKey name identifier) = .ok () ↔
      ∀ a ∈ profile.mandatoryAttributes, r.values a ≠ []) ∧
    ∀ a ∈ profile.mandatoryAttributes, a ∈ (r.project profile).attributes ↔ r.values a ≠ [] := by
  have hlisted : (r.profileView profile profileKey name identifier).values profileKey =
      [some identifier] := by
    rw [Record.values_profileView h hv, if_pos (.inr rfl), hv]
  refine ⟨?_, fun a ha => ?_⟩
  · rw [verdict_eq_ok_iff_conforms hlisted hp]
    exact conforms_profileView_iff h hv ((verdict_eq_ok_iff_conforms hv hp).1 hok)
  · rw [Record.mem_attributes_project h]
    simp [declares_of_mandatory ha]

/-- A profile with one mandatory attribute and one optional, which does not declare where profiles are
listed. -/
def dated : TypeDefinition :=
  ⟨"p", none, none, none, false, [("date", ⟨true, ⟨"date", none, none, none, false, []⟩⟩),
    ("note", ⟨false, ⟨"note", none, none, none, false, []⟩⟩)]⟩

def onlyDated : String → Except LookupError TypeDefinition
  | "p" => .ok dated
  | identifier => .error (.notFound identifier)

def datedRecord (dates : List Entry) : Record :=
  ⟨"r", [("date", dates), ("note", []), ("profile", [⟨"profile", none, some "p"⟩])]⟩

lemma ordered_datedRecord (dates : List Entry) : Keyed.Ordered (datedRecord dates).entries := by
  change ["date", "note", "profile"].Pairwise (· < ·)
  decide

theorem profileView_accepted_iff_dated :
    Keyed.Ordered (datedRecord [⟨"date", some "day", some "1"⟩]).entries ∧
    verdict onlyDated "profile" .failFast (datedRecord [⟨"date", some "day", some "1"⟩]) = .ok () ∧
    (datedRecord [⟨"date", some "day", some "1"⟩]).values "profile" = [some "p"] ∧
    onlyDated "p" = .ok dated ∧
    verdict onlyDated "profile" .failFast
      ((datedRecord [⟨"date", some "day", some "1"⟩]).profileView dated "profile" none "p") = .ok () ∧
    "date" ∈ ((datedRecord [⟨"date", some "day", some "1"⟩]).project dated).attributes := by
  have h := ordered_datedRecord [⟨"date", some "day", some "1"⟩]
  have hok : verdict onlyDated "profile" .failFast (datedRecord [⟨"date", some "day", some "1"⟩]) =
      .ok () := rfl
  have hview := profileView_accepted_iff h hok rfl rfl none
  exact ⟨h, hok, rfl, rfl, hview.1.2 (by decide), (hview.2 "date" (by decide)).2 (by decide)⟩

/-- There is no date in the record, but a row of dates, which is empty. -/
theorem profileView_rejected : (∀ mode, verdict onlyDated "profile" mode (datedRecord []) = .ok ()) ∧
    (datedRecord []).values "profile" = [some "p"] ∧ onlyDated "p" = .ok dated ∧
    "date" ∈ dated.mandatoryAttributes ∧ "date" ∉ ((datedRecord []).project dated).attributes ∧
    ∀ mode, verdict onlyDated "profile" mode
      ((datedRecord []).profileView dated "profile" none "p") ≠ .ok () := by
  refine ⟨?_, rfl, rfl, by decide, by decide, ?_⟩
  · rintro (_ | _) <;> rfl
  · rintro (_ | _) <;> decide

end Validation

end TypedPid
