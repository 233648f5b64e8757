import TypedPid.Proofs.Definition.Building
import TypedPid.Proofs.Validation.Findings
import TypedPid.Proofs.Validation.Views

/-!
Mandatory attributes. A valid record that loses one is at fault with each listed profile that demands it,
and with nothing else; and it is valid again as soon as there is a fitting value.
-/

namespace TypedPid

namespace Record

variable {r : Record} {a : String} {name : Option String} {text : String}

lemma values_remove (r : Record) (a k : String) :
    (r.remove a).2.values k = if k = a then [] else r.values k := by
  rw [values, entriesOf_remove, values]
  split <;> rfl

lemma values_add_remove (r : Record) (a : String) (name : Option String) (text k : String) :
    ((r.remove a).2.add a name text).values k = if k = a then [some text] else r.values k := by
  rw [add, values_push, values_remove]
  by_cases h : k = a
  · simp [h]
  · simp [h, Ne.symm h]

lemma mem_attributes_add_remove (h : a ∈ r.attributes) (k : String) :
    k ∈ ((r.remove a).2.add a name text).attributes ↔ k ∈ r.attributes := by
  rw [add, mem_attributes_push, mem_attributes_remove]
  by_cases hk : k = a <;> simp [hk, h]

end Record

namespace Validation

variable {lookup : String → Except LookupError TypeDefinition} {profileKey : String}
  {mode : ReportMode} {r : Record} {profile : TypeDefinition} {a : String}

/-- What is said of a profile that demands an attribute which is missing. -/
def demand (a : String) (profile : TypeDefinition) : String :=
  "Mandatory attribute " ++ a ++ " of profile " ++ profile.identifier ++ " is missing."

lemma tellAll_map_fault {violations : List Violation} (h : violations ≠ []) (pid : String) :
    tellAll pid (violations.map .fault) =
      .error (.rejected pid (" ".intercalate (violations.map (·.message)))) := by
  rw [tellAll, Finding.findSome?_map_fault, Finding.filterMap_map_fault]
  exact if_neg (mt List.map_eq_nil_iff.1 h)

section Profiles

lemma checkAttribute_remove (h : Conforms profileKey r profile) {k : String}
    (hk : k ∈ (r.remove a).2.attributes) :
    checkAttribute profileKey (r.remove a).2 profile k = [] := by
  obtain ⟨hmem, hne⟩ := (Record.mem_attributes_remove r a k).1 hk
  rw [checkAttribute_eq_nil, Record.values_remove, if_neg hne]
  exact h.attributes k hmem

lemma missing_remove (h : Conforms profileKey r profile) (hp : Keyed.Ordered profile.subTypes)
    (a : String) : profile.mandatoryAttributes.filter (fun k => !(r.remove a).2.has k) =
      if a ∈ profile.mandatoryAttributes then [a] else [] := by
  have hnodup : profile.mandatoryAttributes.Nodup :=
    nodup_of_ascending (TypeDefinition.mandatoryAttributes_ascending hp)
  have hhas : ∀ k ∈ profile.mandatoryAttributes, (!(r.remove a).2.has k) = decide (k = a) := by
    intro k hk
    have hkept : (r.remove a).2.has k = true ↔ k ≠ a := by
      rw [has_iff, Record.mem_attributes_remove]
      exact and_iff_right (h.mandatory k hk)
    rw [Bool.eq_iff_iff, Bool.not_eq_true', ← Bool.not_eq_true, hkept, decide_eq_true_iff, not_not]
  rw [List.filter_congr hhas, List.filter_eq, hnodup.count]
  split <;> rfl

/-- Without an attribute, a record with which nothing was wrong lacks just this one, where it has to be. -/
lemma checkProfile_remove (h : Conforms profileKey r profile) (hp : Keyed.Ordered profile.subTypes)
    (a : String) : checkProfile profileKey (r.remove a).2 profile =
      if a ∈ profile.mandatoryAttributes then
        [.missingMandatoryAttribute a profile.identifier] else [] := by
  have hattributes : (r.remove a).2.attributes.flatMap
      (checkAttribute profileKey (r.remove a).2 profile) = [] :=
    List.flatMap_eq_nil_iff.2 fun k hk => checkAttribute_remove h hk
  rw [checkProfile, missing_remove h hp, hattributes, List.append_nil]
  split <;> rfl

lemma Conforms.add_remove (h : Conforms profileKey r profile) (ha : a ∈ r.attributes)
    {text : String} (htext : ∀ declared, profile.subType? a = some declared →
      ∀ pattern, declared.definition.pattern = some pattern → pattern.accepts text = true)
    (name : Option String) : Conforms profileKey ((r.remove a).2.add a name text) profile := by
  refine ⟨fun k hk => ?_, fun k hk => ?_⟩
  · exact (Record.mem_attributes_add_remove ha k).2 (h.mandatory k hk)
  · rw [Record.mem_attributes_add_remove ha] at hk
    rw [Record.values_add_remove]
    rcases h.attributes k hk with ⟨declared, hd, hfits⟩ | hfree
    · refine .inl ⟨declared, hd, ?_⟩
      by_cases heq : k = a
      · subst heq
        rw [if_pos rfl, List.forall_mem_singleton]
        exact ⟨text, rfl, htext declared hd⟩
      · rw [if_neg heq]
        exact hfits
    · exact .inr hfree

end Profiles

section Listed

/-- The profiles that are listed, in this order and as often, as far as they are known. -/
def known (lookup : String → Except LookupError TypeDefinition) (listed : List (Option String)) :
    List TypeDefinition :=
  listed.filterMap fun l => l.bind fun identifier => (lookup identifier).toOption

variable (lookup profileKey r) in
/-- The profiles listed by a record in which an attribute is mandatory. -/
def demanding (a : String) : List TypeDefinition :=
  (known lookup (r.values profileKey)).filter (a ∈ ·.mandatoryAttributes)

lemma mem_known_iff {listed : List (Option String)} : profile ∈ known lookup listed ↔
    ∃ identifier, some identifier ∈ listed ∧ lookup identifier = .ok profile := by
  simp only [known, List.mem_filterMap, Option.bind_eq_some_iff]
  constructor
  · rintro ⟨_, hl, identifier, rfl, hp⟩
    exact ⟨identifier, hl, ok_of_toOption hp⟩
  · rintro ⟨identifier, hl, hp⟩
    refine ⟨some identifier, hl, identifier, rfl, ?_⟩
    rw [hp]
    rfl

lemma known_cons {identifier : String} (hp : lookup identifier = .ok profile)
    (listed : List (Option String)) :
    known lookup (some identifier :: listed) = profile :: known lookup listed := by
  rw [known, List.filterMap_cons, Option.bind_some, hp]
  rfl

lemma conforms_of_mem_known (hok : verdict lookup profileKey mode r = .ok ())
    (hm : profile ∈ known lookup (r.values profileKey)) : Conforms profileKey r profile := by
  obtain ⟨identifier, hl, hp⟩ := mem_known_iff.1 hm
  obtain ⟨_, _, heq, hp', hc⟩ := (verdict_eq_ok_iff_satisfied.1 hok).2 _ hl
  cases heq
  rw [hp] at hp'
  cases hp'
  exact hc

lemma exists_demanding
    (hm : ∃ profile ∈ known lookup (r.values profileKey), a ∈ profile.mandatoryAttributes) :
    ∃ first rest, demanding lookup profileKey r a = first :: rest := by
  obtain ⟨profile, hprofile, hmandatory⟩ := hm
  refine List.exists_cons_of_ne_nil (List.ne_nil_of_mem (a := profile) ?_)
  exact List.mem_filter.2 ⟨hprofile, decide_eq_true hmandatory⟩

/-- The values of an attribute can be replaced by one that fits the types which the listed profiles
declare. -/
lemma verdict_add_remove (hok : verdict lookup profileKey mode r = .ok ()) (ha : a ≠ profileKey)
    (hmem : a ∈ r.attributes) {text : String}
    (htext : ∀ profile ∈ known lookup (r.values profileKey), ∀ declared,
      profile.subType? a = some declared → ∀ pattern, declared.definition.pattern = some pattern →
      pattern.accepts text = true) (name : Option String) (mode' : ReportMode) :
    verdict lookup profileKey mode' ((r.remove a).2.add a name text) = .ok () := by
  obtain ⟨hlisted, hsatisfied⟩ := verdict_eq_ok_iff_satisfied.1 hok
  rw [verdict_eq_ok_iff_satisfied, Record.values_add_remove, if_neg ha.symm]
  refine ⟨hlisted, fun l hl => ?_⟩
  obtain ⟨identifier, profile, rfl, hlookup, hc⟩ := hsatisfied l hl
  have hknown : profile ∈ known lookup (r.values profileKey) :=
    mem_known_iff.2 ⟨identifier, hl, hlookup⟩
  exact ⟨identifier, profile, rfl, hlookup, hc.add_remove hmem (htext profile hknown) name⟩

variable (hr : Keyed.Ordered r.entries)
  (hp : ∀ identifier profile, lookup identifier = .ok profile → Keyed.Ordered profile.subTypes)

include hr hp

/-- What is found once an attribute is gone, going through profiles with which nothing was wrong. -/
lemma listedFindings_remove (a : String) {listed : List (Option String)}
    (hs : ∀ l ∈ listed, Satisfied lookup profileKey r l) :
    listed.flatMap (listedFindings lookup profileKey (r.remove a).2) =
      (((known lookup listed).filter (a ∈ ·.mandatoryAttributes)).map fun p =>
        .missingMandatoryAttribute a p.identifier).map .fault := by
  induction listed with
  | nil => rfl
  | cons l listed ih =>
    obtain ⟨⟨identifier, profile, rfl, hl, hc⟩, hrest⟩ := List.forall_mem_cons.1 hs
    have hordered := hp identifier profile hl
    have hremoved : Keyed.Ordered (r.remove a).2.entries := Keyed.erase_ordered a hr
    rw [List.flatMap_cons, ih hrest, known_cons hl, List.filter_cons, listedFindings, hl]
    dsimp only
    rw [profileFaults_eq hremoved hordered, checkProfile_remove hc hordered]
    by_cases ha : a ∈ profile.mandatoryAttributes <;> simp [ha]

lemma findings_remove (hok : verdict lookup profileKey mode r = .ok ()) (ha : a ≠ profileKey) :
    findings lookup profileKey (r.remove a).2 =
      ((demanding lookup profileKey r a).map fun p =>
        .missingMandatoryAttribute a p.identifier).map .fault := by
  rw [findings, Record.values_remove, if_neg ha.symm, demanding]
  exact listedFindings_remove hr hp a (verdict_eq_ok_iff_satisfied.1 hok).2

end Listed

/-- A valid record that loses an attribute is rejected for each of the profiles that it lists and that
demand this attribute, or for the first of them alone; and with any value there that fits the types which
the listed profiles declare, it is valid again. -/
theorem mandatory_lost_and_restored (hr : Keyed.Ordered r.entries)
    (hp : ∀ identifier profile, lookup identifier = .ok profile → Keyed.Ordered profile.subTypes)
    (hok : verdict lookup profileKey mode r = .ok ()) (ha : a ≠ profileKey)
    (hm : ∃ profile ∈ known lookup (r.values profileKey), a ∈ profile.mandatoryAttributes) :
    (∃ first rest, demanding lookup profileKey r a = first :: rest ∧
      verdict lookup profileKey .failFast (r.remove a).2 = .error (.rejected r.pid (demand a first))) ∧
    verdict lookup profileKey .aggregate (r.remove a).2 = .error (.rejected r.pid
      (" ".intercalate ((demanding lookup profileKey r a).map (demand a)))) ∧
    ∀ name text, (∀ profile ∈ known lookup (r.values profileKey), ∀ declared,
        profile.subType? a = some declared → ∀ pattern, declared.definition.pattern = some pattern →
        pattern.accepts text = true) →
      ∀ mode, verdict lookup profileKey mode ((r.remove a).2.add a name text) = .ok () := by
  have hfindings := findings_remove hr hp hok ha
  have hremoved : Keyed.Ordered (r.remove a).2.entries := Keyed.erase_ordered a hr
  have hvalues : (r.remove a).2.values profileKey ≠ [] := by
    rw [Record.values_remove, if_neg ha.symm]
    exact (verdict_eq_ok_iff_satisfied.1 hok).1
  obtain ⟨first, rest, hdemanding⟩ := exists_demanding hm
  refine ⟨⟨first, rest, hdemanding, ?_⟩, ?_, fun name text htext mode => ?_⟩
  · rw [verdict_failFast hremoved hp hvalues, hfindings, hdemanding]
    rfl
  · rw [verdict_aggregate hremoved hp hvalues, hfindings, hdemanding, tellAll_map_fault, List.map_map]
    · rfl
    · exact List.cons_ne_nil _ _
  · obtain ⟨profile, hprofile, hmandatory⟩ := hm
    have hmem := (conforms_of_mem_known hok hprofile).mandatory a hmandatory
    exact verdict_add_remove hok ha hmem htext name mode

/-- A profile that may declare a date. -/
def dating (identifier : String) (additional : Bool) (date : Option Bool) : TypeDefinition :=
  ⟨identifier, none, none, none, additional, (date.map fun mandatory =>
    ("date", ⟨mandatory, ⟨"date", none, none, none, false, []⟩⟩)).toList⟩

/-- In two of the profiles a date is mandatory, in one optional, and one is open and does not declare it. -/
def severally : String → Except LookupError TypeDefinition
  | "optional" => .ok (dating "optional" false (some false))
  | "first" => .ok (dating "first" false (some true))
  | "open" => .ok (dating "open" true none)
  | "second" => .ok (dating "second" false (some true))
  | identifier => .error (.notFound identifier)

def datedSeverally : Record :=
  ⟨"r", [("date", [⟨"date", some "day", some "1"⟩, ⟨"date", none, some "2"⟩]),
    ("profile", ["optional", "first", "open", "second", "first"].map fun identifier =>
      ⟨"profile", none, some identifier⟩)]⟩

lemma eq_dating {identifier : String} (h : severally identifier = .ok profile) :
    ∃ additional date, profile = dating identifier additional date := by
  unfold severally at h
  split at h <;> cases h <;> exact ⟨_, _, rfl⟩

lemma ordered_severally (identifier : String) (profile : TypeDefinition)
    (h : severally identifier = .ok profile) : Keyed.Ordered profile.subTypes := by
  obtain ⟨additional, _ | mandatory, rfl⟩ := eq_dating h
  · exact Keyed.ordered_nil
  · exact List.pairwise_singleton _ _

lemma pattern_severally {identifier : String} {declared : Declared TypeDefinition}
    (h : severally identifier = .ok profile) (hd : profile.subType? "date" = some declared) :
    declared.definition.pattern = none := by
  obtain ⟨additional, _ | mandatory, rfl⟩ := eq_dating h <;> cases hd
  rfl

theorem mandatory_lost_and_restored_severally :
    (Keyed.Ordered datedSeverally.entries ∧
      verdict severally "profile" .failFast datedSeverally = .ok () ∧
      ∃ profile ∈ known severally (datedSeverally.values "profile"),
        "date" ∈ profile.mandatoryAttributes) ∧
    verdict severally "profile" .failFast (datedSeverally.remove "date").2 =
      .error (.rejected "r" "Mandatory attribute date of profile first is missing.") ∧
    verdict severally "profile" .aggregate (datedSeverally.remove "date").2 =
      .error (.rejected "r" ("Mandatory attribute date of profile first is missing. " ++
        "Mandatory attribute date of profile second is missing. " ++
        "Mandatory attribute date of profile first is missing.")) ∧
    ∀ mode, verdict severally "profile" mode
      ((datedSeverally.remove "date").2.add "date" (some "") "") = .ok () := by
  have hr : Keyed.Ordered datedSeverally.entries := by
    change ["date", "profile"].Pairwise (· < ·)
    decide
  have hok : verdict severally "profile" .failFast datedSeverally = .ok () := rfl
  have hm : ∃ profile ∈ known severally (datedSeverally.values "profile"),
      "date" ∈ profile.mandatoryAttributes :=
    ⟨dating "first" false (some true), List.mem_cons_of_mem _ List.mem_cons_self, by decide⟩
  obtain ⟨⟨first, rest, hdemanding, hfirst⟩, hall, hrestored⟩ :=
    mandatory_lost_and_restored hr ordered_severally hok (by decide) hm
  have hdemanded : demanding severally "profile" datedSeverally "date" =
      ["first", "second", "first"].map fun identifier => dating identifier false (some true) := rfl
  rw [hdemanded] at hdemanding hall
  cases hdemanding
  refine ⟨⟨hr, hok, hm⟩, hfirst, hall, hrestored (some "") "" fun profile hp declared hd p hpattern => ?_⟩
  obtain ⟨_, -, hlookup⟩ := mem_known_iff.1 hp
  rw [pattern_severally hlookup hd] at hpattern
  cases hpattern

end Validation

end TypedPid
