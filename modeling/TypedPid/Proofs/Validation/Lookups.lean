import Mathlib.Data.List.ReduceOption
import TypedPid.Proofs.Validation.Conformance

/-!
What validation asks for. It asks for listed profiles alone, in the order in which they are listed, and
for none after the one whose answer ends it. The same profile can be answered differently when it is asked
for again.
-/

namespace TypedPid.Validation

/-- The beginning of a row up to and including the first place where it stops, or all of the row. -/
structure UpToFirst {α : Type} (stops : ℕ → Prop) (row taken : List α) : Prop where
  beginning : taken <+: row
  before : ∀ i, i + 1 < taken.length → ¬ stops i
  last : taken ≠ row → ∃ i, taken.length = i + 1 ∧ stops i

namespace UpToFirst

variable {α : Type} {stops : ℕ → Prop} {row taken : List α} {a : α}

lemma nil : UpToFirst stops ([] : List α) [] := by
  refine ⟨List.prefix_refl _, fun i hi => ?_, fun hne => absurd rfl hne⟩
  cases hi

lemma cons_of_stops (h : stops 0) : UpToFirst stops (a :: row) [a] := by
  refine ⟨List.prefix_append [a] row, fun i hi => ?_, fun _ => ⟨0, rfl, h⟩⟩
  rw [List.length_singleton] at hi
  omega

lemma cons (h : ¬ stops 0) (hrest : UpToFirst (fun i => stops (i + 1)) row taken) :
    UpToFirst stops (a :: row) (a :: taken) := by
  refine ⟨(List.prefix_cons_inj a).2 hrest.beginning, fun i hi => ?_, fun hne => ?_⟩
  · cases i with
    | zero => exact h
    | succ i =>
      rw [List.length_cons] at hi
      exact hrest.before i (by omega)
  · obtain ⟨i, hlength, hi⟩ := hrest.last fun heq => hne (congrArg (a :: ·) heq)
    refine ⟨i + 1, ?_, hi⟩
    rw [List.length_cons, hlength]

end UpToFirst

section Questions

variable (outcomes : ℕ → Except LookupError TypeDefinition) (profileKey : String)
  (mode : ReportMode) (r : Record)

/-- Notes what is asked for, and answers the questions one after another by the outcomes. -/
def consult (identifier : String) : StateM (List String) (Except LookupError TypeDefinition) :=
  fun asked => (outcomes asked.length, asked ++ [identifier])

/-- What validation asks for if the outcomes of its lookups are these, in this order. -/
def asked : List String := ((validate (consult outcomes) profileKey mode r).run []).2

/-- The listed profiles as far as they count: a value that is not there names none, and without
aggregation it is a fault, behind which nothing is looked at. -/
def eligible : ReportMode → List (Option String) → List String
  | .failFast, listed => (listed.takeWhile Option.isSome).reduceOption
  | .aggregate, listed => listed.reduceOption

/-- The answers behind which no other profile is looked at. -/
inductive Ends : ReportMode → Except LookupError TypeDefinition → Prop
  | unavailable (mode : ReportMode) (e : LoadError) : Ends mode (.error (.unavailable e))
  | unknown (identifier : String) : Ends .failFast (.error (.notFound identifier))
  | faulty {profile : TypeDefinition} : ¬ Conforms profileKey r profile → Ends .failFast (.ok profile)

variable {outcomes profileKey mode r}

lemma eligible_none (listed : List (Option String)) :
    eligible mode (none :: listed) = match mode with
      | .failFast => []
      | .aggregate => eligible .aggregate listed := by
  cases mode <;> rfl

lemma eligible_some (identifier : String) (listed : List (Option String)) :
    eligible mode (some identifier :: listed) = identifier :: eligible mode listed := by
  cases mode <;> rfl

lemma mem_of_mem_eligible {identifier : String} {listed : List (Option String)}
    (h : identifier ∈ eligible mode listed) : some identifier ∈ listed := by
  cases mode with
  | failFast => exact (List.takeWhile_sublist _).mem (List.reduceOption_mem_iff.1 h)
  | aggregate => exact List.reduceOption_mem_iff.1 h

/-- Whether an answer ends the search is decided by what is said of it. -/
lemma ends_iff (answer : Except LookupError TypeDefinition) :
    Ends profileKey r mode answer ↔ match checkAnswer profileKey r answer with
      | .error _ => True
      | .ok violations => mode = .failFast ∧ violations ≠ [] := by
  rcases answer with (identifier | e) | profile
  · constructor
    · intro h
      cases h
      exact ⟨rfl, List.cons_ne_nil _ _⟩
    · rintro ⟨rfl, -⟩
      exact .unknown identifier
  · exact iff_of_true (.unavailable mode e) trivial
  · rw [checkAnswer]
    dsimp only
    rw [ne_eq, checkProfile_eq_nil]
    constructor
    · intro h
      cases h with
      | faulty h => exact ⟨rfl, h⟩
    · rintro ⟨rfl, h⟩
      exact .faulty h

lemma run_then {σ α β : Type} (x : StateM σ α) (f : α → StateM σ β) (s : σ) :
    (x >>= f).run s = (f (x.run s).1).run (x.run s).2 := rfl

lemma run_checkProfiles_some (found : List Violation) (identifier : String)
    (listed : List (Option String)) (before : List String) :
    (checkProfiles (consult outcomes) profileKey mode r found (some identifier :: listed)).run before =
      match checkAnswer profileKey r (outcomes before.length) with
      | .error e => (.error e, before ++ [identifier])
      | .ok violations =>
        if mode = .failFast ∧ violations ≠ [] then (.ok (violations.take 1), before ++ [identifier])
        else (checkProfiles (consult outcomes) profileKey mode r (found ++ violations) listed).run
          (before ++ [identifier]) := by
  have hlisted : (checkListed (consult outcomes) profileKey r (some identifier)).run before =
      (checkAnswer profileKey r (outcomes before.length), before ++ [identifier]) := rfl
  rw [checkProfiles, run_then, hlisted]
  cases checkAnswer profileKey r (outcomes before.length) with
  | error e => rfl
  | ok violations =>
    dsimp only
    split <;> rfl

lemma asked_checkProfiles (found : List Violation) (listed : List (Option String))
    (before : List String) : ∃ more,
      ((checkProfiles (consult outcomes) profileKey mode r found listed).run before).2 =
        before ++ more ∧
      UpToFirst (fun i => Ends profileKey r mode (outcomes (before.length + i)))
        (eligible mode listed) more := by
  -- The number of questions so far decides which outcome comes next, hence the shift by `before`. What was
  -- found so far decides nothing.
  induction listed generalizing found before with
  | nil =>
    refine ⟨[], (List.append_nil before).symm, ?_⟩
    cases mode <;> exact .nil
  | cons l listed ih =>
    cases l with
    | none =>
      rw [eligible_none]
      cases mode with
      | failFast => exact ⟨[], (List.append_nil before).symm, .nil⟩
      | aggregate => exact ih (found ++ [.nullProfileValue profileKey]) before
    | some identifier =>
      have hends := @ends_iff profileKey mode r (outcomes before.length)
      rw [eligible_some, run_checkProfiles_some]
      cases hanswer : checkAnswer profileKey r (outcomes before.length) with
      | error e =>
        rw [hanswer] at hends
        exact ⟨[identifier], rfl, .cons_of_stops (hends.2 trivial)⟩
      | ok violations =>
        rw [hanswer] at hends
        dsimp only at hends ⊢
        split
        · next hstops => exact ⟨[identifier], rfl, .cons_of_stops (hends.2 hstops)⟩
        · next hgoes =>
          obtain ⟨more, hmore, hupTo⟩ := ih (found ++ violations) (before ++ [identifier])
          have hplaces (i : ℕ) : (before ++ [identifier]).length + i = before.length + (i + 1) := by
            rw [List.length_append, List.length_singleton]
            omega
          simp only [hplaces] at hupTo
          refine ⟨identifier :: more, ?_, .cons (fun h => hgoes (hends.1 h)) hupTo⟩
          rw [hmore, List.append_assoc, List.singleton_append]

lemma asked_of_values_nil (h : r.values profileKey = []) : asked outcomes profileKey mode r = [] := by
  rw [asked, validate, h]
  cases r.has profileKey <;> rfl

lemma asked_of_values (h : r.values profileKey ≠ []) : asked outcomes profileKey mode r =
    ((checkProfiles (consult outcomes) profileKey mode r [] (r.values profileKey)).run []).2 := by
  have hhas : r.has profileKey = true := (has_iff r profileKey).2 (mem_attributes_of_values_ne_nil h)
  have hempty : (r.values profileKey).isEmpty = false := by simpa using h
  simp only [asked, validate, hhas, hempty, Bool.not_true, Bool.false_eq_true, if_false, run_then]
  split <;> rfl

/-- Validation asks for the eligible profiles up to and including the first one whose answer ends it, and
for nothing else. -/
theorem asked_upToFirst (outcomes : ℕ → Except LookupError TypeDefinition) (profileKey : String)
    (mode : ReportMode) (r : Record) :
    UpToFirst (fun i => Ends profileKey r mode (outcomes i)) (eligible mode (r.values profileKey))
      (asked outcomes profileKey mode r) ∧
    (profileKey ∉ r.attributes ∨ r.values profileKey = [] → asked outcomes profileKey mode r = []) ∧
    ∀ identifier ∈ asked outcomes profileKey mode r, some identifier ∈ r.values profileKey := by
  have hupTo : UpToFirst (fun i => Ends profileKey r mode (outcomes i))
      (eligible mode (r.values profileKey)) (asked outcomes profileKey mode r) := by
    by_cases hv : r.values profileKey = []
    · rw [asked_of_values_nil hv, hv]
      cases mode <;> exact .nil
    · obtain ⟨more, hmore, hupTo⟩ := @asked_checkProfiles outcomes profileKey mode r []
        (r.values profileKey) []
      rw [asked_of_values hv, hmore]
      simpa using hupTo
  refine ⟨hupTo, fun hnone => ?_, fun identifier hi => ?_⟩
  · refine asked_of_values_nil ?_
    rcases hnone with hnone | hnone
    · by_contra hv
      exact hnone (mem_attributes_of_values_ne_nil hv)
    · exact hnone
  · exact mem_of_mem_eligible (hupTo.beginning.subset hi)

example : asked (fun i => .error (if i = 0 then .notFound "p" else .unavailable (.status "registry" 503)))
    "profile" .aggregate ⟨"r", [("profile", [some "p", none, some "p", some "q"].map fun listed =>
      ⟨"profile", none, listed⟩)]⟩ = ["p", "p"] := rfl

end Questions

end TypedPid.Validation
