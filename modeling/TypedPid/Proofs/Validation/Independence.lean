import Mathlib.Tactic.Common
import TypedPid.Validation

/-! Whether a record is valid does not depend on its identifier. -/

namespace TypedPid

namespace ValidationError

/-- The same error of a record with another identifier. -/
def withPid (pid : String) : ValidationError → ValidationError
  | serviceUnavailable endpoint => serviceUnavailable endpoint
  | rejected _ reason => rejected pid reason

end ValidationError

namespace Validation

variable {m : Type → Type} [Monad m] {lookup : String → m (Except LookupError TypeDefinition)}
  {profileKey : String} {mode : ReportMode}

lemma checkAnswer_setPid (r : Record) (pid : String) :
    checkAnswer profileKey (r.setPid pid) = checkAnswer profileKey r := by
  funext answer
  cases answer with
  | ok profile => rfl
  | error e => cases e <;> rfl

lemma checkProfiles_setPid (r : Record) (pid : String) (found : List Violation)
    (listed : List (Option String)) :
    checkProfiles lookup profileKey mode (r.setPid pid) found listed =
      checkProfiles lookup profileKey mode r found listed := by
  have hl : ∀ l, checkListed lookup profileKey (r.setPid pid) l =
      checkListed lookup profileKey r l := by
    intro l
    cases l with
    | none => rfl
    | some identifier => rw [checkListed, checkListed, checkAnswer_setPid]
  induction listed generalizing found with
  | nil => rfl
  | cons l listed ih => simp only [checkProfiles, hl, ih]

variable [LawfulMonad m]

lemma mapError_checkProfiles {g : ValidationError → ValidationError}
    (hg : ∀ e, g (.ofLoadError e) = .ofLoadError e) (r : Record) (found : List Violation)
    (listed : List (Option String)) :
    Except.mapError g <$> checkProfiles lookup profileKey mode r found listed =
      checkProfiles lookup profileKey mode r found listed := by
  induction listed generalizing found with
  | nil => simp [checkProfiles, Except.mapError]
  | cons l listed ih =>
    have hnext : ∀ violations,
        (Except.mapError g <$> if mode = .failFast ∧ violations ≠ [] then
            pure (.ok (violations.take 1))
          else checkProfiles lookup profileKey mode r (found ++ violations) listed) =
        if mode = .failFast ∧ violations ≠ [] then pure (.ok (violations.take 1))
          else checkProfiles lookup profileKey mode r (found ++ violations) listed := by
      intro violations
      split
      · simp [Except.mapError]
      · exact ih _
    cases l with
    | none =>
      simp only [checkProfiles, checkListed, pure_bind]
      exact hnext _
    | some identifier =>
      simp only [checkProfiles, checkListed, bind_map_left, map_bind]
      congr 1
      funext answer
      match answer with
      | .ok profile => exact hnext _
      | .error (.notFound _) => exact hnext _
      | .error (.unavailable e) => simp [checkAnswer, Except.mapError, hg]

/-- The identifier of a record shows in what is said about the record, but decides nothing. -/
lemma validate_setPid (r : Record) (pid : String) :
    validate lookup profileKey mode (r.setPid pid) =
      Except.mapError (·.withPid pid) <$> validate lookup profileKey mode r := by
  have hh : (r.setPid pid).has profileKey = r.has profileKey := rfl
  have hv : (r.setPid pid).values profileKey = r.values profileKey := rfl
  simp only [validate, hh, hv, checkProfiles_setPid]
  split
  · simp [Except.mapError, ValidationError.withPid, Record.setPid]
  · split
    · simp [Except.mapError, ValidationError.withPid, Record.setPid]
    · rw [map_bind]
      conv_lhs =>
        rw [← mapError_checkProfiles (g := (·.withPid pid)) (fun _ => rfl), bind_map_left]
      congr 1
      funext result
      match result with
      | .error e => simp [Except.mapError]
      | .ok [] => simp [Except.mapError]
      | .ok (v :: rest) => simp [Except.mapError, ValidationError.withPid, Record.setPid]

end Validation

end TypedPid
