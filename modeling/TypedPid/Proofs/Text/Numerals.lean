import Mathlib.Algebra.Group.Nat.Defs
import Mathlib.Tactic.Common
import TypedPid.Text.Unsigned

/-! The texts that are read as whole numbers of 64 bits, and the numbers that they stand for. -/

namespace TypedPid.Unsigned

/-- A number in decimal digits, which a plus sign may precede, is below 2 ^ 64. -/
inductive Numeral (text : String) (n : Nat) : Prop
  | digits (ds : List Char) (text_eq : text.toList = ds ∨ text.toList = '+' :: ds)
      (nonempty : ds ≠ []) (all : ∀ d ∈ ds, d.isDigit = true)
      (value : Nat.ofDigitChars 10 ds 0 = n) (bound : n < 2 ^ 64)

variable {cs : List Char} {text : String} {n m : Nat}

lemma le_ofDigitChars (cs : List Char) (n : Nat) : n ≤ Nat.ofDigitChars 10 cs n := by
  induction cs generalizing n with
  | nil => exact Nat.le_refl n
  | cons c cs ih =>
    rw [Nat.ofDigitChars_cons]
    have hstep := ih (10 * n + (c.toNat - '0'.toNat))
    omega

/-- That a number is too large shows at the first digit that makes it so, since more digits make it no
smaller. -/
lemma append_eq_ok_iff (hn : n < 2 ^ 64) : append n cs = .ok m ↔
    (∀ c ∈ cs, c.isDigit = true) ∧ Nat.ofDigitChars 10 cs n = m ∧ m < 2 ^ 64 := by
  have hpow : Nat.pow 2 64 = 2 ^ 64 := rfl
  induction cs generalizing n with
  | nil =>
    rw [append, Except.ok.injEq]
    constructor
    · rintro rfl
      exact ⟨List.forall_mem_nil _, rfl, hn⟩
    · exact fun h => h.2.1
  | cons c cs ih =>
    rw [List.forall_mem_cons, Nat.ofDigitChars_cons, append, hpow]
    generalize hnext : 10 * n + (c.toNat - '0'.toNat) = next
    cases hc : c.isDigit with
    | false => simp
    | true =>
      by_cases hlarge : 2 ^ 64 ≤ next
      · have hle := le_ofDigitChars cs next
        rw [if_neg (by decide), if_pos hlarge]
        constructor
        · intro h
          cases h
        · rintro ⟨-, rfl, hm⟩
          omega
      · rw [if_neg (by decide), if_neg hlarge, and_iff_right rfl]
        exact ih (Nat.not_le.1 hlarge)

lemma numeral_iff (text : String) (n : Nat) : Numeral text n ↔ ∃ ds,
    (text.toList = ds ∨ text.toList = '+' :: ds) ∧ ds ≠ [] ∧ append 0 ds = .ok n := by
  simp only [append_eq_ok_iff (show 0 < 2 ^ 64 by decide)]
  constructor
  · rintro ⟨ds, htext, hne, hall, hvalue, hbound⟩
    exact ⟨ds, htext, hne, hall, hvalue, hbound⟩
  · rintro ⟨ds, htext, hne, hall, hvalue, hbound⟩
    exact ⟨ds, htext, hne, hall, hvalue, hbound⟩

lemma append_plus (n : Nat) (cs : List Char) : append n ('+' :: cs) = .error .invalidDigit := rfl

theorem ofText?_eq_ok_iff : ofText? text = .ok n ↔ Numeral text n := by
  rw [numeral_iff, ofText?]
  split
  · next h => simp [h]
  · next h => simp [h, append_plus]
  · next cs hne h =>
    rw [h]
    constructor
    · exact fun hcs => ⟨cs, .inr rfl, hne, hcs⟩
    · rintro ⟨ds, rfl | hds, -, hvalue⟩
      · rw [append_plus] at hvalue
        cases hvalue
      · cases hds
        exact hvalue
  · next hempty _ hsigned =>
    constructor
    · exact fun hcs => ⟨text.toList, .inl rfl, hempty, hcs⟩
    · rintro ⟨ds, rfl | hds, -, hvalue⟩
      · exact hvalue
      · exact (hsigned ds hds).elim

end TypedPid.Unsigned
