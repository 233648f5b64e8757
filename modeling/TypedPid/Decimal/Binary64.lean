/-!
Binary floating-point numbers of 64 bits without sign, as a mantissa and a power of two, and
rounding to the nearest of them.
-/
namespace TypedPid

/-- The number `mantissa * 2 ^ exponent`. -/
structure Binary64 where
  mantissa : Nat
  exponent : Int
deriving Repr, DecidableEq

namespace Binary64

def minExponent : Int := -1074

def maxExponent : Int := 971

/-- `num / den` to the nearest whole number, a half to the even one. -/
def roundDiv (num den : Nat) : Nat :=
  let q := num / den
  let r := num % den
  if 2 * r < den ∨ (2 * r = den ∧ q % 2 = 0) then q else q + 1

def inUnits (num den : Nat) (e : Int) : Nat × Nat :=
  if 0 ≤ e then (num, den * Nat.pow 2 e.toNat) else (num * Nat.pow 2 (-e).toNat, den)

/-- The number nearest to a fraction; none if the fraction is too large. -/
def ofRatio (num den : Nat) : Option Binary64 :=
  if num = 0 then some ⟨0, minExponent⟩
  else
    let low : Int := (Nat.log2 num : Int) - Nat.log2 den - 53
    let (n, d) := inUnits num den low
    let e := max (if Nat.pow 2 53 * d ≤ n then low + 1 else low) minExponent
    let (n, d) := inUnits num den e
    let m := roundDiv n d
    let r : Binary64 := if m = Nat.pow 2 53 then ⟨Nat.pow 2 52, e + 1⟩ else ⟨m, e⟩
    if maxExponent < r.exponent then none else some r

def num (x : Binary64) : Nat := x.mantissa * Nat.pow 2 x.exponent.toNat

def den (x : Binary64) : Nat := Nat.pow 2 (-x.exponent).toNat

def ofNat (n : Nat) : Option Binary64 := ofRatio n 1

def mul (x y : Binary64) : Option Binary64 := ofRatio (x.num * y.num) (x.den * y.den)

def div (x y : Binary64) : Option Binary64 :=
  if y.mantissa = 0 then none else ofRatio (x.num * y.den) (x.den * y.num)

end Binary64
end TypedPid
