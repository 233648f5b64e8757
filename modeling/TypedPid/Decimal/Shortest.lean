import TypedPid.Decimal.Binary64

/-!
The shortest decimal that reads back as a given binary number, and the text of it.
-/
namespace TypedPid

/-- The number `digits * 10 ^ exponent`. -/
structure Decimal where
  digits : Nat
  exponent : Int
deriving Repr, DecidableEq

namespace Decimal

def inUnits (num den : Nat) (e : Int) : Nat × Nat :=
  if 0 ≤ e then (num, den * Nat.pow 10 e.toNat) else (num * Nat.pow 10 (-e).toNat, den)

/-- The decimals nearest below and above on the grid of `10 ^ e`. -/
def neighbours (x : Binary64) (e : Int) : Decimal × Decimal :=
  let (n, d) := inUnits x.num x.den e
  (⟨n / d, e⟩, ⟨n / d + 1, e⟩)

def num (a : Decimal) : Nat := a.digits * Nat.pow 10 a.exponent.toNat

def den (a : Decimal) : Nat := Nat.pow 10 (-a.exponent).toNat

def readsBack (x : Binary64) (a : Decimal) : Bool := Binary64.ofRatio a.num a.den == some x

/-- Whether `a`, below `x`, is at least as near to it as `b`, above; of two equally near ones the
even one counts as nearer. -/
def nearerBelow (x : Binary64) (a b : Decimal) : Bool :=
  let below := x.num * a.den - a.num * x.den
  let above := b.num * x.den - x.num * b.den
  let (below, above) := (below * b.den, above * a.den)
  below < above || (below = above && a.digits % 2 = 0)

def scale (num den : Nat) : Int :=
  let estimate : Int := (toString num).length - (toString den).length
  let (n, d) := inUnits num den estimate
  if d ≤ n then estimate + 1 else estimate

/-- The shortest decimal that reads back as `x`, of equally short ones the nearest. -/
def ofBinary (x : Binary64) : Decimal :=
  if x.mantissa = 0 then ⟨0, 0⟩
  else
    let top := scale x.num x.den
    (List.range 17).findSome? (fun (k : Nat) =>
      let (a, b) := neighbours x (top - (k + 1))
      match readsBack x a, readsBack x b with
      | true, true => some (if nearerBelow x a b then a else b)
      | true, false => some a
      | false, true => some b
      | false, false => none) |>.getD ⟨0, 0⟩

/-- Where the text of a number turns to powers of ten. -/
structure Layout where
  /-- The smallest power of the first digit that is still written out. -/
  least : Int
  /-- The first power that is no longer written out. -/
  limit : Int

def trimZeros : (fuel : Nat) → Decimal → Decimal
  | 0, a => a
  | fuel + 1, a =>
    if a.digits ≠ 0 ∧ a.digits % 10 = 0 then trimZeros fuel ⟨a.digits / 10, a.exponent + 1⟩ else a

/-- The text of a decimal: with a point, or as digits and a signed power of ten. -/
def text (layout : Layout) (a : Decimal) : String :=
  let a := trimZeros 400 a
  if a.digits = 0 then "0.0"
  else
    let ds := (toString a.digits).toList
    let power : Int := a.exponent + ds.length - 1
    if power < layout.least ∨ layout.limit ≤ power then
      let fraction := if ds.length = 1 then [] else '.' :: ds.drop 1
      let sign := if power < 0 then "-" else "+"
      String.ofList (ds.take 1 ++ fraction) ++ "e" ++ sign ++ toString power.natAbs
    else if power < 0 then
      "0." ++ String.ofList (List.replicate (power.natAbs - 1) '0' ++ ds)
    else
      let whole := power.toNat + 1
      let ds := ds ++ List.replicate (whole - ds.length) '0'
      let fraction := if ds.length ≤ whole then ['0'] else ds.drop whole
      String.ofList (ds.take whole ++ '.' :: fraction)

end Decimal
end TypedPid
