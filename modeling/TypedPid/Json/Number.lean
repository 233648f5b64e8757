import TypedPid.Decimal.Shortest

/-!
Numbers as JSON writes them. A whole number of 64 bits keeps its value; any other becomes a binary
floating-point number, of whose digits those count that fit into 64 bits, and which is the leading
digits times or by a power of ten, rounded once for each of these steps.
-/
namespace TypedPid.Json

/-- The parts of a written number: sign, digits before and after the point, and the power of ten
with its sign. -/
structure NumberLiteral where
  negative : Bool
  whole : List Char
  fraction : Option (List Char)
  power : Option (Bool × List Char)

inductive Number where
  | integer (negative : Bool) (magnitude : Nat)
  | float (negative : Bool) (value : Binary64)

namespace NumberLiteral

def digitValue (c : Char) : Nat := c.toNat - '0'.toNat

def append? (n : Nat) (c : Char) : Option Nat :=
  let n := 10 * n + digitValue c
  if n < Nat.pow 2 64 then some n else none

/-- The leading digits that fit, and how many follow. -/
def wholePart (n : Nat) : List Char → Nat × Nat
  | [] => (n, 0)
  | c :: cs =>
    match append? n c with
    | some n => wholePart n cs
    | none => (n, cs.length + 1)

/-- The digits that fit after those of `n`, and how many of them there are. -/
def fractionPart (n : Nat) : List Char → Nat × Nat
  | [] => (n, 0)
  | c :: cs =>
    match append? n c with
    | some n => ((fractionPart n cs).1, (fractionPart n cs).2 + 1)
    | none => (n, 0)

def powerOfTen (e : Nat) : Option Binary64 := Binary64.ofNat (Nat.pow 10 e)

/-- `x * 10 ^ e`, in one step; a large negative power takes several. -/
def scaled (e : Int) (x : Binary64) : Option Binary64 :=
  if 0 ≤ e then
    if e ≤ 308 then (powerOfTen e.toNat).bind x.mul
    else if x.mantissa = 0 then some x
    else none
  else shrink (e.natAbs / 308 + 1) e.natAbs x
where
  shrink : Nat → Nat → Binary64 → Option Binary64
    | 0, _, x => some x
    | fuel + 1, e, x =>
      if x.mantissa = 0 then some x
      else if e ≤ 308 then (powerOfTen e).bind x.div
      else ((powerOfTen 308).bind x.div).bind (shrink fuel (e - 308))

/-- The value, if there is one: a number too large for a floating-point number has none. -/
def value? (n : NumberLiteral) : Option Number :=
  let (m, dropped) := wholePart 0 n.whole
  match n.fraction, n.power with
  | none, none =>
    if dropped = 0 ∧ (¬ n.negative ∨ (0 < m ∧ m ≤ Nat.pow 2 63)) then some (.integer n.negative m)
    else ((Binary64.ofNat m).bind (scaled dropped)).map (.float n.negative)
  | fraction, power =>
    let (m, after) := fractionPart m (fraction.getD [])
    let exponent : Int := (dropped : Int) - after
    match power with
    | none => ((Binary64.ofNat m).bind (scaled exponent)).map (.float n.negative)
    | some (below, ds) =>
      let e := ds.foldl (fun e c => 10 * e + digitValue c) 0
      if Nat.pow 2 31 ≤ e then
        if m = 0 ∨ below then some (.float n.negative ⟨0, Binary64.minExponent⟩) else none
      else
        let exponent := if below then exponent - e else exponent + e
        ((Binary64.ofNat m).bind (scaled exponent)).map (.float n.negative)

end NumberLiteral

namespace Number

/-- Floating-point numbers are written out from 10^-5 up to 10^16. -/
def layout : Decimal.Layout := ⟨-5, 16⟩

def text : Number → String
  | integer negative m => (if negative then "-" else "") ++ toString m
  | float negative x =>
    (if negative then "-" else "") ++ Decimal.text layout (Decimal.ofBinary x)

end Number
end TypedPid.Json
