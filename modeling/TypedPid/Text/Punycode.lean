/-!
Punycode: a row of code points written with letters, digits and hyphens. The ASCII characters come
first, in order; then follow the others, from the smallest to the largest, each as a number that
says how far it is from the last one, in value and place. The digits of such a number have changing
bases, which adapt to the numbers before.
-/
namespace TypedPid.Punycode

def digit (n : Nat) : Char := Char.ofNat (if n < 26 then 0x61 + n else 0x30 + (n - 26))

def digit? (c : Char) : Option Nat :=
  if 'a' ≤ c ∧ c ≤ 'z' then some (c.toNat - 0x61)
  else if 'A' ≤ c ∧ c ≤ 'Z' then some (c.toNat - 0x41)
  else if '0' ≤ c ∧ c ≤ '9' then some (c.toNat - 0x30 + 26)
  else none

/-- The digit at place `k` ends its number if it is below this. -/
def threshold (bias k : Nat) : Nat := min 26 (max 1 (k - bias))

def shrink (delta k : Nat) : Nat × Nat :=
  if 455 < delta then shrink (delta / 35) (k + 36) else (delta, k)
termination_by delta

def adapt (delta points : Nat) (first : Bool) : Nat :=
  let delta := if first then delta / 700 else delta / 2
  let (delta, k) := shrink (delta + delta / points) 0
  k + 36 * delta / (delta + 38)

theorem threshold_bounds (bias k : Nat) : 1 ≤ threshold bias k ∧ threshold bias k ≤ 26 := by
  unfold threshold
  omega

def digits (bias k n : Nat) : List Char :=
  let t := threshold bias k
  if n < t then [digit n]
  else digit (t + (n - t) % (36 - t)) :: digits bias (k + 36) ((n - t) / (36 - t))
termination_by n
decreasing_by
  have h := threshold_bounds bias k
  exact Nat.lt_of_le_of_lt (Nat.div_le_self _ _) (by omega)

structure Progress where
  delta : Nat
  bias : Nat
  handled : Nat
  /-- What is written, the last digit first. -/
  written : List Char

/-- Goes through all characters once and writes those that equal `n`. -/
def writePoint (basic n : Nat) (p : Progress) (c : Nat) : Progress :=
  if c < n then { p with delta := p.delta + 1 }
  else if c = n then {
    delta := 0
    bias := adapt p.delta (p.handled + 1) (p.handled = basic)
    handled := p.handled + 1
    written := (digits p.bias 36 p.delta).reverse ++ p.written }
  else p

def smallest (cs : List Nat) (n : Nat) : Option Nat := (cs.filter (n ≤ ·)).min?

def writeFrom (basic : Nat) (cs : List Nat) : (fuel : Nat) → Nat → Progress → List Char
  | 0, _, p => p.written.reverse
  | fuel + 1, n, p =>
    match smallest cs n with
    | none => p.written.reverse
    | some m =>
      let p := { p with delta := p.delta + (m - n) * (p.handled + 1) }
      let p := cs.foldl (writePoint basic m) p
      writeFrom basic cs fuel (m + 1) { p with delta := p.delta + 1 }

def encode (cs : List Nat) : List Char :=
  let basic := (cs.filter (· < 0x80)).map Char.ofNat
  let rest := writeFrom basic.length cs cs.length 0x80 ⟨0, 72, basic.length, []⟩
  if basic = [] then rest else basic ++ '-' :: rest

/-- Reads a number; its digits weigh `weight` times what they are worth. -/
def number? (bias : Nat) (k weight n : Nat) : List Char → Option (Nat × List Char)
  | [] => none
  | c :: cs => do
    let d ← digit? c
    let n := n + d * weight
    if Nat.pow 2 32 ≤ n then none
    else if d < threshold bias k then some (n, cs)
    else number? bias (k + 36) (weight * (36 - threshold bias k)) n cs

def isScalar (n : Nat) : Bool := n < 0xD800 || (0xE000 ≤ n && n < 0x110000)

/-- Reads characters into their places among those `found`. The next one is `n` or larger, and comes
to place `i` or a later one. -/
def readInto (found : List Nat) (n i bias : Nat) (first : Bool) :
    (fuel : Nat) → List Char → Option (List Nat)
  | _, [] => some found
  | 0, _ => none
  | fuel + 1, cs => do
    let (j, rest) ← number? bias 36 1 i cs
    let count := found.length + 1
    let n := n + j / count
    let place := j % count
    if isScalar n then
      readInto (found.take place ++ n :: found.drop place) n (place + 1)
        (adapt (j - i) count first) false fuel rest
    else none

def decode? (cs : List Char) : Option (List Nat) :=
  let parts := cs.reverse.span (· ≠ '-')
  match parts.2 with
  | _ :: before@(_ :: _) =>
    readInto (before.reverse.map Char.toNat) 0x80 0 72 true parts.1.length parts.1.reverse
  | _ => readInto [] 0x80 0 72 true cs.length cs

end TypedPid.Punycode
