/-!
Internet addresses and their texts.
-/
namespace TypedPid

structure Ipv4 where
  a : Nat
  b : Nat
  c : Nat
  d : Nat
deriving DecidableEq

/-- An address of eight groups of 16 bits. -/
structure Ipv6 where
  groups : List Nat
deriving DecidableEq

namespace Ipv4

def ofNat (n : Nat) : Ipv4 :=
  ⟨n / 0x1000000 % 0x100, n / 0x10000 % 0x100, n / 0x100 % 0x100, n % 0x100⟩

def groups (x : Ipv4) : List Nat := [256 * x.a + x.b, 256 * x.c + x.d]

def text (x : Ipv4) : String :=
  ".".intercalate [toString x.a, toString x.b, toString x.c, toString x.d]

end Ipv4

namespace Ipv6

def zeros (gs : List Nat) : Nat := (gs.takeWhile (· = 0)).length

/-- Where the longest row of zeros begins, the first one of several, and how long it is. -/
def longestZeros (gs : List Nat) : Nat × Nat :=
  (List.range gs.length).foldl
    (fun best i => if best.2 < zeros (gs.drop i) then (i, zeros (gs.drop i)) else best) (0, 0)

def joined (gs : List Nat) : String :=
  ":".intercalate (gs.map fun g => String.ofList (Nat.toDigits 16 g))

/-- The groups in hexadecimal. The longest row of two or more zeros is left out. -/
def text (x : Ipv6) : String :=
  let (start, length) := longestZeros x.groups
  if 2 ≤ length then
    joined (x.groups.take start) ++ "::" ++ joined (x.groups.drop (start + length))
  else joined x.groups

/-- The address of the older kind that is written as one of the newer kind. -/
def mapped? : Ipv6 → Option Ipv4
  | ⟨[0, 0, 0, 0, 0, 0xFFFF, g, h]⟩ => some ⟨g / 256, g % 256, h / 256, h % 256⟩
  | _ => none

end Ipv6
end TypedPid
