import TypedPid.Unicode.CaseFolding

/-!
Sets of characters as expressions over ranges. A set is never listed out: `contains` decides
membership by following the expression.
-/
namespace TypedPid.Unicode

inductive CharSet where
  | ranges (rs : Ranges)
  | union (a b : CharSet)
  | inter (a b : CharSet)
  | diff (a b : CharSet)
  | symm (a b : CharSet)
  | compl (a : CharSet)
  /-- The characters that equal a member up to case. -/
  | folded (a : CharSet)
  /-- The members and, for a member that is an unaccented Latin letter, its other case. -/
  | foldedAscii (a : CharSet)
deriving Repr

/-- The letters A to Z and a to z with both their cases; any other character alone. -/
def asciiCaseVariants (c : Nat) : List Nat :=
  if 0x41 ≤ c ∧ c ≤ 0x5A then [c, c + 0x20]
  else if 0x61 ≤ c ∧ c ≤ 0x7A then [c, c - 0x20]
  else [c]

namespace CharSet

def contains (c : Nat) : CharSet → Bool
  | ranges rs => rs.contains c
  | union a b => a.contains c || b.contains c
  | inter a b => a.contains c && b.contains c
  | diff a b => a.contains c && !b.contains c
  | symm a b => a.contains c != b.contains c
  | compl a => !a.contains c
  | folded a => (caseVariants c).any (fun d => a.contains d)
  | foldedAscii a => (asciiCaseVariants c).any (fun d => a.contains d)

def empty : CharSet := ranges []

def single (c : Char) : CharSet := ranges [(c.toNat, c.toNat)]

def range (lo hi : Char) : CharSet := ranges [(lo.toNat, hi.toNat)]

/-- All characters. -/
def all : CharSet := ranges [(0, 0x10FFFF)]

def unionAll (sets : List CharSet) : CharSet := sets.foldl union empty

/-- About how many ranges the set is made of. -/
def rangeCount : CharSet → Nat
  | ranges rs => rs.length
  | union a b => a.rangeCount + b.rangeCount
  | inter a b => a.rangeCount + b.rangeCount
  | diff a b => a.rangeCount + b.rangeCount
  | symm a b => a.rangeCount + b.rangeCount
  | compl a => a.rangeCount + 1
  | folded a => 2 * a.rangeCount
  | foldedAscii a => 2 * a.rangeCount

end CharSet
end TypedPid.Unicode
