/-!
Hexadecimal digits: the value of a digit, of a row of digits, and the digit of a value.
-/
namespace TypedPid.Hex

def digit? (c : Char) : Option Nat :=
  if '0' ≤ c ∧ c ≤ '9' then some (c.toNat - '0'.toNat)
  else if 'a' ≤ c ∧ c ≤ 'f' then some (c.toNat - 'a'.toNat + 10)
  else if 'A' ≤ c ∧ c ≤ 'F' then some (c.toNat - 'A'.toNat + 10)
  else none

def isDigit (c : Char) : Bool := (digit? c).isSome

/-- The number that a row of digits writes; a character that is no digit counts as zero. -/
def value (cs : List Char) : Nat := cs.foldl (fun n c => 16 * n + (digit? c).getD 0) 0

def lower (n : Nat) : Char := "0123456789abcdef".toList.getD (n % 16) '0'

def upper (n : Nat) : Char := "0123456789ABCDEF".toList.getD (n % 16) '0'

end TypedPid.Hex
