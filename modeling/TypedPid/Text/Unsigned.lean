/-!
Whole numbers of 64 bits as text: decimal digits, which may follow a plus sign. Of several faults
the first one counts.
-/
namespace TypedPid

inductive NumberError where
  | empty
  | invalidDigit
  | tooLarge
deriving DecidableEq

namespace NumberError

def message : NumberError → String
  | empty => "cannot parse integer from empty string"
  | invalidDigit => "invalid digit found in string"
  | tooLarge => "number too large to fit in target type"

end NumberError

namespace Unsigned

/-- The number with further digits. A number is too large as soon as another place, or the digit in
it, takes it beyond 64 bits. -/
def append (n : Nat) : List Char → Except NumberError Nat
  | [] => .ok n
  | c :: cs =>
    if !c.isDigit then .error .invalidDigit
    else
      let n := 10 * n + (c.toNat - '0'.toNat)
      if Nat.pow 2 64 ≤ n then .error .tooLarge else append n cs

def ofText? (text : String) : Except NumberError Nat :=
  match text.toList with
  | [] => .error .empty
  | ['+'] => .error .invalidDigit
  | '+' :: cs => append 0 cs
  | cs => append 0 cs

end Unsigned
end TypedPid
