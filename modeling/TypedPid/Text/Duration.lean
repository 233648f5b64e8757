/-!
Lengths of time and their text: a decimal number of the largest unit of which the time holds at
least one, with no zeros at its end.
-/
namespace TypedPid

structure Duration where
  nanoseconds : Nat
deriving DecidableEq

namespace Duration

def ofSeconds (s : Nat) : Duration := ⟨s * 1000000000⟩

def ofMilliseconds (ms : Nat) : Duration := ⟨ms * 1000000⟩

/-- The time in whole milliseconds, rounded up. -/
def milliseconds (d : Duration) : Nat := (d.nanoseconds + 999999) / 1000000

def seconds (d : Duration) : Nat := d.nanoseconds / 1000000000

def dropFinalZeros (ds : List Char) : List Char := (ds.reverse.dropWhile (· = '0')).reverse

/-- `n` as a number of units of `10 ^ places`. -/
def decimal (n places : Nat) : String :=
  let whole := toString (n / Nat.pow 10 places)
  let digits := (toString (n % Nat.pow 10 places)).toList
  let fraction := List.replicate (places - digits.length) '0' ++ digits
  match if places = 0 then [] else dropFinalZeros fraction with
  | [] => whole
  | ds => whole ++ "." ++ String.ofList ds

def text (d : Duration) : String :=
  let n := d.nanoseconds
  if 1000000000 ≤ n then decimal n 9 ++ "s"
  else if 1000000 ≤ n then decimal n 6 ++ "ms"
  else if 1000 ≤ n then decimal n 3 ++ "µs"
  else decimal n 0 ++ "ns"

end Duration
end TypedPid
