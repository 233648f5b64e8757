import TypedPid.Text.Hex

/-!
Sets of code points as ascending ranges, and maps of code points as rows of equal shifts, each with
the short text in which the tables of this folder write them.
-/
namespace TypedPid.Unicode

/-- Ranges of code points, both ends included, in ascending order. -/
abbrev Ranges := List (Nat × Nat)

/-- The words of a table, between blanks and ends of lines. -/
def words (text : String) : List String :=
  ((text.toList.splitOnP fun c => c = ' ' || c = '\n').filter (· ≠ [])).map String.ofList

namespace Ranges

def contains (c : Nat) : Ranges → Bool
  | [] => false
  | (lo, hi) :: rest => if c < lo then false else if c ≤ hi then true else contains c rest

/-- Reads words `gap` or `gap+more`, in hexadecimal: the distance from the end of the last range,
and how many code points follow the first one. -/
def ofText (text : String) : Ranges :=
  (words text).foldl
    (fun (ranges, next) word =>
      let (gap, more) := word.toList.span (· ≠ '+')
      let lo := next + Hex.value gap
      let hi := lo + Hex.value (more.drop 1)
      ((lo, hi) :: ranges, hi + 1))
    (([] : Ranges), 0) |>.1.reverse

end Ranges

/-- Moves `count` code points, the first at `start` and each `step` after the last, by `shift`. -/
structure Shift where
  start : Nat
  count : Nat
  step : Nat
  shift : Int

abbrev Shifts := List Shift

namespace Shift

def moves (s : Shift) (c : Nat) : Bool :=
  s.start ≤ c && (c - s.start) % s.step = 0 && (c - s.start) / s.step < s.count

def target (s : Shift) (c : Nat) : Nat := (c + s.shift).toNat

/-- The code point that is moved to `d`, if there is one. -/
def source? (s : Shift) (d : Nat) : Option Nat :=
  let c := (d - s.shift).toNat
  if s.moves c ∧ s.target c = d then some c else none

def ofWord? (word : List Char) : Option Shift :=
  match word.splitOn ',' with
  | [start, count, step, shift] =>
    some {
      start := Hex.value start
      count := Hex.value count
      step := Hex.value step
      shift := match shift with
        | '-' :: digits => -(Hex.value digits : Int)
        | digits => (Hex.value digits : Int) }
  | _ => none

end Shift

namespace Shifts

/-- Where `c` is moved; a code point that no row moves stays. -/
def apply (rows : Shifts) (c : Nat) : Nat :=
  match rows.find? (·.moves c) with
  | some s => s.target c
  | none => c

/-- All code points that are moved to `d`. -/
def sources (rows : Shifts) (d : Nat) : List Nat := rows.filterMap (·.source? d)

/-- Reads words `start,count,step,shift` in hexadecimal, the shift with a sign if it is negative. -/
def ofText (text : String) : Shifts := (words text).filterMap fun word => Shift.ofWord? word.toList

end Shifts
end TypedPid.Unicode
