import TypedPid.Text.Hex
import TypedPid.Unicode.Decomposition

/-!
The composed normal form: characters are taken apart, the marks of each are put in order, and what
can be put together again is put together.
-/
namespace TypedPid.Unicode

structure Decomposition where
  parts : List Nat
  /-- Whether the parts are put together again. -/
  composes : Bool

def hexNumbers (separator : String) (text : String) : List Nat :=
  (text.splitOn separator).map fun word => Hex.value word.toList

def decompositions : List (Nat × Decomposition) :=
  (words decompositionTable).filterMap fun word =>
    match word.splitOn "=" with
    | [c, parts] =>
      let composes := parts.contains '+'
      some (Hex.value c.toList, ⟨hexNumbers (if composes then "+" else ",") parts, composes⟩)
    | _ => none

def combiningClasses : List (Nat × Ranges) :=
  combiningClassTable.map fun (k, text) => (k, Ranges.ofText text)

def combiningClass (c : Nat) : Nat :=
  ((combiningClasses.find? fun (_, rs) => rs.contains c).map (·.1)).getD 0

/-- The letters that a syllable of Hangul is made of. -/
def syllableParts? (c : Nat) : Option (List Nat) :=
  if 0xAC00 ≤ c ∧ c < 0xAC00 + 11172 then
    let i := c - 0xAC00
    let last := i % 28
    some ([0x1100 + i / 588, 0x1161 + i % 588 / 28] ++ (if last = 0 then [] else [0x11A7 + last]))
  else none

def syllable? (a b : Nat) : Option Nat :=
  if 0x1100 ≤ a ∧ a < 0x1100 + 19 ∧ 0x1161 ≤ b ∧ b < 0x1161 + 21 then
    some (0xAC00 + ((a - 0x1100) * 21 + (b - 0x1161)) * 28)
  else if 0xAC00 ≤ a ∧ a < 0xAC00 + 11172 ∧ (a - 0xAC00) % 28 = 0 ∧ 0x11A7 < b ∧ b < 0x11A7 + 28 then
    some (a + (b - 0x11A7))
  else none

/-- Takes a character apart, as far as it goes; no part is made of parts more than three times. -/
def takeApart : (fuel : Nat) → Nat → List Nat
  | 0, c => [c]
  | fuel + 1, c =>
    match syllableParts? c with
    | some parts => parts
    | none =>
      match decompositions.find? (·.1 = c) with
      | some (_, d) => d.parts.flatMap (takeApart fuel)
      | none => [c]

/-- Puts a mark behind those of its class and of lower ones. -/
def insertMark (c : Nat × Nat) : List (Nat × Nat) → List (Nat × Nat)
  | [] => [c]
  | d :: rest => if c.2 < d.2 then c :: d :: rest else d :: insertMark c rest

/-- Puts marks in order. Characters come with their classes, and `marks` are those since the last
character of class zero, in order. -/
def orderMarks (marks : List (Nat × Nat)) : List (Nat × Nat) → List (Nat × Nat)
  | [] => marks
  | c :: rest =>
    if c.2 = 0 then marks ++ c :: orderMarks [] rest else orderMarks (insertMark c marks) rest

def compose? (a b : Nat) : Option Nat :=
  (syllable? a b).or
    ((decompositions.find? fun (_, d) => d.composes ∧ d.parts = [a, b]).map (·.1))

/-- Puts marks to the character `start` before them. `marks` are those that stay marks, the last one
first; one of them keeps off all that are not of a higher class. -/
def composeOnto (start : Nat) (marks : List (Nat × Nat)) : List (Nat × Nat) → List Nat
  | [] => start :: marks.reverse.map (·.1)
  | (c, k) :: rest =>
    let free := marks.head?.all fun d => d.2 < k
    match if free then compose? start c else none with
    | some composed => composeOnto composed marks rest
    | none =>
      if k = 0 then (start :: marks.reverse.map (·.1)) ++ composeOnto c [] rest
      else composeOnto start ((c, k) :: marks) rest

/-- The composed normal form of a row of code points. -/
def composedForm (cs : List Nat) : List Nat :=
  let parts := (cs.flatMap (takeApart 4)).map fun c => (c, combiningClass c)
  let (marks, rest) := (orderMarks [] parts).span (·.2 ≠ 0)
  marks.map (·.1) ++
    match rest with
    | [] => []
    | (c, _) :: rest => composeOnto c [] rest

end TypedPid.Unicode
