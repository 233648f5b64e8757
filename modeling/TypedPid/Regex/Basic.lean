import TypedPid.Unicode.CharSet

/-!
Regular expressions over characters. `Matches text r i j` is the meaning: `r` covers the characters
of `text` from position `i` up to position `j`. Assertions look at the two characters beside a
position and cover nothing.
-/
namespace TypedPid

open Unicode

/-- What an assertion asks of the characters before and after a position. -/
inductive Assertion where
  | textStart
  | textEnd
  | lineStart
  | lineEnd
  | lineStartCrlf
  | lineEndCrlf
  | wordBoundary (word : CharSet)
  | notWordBoundary (word : CharSet)
  | wordStart (word : CharSet)
  | wordEnd (word : CharSet)
  | wordStartHalf (word : CharSet)
  | wordEndHalf (word : CharSet)
deriving Repr

namespace Assertion

/-- Whether the assertion holds between two characters; `none` stands for an end of the text. -/
def holds (before after : Option Char) : Assertion → Bool
  | textStart => before.isNone
  | textEnd => after.isNone
  | lineStart => before.all (· = '\n')
  | lineEnd => after.all (· = '\n')
  | lineStartCrlf => before.all (fun c => c = '\n' || (c = '\r' && after != some '\n'))
  | lineEndCrlf => after.all (fun c => c = '\r' || (c = '\n' && before != some '\r'))
  | wordBoundary w => isIn w before != isIn w after
  | notWordBoundary w => isIn w before == isIn w after
  | wordStart w => !isIn w before && isIn w after
  | wordEnd w => isIn w before && !isIn w after
  | wordStartHalf w => !isIn w before
  | wordEndHalf w => !isIn w after
where
  isIn (w : CharSet) (c : Option Char) : Bool := c.any (fun c => w.contains c.toNat)

end Assertion

inductive Regex where
  | empty
  /-- A change of flags for what follows; it covers nothing. -/
  | directive
  | chars (set : CharSet) (nesting : Nat)
  | assert (a : Assertion)
  | group (r : Regex)
  /-- At least `min` times `r`, and at most `max` times if there is a limit. -/
  | rep (r : Regex) (min : Nat) (max : Option Nat)
  | seq (a b : Regex)
  | alt (a b : Regex)
deriving Repr

namespace Regex

inductive Matches (text : List Char) : Regex → Nat → Nat → Prop where
  | empty (i) : Matches text empty i i
  | directive (i) : Matches text directive i i
  | chars {set nesting i c} : text[i]? = some c → set.contains c.toNat = true →
      Matches text (chars set nesting) i (i + 1)
  | assert {a i} : i ≤ text.length →
      a.holds (if i = 0 then none else text[i - 1]?) text[i]? = true →
      Matches text (assert a) i i
  | group {r i j} : Matches text r i j → Matches text (group r) i j
  | repDone {r max i} : Matches text (.rep r 0 max) i i
  | repMore {r min max i j k} : max ≠ some 0 → Matches text r i j →
      Matches text (.rep r (min - 1) (max.map (· - 1))) j k →
      Matches text (.rep r min max) i k
  | seq {a b i j k} : Matches text a i j → Matches text b j k → Matches text (seq a b) i k
  | altLeft {a b i j} : Matches text a i j → Matches text (alt a b) i j
  | altRight {a b i j} : Matches text b i j → Matches text (alt a b) i j

/-- Levels of groups, repetitions, sequences, alternatives and brackets above the deepest leaf. A
row of sequences or of alternatives counts as one level. -/
def nesting : Regex → Nat
  | empty | directive | assert _ => 0
  | chars _ n => n
  | group r => r.nesting + 1
  | .rep r _ _ => r.nesting + 1
  | seq a b => max (a.nesting + 1) (match b with | seq _ _ => b.nesting | _ => b.nesting + 1)
  | alt a b => max (a.nesting + 1) (match b with | alt _ _ => b.nesting | _ => b.nesting + 1)

def isAssertive : Regex → Bool
  | empty | directive | assert _ => true
  | chars _ _ => false
  | group r => r.isAssertive
  | .rep r _ max => r.isAssertive || max == some 0
  | seq a b => a.isAssertive && b.isAssertive
  | alt a b => a.isAssertive && b.isAssertive

/-- About how much room the expression takes once its repetitions are written out. -/
def weight : Regex → Nat
  | empty | directive | assert _ => 24
  | chars set _ => 24 + 16 * set.rangeCount
  | group r => r.weight + 48
  | .rep r min max =>
    let times := match max with
      | some n => n
      | none => if min = 0 then 1 else min
    if r.isAssertive then r.weight else times * (r.weight + 24)
  | seq a b => a.weight + b.weight
  | alt a b => a.weight + b.weight + 24

end Regex
end TypedPid
