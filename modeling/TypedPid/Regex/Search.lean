import TypedPid.Regex.Basic

/-!
Searching a text for a regular expression. A set of positions is a number, its bits the positions;
`ends r s` are the positions where a match of `r` that starts in `s` can end. All matches are
followed at once, so no expression makes the search run away.
-/
namespace TypedPid.Regex

open Unicode

/-- The positions `i` of the text at which `p` accepts the characters before and after. -/
def positions (p : Option Char → Option Char → Bool) (text : List Char) : Nat :=
  go none text
where
  go (before : Option Char) : List Char → Nat
    | [] => (p before none).toNat
    | c :: cs => (p before (some c)).toNat + 2 * go (some c) cs

/-- Adds to `s` what `f` reaches from it, as long as that is new; `fuel` bounds the rounds. -/
def closure (f : Nat → Nat) : (fuel : Nat) → (s : Nat) → Nat
  | 0, s => s
  | fuel + 1, s =>
    let t := s ||| f s
    if t = s then s else closure f fuel t

def rounds (f : Nat → Nat) : (n : Nat) → (s : Nat) → Nat
  | 0, s => s
  | n + 1, s => if s = 0 then 0 else rounds f n (f s)

def upTo (f : Nat → Nat) : (n : Nat) → (s : Nat) → Nat
  | 0, s => s
  | n + 1, s => if s = 0 then 0 else s ||| upTo f n (f s)

def ends (text : List Char) : Regex → Nat → Nat
  | empty, s | directive, s => s
  | chars set _, s => 2 * (s &&& positions (fun _ after => after.any (set.contains ·.toNat)) text)
  | assert a, s => s &&& positions a.holds text
  | group r, s => ends text r s
  | .rep r min none, s => closure (ends text r) (text.length + 1) (rounds (ends text r) min s)
  | .rep r min (some max), s =>
    if min ≤ max then upTo (ends text r) (max - min) (rounds (ends text r) min s) else 0
  | seq a b, s => ends text b (ends text a s)
  | alt a b, s => ends text a s ||| ends text b s

def isMatch (r : Regex) (text : List Char) : Bool :=
  ends text r (Nat.pow 2 (text.length + 1) - 1) != 0

end TypedPid.Regex
