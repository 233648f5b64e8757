import TypedPid.Json.Number
import TypedPid.Text.Hex

/-!
The tree of a JSON text, as far as the text is well formed. A tree marks the place where its text
goes wrong, so that what stands before that place can still be looked at first. Numbers, and strings
with escapes that stand for no character, are kept as they are: whether they have a value matters
only where it is asked for.
-/
namespace TypedPid.Json

/-- A text as it arrives: its characters, and `none` for a byte that is part of no character. -/
abbrev Source := List (Option Char)

def Source.ofString (s : String) : Source := s.toList.map some

inductive Node where
  | null
  | bool (b : Bool)
  | number (n : NumberLiteral)
  /-- A string, or none if it stands for no row of characters. -/
  | string (s : Option String)
  | array (items : List Node) (closed : Bool)
  | object (members : List (Option String × Node)) (closed : Bool)
  /-- The text goes wrong here. -/
  | broken

def isSpace (c : Char) : Bool := c = ' ' || c = '\t' || c = '\n' || c = '\r'

def skipSpace : Source → Source
  | [] => []
  | none :: s => none :: s
  | some c :: s => if isSpace c then skipSpace s else some c :: s

def codeUnit? (a b c d : Option Char) : Option Nat := do
  let ds := [← a, ← b, ← c, ← d]
  if ds.all Hex.isDigit then some (Hex.value ds) else none

def simpleEscape? : Char → Option Char
  | '"' => some '"'
  | '\\' => some '\\'
  | '/' => some '/'
  | 'b' => some '\x08'
  | 'f' => some '\x0C'
  | 'n' => some '\n'
  | 'r' => some '\r'
  | 't' => some '\t'
  | _ => none

def isHighSurrogate (n : Nat) : Bool := 0xD800 ≤ n && n < 0xDC00

def isLowSurrogate (n : Nat) : Bool := 0xDC00 ≤ n && n < 0xE000

def surrogatePair (high low : Nat) : Char :=
  Char.ofNat (0x10000 + (high - 0xD800) * 0x400 + (low - 0xDC00))

/-- Reads the second half of a character whose first half is `high`. Where none follows, the first
half alone stands for no character. -/
def lowHalf (high : Nat) : Source → Option Char × Source
  | some '\\' :: some 'u' :: a :: b :: c :: d :: rest =>
    match (codeUnit? a b c d).filter isLowSurrogate with
    | some low => (some (surrogatePair high low), rest)
    | none => (none, some '\\' :: some 'u' :: a :: b :: c :: d :: rest)
  | s => (none, s)

/-- The character that a code unit stands for, together with the code unit behind it if the two are
halves of one character. -/
def unitCharacter (unit : Nat) (s : Source) : Option Char × Source :=
  if isHighSurrogate unit then lowHalf unit s
  else if isLowSurrogate unit then (none, s)
  else (some (Char.ofNat unit), s)

def escape? : Source → Option (Option Char × Source)
  | some 'u' :: a :: b :: c :: d :: s => (codeUnit? a b c d).map (unitCharacter · s)
  | some e :: s => (simpleEscape? e).map fun c => (some c, s)
  | _ => none

def character? : Source → Option (Option Char × Source)
  | [] => none
  | none :: s => some (none, s)
  | some c :: s =>
    if c = '\\' then escape? s
    else if c.toNat < 0x20 then none
    else some (some c, s)

theorem lowHalf_length (high : Nat) (s : Source) : (lowHalf high s).2.length ≤ s.length := by
  unfold lowHalf
  grind

theorem unitCharacter_length (unit : Nat) (s : Source) :
    (unitCharacter unit s).2.length ≤ s.length := by
  have := lowHalf_length unit s
  unfold unitCharacter
  grind

theorem escape?_length {s rest : Source} {c : Option Char} (h : escape? s = some (c, rest)) :
    rest.length < s.length := by
  unfold escape? at h
  split at h
  · next d s =>
    obtain ⟨unit, -, hu⟩ := Option.map_eq_some_iff.1 h
    have := unitCharacter_length unit s
    simp only [hu, List.length_cons] at this ⊢
    omega
  · obtain ⟨_, -, hu⟩ := Option.map_eq_some_iff.1 h
    simp_all
  · simp at h

theorem character?_length {s rest : Source} {c : Option Char} (h : character? s = some (c, rest)) :
    rest.length < s.length := by
  unfold character? at h
  split at h
  · simp at h
  · simp_all
  · split at h
    · have := escape?_length h
      simp only [List.length_cons]
      omega
    · grind

/-- Reads the rest of a string behind its opening quote. `found` holds what was read, the last
character first; it is none once something stood for no character. -/
def stringBody (found : Option (List Char)) (s : Source) : Option (Option String × Source) :=
  if s.head? = some (some '"') then some (found.map fun cs => String.ofList cs.reverse, s.drop 1)
  else
    match _h : character? s with
    | none => none
    | some (c, rest) => stringBody (do return (← c) :: (← found)) rest
termination_by s.length
decreasing_by exact character?_length _h

def digits : Source → List Char × Source
  | some c :: s =>
    if c.isDigit then
      let (ds, rest) := digits s
      (c :: ds, rest)
    else ([], some c :: s)
  | s => ([], s)

def power? : Source → Option (Option (Bool × List Char) × Source)
  | some e :: s =>
    if e = 'e' ∨ e = 'E' then
      let (below, s) := match s with
        | some '-' :: s => (true, s)
        | some '+' :: s => (false, s)
        | s => (false, s)
      match digits s with
      | ([], _) => none
      | (ds, rest) => some (some (below, ds), rest)
    else some (none, some e :: s)
  | s => some (none, s)

/-- Reads a number. Its whole part has no leading zero. -/
def number? (s : Source) : Option (NumberLiteral × Source) :=
  let (negative, s) := match s with
    | some '-' :: s => (true, s)
    | s => (false, s)
  match digits s with
  | ([], _) => none
  | ('0' :: _ :: _, _) => none
  | (whole, some '.' :: s) =>
    match digits s with
    | ([], _) => none
    | (fraction, s) => (power? s).map fun (power, s) => (⟨negative, whole, some fraction, power⟩, s)
  | (whole, s) => (power? s).map fun (power, s) => (⟨negative, whole, none, power⟩, s)

def word (rest : List Char) (n : Node) (s : Source) : Node × Source :=
  if (rest.map some).isPrefixOf s then (n, s.drop rest.length) else (.broken, [])

mutual

/-- Reads a value and gives what follows it, which is nothing if the value is not complete. Every
second call reads a character, so twice the length of the text is enough `fuel`. -/
def node : (fuel : Nat) → Source → Node × Source
  | 0, _ => (.broken, [])
  | fuel + 1, s =>
    match skipSpace s with
    | some 'n' :: s => word ['u', 'l', 'l'] .null s
    | some 't' :: s => word ['r', 'u', 'e'] (.bool true) s
    | some 'f' :: s => word ['a', 'l', 's', 'e'] (.bool false) s
    | some '"' :: s =>
      match stringBody (some []) s with
      | some (text, rest) => (.string text, rest)
      | none => (.broken, [])
    | some '[' :: s =>
      match skipSpace s with
      | some ']' :: rest => (.array [] true, rest)
      | s =>
        let (items, closed, rest) := items fuel s
        (.array items closed, rest)
    | some '{' :: s =>
      match skipSpace s with
      | some '}' :: rest => (.object [] true, rest)
      | s =>
        let (members, closed, rest) := members fuel s
        (.object members closed, rest)
    | s =>
      match number? s with
      | some (n, rest) => (.number n, rest)
      | none => (.broken, [])

def items : (fuel : Nat) → Source → List Node × Bool × Source
  | 0, _ => ([], false, [])
  | fuel + 1, s =>
    let (n, rest) := node fuel s
    match skipSpace rest with
    | some ',' :: rest =>
      let (ns, closed, rest) := items fuel rest
      (n :: ns, closed, rest)
    | some ']' :: rest => ([n], true, rest)
    | _ => ([n], false, [])

def members : (fuel : Nat) → Source → List (Option String × Node) × Bool × Source
  | 0, _ => ([], false, [])
  | fuel + 1, s =>
    match skipSpace s with
    | some '"' :: s =>
      match stringBody (some []) s with
      | none => ([], false, [])
      | some (key, s) =>
        match skipSpace s with
        | some ':' :: s =>
          let (n, rest) := node fuel s
          match skipSpace rest with
          | some ',' :: rest =>
            let (ms, closed, rest) := members fuel rest
            ((key, n) :: ms, closed, rest)
          | some '}' :: rest => ([(key, n)], true, rest)
          | _ => ([(key, n)], false, [])
        | _ => ([(key, .broken)], false, [])
    | _ => ([], false, [])

end

def parse (s : Source) : Node × Source := node (2 * s.length + 2) s

namespace Node

mutual

def complete : Node → Bool
  | broken => false
  | array items closed => closed && completeItems items
  | object members closed => closed && completeMembers members
  | _ => true

def completeItems : List Node → Bool
  | [] => true
  | n :: ns => n.complete && completeItems ns

def completeMembers : List (Option String × Node) → Bool
  | [] => true
  | (_, n) :: ms => n.complete && completeMembers ms

end

mutual

/-- Whether the node, below `depth` arrays and objects, can be read into memory: it is complete, all
its numbers and strings have a value, and it nests at most `limit` deep. -/
def readable (limit depth : Nat) : Node → Bool
  | broken => false
  | number n => n.value?.isSome
  | string s => s.isSome
  | array items closed => depth < limit && readableItems limit (depth + 1) items && closed
  | object members closed => depth < limit && readableMembers limit (depth + 1) members && closed
  | _ => true

def readableItems (limit depth : Nat) : List Node → Bool
  | [] => true
  | n :: ns => n.readable limit depth && readableItems limit depth ns

def readableMembers (limit depth : Nat) : List (Option String × Node) → Bool
  | [] => true
  | (k, n) :: ms => k.isSome && n.readable limit depth && readableMembers limit depth ms

end

end Node
end TypedPid.Json
