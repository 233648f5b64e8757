import TypedPid.Regex.Escape

/-!
Bracketed sets: members, ranges, named sets, nested brackets, and the operations intersection,
difference and symmetric difference, which bind equally and to the left.
-/
namespace TypedPid.Regex

open Unicode

structure Member where
  set : CharSet
  nesting : Nat

inductive SetOp where
  | inter
  | diff
  | symm

namespace Member

/-- Members side by side. Two or more of them make a level of their own. -/
def join : List Member → Member
  | [] => ⟨.empty, 0⟩
  | [m] => m
  | ms => ⟨CharSet.unionAll (ms.map (·.set)), (ms.map (·.nesting)).foldl max 0 + 1⟩

def combine (fl : Flags) (op : SetOp) (a b : Member) : Member where
  set :=
    let (x, y) := (fl.fold a.set, fl.fold b.set)
    match op with
    | .inter => .inter x y
    | .diff => .diff x y
    | .symm => .symm x y
  nesting := max a.nesting b.nesting + 1

/-- The member after the operation that waits for its right side, if one does. -/
def finish (fl : Flags) (waiting : Option (Member × SetOp)) (m : Member) : Member :=
  match waiting with
  | some (left, op) => combine fl op left m
  | none => m

end Member

/-- A named set such as `[:alpha:]`. Whatever has not this form is no named set. -/
def namedSet? : List Char → Option (Ranges × Bool × List Char)
  | '[' :: ':' :: s =>
    let (negated, s) := match s with
      | '^' :: s => (true, s)
      | s => (false, s)
    match s.span (· ≠ ':') with
    | (name, ':' :: ']' :: rest) => (asciiSet? (String.ofList name)).map (·, negated, rest)
    | _ => none
  | _ => none

/-- The next character that is not blank, looked for from behind the current one. A comment sign is
passed over like a blank, and text of blanks alone gives its first character. -/
def peekBeyond (verbose : Bool) (s : List Char) : Option Char :=
  if verbose then (go false s).or s.head? else s.head?
where
  go (passed : Bool) : List Char → Option Char
    | [] => none
    | c :: cs =>
      if isBlank c then go passed cs
      else if !passed && c = '#' then go true cs
      else some c

/-- Reads from behind the opening bracket to the first member: the sign of negation, hyphens, and a
closing bracket that stands first. -/
def openBracket (verbose : Bool) (s : List Char) :
    Except SyntaxError (Bool × List Member × List Char) :=
  match skip verbose s with
  | [] => .error .unclosedSet
  | '^' :: s => (hyphens (skip verbose s) []).map fun (ms, rest) => (true, ms, rest)
  | s => (hyphens s []).map fun (ms, rest) => (false, ms, rest)
where
  hyphens (s : List Char) (found : List Member) : Except SyntaxError (List Member × List Char) :=
    go s.length s found
  go : Nat → List Char → List Member → Except SyntaxError (List Member × List Char)
    | _, [], _ => .error .unclosedSet
    | 0, s, found => .ok (found, s)
    | n + 1, c :: s, found =>
      if c = '-' then go n (skip verbose s) (found ++ [⟨.single '-', 0⟩])
      else if c = ']' ∧ found.isEmpty then
        match skip verbose s with
        | [] => .error .unclosedSet
        | s => .ok ([⟨.single ']', 0⟩], s)
      else .ok (found, c :: s)

def bracketAtom (fl : Flags) : List Char → Except SyntaxError (Atom × List Char)
  | [] => .error .unclosedSet
  | '\\' :: s => escape fl s
  | c :: s => .ok (.char c, s)

/-- A character may stand in a set; without the flag for Unicode only one below 128. -/
def Atom.toMemberChar (fl : Flags) : Atom → Except SyntaxError Char
  | .char c => if fl.unicode ∨ c.toNat < 0x80 then .ok c else .error .notText
  | _ => .error .invalidRange

def Atom.toMember (fl : Flags) : Atom → Except SyntaxError Member
  | .set s => .ok ⟨s, 0⟩
  | .assert _ => .error .invalidSet
  | .char c => ((Atom.char c).toMemberChar fl).map fun c => ⟨.single c, 0⟩

def bracketRange (fl : Flags) (s : List Char) : Except SyntaxError (Member × List Char) := do
  let (first, s) ← bracketAtom fl s
  match skip fl.verbose s with
  | [] => .error .unclosedSet
  | '-' :: beyond =>
    let next := peekBeyond fl.verbose beyond
    if next = some ']' ∨ next = some '-' then
      return (← first.toMember fl, '-' :: beyond)
    match skip fl.verbose beyond with
    | [] => .error .unclosedSet
    | s =>
      let (last, rest) ← bracketAtom fl s
      let lo ← first.toMemberChar fl
      let hi ← last.toMemberChar fl
      if lo ≤ hi then return (⟨.range lo hi, 0⟩, rest) else .error .invalidRange
  | s => return (← first.toMember fl, s)

/-- Reads the rest of a set up to its closing bracket. `waiting` is the left side of an operation,
`found` holds the members since then. Each step reads at least one character, so `fuel` of the
length of the text and one more is enough; `levels` is how many more brackets may be opened. -/
def bracketBody (fl : Flags) : (fuel levels : Nat) → (negated : Bool) →
    (waiting : Option (Member × SetOp)) → (found : List Member) → List Char →
    Except SyntaxError (Member × List Char)
  | 0, _, _, _, _, _ => .error .unclosedSet
  | fuel + 1, levels, negated, waiting, found, s =>
    let operate (op : SetOp) (rest : List Char) :=
      bracketBody fl fuel levels negated (some (Member.finish fl waiting (Member.join found), op))
        [] rest
    match skip fl.verbose s with
    | [] => .error .unclosedSet
    | ']' :: rest => do
      let whole := Member.finish fl waiting (Member.join found)
      let set ← fl.negateIf negated (fl.fold whole.set)
      return (⟨set, whole.nesting + 1⟩, rest)
    | '[' :: rest =>
      match namedSet? ('[' :: rest) with
      | some (ranges, negatedName, rest) => do
        let set ← fl.negateIf negatedName (fl.fold (.ranges ranges))
        bracketBody fl fuel levels negated waiting (found ++ [⟨set, 0⟩]) rest
      | none =>
        match levels with
        | 0 => .error .tooDeep
        | levels + 1 => do
          let (negatedInner, first, rest) ← openBracket fl.verbose rest
          let (inner, rest) ← bracketBody fl fuel levels negatedInner none first rest
          bracketBody fl fuel (levels + 1) negated waiting (found ++ [inner]) rest
    | '&' :: '&' :: rest => operate .inter rest
    | '-' :: '-' :: rest => operate .diff rest
    | '~' :: '~' :: rest => operate .symm rest
    | s => do
      let (member, rest) ← bracketRange fl s
      bracketBody fl fuel levels negated waiting (found ++ [member]) rest

def bracketSet (fl : Flags) (levels : Nat) (s : List Char) :
    Except SyntaxError (Member × List Char) := do
  let (negated, first, rest) ← openBracket fl.verbose s
  bracketBody fl (s.length + 1) levels negated none first rest

end TypedPid.Regex
