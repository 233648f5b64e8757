import TypedPid.Regex.Brackets
import TypedPid.Regex.Search

/-!
Reading a regular expression. `Regex.ofString?` accepts a text that is well formed, nests at most
`nestLimit` levels, and stays below `weightLimit` once its repetitions are written out.
-/
namespace TypedPid.Regex

open Unicode

/-- What is known where a part begins: the flags, and the names of the groups before it. -/
structure Scope where
  flags : Flags := {}
  names : List (List Char) := []

def sequence : List Regex → Regex
  | [] => .empty
  | [r] => r
  | r :: rs => .seq r (sequence rs)

def alternatives : List Regex → Regex
  | [] => .empty
  | [r] => r
  | r :: rs => .alt r (alternatives rs)

/-- A number below 2^32; blanks around it do not count. -/
def count (verbose : Bool) (s : List Char) : Option (List Char) × List Char :=
  let (ds, rest) := gather verbose Char.isDigit false (s.dropWhile isBlank)
  let rest := rest.dropWhile isBlank
  (if ds.isEmpty then none else some ds, rest)

def countValue (ds : Option (List Char)) : Except SyntaxError Nat :=
  match ds with
  | none => .error .invalidCount
  | some ds =>
    let n := ds.foldl (fun n c => 10 * n + (c.toNat - '0'.toNat)) 0
    if n < Nat.pow 2 32 then .ok n else .error .invalidCount

/-- Drops the question mark that makes a repetition lazy. -/
def dropLazy : List Char → List Char
  | '?' :: s => s
  | s => s

def bounds (verbose : Bool) (s : List Char) :
    Except SyntaxError (Nat × Option Nat × List Char) := do
  let (least, s) := count verbose (skip verbose s)
  let (min, max, s) ← match s with
    | ',' :: s =>
      match skip verbose s with
      | '}' :: s => do
        let n ← countValue least
        pure (n, none, '}' :: s)
      | s => do
        let n ← countValue least
        let (most, s) := count verbose s
        pure (n, some (← countValue most), s)
    | s => do
      let n ← countValue least
      pure (n, some n, s)
  match s with
  | '}' :: s =>
    if max.any (· < min) then .error .invalidCount
    else return (min, max, dropLazy (skip verbose s))
  | _ => .error .invalidCount

/-- What can be repeated: the last item, unless there is none or it is a change of flags. -/
def repeatLast (items : List Regex) (min : Nat) (max : Option Nat) :
    Except SyntaxError (List Regex) :=
  match items with
  | [] => .error .nothingToRepeat
  | .empty :: _ => .error .nothingToRepeat
  | .directive :: _ => .error .nothingToRepeat
  | r :: rs => .ok (.rep r min max :: rs)

def flagRun (fl : Flags) (seen : List Flag) (on dangling : Bool) :
    List Char → Except SyntaxError (Flags × Bool × Char × List Char)
  | [] => .error .unclosedGroup
  | c :: s =>
    if c = ':' ∨ c = ')' then
      if dangling then .error .invalidFlags else .ok (fl, seen.isEmpty && on, c, s)
    else if c = '-' then
      if on then flagRun fl seen false true s else .error .invalidFlags
    else match Flag.ofChar? c with
      | none => .error .invalidFlags
      | some f =>
        if seen.contains f then .error .invalidFlags
        else flagRun (fl.set on f) (f :: seen) on false s

def isNameStart (c : Char) : Bool := c = '_' || isAlphabetic c

def isNameRest (c : Char) : Bool :=
  c = '_' || c = '.' || c = '[' || c = ']' || isAlphabetic c || isNumeric c

def groupName (taken : List (List Char)) (s : List Char) :
    Except SyntaxError (List Char × List Char) :=
  match s.span (· ≠ '>') with
  | (name, '>' :: rest) =>
    match name with
    | [] => .error .invalidName
    | c :: cs =>
      if isNameStart c && cs.all isNameRest && !taken.contains name then .ok (name, rest)
      else .error .invalidName
  | _ => .error .invalidName

/-- What stands behind an opening parenthesis: a change of flags, or the scope of a group. -/
inductive Opening where
  | directive (flags : Flags)
  | group (scope : Scope)

def opening (scope : Scope) (s : List Char) : Except SyntaxError (Opening × List Char) :=
  match skip scope.flags.verbose s with
  | '?' :: '=' :: _ | '?' :: '!' :: _ | '?' :: '<' :: '=' :: _ | '?' :: '<' :: '!' :: _ =>
    .error .unsupported
  | '?' :: 'P' :: '<' :: s | '?' :: '<' :: s =>
    (groupName scope.names s).map fun (name, rest) =>
      (.group { scope with names := name :: scope.names }, rest)
  | '?' :: s =>
    match flagRun scope.flags [] true false s with
    | .error e => .error e
    | .ok (flags, unchanged, c, rest) =>
      if c = ':' then .ok (.group { scope with flags }, rest)
      else if unchanged then .error .nothingToRepeat
      else .ok (.directive flags, rest)
  | s => .ok (.group scope, s)

def item (fl : Flags) (c : Char) (s : List Char) : Except SyntaxError (Regex × List Char) :=
  match c with
  | '\\' =>
    (escape fl s).map fun (atom, rest) =>
      match atom with
      | .char c => (fl.literal c, rest)
      | .set s => (.chars s 0, rest)
      | .assert a => (.assert a, rest)
  | '.' => fl.dot.map fun set => (.chars set 0, s)
  | '^' => .ok (.assert fl.lineStart, s)
  | '$' => .ok (.assert fl.lineEnd, s)
  | c => .ok (fl.literal c, s)

def nestLimit : Nat := 250

/-- Reads up to the parenthesis that closes the group or to the end. `branches` are the alternatives
before the current one, `items` are its items so far, both the last first. Each step reads at least
one character, so `fuel` of the length of the text and one more is enough; `levels` is how many more
groups may be opened. -/
def body : (fuel levels : Nat) → Scope → (branches items : List Regex) → List Char →
    Except SyntaxError (Regex × Scope × List Char)
  | 0, _, _, _, _, _ => .error .tooLarge
  | fuel + 1, levels, scope, branches, items, s =>
    match skip scope.flags.verbose s with
    | [] => .ok (finish branches items, scope, [])
    | ')' :: s => .ok (finish branches items, scope, ')' :: s)
    | '|' :: s => body fuel levels scope (sequence items.reverse :: branches) [] s
    | '(' :: s => do
      match ← opening scope s with
      | (.directive flags, s) =>
        body fuel levels { scope with flags } branches (.directive :: items) s
      | (.group inner, s) =>
        match levels with
        | 0 => .error .tooDeep
        | levels + 1 => do
          let (r, inner, s) ← body fuel levels inner [] [] s
          match s with
          | ')' :: s =>
            body fuel (levels + 1) { scope with names := inner.names } branches (.group r :: items) s
          | _ => .error .unclosedGroup
    | '[' :: s => do
      let (m, s) ← bracketSet scope.flags nestLimit s
      body fuel levels scope branches (.chars m.set m.nesting :: items) s
    | '?' :: s => do
      body fuel levels scope branches (← repeatLast items 0 (some 1)) (dropLazy s)
    | '*' :: s => do
      body fuel levels scope branches (← repeatLast items 0 none) (dropLazy s)
    | '+' :: s => do
      body fuel levels scope branches (← repeatLast items 1 none) (dropLazy s)
    | '{' :: s => do
      let (min, max, s) ← bounds scope.flags.verbose s
      body fuel levels scope branches (← repeatLast items min max) s
    | c :: s => do
      let (r, s) ← item scope.flags c s
      body fuel levels scope branches (r :: items) s
where
  finish (branches items : List Regex) : Regex :=
    alternatives (sequence items.reverse :: branches).reverse

def weightLimit : Nat := 10 * Nat.pow 2 20

def ofString? (s : String) : Except SyntaxError Regex := do
  let (r, _, rest) ← body (s.toList.length + 1) nestLimit {} [] [] s.toList
  if ¬ rest.isEmpty then .error .unopenedGroup
  else if nestLimit < r.nesting then .error .tooDeep
  else if weightLimit < r.weight then .error .tooLarge
  else return r

end TypedPid.Regex
