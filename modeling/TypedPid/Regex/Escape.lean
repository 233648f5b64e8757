import TypedPid.Regex.Flags

/-!
What follows a backslash, and the blanks and comments that verbose expressions may hold anywhere.
-/
namespace TypedPid.Regex

open Unicode

/-- The text after blanks and comments; a comment ends with its line. -/
def skipVerbose (inComment : Bool) : List Char → List Char
  | [] => []
  | c :: cs =>
    if inComment then skipVerbose (c ≠ '\n') cs
    else if isBlank c then skipVerbose false cs
    else if c = '#' then skipVerbose true cs
    else c :: cs

def skip (verbose : Bool) (s : List Char) : List Char :=
  if verbose then skipVerbose false s else s

/-- The leading characters that `p` accepts and the rest; in verbose expressions blanks and comments
between them do not count. -/
def gather (verbose : Bool) (p : Char → Bool) (inComment : Bool) :
    List Char → List Char × List Char
  | [] => ([], [])
  | c :: cs =>
    if inComment then gather verbose p (c ≠ '\n') cs
    else if verbose && isBlank c then gather verbose p false cs
    else if verbose && c = '#' then gather verbose p true cs
    else if p c then
      let (taken, rest) := gather verbose p false cs
      (c :: taken, rest)
    else ([], c :: cs)

inductive Atom where
  | char (c : Char)
  | set (s : CharSet)
  | assert (a : Assertion)
deriving Repr

def isMeta (c : Char) : Bool := "\\.+*?()|[]\x7b\x7d^$#&-~".toList.contains c

def isEscapable (c : Char) : Bool :=
  isMeta c || (c.toNat < 0x80 && !c.isAlphanum && c ≠ '<' && c ≠ '>')

def scalar? (n : Nat) : Option Char := if h : n.isValidChar then some (Char.ofNatAux n h) else none

def hexDigits (verbose : Bool) : (n : Nat) → List Char → Except SyntaxError (List Char × List Char)
  | 0, s => .ok ([], s)
  | n + 1, s =>
    match skip verbose s with
    | [] => .error .invalidEscape
    | c :: cs =>
      if Hex.isDigit c then (hexDigits verbose n cs).map fun (ds, rest) => (c :: ds, rest)
      else .error .invalidEscape

/-- A character by its number, in braces or with the given count of digits. Without the flag for
Unicode two digits name a byte, and a byte above 127 is no character. -/
def hexEscape (fl : Flags) (count : Nat) (s : List Char) : Except SyntaxError (Char × List Char) :=
  match skip fl.verbose s with
  | [] => .error .invalidEscape
  | '{' :: cs =>
    match gather fl.verbose Hex.isDigit false cs with
    | (ds, '}' :: rest) =>
      if ds.isEmpty then .error .invalidEscape
      else match scalar? (Hex.value ds) with
        | some c => .ok (c, rest)
        | none => .error .invalidEscape
    | _ => .error .invalidEscape
  | cs =>
    match hexDigits fl.verbose count cs with
    | .error e => .error e
    | .ok (ds, rest) =>
      match scalar? (Hex.value ds) with
      | some c =>
        if count = 2 ∧ ¬ fl.unicode ∧ 0x80 ≤ c.toNat then .error .notText else .ok (c, rest)
      | none => .error .invalidEscape

def splitAtFirst? (separator : List Char) : List Char → Option (List Char × List Char)
  | [] => if separator.isEmpty then some ([], []) else none
  | c :: cs =>
    if separator.isPrefixOf (c :: cs) then some ([], (c :: cs).drop separator.length)
    else (splitAtFirst? separator cs).map fun (before, after) => (c :: before, after)

/-- The set that a property in braces names, and whether the name itself negates it. -/
def propertyInBraces (name : List Char) : Option (CharSet × Bool) :=
  match splitAtFirst? ['!', '='] name with
  | some (kind, value) =>
    (propertyWithValue (String.ofList kind) (String.ofList value)).map (·, true)
  | none =>
    match (splitAtFirst? [':'] name).or (splitAtFirst? ['='] name) with
    | some (kind, value) =>
      (propertyWithValue (String.ofList kind) (String.ofList value)).map (·, false)
    | none => (propertyNamed (String.ofList name)).map (·, false)

def propertyEscape (fl : Flags) (negated : Bool) (s : List Char) :
    Except SyntaxError (CharSet × List Char) :=
  let found : Except SyntaxError (Option (CharSet × Bool) × List Char) :=
    match skip fl.verbose s with
    | [] => .error .invalidEscape
    | '{' :: cs =>
      match gather fl.verbose (· ≠ '}') false cs with
      | (name, '}' :: rest) => .ok (propertyInBraces name, rest)
      | _ => .error .invalidEscape
    | c :: cs => .ok ((propertyNamed (String.singleton c)).map (·, false), cs)
  match found with
  | .error e => .error e
  | .ok (none, _) => .error .unknownProperty
  | .ok (some (set, unequal), rest) =>
    if ¬ fl.unicode then .error .notText
    else (fl.negateIf (negated != unequal) (fl.fold set)).map (·, rest)

/-- The kind of border that braces after a word border name. A brace that does not open a name is
left for the count of a repetition. -/
def namedBorder (fl : Flags) (s : List Char) : Except SyntaxError (Assertion × List Char) :=
  let letter (c : Char) : Bool := c.isAlpha || c = '-'
  match s with
  | '{' :: cs =>
    match skip fl.verbose cs with
    | [] => .error .invalidEscape
    | c :: cs =>
      if letter c then
        match gather fl.verbose letter false (c :: cs) with
        | (name, '}' :: rest) =>
          match String.ofList name with
          | "start" => .ok (.wordStart fl.word, rest)
          | "end" => .ok (.wordEnd fl.word, rest)
          | "start-half" => .ok (.wordStartHalf fl.word, rest)
          | "end-half" => .ok (.wordEndHalf fl.word, rest)
          | _ => .error .invalidEscape
        | _ => .error .invalidEscape
      else .ok (.wordBoundary fl.word, s)
  | _ => .ok (.wordBoundary fl.word, s)

def escape (fl : Flags) : List Char → Except SyntaxError (Atom × List Char)
  | [] => .error .invalidEscape
  | c :: s =>
    let setAtom (negated : Bool) (set : CharSet) := (fl.negateIf negated set).map (Atom.set ·, s)
    match c with
    | 'x' => (hexEscape fl 2 s).map fun (c, rest) => (.char c, rest)
    | 'u' => (hexEscape fl 4 s).map fun (c, rest) => (.char c, rest)
    | 'U' => (hexEscape fl 8 s).map fun (c, rest) => (.char c, rest)
    | 'p' => (propertyEscape fl false s).map fun (set, rest) => (.set set, rest)
    | 'P' => (propertyEscape fl true s).map fun (set, rest) => (.set set, rest)
    | 'd' => setAtom false fl.digits
    | 'D' => setAtom true fl.digits
    | 's' => setAtom false fl.blanks
    | 'S' => setAtom true fl.blanks
    | 'w' => setAtom false fl.word
    | 'W' => setAtom true fl.word
    | 'a' => .ok (.char '\x07', s)
    | 'f' => .ok (.char '\x0C', s)
    | 't' => .ok (.char '\t', s)
    | 'n' => .ok (.char '\n', s)
    | 'r' => .ok (.char '\r', s)
    | 'v' => .ok (.char '\x0B', s)
    | 'A' => .ok (.assert .textStart, s)
    | 'z' => .ok (.assert .textEnd, s)
    | 'b' => (namedBorder fl s).map fun (a, rest) => (.assert a, rest)
    | 'B' => .ok (.assert (.notWordBoundary fl.word), s)
    | '<' => .ok (.assert (.wordStart fl.word), s)
    | '>' => .ok (.assert (.wordEnd fl.word), s)
    | c =>
      if c.isDigit then .error .unsupported
      else if isEscapable c then .ok (.char c, s)
      else .error .invalidEscape

end TypedPid.Regex
