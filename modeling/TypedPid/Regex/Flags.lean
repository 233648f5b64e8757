import TypedPid.Unicode.Property
import TypedPid.Unicode.Blank
import TypedPid.Regex.Basic

/-!
The flags under which a part of a regular expression is read, what they make of a character, a set
or an assertion, and the ways in which a text fails to be a regular expression.
-/
namespace TypedPid.Regex

open Unicode

inductive SyntaxError where
  | unclosedGroup
  | unopenedGroup
  | unclosedSet
  | invalidSet
  | invalidRange
  | nothingToRepeat
  | invalidCount
  | invalidEscape
  | invalidFlags
  | invalidName
  | unsupported
  | unknownProperty
  /-- The expression would accept what is not text. -/
  | notText
  | tooDeep
  | tooLarge
deriving Repr, DecidableEq

inductive Flag where
  | caseInsensitive
  | multiLine
  | dotNewline
  /-- Exchanges greedy and lazy repetition, which does not change what is matched. -/
  | swapGreed
  | unicode
  | verbose
  | crlf
deriving Repr, DecidableEq

def Flag.ofChar? : Char → Option Flag
  | 'i' => some .caseInsensitive
  | 'm' => some .multiLine
  | 's' => some .dotNewline
  | 'U' => some .swapGreed
  | 'u' => some .unicode
  | 'x' => some .verbose
  | 'R' => some .crlf
  | _ => none

structure Flags where
  caseInsensitive : Bool := false
  multiLine : Bool := false
  dotNewline : Bool := false
  unicode : Bool := true
  /-- Blanks and comments are skipped. -/
  verbose : Bool := false
  crlf : Bool := false
deriving Repr, DecidableEq

namespace Flags

def set (fl : Flags) (on : Bool) : Flag → Flags
  | .caseInsensitive => { fl with caseInsensitive := on }
  | .multiLine => { fl with multiLine := on }
  | .dotNewline => { fl with dotNewline := on }
  | .swapGreed => fl
  | .unicode => { fl with unicode := on }
  | .verbose => { fl with verbose := on }
  | .crlf => { fl with crlf := on }

def fold (fl : Flags) (set : CharSet) : CharSet :=
  if fl.caseInsensitive then (if fl.unicode then .folded set else .foldedAscii set) else set

/-- The set or its complement. Without the flag for Unicode a complement would hold bytes that are
part of no character. -/
def negateIf (fl : Flags) (negated : Bool) (set : CharSet) : Except SyntaxError CharSet :=
  if negated then (if fl.unicode then .ok (.compl set) else .error .notText) else .ok set

def literal (fl : Flags) (c : Char) : Regex :=
  .chars (if fl.unicode ∨ c.toNat < 0x80 then fl.fold (.single c) else .single c) 0

def dot (fl : Flags) : Except SyntaxError CharSet :=
  if ¬ fl.unicode then .error .notText
  else if fl.dotNewline then .ok .all
  else if fl.crlf then .ok (.diff .all (.ranges [(0x0A, 0x0A), (0x0D, 0x0D)]))
  else .ok (.diff .all (.ranges [(0x0A, 0x0A)]))

def lineStart (fl : Flags) : Assertion :=
  if fl.multiLine then (if fl.crlf then .lineStartCrlf else .lineStart) else .textStart

def lineEnd (fl : Flags) : Assertion :=
  if fl.multiLine then (if fl.crlf then .lineEndCrlf else .lineEnd) else .textEnd

def asciiDigits : CharSet := .ranges [(0x30, 0x39)]

def asciiBlanks : CharSet := .ranges [(0x09, 0x0D), (0x20, 0x20)]

def asciiWord : CharSet := .ranges [(0x30, 0x39), (0x41, 0x5A), (0x5F, 0x5F), (0x61, 0x7A)]

def word (fl : Flags) : CharSet := if fl.unicode then wordCharacters else asciiWord

def digits (fl : Flags) : CharSet := if fl.unicode then decimalDigits else asciiDigits

def blanks (fl : Flags) : CharSet := if fl.unicode then .ranges Unicode.blanks else asciiBlanks

end Flags

def asciiSet? : String → Option Ranges
  | "alnum" => some [(0x30, 0x39), (0x41, 0x5A), (0x61, 0x7A)]
  | "alpha" => some [(0x41, 0x5A), (0x61, 0x7A)]
  | "ascii" => some [(0x00, 0x7F)]
  | "blank" => some [(0x09, 0x09), (0x20, 0x20)]
  | "cntrl" => some [(0x00, 0x1F), (0x7F, 0x7F)]
  | "digit" => some [(0x30, 0x39)]
  | "graph" => some [(0x21, 0x7E)]
  | "lower" => some [(0x61, 0x7A)]
  | "print" => some [(0x20, 0x7E)]
  | "punct" => some [(0x21, 0x2F), (0x3A, 0x40), (0x5B, 0x60), (0x7B, 0x7E)]
  | "space" => some [(0x09, 0x0D), (0x20, 0x20)]
  | "upper" => some [(0x41, 0x5A)]
  | "word" => some [(0x30, 0x39), (0x41, 0x5A), (0x5F, 0x5F), (0x61, 0x7A)]
  | "xdigit" => some [(0x30, 0x39), (0x41, 0x46), (0x61, 0x66)]
  | _ => none

end TypedPid.Regex
