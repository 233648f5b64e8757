import TypedPid.Unicode.Property

/-!
Text in quotes, for messages: a character that would not show, or would run into the one before it,
is written by its number.
-/
namespace TypedPid.Text

/-- Characters that leave no mark of their own, apart from the plain space. -/
def invisible : Unicode.CharSet :=
  .union (Unicode.categories ["cc", "cf", "co", "zl", "zp", "zs"]) Unicode.unassigned

def isVisible (c : Char) : Bool := c = ' ' || !invisible.contains c.toNat

/-- Whether a character is drawn together with the one before it. -/
def combines (c : Char) : Bool := (Unicode.binaryProperty "graphemeextend").contains c.toNat

def shown (c : Char) : List Char :=
  if c = '\x00' then ['\\', '0']
  else if c = '\t' then ['\\', 't']
  else if c = '\n' then ['\\', 'n']
  else if c = '\r' then ['\\', 'r']
  else if c = '"' then ['\\', '"']
  else if c = '\\' then ['\\', '\\']
  else if 0x20 ≤ c.toNat ∧ c.toNat < 0x7F then [c]
  else if combines c || !isVisible c then
    ['\\', 'u', '\x7b'] ++ Nat.toDigits 16 c.toNat ++ ['\x7d']
  else [c]

def quoted (s : String) : String := String.ofList ('"' :: (s.toList.flatMap shown ++ ['"']))

end TypedPid.Text
