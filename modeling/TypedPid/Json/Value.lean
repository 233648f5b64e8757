import TypedPid.Text.Hex

/-!
JSON values and their compact text: no blanks, and escapes only where a character may not stand.
-/
namespace TypedPid.Json

inductive Value where
  | null
  | bool (b : Bool)
  | number (n : Nat)
  | string (s : String)
  | array (items : List Value)
  | object (fields : List (String × Value))

def escaped (c : Char) : List Char :=
  if c = '"' then ['\\', '"']
  else if c = '\\' then ['\\', '\\']
  else if c = '\n' then ['\\', 'n']
  else if c = '\r' then ['\\', 'r']
  else if c = '\t' then ['\\', 't']
  else if c = '\x08' then ['\\', 'b']
  else if c = '\x0C' then ['\\', 'f']
  else if c.toNat < 0x20 then
    ['\\', 'u', '0', '0', Hex.lower (c.toNat / 16), Hex.lower (c.toNat % 16)]
  else [c]

def quoted (s : String) : List Char := '"' :: (s.toList.flatMap escaped ++ ['"'])

namespace Value

mutual

def chars : Value → List Char
  | null => "null".toList
  | bool b => if b then "true".toList else "false".toList
  | number n => (toString n).toList
  | string s => quoted s
  | array items => '[' :: (itemChars items ++ [']'])
  | object fields => '{' :: (fieldChars fields ++ ['}'])

def itemChars : List Value → List Char
  | [] => []
  | [v] => v.chars
  | v :: vs => v.chars ++ ',' :: itemChars vs

def fieldChars : List (String × Value) → List Char
  | [] => []
  | [(k, v)] => quoted k ++ ':' :: v.chars
  | (k, v) :: fs => quoted k ++ ':' :: (v.chars ++ ',' :: fieldChars fs)

end

def text (v : Value) : String := String.ofList v.chars

def optional (s : Option String) : Value :=
  match s with
  | some s => string s
  | none => null

end Value
end TypedPid.Json
