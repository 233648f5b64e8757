import TypedPid.Text.Hex
import TypedPid.Text.Utf8

/-!
Percent-encoding: a byte is written as a percent sign and two hexadecimal digits. What is no such
sequence stands for itself.
-/
namespace TypedPid.Percent

def encodeByte (b : UInt8) : List Char := ['%', Hex.upper (b.toNat / 16), Hex.upper b.toNat]

/-- Encodes the characters of a set; outside ASCII all are encoded. -/
def encodeChar (set : Char → Bool) (c : Char) : List Char :=
  if 0x80 ≤ c.toNat || set c then (Utf8.encodeChar c).flatMap encodeByte else [c]

def encode (set : Char → Bool) (cs : List Char) : List Char := cs.flatMap (encodeChar set)

def hexDigit? (b : UInt8) : Option Nat := Hex.digit? (Char.ofNat b.toNat)

/-- The bytes that encoded bytes stand for. -/
def decode : List UInt8 → List UInt8
  | 0x25 :: a :: b :: bs =>
    match hexDigit? a, hexDigit? b with
    | some high, some low => UInt8.ofNat (16 * high + low) :: decode bs
    | _, _ => 0x25 :: decode (a :: b :: bs)
  | b :: bs => b :: decode bs
  | [] => []

end TypedPid.Percent
