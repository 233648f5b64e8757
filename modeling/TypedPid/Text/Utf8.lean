/-!
Text as UTF-8 bytes. Decoding takes any bytes: where they are no text, each longest beginning of a
character is one fault.
-/
namespace TypedPid.Utf8

/-- A byte behind the six low bits of a code point that it carries. -/
def trail (n : Nat) : UInt8 := UInt8.ofNat (0x80 + n % 0x40)

def encodeChar (c : Char) : List UInt8 :=
  let n := c.toNat
  if n < 0x80 then [UInt8.ofNat n]
  else if n < 0x800 then [UInt8.ofNat (0xC0 + n / 0x40), trail n]
  else if n < 0x10000 then [UInt8.ofNat (0xE0 + n / 0x1000), trail (n / 0x40), trail n]
  else [UInt8.ofNat (0xF0 + n / 0x40000), trail (n / 0x1000), trail (n / 0x40), trail n]

def encode (s : String) : List UInt8 := s.toList.flatMap encodeChar

/-- How a character goes on after its first byte: how many bytes follow, the bits of the first one,
and between which values the second one lies. -/
def lead (b : Nat) : Option (Nat × Nat × Nat × Nat) :=
  if 0xC2 ≤ b ∧ b ≤ 0xDF then some (1, b - 0xC0, 0x80, 0xBF)
  else if b = 0xE0 then some (2, 0, 0xA0, 0xBF)
  else if b = 0xED then some (2, 0xD, 0x80, 0x9F)
  else if 0xE1 ≤ b ∧ b ≤ 0xEF then some (2, b - 0xE0, 0x80, 0xBF)
  else if b = 0xF0 then some (3, 0, 0x90, 0xBF)
  else if b = 0xF4 then some (3, 4, 0x80, 0x8F)
  else if 0xF1 ≤ b ∧ b ≤ 0xF3 then some (3, b - 0xF0, 0x80, 0xBF)
  else none

/-- Reads the `count` bytes that are left of a character, of which `n` was read. The next one lies
between `lo` and `hi`. -/
def tail (n lo hi : Nat) : (count : Nat) → List UInt8 → Option Char × List UInt8
  | 0, bs => (some (Char.ofNat n), bs)
  | _ + 1, [] => (none, [])
  | count + 1, b :: bs =>
    if lo ≤ b.toNat ∧ b.toNat ≤ hi then tail (0x40 * n + (b.toNat - 0x80)) 0x80 0xBF count bs
    else (none, b :: bs)

theorem tail_length (n lo hi count : Nat) (bs : List UInt8) :
    (tail n lo hi count bs).2.length ≤ bs.length := by
  induction count generalizing n lo hi bs with
  | zero => exact Nat.le_refl _
  | succ count ih =>
    cases bs with
    | nil => exact Nat.le_refl _
    | cons b bs =>
      simp only [tail]
      split
      · exact Nat.le_succ_of_le (ih _ _ _ _)
      · exact Nat.le_refl _

def character (b : UInt8) (bs : List UInt8) : Option Char × List UInt8 :=
  if b.toNat < 0x80 then (some (Char.ofNat b.toNat), bs)
  else
    match lead b.toNat with
    | none => (none, bs)
    | some (count, n, lo, hi) => tail n lo hi count bs

theorem character_length (b : UInt8) (bs : List UInt8) :
    (character b bs).2.length ≤ bs.length := by
  unfold character
  split
  · exact Nat.le_refl _
  · split
    · exact Nat.le_refl _
    · exact tail_length _ _ _ _ _

/-- Decodes the bytes behind those that were already `found` to be something, the last one first. -/
def decodeOnto (found : List (Option Char)) (bs : List UInt8) : List (Option Char) :=
  match bs with
  | [] => found.reverse
  | b :: bs => decodeOnto ((character b bs).1 :: found) (character b bs).2
termination_by bs.length
decreasing_by
  have := character_length b bs
  simp only [List.length_cons]
  omega

/-- The characters that the bytes write, and none for each fault. -/
def decode (bs : List UInt8) : List (Option Char) := decodeOnto [] bs

theorem decodeOnto_eq (found : List (Option Char)) (bs : List UInt8) :
    decodeOnto found bs = found.reverse ++ decode bs := by
  induction h : bs.length using Nat.strongRecOn generalizing found bs with
  | ind n ih =>
    cases bs with
    | nil => simp [decode, decodeOnto]
    | cons b bs =>
      have hlt : (character b bs).2.length < n := by
        have := character_length b bs
        simp only [List.length_cons] at h
        omega
      rw [decode, decodeOnto, decodeOnto, ih _ hlt _ _ rfl, ih _ hlt [(character b bs).1] _ rfl]
      simp

theorem decode_cons (b : UInt8) (bs : List UInt8) :
    decode (b :: bs) = (character b bs).1 :: decode (character b bs).2 := by
  rw [decode, decodeOnto, decodeOnto_eq]
  rfl

def decode? (bs : List UInt8) : Option String := ((decode bs).mapM id).map String.ofList

def decodeLossy (bs : List UInt8) : String :=
  String.ofList ((decode bs).map (·.getD '\uFFFD'))

end TypedPid.Utf8
