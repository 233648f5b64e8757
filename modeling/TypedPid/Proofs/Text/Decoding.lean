import Mathlib.Tactic.Common
import TypedPid.Url.Basic

/-!
Text that is written as bytes, or with percent signs, is read back as what it was.
-/

namespace TypedPid

namespace Utf8

variable {n m lo hi count : Nat} {b : UInt8} {bs rest : List UInt8} {c : Char} {cs ps : List Char}
  {s : String}

-- with the size as a number, for `omega`
lemma toNat_ofNat_of_lt (h : n < 0x100) : (UInt8.ofNat n).toNat = n :=
  UInt8.toNat_ofNat_of_lt' h

lemma toNat_trail (n : Nat) : (trail n).toNat = 0x80 + n % 0x40 :=
  toNat_ofNat_of_lt (by omega)

lemma tail_trail (hlo : lo ≤ 0x80 + m % 0x40) (hhi : 0x80 + m % 0x40 ≤ hi) :
    tail n lo hi (count + 1) (trail m :: bs) = tail (0x40 * n + m % 0x40) 0x80 0xBF count bs := by
  rw [tail, toNat_trail, if_pos ⟨hlo, hhi⟩, Nat.add_sub_cancel_left]

lemma character_of_lead (hb : 0x80 ≤ n) (hn : n < 0x100) (hl : lead n = some (count, m, lo, hi)) :
    character (UInt8.ofNat n) bs = tail m lo hi count bs := by
  rw [character, toNat_ofNat_of_lt hn, if_neg (Nat.not_lt.2 hb), hl]

/-- The first of three bytes, and the bounds that the second one keeps. -/
lemma lead_three (hlo : 0x800 ≤ n) (hhi : n < 0x10000) (hs : n < 0xD800 ∨ 0xDFFF < n) :
    ∃ lo hi, lead (0xE0 + n / 0x1000) = some (2, n / 0x1000, lo, hi) ∧
      lo ≤ 0x80 + n / 0x40 % 0x40 ∧ 0x80 + n / 0x40 % 0x40 ≤ hi := by
  rcases Nat.lt_or_ge n 0x1000 with h | h
  · have hq : n / 0x1000 = 0 := by omega
    exact ⟨0xA0, 0xBF, by rw [hq]; rfl, by omega, by omega⟩
  · by_cases hd : n / 0x1000 = 0xD
    · exact ⟨0x80, 0x9F, by rw [hd]; rfl, by omega, by omega⟩
    · refine ⟨0x80, 0xBF, ?_, by omega, by omega⟩
      rw [lead, if_neg (by omega), if_neg (by omega), if_neg (by omega), if_pos (by omega),
        Nat.add_sub_cancel_left]

/-- The first of four bytes, and the bounds that the second one keeps. -/
lemma lead_four (hlo : 0x10000 ≤ n) (hhi : n < 0x110000) :
    ∃ lo hi, lead (0xF0 + n / 0x40000) = some (3, n / 0x40000, lo, hi) ∧
      lo ≤ 0x80 + n / 0x1000 % 0x40 ∧ 0x80 + n / 0x1000 % 0x40 ≤ hi := by
  have hq : n / 0x40000 = 0 ∨ n / 0x40000 = 4 ∨ (1 ≤ n / 0x40000 ∧ n / 0x40000 ≤ 3) := by omega
  rcases hq with hq | hq | hq
  · exact ⟨0x90, 0xBF, by rw [hq]; rfl, by omega, by omega⟩
  · exact ⟨0x80, 0x8F, by rw [hq]; rfl, by omega, by omega⟩
  · refine ⟨0x80, 0xBF, ?_, by omega, by omega⟩
    rw [lead, if_neg (by omega), if_neg (by omega), if_neg (by omega), if_neg (by omega),
      if_neg (by omega), if_neg (by omega), if_pos (by omega), Nat.add_sub_cancel_left]

lemma decode_encodeChar (c : Char) (bs : List UInt8) :
    decode (encodeChar c ++ bs) = some c :: decode bs := by
  have hc : c.toNat < 0xD800 ∨ (0xDFFF < c.toNat ∧ c.toNat < 0x110000) := c.valid
  have hdone : ∀ n, n = c.toNat → tail n 0x80 0xBF 0 bs = (some c, bs) := by
    rintro n rfl
    rw [tail, Char.ofNat_toNat]
  unfold encodeChar
  dsimp only
  split
  · next h =>
    rw [List.cons_append, List.nil_append, decode_cons, character, toNat_ofNat_of_lt (by omega),
      if_pos h, Char.ofNat_toNat]
  split
  · next h₁ h₂ =>
    have hl : lead (0xC0 + c.toNat / 0x40) = some (1, c.toNat / 0x40, 0x80, 0xBF) := by
      rw [lead, if_pos (by omega), Nat.add_sub_cancel_left]
    rw [List.cons_append, decode_cons, character_of_lead (by omega) (by omega) hl,
      List.cons_append, List.nil_append, tail_trail (by omega) (by omega), hdone _ (by omega)]
  split
  · next h₁ h₂ h₃ =>
    obtain ⟨lo, hi, hl, hlo, hhi⟩ := lead_three (n := c.toNat) (by omega) h₃ (by omega)
    rw [List.cons_append, decode_cons, character_of_lead (by omega) (by omega) hl,
      List.cons_append, List.cons_append, List.nil_append, tail_trail hlo hhi,
      tail_trail (by omega) (by omega), hdone _ (by omega)]
  · next h₁ h₂ h₃ =>
    obtain ⟨lo, hi, hl, hlo, hhi⟩ := lead_four (n := c.toNat) (by omega) (by omega)
    rw [List.cons_append, decode_cons, character_of_lead (by omega) (by omega) hl,
      List.cons_append, List.cons_append, List.cons_append, List.nil_append, tail_trail hlo hhi,
      tail_trail (by omega) (by omega), tail_trail (by omega) (by omega), hdone _ (by omega)]

lemma decode_flatMap_encodeChar (cs : List Char) :
    decode (cs.flatMap encodeChar) = cs.map some := by
  induction cs with
  | nil => simp [decode, decodeOnto]
  | cons c cs ih => rw [List.flatMap_cons, decode_encodeChar, ih, List.map_cons]

theorem decode?_flatMap_encodeChar (cs : List Char) :
    decode? (cs.flatMap encodeChar) = some (String.ofList cs) := by
  have hall : (cs.map some).mapM id = some cs := by
    induction cs with
    | nil => rfl
    | cons c cs ih => simp [ih]
  rw [decode?, decode_flatMap_encodeChar, hall, Option.map_some]

lemma encodeChar_of_lt (h : c.toNat < 0x80) : encodeChar c = [UInt8.ofNat c.toNat] := by
  rw [encodeChar, if_pos h]

section Reading

lemma toNat_ofNat_char (h : n < 0xD800 ∨ (0xDFFF < n ∧ n < 0x110000)) : (Char.ofNat n).toNat = n := by
  rw [Char.ofNat, dif_pos h]
  rfl

lemma trail_congr (h : n % 0x40 = m % 0x40) : trail n = trail m := by
  rw [trail, trail, h]

lemma tail_succ_eq (hlo : 0x80 ≤ lo) (hhi : hi ≤ 0xBF)
    (h : tail n lo hi (count + 1) bs = (some c, rest)) : ∃ m bs', bs = trail m :: bs' ∧ m < 0x40 ∧
      lo ≤ 0x80 + m ∧ 0x80 + m ≤ hi ∧ tail (0x40 * n + m) 0x80 0xBF count bs' = (some c, rest) := by
  cases bs with
  | nil => cases h
  | cons b bs =>
    rw [tail] at h
    split at h
    · next hb =>
      refine ⟨b.toNat - 0x80, bs, ?_, by omega, by omega, by omega, h⟩
      have htrail : (trail (b.toNat - 0x80)).toNat = b.toNat := by
        rw [toNat_trail]
        omega
      rw [UInt8.toNat_inj.1 htrail]
    · cases h

lemma lead_cases (h : lead n = some (count, m, lo, hi)) : 0x80 ≤ lo ∧ hi ≤ 0xBF ∧
    ((count = 1 ∧ n = 0xC0 + m ∧ 2 ≤ m ∧ m < 0x20) ∨
      (count = 2 ∧ n = 0xE0 + m ∧ m < 0x10 ∧ (m = 0 → 0xA0 ≤ lo) ∧ (m = 0xD → hi ≤ 0x9F)) ∨
      (count = 3 ∧ n = 0xF0 + m ∧ m ≤ 4 ∧ (m = 0 → 0x90 ≤ lo) ∧ (m = 4 → hi ≤ 0x8F))) := by
  unfold lead at h
  repeat' split at h
  all_goals
    simp only [Option.some.injEq, Prod.mk.injEq, reduceCtorEq] at h
    try obtain ⟨rfl, rfl, rfl, rfl⟩ := h
    try omega

lemma encodeChar_of_character (h : character b bs = (some c, rest)) :
    b :: bs = encodeChar c ++ rest := by
  have hb := b.toNat_lt
  have hfirst : ∀ k, b.toNat = k → b = UInt8.ofNat k := by
    rintro k rfl
    rw [UInt8.ofNat_toNat]
  have hdone : ∀ {k bs'}, tail k 0x80 0xBF 0 bs' = (some c, rest) → c = Char.ofNat k ∧ bs' = rest := by
    intro k bs' hk
    cases hk
    exact ⟨rfl, rfl⟩
  unfold character at h
  split at h
  · next hlt =>
    cases h
    have hc : (Char.ofNat b.toNat).toNat = b.toNat := toNat_ofNat_char (by omega)
    rw [encodeChar_of_lt (by omega), hc, UInt8.ofNat_toNat]
    rfl
  next hge =>
  split at h
  · cases h
  next count m lo hi hl =>
  obtain ⟨hlo, hhi, ⟨rfl, hm, hmlo, hmhi⟩ | ⟨rfl, hm, hmhi, hsmall, hsurrogate⟩ |
    ⟨rfl, hm, hmhi, hsmall, hlarge⟩⟩ := lead_cases hl
  · obtain ⟨i, bs', rfl, hi', -, -, h⟩ := tail_succ_eq hlo hhi h
    obtain ⟨rfl, rfl⟩ := hdone h
    have hc : (Char.ofNat (0x40 * m + i)).toNat = 0x40 * m + i := toNat_ofNat_char (by omega)
    have hti : trail i = trail (0x40 * m + i) := trail_congr (by omega)
    rw [encodeChar, hc, if_neg (by omega), if_pos (by omega), hti,
      hfirst (0xC0 + (0x40 * m + i) / 0x40) (by omega)]
    rfl
  · obtain ⟨i, bs', rfl, hi', hilo, hihi, h⟩ := tail_succ_eq hlo hhi h
    obtain ⟨j, bs', rfl, hj', -, -, h⟩ := tail_succ_eq (Nat.le_refl _) (Nat.le_refl _) h
    obtain ⟨rfl, rfl⟩ := hdone h
    generalize hk : 0x40 * (0x40 * m + i) + j = k
    have hc : (Char.ofNat k).toNat = k := toNat_ofNat_char (by omega)
    have hti : trail i = trail (k / 0x40) := trail_congr (by omega)
    have htj : trail j = trail k := trail_congr (by omega)
    rw [encodeChar, hc, if_neg (by omega), if_neg (by omega), if_pos (by omega), hti, htj,
      hfirst (0xE0 + k / 0x1000) (by omega)]
    rfl
  · obtain ⟨i, bs', rfl, hi', hilo, hihi, h⟩ := tail_succ_eq hlo hhi h
    obtain ⟨j, bs', rfl, hj', -, -, h⟩ := tail_succ_eq (Nat.le_refl _) (Nat.le_refl _) h
    obtain ⟨l, bs', rfl, hl', -, -, h⟩ := tail_succ_eq (Nat.le_refl _) (Nat.le_refl _) h
    obtain ⟨rfl, rfl⟩ := hdone h
    generalize hk : 0x40 * (0x40 * (0x40 * m + i) + j) + l = k
    have hc : (Char.ofNat k).toNat = k := toNat_ofNat_char (by omega)
    have hti : trail i = trail (k / 0x1000) := trail_congr (by omega)
    have htj : trail j = trail (k / 0x40) := trail_congr (by omega)
    have htl : trail l = trail k := trail_congr (by omega)
    rw [encodeChar, hc, if_neg (by omega), if_neg (by omega), if_neg (by omega), hti, htj, htl,
      hfirst (0xF0 + k / 0x40000) (by omega)]
    rfl

lemma mapM_id_eq_some {α : Type} {found : List (Option α)} {xs : List α} :
    found.mapM id = some xs ↔ found = xs.map some := by
  induction found generalizing xs with
  | nil => cases xs <;> simp
  | cons a found ih =>
    cases a with
    | none => cases xs <;> simp
    | some a =>
      have hiff : ∀ ys, found.mapM id = some ys ↔ found = ys.map some := fun _ => ih
      cases xs <;> simp [Option.bind_eq_some_iff, hiff, and_comm]

lemma flatMap_encodeChar_of_decode {cs : List Char} (h : decode bs = cs.map some) :
    cs.flatMap encodeChar = bs := by
  induction hn : bs.length using Nat.strongRecOn generalizing bs cs with
  | ind n ih =>
    cases bs with
    | nil =>
      rw [decode, decodeOnto, List.reverse_nil, eq_comm, List.map_eq_nil_iff] at h
      rw [h]
      rfl
    | cons b bs =>
      rw [decode_cons] at h
      cases cs with
      | nil => cases h
      | cons c cs =>
        simp only [List.map_cons, List.cons.injEq] at h
        have hlength := character_length b bs
        rw [List.length_cons] at hn
        have hchar : character b bs = (some c, (character b bs).2) := by rw [← h.1]
        rw [List.flatMap_cons, ih _ (by omega) h.2 rfl, ← encodeChar_of_character hchar]

/-- Bytes that are a text are what the text is written as. -/
theorem encode_of_decode? (h : decode? bs = some s) : encode s = bs := by
  obtain ⟨cs, hcs, rfl⟩ := Option.map_eq_some_iff.1 h
  rw [encode, String.toList_ofList]
  exact flatMap_encodeChar_of_decode (mapM_id_eq_some.1 hcs)

end Reading

section Parts

lemma le_of_mem_encodeChar (hc : 0x80 ≤ c.toNat) (h : b ∈ encodeChar c) : 0x80 ≤ b.toNat := by
  have hn : c.toNat < 0xD800 ∨ (0xDFFF < c.toNat ∧ c.toNat < 0x110000) := c.valid
  have htrail : ∀ k, 0x80 ≤ (trail k).toNat := by
    intro k
    rw [toNat_trail]
    omega
  have hfirst : ∀ k, 0x80 ≤ k → k < 0x100 → 0x80 ≤ (UInt8.ofNat k).toNat := by
    intro k hk hk'
    rwa [toNat_ofNat_of_lt hk']
  unfold encodeChar at h
  dsimp only at h
  split at h
  · omega
  split at h
  · simp only [List.mem_cons, List.not_mem_nil, or_false] at h
    rcases h with rfl | rfl
    · exact hfirst _ (by omega) (by omega)
    · exact htrail _
  split at h
  · simp only [List.mem_cons, List.not_mem_nil, or_false] at h
    rcases h with rfl | rfl | rfl
    · exact hfirst _ (by omega) (by omega)
    · exact htrail _
    · exact htrail _
  · simp only [List.mem_cons, List.not_mem_nil, or_false] at h
    rcases h with rfl | rfl | rfl | rfl
    · exact hfirst _ (by omega) (by omega)
    · exact htrail _
    · exact htrail _
    · exact htrail _

lemma encodeChar_ne_nil (c : Char) : encodeChar c ≠ [] := by
  unfold encodeChar
  dsimp only
  split
  · simp
  split
  · simp
  split <;> simp

lemma flatMap_encodeChar_prefix (hps : ∀ c ∈ ps, c.toNat < 0x80) :
    ps.flatMap encodeChar <+: cs.flatMap encodeChar ↔ ps <+: cs := by
  induction ps generalizing cs with
  | nil => simp
  | cons p ps ih =>
    obtain ⟨hp, hps⟩ := List.forall_mem_cons.1 hps
    cases cs with
    | nil => simp [encodeChar_of_lt hp]
    | cons c cs =>
      rw [List.flatMap_cons, List.flatMap_cons, encodeChar_of_lt hp, List.cons_append,
        List.nil_append, List.cons_prefix_cons]
      by_cases hc : c.toNat < 0x80
      · have heq : UInt8.ofNat p.toNat = UInt8.ofNat c.toNat ↔ p = c := by
          rw [← UInt8.toNat_inj, toNat_ofNat_of_lt (by omega), toNat_ofNat_of_lt (by omega),
            Char.toNat_inj]
        rw [encodeChar_of_lt hc, List.cons_append, List.nil_append, List.cons_prefix_cons, heq, ih hps]
      · obtain ⟨b, bs, hb⟩ := List.exists_cons_of_ne_nil (encodeChar_ne_nil c)
        have hge := le_of_mem_encodeChar (Nat.not_lt.1 hc) (hb ▸ List.mem_cons_self)
        rw [hb, List.cons_append, List.cons_prefix_cons]
        constructor
        · rintro ⟨rfl, -⟩
          rw [toNat_ofNat_of_lt (by omega)] at hge
          omega
        · rintro ⟨rfl, -⟩
          exact absurd hp hc

lemma infix_of_forall_ne {α : Type} {a : α} {as bs bs' : List α} (h : ∀ b ∈ bs, b ≠ a) :
    a :: as <:+: bs ++ bs' ↔ a :: as <:+: bs' := by
  induction bs with
  | nil => rfl
  | cons b bs ih =>
    obtain ⟨hb, hbs⟩ := List.forall_mem_cons.1 h
    rw [List.cons_append, List.infix_cons_iff, List.cons_prefix_cons, ih hbs, or_iff_right]
    rintro ⟨rfl, -⟩
    exact hb rfl

lemma flatMap_encodeChar_infix {p : Char} (hp : p.toNat < 0x80) (hps : ∀ c ∈ ps, c.toNat < 0x80) :
    (p :: ps).flatMap encodeChar <:+: cs.flatMap encodeChar ↔ p :: ps <:+: cs := by
  induction cs with
  | nil => simp [encodeChar_of_lt hp]
  | cons c cs ih =>
    have hbegins : (p :: ps).flatMap encodeChar <+: (c :: cs).flatMap encodeChar ↔
        p :: ps <+: c :: cs := flatMap_encodeChar_prefix (List.forall_mem_cons.2 ⟨hp, hps⟩)
    have hcons : (c :: cs).flatMap encodeChar = encodeChar c ++ cs.flatMap encodeChar :=
      List.flatMap_cons
    have hfirst : (p :: ps).flatMap encodeChar = UInt8.ofNat p.toNat :: ps.flatMap encodeChar := by
      rw [List.flatMap_cons, encodeChar_of_lt hp]
      rfl
    rw [List.infix_cons_iff, ← ih, ← hbegins, hcons]
    by_cases hc : c.toNat < 0x80
    · rw [encodeChar_of_lt hc, List.cons_append, List.nil_append, List.infix_cons_iff]
    · have hne : ∀ b ∈ encodeChar c, b ≠ UInt8.ofNat p.toNat := by
        rintro b hb rfl
        have hge := le_of_mem_encodeChar (Nat.not_lt.1 hc) hb
        rw [toNat_ofNat_of_lt (by omega)] at hge
        omega
      rw [hfirst, infix_of_forall_ne hne]
      constructor
      · exact .inr
      · rintro (h | h)
        · exact (infix_of_forall_ne hne).1 h.isInfix
        · exact h

end Parts

end Utf8

namespace Hex

variable {c : Char}

lemma digit?_upper (n : Nat) : digit? (upper n) = some (n % 16) := by
  have hall : ∀ k < 16, digit? ("0123456789ABCDEF".toList.getD k '0') = some k := by decide
  exact hall _ (Nat.mod_lt _ (by decide))

lemma toNat_upper_lt (n : Nat) : (upper n).toNat < 0x80 := by
  have hall : ∀ k < 16, ("0123456789ABCDEF".toList.getD k '0').toNat < 0x80 := by decide
  exact hall _ (Nat.mod_lt _ (by decide))

lemma isDigit_bounds (h : isDigit c = true) : 0x30 ≤ c.toNat ∧ c.toNat ≤ 0x66 := by
  have hle : ∀ d : Char, d ≤ c → d.toNat ≤ c.toNat := fun d hd => hd
  have hge : ∀ d : Char, c ≤ d → c.toNat ≤ d.toNat := fun d hd => hd
  unfold isDigit digit? at h
  split at h
  · next hc => exact ⟨hle _ hc.1, Nat.le_trans (hge _ hc.2) (by decide)⟩
  split at h
  · next hc => exact ⟨Nat.le_trans (by decide) (hle _ hc.1), hge _ hc.2⟩
  split at h
  · next hc => exact ⟨Nat.le_trans (by decide) (hle _ hc.1), Nat.le_trans (hge _ hc.2) (by decide)⟩
  · cases h

end Hex

namespace Percent

variable {set : Char → Bool} {b : UInt8} {bs : List UInt8} {c : Char} {cs : List Char}

lemma decode_cons (hb : b ≠ 0x25) : decode (b :: bs) = b :: decode bs := by
  rw [decode]
  rintro a b' bs' rfl
  exact absurd rfl hb

lemma hexDigit?_upper (n : Nat) : hexDigit? (UInt8.ofNat (Hex.upper n).toNat) = some (n % 16) := by
  have hlt := Hex.toNat_upper_lt n
  rw [hexDigit?, Utf8.toNat_ofNat_of_lt (by omega), Char.ofNat_toNat, Hex.digit?_upper]

lemma decode_encodeByte (b : UInt8) (bs : List UInt8) :
    decode ((encodeByte b).flatMap Utf8.encodeChar ++ bs) = b :: decode bs := by
  have hb : b.toNat < 0x100 := b.toNat_lt
  have hvalue : 16 * (b.toNat / 16 % 16) + b.toNat % 16 = b.toNat := by omega
  have hbytes : (encodeByte b).flatMap Utf8.encodeChar =
      [0x25, UInt8.ofNat (Hex.upper (b.toNat / 16)).toNat, UInt8.ofNat (Hex.upper b.toNat).toNat] := by
    rw [encodeByte, List.flatMap_cons, List.flatMap_cons, List.flatMap_cons,
      Utf8.encodeChar_of_lt (Hex.toNat_upper_lt _), Utf8.encodeChar_of_lt (Hex.toNat_upper_lt _)]
    rfl
  rw [hbytes]
  simp only [List.cons_append, List.nil_append, decode, hexDigit?_upper, hvalue, UInt8.ofNat_toNat]

lemma decode_flatMap_encodeByte (bs bs' : List UInt8) :
    decode ((bs.flatMap encodeByte).flatMap Utf8.encodeChar ++ bs') = bs ++ decode bs' := by
  induction bs with
  | nil => rfl
  | cons b bs ih =>
    rw [List.flatMap_cons, List.flatMap_append, List.append_assoc, decode_encodeByte, ih,
      List.cons_append]

lemma decode_encodeChar (hset : set '%' = true) (c : Char) (bs : List UInt8) :
    decode ((encodeChar set c).flatMap Utf8.encodeChar ++ bs) = Utf8.encodeChar c ++ decode bs := by
  unfold encodeChar
  split
  · exact decode_flatMap_encodeByte _ _
  · next hc =>
    simp only [Bool.or_eq_true, decide_eq_true_eq, not_or, Nat.not_le] at hc
    have hb : UInt8.ofNat c.toNat ≠ 0x25 := by
      intro h
      have hn := congrArg UInt8.toNat h
      rw [Utf8.toNat_ofNat_of_lt (by omega)] at hn
      have hpercent : c = '%' := Char.toNat_inj.1 hn
      exact hc.2 (hpercent ▸ hset)
    rw [List.flatMap_cons, List.flatMap_nil, List.append_nil, Utf8.encodeChar_of_lt hc.1,
      List.cons_append, List.nil_append, decode_cons hb, List.cons_append, List.nil_append]

/-- Where percent signs are encoded themselves, no other text is encoded the same way. -/
theorem decode_encode (hset : set '%' = true) (cs : List Char) :
    decode ((encode set cs).flatMap Utf8.encodeChar) = cs.flatMap Utf8.encodeChar := by
  induction cs with
  | nil => rfl
  | cons c cs ih =>
    rw [encode, List.flatMap_cons, List.flatMap_append, decode_encodeChar hset]
    rw [encode] at ih
    rw [ih, List.flatMap_cons]

/-- An encoding is made of characters outside the set, percent signs and hexadecimal digits. -/
lemma mem_encode (h : c ∈ encode set cs) :
    set c = false ∨ c = '%' ∨ Hex.isDigit c = true := by
  have hdigit : ∀ n, Hex.isDigit (Hex.upper n) = true := fun n => by rw [Hex.isDigit, Hex.digit?_upper]; rfl
  obtain ⟨d, -, hd⟩ := List.mem_flatMap.1 h
  unfold encodeChar at hd
  split at hd
  · obtain ⟨b, -, hb⟩ := List.mem_flatMap.1 hd
    simp only [encodeByte, List.mem_cons, List.not_mem_nil, or_false] at hb
    rcases hb with rfl | rfl | rfl
    · exact .inr (.inl rfl)
    · exact .inr (.inr (hdigit _))
    · exact .inr (.inr (hdigit _))
  · next hset =>
    obtain rfl := List.mem_singleton.1 hd
    simp only [Bool.or_eq_true, not_or, Bool.not_eq_true] at hset
    exact .inl hset.2

section Plain

/-- Bytes of which none are read as the encoding of another. -/
def Plain (bs : List UInt8) : Prop :=
  ∀ x y, (hexDigit? x).isSome → (hexDigit? y).isSome → ¬ [0x25, x, y] <:+: bs

lemma plain_cons : Plain (b :: bs) ↔
    (∀ x y, (hexDigit? x).isSome → (hexDigit? y).isSome → ¬ [0x25, x, y] <+: b :: bs) ∧ Plain bs := by
  simp only [Plain, List.infix_cons_iff, not_or]
  grind

lemma decode_cons_of_not (h : ∀ x y, (hexDigit? x).isSome → (hexDigit? y).isSome →
    ¬ [0x25, x, y] <+: b :: bs) : decode (b :: bs) = b :: decode bs := by
  by_cases hb : b = 0x25
  · subst hb
    match bs with
    | [] => rfl
    | [x] => rfl
    | x :: y :: rest =>
      rw [decode]
      split
      · next hx hy =>
        refine absurd ?_ (h x y (by rw [hx]; rfl) (by rw [hy]; rfl))
        exact ⟨rest, rfl⟩
      · rfl
  · exact decode_cons hb

lemma decode_plain (h : Plain bs) : decode bs = bs := by
  induction bs with
  | nil => rfl
  | cons b bs ih =>
    obtain ⟨hb, hbs⟩ := plain_cons.1 h
    rw [decode_cons_of_not hb, ih hbs]

/-- Decoding leaves bytes as they are, or makes them fewer. -/
lemma plain_or_length_lt (bs : List UInt8) : Plain bs ∨ (decode bs).length < bs.length := by
  induction bs using decode.induct with
  | case1 x y bs high low hy hx ih =>
    right
    have hle : (decode bs).length ≤ bs.length := by
      rcases ih with hp | hlt
      · exact Nat.le_of_eq (congrArg List.length (decode_plain hp))
      · exact Nat.le_of_lt hlt
    simp only [decode, hx, hy, List.length_cons]
    omega
  | case2 x y bs hn ih =>
    have hfirst : ∀ x' y', (hexDigit? x').isSome → (hexDigit? y').isSome →
        ¬ [0x25, x', y'] <+: 0x25 :: x :: y :: bs := by
      rintro x' y' hx hy ⟨rest, hrest⟩
      cases hrest
      obtain ⟨high, hx⟩ := Option.isSome_iff_exists.1 hx
      obtain ⟨low, hy⟩ := Option.isSome_iff_exists.1 hy
      exact hn high low hx hy
    rw [decode_cons_of_not hfirst, plain_cons, List.length_cons, List.length_cons]
    exact ih.imp (⟨hfirst, ·⟩) Nat.succ_lt_succ
  | case3 b bs hn ih =>
    have hfirst : ∀ x y, (hexDigit? x).isSome → (hexDigit? y).isSome →
        ¬ [0x25, x, y] <+: b :: bs := by
      rintro x y - - ⟨rest, hrest⟩
      cases hrest
      exact hn x y rest rfl rfl
    rw [decode_cons_of_not hfirst, plain_cons, List.length_cons, List.length_cons]
    exact ih.imp (⟨hfirst, ·⟩) Nat.succ_lt_succ
  | case4 =>
    left
    rintro x y - - h
    cases List.infix_nil.1 h

lemma exists_digit {x : UInt8} (h : (hexDigit? x).isSome) :
    ∃ a, Hex.isDigit a = true ∧ UInt8.ofNat a.toNat = x := by
  have hx : x.toNat < 0x100 := x.toNat_lt
  have hbounds := Hex.isDigit_bounds h
  have hchar : (Char.ofNat x.toNat).toNat = x.toNat := Utf8.toNat_ofNat_char (.inl (by omega))
  refine ⟨Char.ofNat x.toNat, h, ?_⟩
  rw [hchar, UInt8.ofNat_toNat]

lemma hexDigit?_ofNat {a : Char} (h : Hex.isDigit a = true) :
    (hexDigit? (UInt8.ofNat a.toNat)).isSome := by
  have hbounds := Hex.isDigit_bounds h
  rw [hexDigit?, Utf8.toNat_ofNat_of_lt (by omega), Char.ofNat_toNat]
  exact h

lemma plain_encode_iff {s : String} : Plain (Utf8.encode s) ↔ ∀ a b, Hex.isDigit a = true →
    Hex.isDigit b = true → ¬ ['%', a, b] <:+: s.toList := by
  have hiff : ∀ a b, Hex.isDigit a = true → Hex.isDigit b = true →
      ([0x25, UInt8.ofNat a.toNat, UInt8.ofNat b.toNat] <:+: Utf8.encode s ↔
        ['%', a, b] <:+: s.toList) := by
    intro a b ha hb
    have hlta := Hex.isDigit_bounds ha
    have hltb := Hex.isDigit_bounds hb
    have hps : ∀ c ∈ [a, b], c.toNat < 0x80 := by
      simp only [List.forall_mem_cons, List.not_mem_nil, false_implies, implies_true, and_true]
      omega
    have hbytes : ['%', a, b].flatMap Utf8.encodeChar =
        [0x25, UInt8.ofNat a.toNat, UInt8.ofNat b.toNat] := by
      rw [List.flatMap_cons, List.flatMap_cons, List.flatMap_cons,
        Utf8.encodeChar_of_lt (hps a List.mem_cons_self),
        Utf8.encodeChar_of_lt (hps b (.tail _ List.mem_cons_self))]
      rfl
    rw [Utf8.encode, ← hbytes]
    exact Utf8.flatMap_encodeChar_infix (by decide) hps
  constructor
  · intro h a b ha hb hin
    exact h _ _ (hexDigit?_ofNat ha) (hexDigit?_ofNat hb) ((hiff a b ha hb).2 hin)
  · intro h x y hx hy hin
    obtain ⟨a, ha, rfl⟩ := exists_digit hx
    obtain ⟨b, hb, rfl⟩ := exists_digit hy
    exact h a b ha hb ((hiff a b ha hb).1 hin)

end Plain

end Percent

end TypedPid
