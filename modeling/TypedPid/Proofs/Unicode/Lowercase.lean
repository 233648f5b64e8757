import Mathlib.Tactic.Common
import TypedPid.Unicode.Lowercase

/-!
Lower case of plain letters. A text without k becomes such letters in lower case only if it has them
already, or their capitals from A to Z. With k this is not so: it is the lower case of the sign for
kelvins, too.
-/

namespace TypedPid.Unicode

/-- A character of ASCII, but no capital letter and no k. -/
structure Plain (c : Char) : Prop where
  pos : 0 < c.toNat
  ascii : c.toNat < 0x80
  small : c.toNat < 0x41 ∨ 0x5A < c.toNat
  ne : c ≠ 'k'

instance (c : Char) : Decidable (Plain c) :=
  decidable_of_iff (0 < c.toNat ∧ c.toNat < 0x80 ∧ (c.toNat < 0x41 ∨ 0x5A < c.toNat) ∧ c ≠ 'k')
    ⟨fun ⟨hpos, hascii, hsmall, hne⟩ => ⟨hpos, hascii, hsmall, hne⟩,
      fun h => ⟨h.pos, h.ascii, h.small, h.ne⟩⟩

lemma plain_of_all {cs : List Char} (h : (cs.all fun c => decide (Plain c)) = true) :
    ∀ c ∈ cs, Plain c :=
  fun c hc => of_decide_eq_true (List.all_eq_true.1 h c hc)

variable {c d : Char} {cs ds before : List Char} {s : Shift} {n : Nat}

lemma toNat_toLower (c : Char) :
    c.toLower.toNat = if 0x41 ≤ c.toNat ∧ c.toNat ≤ 0x5A then c.toNat + 0x20 else c.toNat := by
  unfold Char.toLower
  split
  · next h =>
    have hlow : 0x41 ≤ c.toNat := h.1
    have hhigh : c.toNat ≤ 0x5A := h.2
    have hsum : (c.val + 0x20).toNat = (c.toNat + 0x20) % 2 ^ 32 := UInt32.toNat_add _ _
    rw [if_pos ⟨hlow, hhigh⟩]
    change (c.val + 0x20).toNat = _
    omega
  · next h =>
    have hnot : ¬ (0x41 ≤ c.toNat ∧ c.toNat ≤ 0x5A) := h
    rw [if_neg hnot]

section Table

/-- The row that makes A to Z small. -/
def isLatin (s : Shift) : Bool := s.start = 0x41 && s.count = 0x1A && s.step = 1 && s.shift = 0x20

/-- Whether a row moves only characters beyond ASCII, and those to k or to others beyond ASCII. -/
def isForeign (s : Shift) : Bool :=
  0x80 ≤ s.start && (List.range s.count).all fun i =>
    let d := s.target (s.start + s.step * i)
    d = 0x6B || 0x80 ≤ d

lemma ofText_ofList (cs : List Char) : Shifts.ofText (String.ofList cs) =
    ((cs.splitOnP fun c => c = ' ' || c = '\n').filter (· ≠ [])).filterMap Shift.ofWord? := by
  rw [Shifts.ofText, words, List.filterMap_map, String.toList_ofList]
  simp only [Function.comp_def, String.toList_ofList]

lemma moves_iff_of_isLatin (h : isLatin s = true) : s.moves n = true ↔ 0x41 ≤ n ∧ n ≤ 0x5A := by
  obtain ⟨start, count, step, shift⟩ := s
  simp only [isLatin, Bool.and_eq_true, decide_eq_true_eq] at h
  obtain ⟨⟨⟨rfl, rfl⟩, rfl⟩, rfl⟩ := h
  simp only [Shift.moves, Bool.and_eq_true, decide_eq_true_eq]
  omega

lemma target_of_isLatin (h : isLatin s = true) : s.target n = n + 0x20 := by
  obtain ⟨start, count, step, shift⟩ := s
  simp only [isLatin, Bool.and_eq_true, decide_eq_true_eq] at h
  obtain ⟨-, rfl⟩ := h
  change (n + 0x20 : Int).toNat = n + 0x20
  omega

lemma of_isForeign (h : isForeign s = true) (hn : s.moves n = true) :
    0x80 ≤ n ∧ (s.target n = 0x6B ∨ 0x80 ≤ s.target n) := by
  simp only [isForeign, Bool.and_eq_true, decide_eq_true_eq, List.all_eq_true, List.mem_range,
    Bool.or_eq_true] at h
  simp only [Shift.moves, Bool.and_eq_true, decide_eq_true_eq] at hn
  obtain ⟨hstart, htargets⟩ := h
  obtain ⟨⟨hle, hmod⟩, hcount⟩ := hn
  have hplace : s.start + s.step * ((n - s.start) / s.step) = n := by
    have := Nat.div_add_mod (n - s.start) s.step
    omega
  have htarget := htargets _ hcount
  rw [hplace] at htarget
  exact ⟨Nat.le_trans hstart hle, htarget⟩

/-- A character of ASCII other than k is reached from itself and from its capital only. -/
lemma apply_eq_iff {rows : Shifts} (hlatin : ∃ s ∈ rows, isLatin s = true)
    (hall : ∀ s ∈ rows, isLatin s = true ∨ isForeign s = true) (hn : n < 0x80) (hk : n ≠ 0x6B)
    (m : Nat) : rows.apply m = n ↔ (if 0x41 ≤ m ∧ m ≤ 0x5A then m + 0x20 else m) = n := by
  obtain ⟨latin, hmem, hlatin⟩ := hlatin
  rw [Shifts.apply]
  cases hfind : rows.find? (·.moves m) with
  | none =>
    have hstays : ¬ (0x41 ≤ m ∧ m ≤ 0x5A) := by
      rw [← moves_iff_of_isLatin hlatin]
      exact List.find?_eq_none.1 hfind latin hmem
    rw [if_neg hstays]
  | some row =>
    have hmoves := List.find?_some hfind
    rcases hall row (List.mem_of_find?_eq_some hfind) with hrow | hrow
    · rw [if_pos ((moves_iff_of_isLatin hrow).1 hmoves)]
      dsimp only
      rw [target_of_isLatin hrow]
    · obtain ⟨hm, htarget⟩ := of_isForeign hrow hmoves
      have hstays : ¬ (0x41 ≤ m ∧ m ≤ 0x5A) := by omega
      rw [if_neg hstays]
      dsimp only
      omega

-- The kernel takes the table apart as a list of characters, hence `ofText_ofList`.
lemma exists_latin : ∃ s ∈ lowercasings, isLatin s = true := by
  rw [← List.any_eq_true, lowercasings, ofText_ofList]
  decide +kernel

lemma latin_or_foreign : ∀ s ∈ lowercasings, isLatin s = true ∨ isForeign s = true := by
  simp only [← Bool.or_eq_true]
  rw [← List.all_eq_true, lowercasings, ofText_ofList]
  decide +kernel

end Table

lemma ofNat_eq_iff (hc : 0 < c.toNat) : Char.ofNat n = c ↔ n = c.toNat := by
  constructor
  · rintro rfl
    by_cases hn : n.isValidChar
    · rw [Char.ofNat, dif_pos hn]
      rfl
    · rw [Char.ofNat, dif_neg hn] at hc
      cases hc
  · rintro rfl
    exact Char.ofNat_toNat c

lemma ofNat_apply_eq_iff (hd : Plain d) (c : Char) :
    Char.ofNat (lowercasings.apply c.toNat) = d ↔ c.toLower = d := by
  have hk : d.toNat ≠ 0x6B := fun h => hd.ne (Char.toNat_inj.1 h)
  rw [ofNat_eq_iff hd.pos, apply_eq_iff exists_latin latin_or_foreign hd.ascii hk, ← toNat_toLower,
    Char.toNat_inj]

lemma lowered_cases (final : Bool) (c : Char) :
    (∃ x, (if c = 'Σ' then if final then ['ς'] else ['σ'] else lowercase c) = [x] ∧
      ∀ d, Plain d → (x = d ↔ c.toLower = d)) ∨
    (c = 'İ' ∧ (if c = 'Σ' then if final then ['ς'] else ['σ'] else lowercase c) = ['i', '\u0307']) := by
  -- The table does not tell of the sigma and of the capital I with a dot.
  by_cases hsigma : c = 'Σ'
  · subst hsigma
    refine .inl ⟨if final then 'ς' else 'σ', by cases final <;> rfl, fun d hd => iff_of_false ?_ ?_⟩
    · rintro rfl
      revert hd
      cases final <;> decide
    · rintro rfl
      exact absurd hd (by decide)
  · rw [if_neg hsigma, lowercase]
    by_cases hdotted : c = 'İ'
    · exact .inr ⟨hdotted, if_pos hdotted⟩
    · exact .inl ⟨_, if_neg hdotted, fun d hd => ofNat_apply_eq_iff hd c⟩

lemma lowercaseAfter_eq_iff (hds : ∀ d ∈ ds, Plain d) :
    lowercaseAfter before cs = ds ↔ cs.map Char.toLower = ds := by
  induction cs generalizing before ds with
  | nil => exact Iff.rfl
  | cons c cs ih =>
    rw [lowercaseAfter, List.map_cons]
    rcases lowered_cases (meetsCased before && !meetsCased cs) c with ⟨x, hx, hplain⟩ | ⟨rfl, hdotted⟩
    · rw [hx, List.singleton_append]
      cases ds with
      | nil => exact iff_of_false (List.cons_ne_nil _ _) (List.cons_ne_nil _ _)
      | cons d ds =>
        obtain ⟨hd, hrest⟩ := List.forall_mem_cons.1 hds
        rw [List.cons.injEq, List.cons.injEq, hplain d hd, ih hrest]
    · rw [hdotted]
      refine iff_of_false ?_ ?_
      · rintro rfl
        have hdot := hds '\u0307' (List.mem_cons_of_mem _ List.mem_cons_self)
        exact absurd hdot (by decide)
      · rintro rfl
        exact absurd (hds _ List.mem_cons_self) (by decide)

/-- A text is a plain one in lower case if and only if it is this text but for capitals from A to Z. -/
lemma toLowercase_eq_iff {s t : String} (ht : ∀ c ∈ t.toList, Plain c) :
    toLowercase s = t ↔ s.toLower = t := by
  rw [toLowercase, ← String.toList_inj, String.toList_ofList, lowercaseAfter_eq_iff ht,
    ← String.toList_map, String.toList_inj]
  exact Iff.rfl

end TypedPid.Unicode
