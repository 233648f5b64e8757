import Mathlib.Data.Finset.Card
import TypedPid.Regex.Search

/-!
The search finds what there is to be found: the positions that it reports are those where a match
ends, and it reports some if and only if there is a match.
-/

namespace TypedPid.Regex

variable {text : List Char} {r : Regex} {i j k s t n m : Nat} {f : Nat → Nat}
  {M : Nat → Nat → Prop}

section Positions

lemma testBit_toNat_add (b : Bool) (n i : Nat) :
    (b.toNat + 2 * n).testBit i = if i = 0 then b else n.testBit (i - 1) := by
  cases i with
  | zero => cases b <;> simp [Nat.testBit_zero, Nat.add_mod]
  | succ i =>
    have hb : b.toNat ≤ 1 := Bool.toNat_le b
    have hdiv : (b.toNat + 2 * n) / 2 = n := by omega
    rw [Nat.testBit_add_one, hdiv]
    simp

lemma testBit_two_mul (n i : Nat) : (2 * n).testBit i = (decide (0 < i) && n.testBit (i - 1)) := by
  have h := testBit_toNat_add false n i
  rw [Bool.toNat_false, Nat.zero_add] at h
  rw [h]
  by_cases hi : i = 0 <;> simp [hi, Nat.pos_iff_ne_zero]

lemma testBit_go (p : Option Char → Option Char → Bool) (before : Option Char) (text : List Char)
    (i : Nat) : (positions.go p before text).testBit i =
      (decide (i ≤ text.length) && p (if i = 0 then before else text[i - 1]?) text[i]?) := by
  induction text generalizing before i with
  | nil =>
    have h := testBit_toNat_add (p before none) 0 i
    rw [Nat.mul_zero, Nat.add_zero, Nat.zero_testBit] at h
    rw [positions.go, h]
    by_cases hi : i = 0 <;> simp [hi]
  | cons c cs ih =>
    rw [positions.go, testBit_toNat_add]
    cases i with
    | zero => simp
    | succ i =>
      rw [if_neg (Nat.succ_ne_zero i), Nat.add_sub_cancel, ih]
      cases i <;> simp

lemma testBit_positions (p : Option Char → Option Char → Bool) (text : List Char) (i : Nat) :
    (positions p text).testBit i =
      (decide (i ≤ text.length) && p (if i = 0 then none else text[i - 1]?) text[i]?) :=
  testBit_go p none text i

end Positions

section Matches

variable {a b : Regex}

lemma matches_empty : Matches text .empty i j ↔ i = j := by
  constructor
  · intro h
    cases h
    rfl
  · rintro rfl
    exact .empty i

lemma matches_directive : Matches text .directive i j ↔ i = j := by
  constructor
  · intro h
    cases h
    rfl
  · rintro rfl
    exact .directive i

lemma matches_chars {set : Unicode.CharSet} {nesting : Nat} :
    Matches text (.chars set nesting) i j ↔
      j = i + 1 ∧ ∃ c, text[i]? = some c ∧ set.contains c.toNat = true := by
  constructor
  · intro h
    cases h with
    | chars hc hset => exact ⟨rfl, _, hc, hset⟩
  · rintro ⟨rfl, c, hc, hset⟩
    exact .chars hc hset

lemma matches_assert {a : Assertion} : Matches text (.assert a) i j ↔ i = j ∧ i ≤ text.length ∧
    a.holds (if i = 0 then none else text[i - 1]?) text[i]? = true := by
  constructor
  · intro h
    cases h with
    | assert hi ha => exact ⟨rfl, hi, ha⟩
  · rintro ⟨rfl, hi, ha⟩
    exact .assert hi ha

lemma matches_group : Matches text (.group r) i j ↔ Matches text r i j := by
  constructor
  · intro h
    cases h with
    | group h => exact h
  · exact .group

lemma matches_seq :
    Matches text (.seq a b) i k ↔ ∃ j, Matches text a i j ∧ Matches text b j k := by
  constructor
  · intro h
    cases h with
    | seq ha hb => exact ⟨_, ha, hb⟩
  · rintro ⟨j, ha, hb⟩
    exact .seq ha hb

lemma matches_alt : Matches text (.alt a b) i j ↔ Matches text a i j ∨ Matches text b i j := by
  constructor
  · intro h
    cases h with
    | altLeft h => exact .inl h
    | altRight h => exact .inr h
  · rintro (h | h)
    · exact .altLeft h
    · exact .altRight h

lemma matches_le (h : Matches text r i j) (hi : i ≤ text.length) : j ≤ text.length := by
  induction h with
  | chars hc => exact (List.getElem?_eq_some_iff.1 hc).1
  | group _ ih => exact ih hi
  | repMore _ _ _ ihr ihm => exact ihm (ihr hi)
  | seq _ _ iha ihb => exact ihb (iha hi)
  | altLeft _ ih => exact ih hi
  | altRight _ ih => exact ih hi
  | _ => exact hi

end Matches

section Repetition

/-- `n` steps of a relation between positions, one after another. -/
inductive Times (M : Nat → Nat → Prop) : Nat → Nat → Nat → Prop
  | zero (i : Nat) : Times M 0 i i
  | succ {n i j k : Nat} : M i j → Times M n j k → Times M (n + 1) i k

lemma times_zero : Times M 0 i j ↔ i = j := by
  constructor
  · intro h
    cases h
    rfl
  · rintro rfl
    exact .zero i

lemma times_succ : Times M (n + 1) i k ↔ ∃ j, M i j ∧ Times M n j k := by
  constructor
  · intro h
    cases h with
    | succ hm hn => exact ⟨_, hm, hn⟩
  · rintro ⟨j, hm, hn⟩
    exact .succ hm hn

lemma times_add : Times M (m + n) i k ↔ ∃ j, Times M m i j ∧ Times M n j k := by
  induction m generalizing i with
  | zero => simp [times_zero]
  | succ m ih =>
    rw [Nat.succ_add, times_succ]
    simp only [ih, times_succ]
    constructor
    · rintro ⟨j, hj, l, hl, hk⟩
      exact ⟨l, ⟨j, hj, hl⟩, hk⟩
    · rintro ⟨l, ⟨j, hj, hl⟩, hk⟩
      exact ⟨j, hj, l, hl, hk⟩

lemma matches_rep {min : Nat} {max : Option Nat} : Matches text (.rep r min max) i j ↔
    ∃ n, min ≤ n ∧ (∀ m, max = some m → n ≤ m) ∧ Times (Matches text r) n i j := by
  constructor
  · intro h
    generalize hq : Regex.rep r min max = q at h
    induction h generalizing min max with
    | repDone =>
      cases hq
      exact ⟨0, Nat.le_refl 0, fun m _ => Nat.zero_le m, .zero _⟩
    | repMore hne hr _ _ ih =>
      cases hq
      obtain ⟨n, hmin, hmax, hn⟩ := ih rfl
      refine ⟨n + 1, by omega, fun m hm => ?_, .succ hr hn⟩
      subst hm
      have hle := hmax (m - 1) rfl
      have hpos : m ≠ 0 := fun h => hne (congrArg some h)
      omega
    | _ => cases hq
  · rintro ⟨n, hmin, hmax, hn⟩
    induction n generalizing i min max with
    | zero =>
      rw [Nat.le_zero.1 hmin, ← times_zero.1 hn]
      exact .repDone
    | succ n ih =>
      obtain ⟨k, hr, hn⟩ := times_succ.1 hn
      refine .repMore (fun h => absurd (hmax 0 h) (by omega)) hr (ih (by omega) (fun m hm => ?_) hn)
      obtain ⟨m', rfl, rfl⟩ := Option.map_eq_some_iff.1 hm
      have hle := hmax m' rfl
      omega

end Repetition

section Tracking

/-- All positions of a set are in the text. -/
def Bounded (text : List Char) (s : Nat) : Prop := ∀ ⦃i⦄, s.testBit i = true → i ≤ text.length

/-- From a set of positions a function comes to the positions that a relation leads to. -/
def Tracks (text : List Char) (f : Nat → Nat) (M : Nat → Nat → Prop) : Prop :=
  ∀ ⦃s⦄, Bounded text s → ∀ j, (f s).testBit j = true ↔ ∃ i, s.testBit i = true ∧ M i j

variable (hf : Tracks text f M) (hM : ∀ ⦃i j⦄, M i j → i ≤ text.length → j ≤ text.length)

include hf hM

lemma bounded_of_tracks (hs : Bounded text s) : Bounded text (f s) := by
  intro j hj
  obtain ⟨i, hi, hm⟩ := (hf hs j).1 hj
  exact hM hm (hs hi)

lemma tracks_rounds (n : Nat) : Tracks text (rounds f n) (Times M n) := by
  induction n with
  | zero =>
    intro s _ j
    simp [rounds, times_zero]
  | succ n ih =>
    intro s hs j
    rw [rounds]
    split
    · next h0 => simp [h0]
    · rw [ih (bounded_of_tracks hf hM hs)]
      simp only [times_succ, hf hs]
      constructor
      · rintro ⟨k, ⟨i, hi, hm⟩, hn⟩
        exact ⟨i, hi, k, hm, hn⟩
      · rintro ⟨i, hi, k, hm, hn⟩
        exact ⟨k, ⟨i, hi, hm⟩, hn⟩

omit hf in
lemma times_le (h : Times M n i j) (hi : i ≤ text.length) : j ≤ text.length := by
  induction h with
  | zero => exact hi
  | succ hm _ ih => exact ih (hM hm hi)

lemma tracks_upTo (n : Nat) : Tracks text (upTo f n) (fun i j => ∃ k ≤ n, Times M k i j) := by
  induction n with
  | zero =>
    intro s _ j
    simp [upTo, times_zero]
  | succ n ih =>
    intro s hs j
    rw [upTo]
    split
    · next h0 => simp [h0]
    · rw [Nat.testBit_or, Bool.or_eq_true, ih (bounded_of_tracks hf hM hs)]
      simp only [hf hs]
      constructor
      · rintro (hj | ⟨l, ⟨i, hi, hm⟩, k, hk, hn⟩)
        · exact ⟨j, hj, 0, Nat.zero_le _, .zero j⟩
        · exact ⟨i, hi, k + 1, Nat.succ_le_succ hk, .succ hm hn⟩
      · rintro ⟨i, hi, k, hk, hn⟩
        cases hn with
        | zero => exact .inl hi
        | succ hm hn => exact .inr ⟨_, ⟨i, hi, hm⟩, _, Nat.le_of_succ_le_succ hk, hn⟩

omit hf hM in
/-- The positions of the text that a set does not have. -/
def absent (text : List Char) (s : Nat) : Finset Nat :=
  (Finset.range (text.length + 1)).filter fun i => s.testBit i = false

omit hf hM in
lemma absent_lor_lt (hs : Bounded text (s ||| t)) (hne : s ||| t ≠ s) :
    (absent text (s ||| t)).card < (absent text s).card := by
  refine Finset.card_lt_card ⟨fun i hi => ?_, fun hsub => hne ?_⟩
  · simp only [absent, Finset.mem_filter, Nat.testBit_or, Bool.or_eq_false_iff] at hi ⊢
    exact ⟨hi.1, hi.2.1⟩
  · refine Nat.eq_of_testBit_eq fun i => ?_
    by_contra hbit
    have hi : s.testBit i = false ∧ (s ||| t).testBit i = true := by
      rw [Nat.testBit_or] at hbit ⊢
      cases h : s.testBit i <;> simp_all
    have hm := hsub (Finset.mem_filter.2 ⟨Finset.mem_range_succ_iff.2 (hs hi.2), hi.1⟩)
    rw [(Finset.mem_filter.1 hm).2] at hi
    cases hi.2

lemma bounded_lor (hs : Bounded text s) : Bounded text (s ||| f s) := by
  intro i hi
  rw [Nat.testBit_or, Bool.or_eq_true] at hi
  exact hi.elim (fun hi => hs hi) fun hi => bounded_of_tracks hf hM hs hi

omit hf hM in
lemma testBit_closure_of_testBit (n : Nat) (hi : s.testBit i = true) :
    (closure f n s).testBit i = true := by
  induction n generalizing s with
  | zero => exact hi
  | succ n ih =>
    rw [closure]
    split
    · exact hi
    · exact ih (by rw [Nat.testBit_or, hi, Bool.true_or])

/-- Each round adds a position or is the last one, so there are rounds enough. -/
lemma closure_closed (hs : Bounded text s) (hn : (absent text s).card ≤ n)
    (hj : (f (closure f n s)).testBit j = true) : (closure f n s).testBit j = true := by
  induction n generalizing s with
  | zero =>
    by_contra hbit
    have hle := bounded_of_tracks hf hM hs hj
    have hmem : j ∈ absent text s :=
      Finset.mem_filter.2 ⟨Finset.mem_range_succ_iff.2 hle, Bool.not_eq_true _ ▸ hbit⟩
    exact absurd (Finset.card_pos.2 ⟨j, hmem⟩) (by omega)
  | succ n ih =>
    rw [closure] at hj ⊢
    split at hj
    · next heq =>
      rw [if_pos heq, ← heq, Nat.testBit_or, hj, Bool.or_true]
    · next hne =>
      have hlt := absent_lor_lt (bounded_lor hf hM hs) hne
      rw [if_neg hne]
      exact ih (bounded_lor hf hM hs) (by omega) hj

lemma closure_sound (hs : Bounded text s) (hj : (closure f n s).testBit j = true) :
    ∃ i, s.testBit i = true ∧ ∃ k, Times M k i j := by
  induction n generalizing s with
  | zero => exact ⟨j, hj, 0, .zero j⟩
  | succ n ih =>
    rw [closure] at hj
    split at hj
    · exact ⟨j, hj, 0, .zero j⟩
    · obtain ⟨i, hi, k, hn⟩ := ih (bounded_lor hf hM hs) hj
      rw [Nat.testBit_or, Bool.or_eq_true, hf hs] at hi
      rcases hi with hi | ⟨l, hl, hm⟩
      · exact ⟨i, hi, k, hn⟩
      · exact ⟨l, hl, k + 1, .succ hm hn⟩

omit hf hM in
lemma card_absent_le (text : List Char) (s : Nat) : (absent text s).card ≤ text.length + 1 :=
  (Finset.card_filter_le _ _).trans (Finset.card_range _).le

lemma bounded_closure (n : Nat) (hs : Bounded text s) : Bounded text (closure f n s) := by
  induction n generalizing s with
  | zero => exact hs
  | succ n ih =>
    rw [closure]
    split
    · exact hs
    · exact ih (bounded_lor hf hM hs)

omit hM in
lemma testBit_of_times (hs : Bounded text s) (hc : ∀ j, (f s).testBit j = true → s.testBit j = true)
    (hn : Times M n i j) (hi : s.testBit i = true) : s.testBit j = true := by
  induction hn with
  | zero => exact hi
  | succ hm _ ih => exact ih (hc _ ((hf hs _).2 ⟨_, hi, hm⟩))

lemma tracks_closure :
    Tracks text (closure f (text.length + 1)) (fun i j => ∃ k, Times M k i j) := by
  intro s hs j
  constructor
  · exact closure_sound hf hM hs
  · rintro ⟨i, hi, k, hn⟩
    refine testBit_of_times hf (bounded_closure hf hM _ hs) (fun j hj => ?_) hn
      (testBit_closure_of_testBit _ hi)
    exact closure_closed hf hM hs (card_absent_le text s) hj

end Tracking

lemma tracks_rep {min : Nat} {max : Option Nat} (ih : Tracks text (ends text r) (Matches text r)) :
    Tracks text (ends text (.rep r min max)) (Matches text (.rep r min max)) := by
  have hM : ∀ ⦃i j⦄, Matches text r i j → i ≤ text.length → j ≤ text.length :=
    fun i j => matches_le
  have hround := tracks_rounds ih hM min
  intro s hs j
  have hb : Bounded text (rounds (ends text r) min s) :=
    bounded_of_tracks hround (fun i j => times_le hM) hs
  simp only [matches_rep]
  cases max with
  | none =>
    rw [ends, tracks_closure ih hM hb]
    simp only [hround hs]
    constructor
    · rintro ⟨l, ⟨i, hi, hl⟩, k, hk⟩
      exact ⟨i, hi, min + k, Nat.le_add_right _ _, nofun, times_add.2 ⟨l, hl, hk⟩⟩
    · rintro ⟨i, hi, n, hmin, -, hn⟩
      obtain ⟨k, rfl⟩ := Nat.exists_eq_add_of_le hmin
      obtain ⟨l, hl, hk⟩ := times_add.1 hn
      exact ⟨l, ⟨i, hi, hl⟩, k, hk⟩
  | some max =>
    rw [ends]
    split
    · next hle =>
      rw [tracks_upTo ih hM _ hb]
      simp only [hround hs]
      constructor
      · rintro ⟨l, ⟨i, hi, hl⟩, k, hk, hn⟩
        refine ⟨i, hi, min + k, Nat.le_add_right _ _, fun m hm => ?_, times_add.2 ⟨l, hl, hn⟩⟩
        cases hm
        omega
      · rintro ⟨i, hi, n, hmin, hmax, hn⟩
        obtain ⟨k, rfl⟩ := Nat.exists_eq_add_of_le hmin
        obtain ⟨l, hl, hk⟩ := times_add.1 hn
        have hle' := hmax max rfl
        exact ⟨l, ⟨i, hi, hl⟩, k, by omega, hk⟩
    · next hlt =>
      constructor
      · intro hj
        rw [Nat.zero_testBit] at hj
        cases hj
      · rintro ⟨i, -, n, hmin, hmax, -⟩
        exact absurd (Nat.le_trans hmin (hmax max rfl)) hlt

lemma tracks_ends (text : List Char) (r : Regex) : Tracks text (ends text r) (Matches text r) := by
  induction r with
  | empty =>
    intro s _ j
    simp [ends, matches_empty]
  | directive =>
    intro s _ j
    simp [ends, matches_directive]
  | chars set nesting =>
    intro s _ j
    simp only [matches_chars]
    rw [ends, testBit_two_mul, Nat.testBit_and, testBit_positions]
    simp only [Bool.and_eq_true, decide_eq_true_eq, Option.any_eq_true]
    constructor
    · rintro ⟨hj, hs, -, hc⟩
      exact ⟨j - 1, hs, by omega, hc⟩
    · rintro ⟨i, hi, rfl, c, hc, hset⟩
      exact ⟨Nat.succ_pos i, hi, Nat.le_of_lt (List.getElem?_eq_some_iff.1 hc).1, c, hc, hset⟩
  | assert a =>
    intro s _ j
    simp only [matches_assert]
    rw [ends, Nat.testBit_and, testBit_positions]
    simp only [Bool.and_eq_true, decide_eq_true_eq]
    constructor
    · exact fun ⟨hj, ha⟩ => ⟨j, hj, rfl, ha⟩
    · rintro ⟨i, hi, rfl, ha⟩
      exact ⟨hi, ha⟩
  | group r ih =>
    intro s hs j
    simp only [ends, matches_group, ih hs]
  | rep r min max ih => exact tracks_rep ih
  | seq a b iha ihb =>
    intro s hs j
    rw [ends, ihb (bounded_of_tracks iha (fun i j => matches_le) hs)]
    simp only [iha hs, matches_seq]
    constructor
    · rintro ⟨k, ⟨i, hi, ha⟩, hb⟩
      exact ⟨i, hi, k, ha, hb⟩
    · rintro ⟨i, hi, k, ha, hb⟩
      exact ⟨k, ⟨i, hi, ha⟩, hb⟩
  | alt a b iha ihb =>
    intro s hs j
    rw [ends, Nat.testBit_or, Bool.or_eq_true, iha hs, ihb hs]
    simp only [matches_alt, and_or_left, exists_or]

/-- The search finds a match if and only if there is one. -/
theorem isMatch_iff : r.isMatch text = true ↔
    ∃ i j, i ≤ text.length ∧ Matches text r i j := by
  have hall : ∀ i, (Nat.pow 2 (text.length + 1) - 1).testBit i = true ↔ i ≤ text.length := by
    intro i
    rw [Nat.pow_eq, Nat.testBit_two_pow_sub_one, decide_eq_true_eq, Nat.lt_succ_iff]
  have hb : Bounded text (Nat.pow 2 (text.length + 1) - 1) := fun i hi => (hall i).1 hi
  rw [isMatch, bne_iff_ne]
  constructor
  · intro hne
    obtain ⟨j, hj⟩ := Nat.exists_testBit_of_ne_zero hne
    obtain ⟨i, hi, hm⟩ := (tracks_ends text r hb j).1 hj
    exact ⟨i, j, (hall i).1 hi, hm⟩
  · rintro ⟨i, j, hi, hm⟩ h0
    have hj := (tracks_ends text r hb j).2 ⟨i, (hall i).2 hi, hm⟩
    rw [h0, Nat.zero_testBit] at hj
    cases hj

end TypedPid.Regex
