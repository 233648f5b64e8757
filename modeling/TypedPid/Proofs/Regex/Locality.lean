import Mathlib.Data.List.TakeDrop
import Mathlib.Data.List.TakeWhile
import TypedPid.Pattern
import TypedPid.Proofs.Except

/-!
Reading does not look beyond what it reads: an escape or a set that is read at the beginning of a
text is read in the same way where the text is followed by the parenthesis that closes a group. Only
a comment at the end of the text takes the parenthesis in.
-/

namespace TypedPid.Regex

/-- What follows an expression that is set between the two ends of a text. -/
def closing : List Char := [')', '$']

/-- The reader does not look beyond what it reads. -/
def Local {α : Type} (read : List Char → Except SyntaxError (α × List Char)) : Prop :=
  ∀ ⦃s a rest⦄, read s = .ok (a, rest) → read (s ++ closing) = .ok (a, rest ++ closing)

/-- The same rest of a text with what follows it, which may have been taken in by a comment. -/
def Followed (s s' : List Char) : Prop := s' = s ++ closing ∨ (s = [] ∧ s' = [])

variable {verbose inComment : Bool} {s s' rest taken : List Char} {c : Char} {fl : Flags}
  {p : Char → Bool}

lemma local_ok {α : Type} (a : α) : Local fun s => .ok (a, s) := by
  intro s b rest h
  cases h
  rfl

lemma Local.map {α β : Type} {read : List Char → Except SyntaxError (α × List Char)}
    (hr : Local read) (f : α → β) : Local fun s => (read s).map fun (a, rest) => (f a, rest) := by
  intro s b rest h
  obtain ⟨⟨a, rest'⟩, ha, heq⟩ := map_eq_ok_iff.1 h
  cases heq
  dsimp only
  rw [hr ha]
  rfl

lemma local_bind {α β : Type} (x : Except SyntaxError α)
    {next : α → List Char → Except SyntaxError (β × List Char)} (hn : ∀ a, Local (next a)) :
    Local fun s => x >>= fun a => next a s := by
  intro s b rest h
  obtain ⟨a, ha, h⟩ := bind_eq_ok_iff.1 h
  exact bind_eq_ok_iff.2 ⟨a, ha, hn a h⟩

lemma local_map {α β : Type} (x : Except SyntaxError α) (f : α → β) :
    Local fun s => x.map fun a => (f a, s) := by
  intro s b rest h
  obtain ⟨a, rfl, heq⟩ := map_eq_ok_iff.1 h
  cases heq
  rfl

section Blanks

lemma skipVerbose_append (inComment : Bool) (s : List Char) :
    Followed (skipVerbose inComment s) (skipVerbose inComment (s ++ closing)) := by
  induction s generalizing inComment with
  | nil =>
    cases inComment with
    | false => exact .inl rfl
    | true => exact .inr ⟨rfl, rfl⟩
  | cons c cs ih =>
    simp only [List.cons_append, skipVerbose]
    split
    · exact ih _
    · split
      · exact ih _
      · split
        · exact ih _
        · exact .inl rfl

lemma followed_skip (verbose : Bool) (s : List Char) :
    Followed (skip verbose s) (skip verbose (s ++ closing)) := by
  cases verbose with
  | true => exact skipVerbose_append false s
  | false => exact .inl rfl

lemma skip_append (h : skip verbose s = c :: rest) :
    skip verbose (s ++ closing) = c :: (rest ++ closing) := by
  rcases followed_skip verbose s with h' | ⟨h', -⟩
  · rw [h', h, List.cons_append]
  · rw [h] at h'
    cases h'

lemma skipVerbose_suffix (inComment : Bool) (s : List Char) : skipVerbose inComment s <:+ s := by
  induction s generalizing inComment with
  | nil => exact List.suffix_refl []
  | cons c cs ih =>
    rw [skipVerbose]
    split
    · exact (ih _).trans (List.suffix_cons c cs)
    · split
      · exact (ih _).trans (List.suffix_cons c cs)
      · split
        · exact (ih _).trans (List.suffix_cons c cs)
        · exact List.suffix_refl _

lemma skip_suffix (verbose : Bool) (s : List Char) : skip verbose s <:+ s := by
  cases verbose with
  | false => exact List.suffix_refl s
  | true => exact skipVerbose_suffix false s

lemma length_skip_le (verbose : Bool) (s : List Char) : (skip verbose s).length ≤ s.length :=
  (skip_suffix verbose s).length_le

lemma gather_append (h : gather verbose p inComment s = (taken, c :: rest)) :
    gather verbose p inComment (s ++ closing) = (taken, c :: (rest ++ closing)) := by
  induction s generalizing inComment taken with
  | nil => cases h
  | cons d ds ih =>
    simp only [List.cons_append, gather] at h ⊢
    split at h
    · next h₁ => rw [if_pos h₁, ih h]
    · next h₁ =>
      rw [if_neg h₁]
      split at h
      · next h₂ => rw [if_pos h₂, ih h]
      · next h₂ =>
        rw [if_neg h₂]
        split at h
        · next h₃ => rw [if_pos h₃, ih h]
        · next h₃ =>
          rw [if_neg h₃]
          split at h
          · next h₄ =>
            rw [if_pos h₄]
            obtain ⟨rfl, hr⟩ := Prod.mk.inj h
            rw [ih (Prod.ext rfl hr)]
          · next h₄ =>
            rw [if_neg h₄]
            cases h
            rfl

end Blanks

section Escapes

lemma local_hexDigits (verbose : Bool) (n : Nat) : Local (hexDigits verbose n) := by
  induction n with
  | zero =>
    intro s a rest h
    cases h
    rfl
  | succ n ih =>
    intro s a rest h
    rw [hexDigits] at h ⊢
    cases hs : skip verbose s with
    | nil =>
      rw [hs] at h
      cases h
    | cons c cs =>
      rw [hs] at h
      rw [skip_append hs]
      dsimp only at h ⊢
      split at h
      · next hc =>
        obtain ⟨⟨ds, rest'⟩, hd, heq⟩ := map_eq_ok_iff.1 h
        rw [if_pos hc, ih hd]
        cases heq
        rfl
      · cases h

lemma local_hexEscape (fl : Flags) (count : Nat) : Local (hexEscape fl count) := by
  intro s a rest h
  cases hs : skip fl.verbose s with
  | nil =>
    simp only [hexEscape, hs] at h
    cases h
  | cons c cs =>
    have hs' := skip_append hs
    by_cases hc : c = '{'
    · subst hc
      simp only [hexEscape, hs, hs'] at h ⊢
      split at h
      · next ds rest' hg =>
        rw [gather_append hg]
        split at h
        · cases h
        · next hds =>
          simp only [hds, if_false, Bool.false_eq_true]
          split at h
          · cases h
            rfl
          · cases h
      · cases h
    · simp only [hexEscape, hs, hs', List.cons.injEq, hc, false_and, imp_self, implies_true] at h ⊢
      split at h
      · cases h
      · next ds rest' hd =>
        have hd' := local_hexDigits _ _ hd
        rw [List.cons_append] at hd'
        rw [hd']
        dsimp only
        split at h
        · split at h
          · cases h
          · next hbyte =>
            rw [if_neg hbyte]
            cases h
            rfl
        · cases h

lemma local_negated (fl : Flags) (negated : Bool) (set : Unicode.CharSet) :
    Local fun s =>
      if ¬ fl.unicode then .error .notText else (fl.negateIf negated set).map (·, s) := by
  intro s a rest h
  dsimp only at h ⊢
  split at h
  · cases h
  · next hu =>
    rw [if_neg hu]
    exact local_map _ id h

lemma local_propertyEscape (fl : Flags) (negated : Bool) : Local (propertyEscape fl negated) := by
  intro s a rest h
  cases hs : skip fl.verbose s with
  | nil =>
    simp only [propertyEscape, hs] at h
    cases h
  | cons c cs =>
    have hs' := skip_append hs
    by_cases hc : c = '{'
    · subst hc
      simp only [propertyEscape, hs, hs'] at h ⊢
      rcases hg : gather fl.verbose (· ≠ '}') false cs with ⟨name, _ | ⟨d, rest'⟩⟩
      · simp only [hg] at h
        cases h
      · by_cases hd : d = '}'
        · subst hd
          simp only [hg, gather_append hg] at h ⊢
          generalize propertyInBraces name = found at h ⊢
          rcases found with _ | ⟨set, unequal⟩
          · cases h
          · exact local_negated fl _ _ h
        · rw [hg] at h
          simp [hd] at h
    · simp only [propertyEscape, hs, hs'] at h ⊢
      generalize (Unicode.propertyNamed (String.singleton c)).map (·, false) = found at h ⊢
      rcases found with _ | ⟨set, unequal⟩
      · cases h
      · exact local_negated fl _ _ h

lemma local_namedBorder (fl : Flags) : Local (namedBorder fl) := by
  intro s a rest h
  cases s with
  | nil =>
    cases h
    rfl
  | cons c cs =>
    by_cases hc : c = '{'
    · subst hc
      simp only [namedBorder, List.cons_append] at h ⊢
      cases hs : skip fl.verbose cs with
      | nil =>
        rw [hs] at h
        cases h
      | cons d ds =>
        have hs' := skip_append hs
        simp only [hs, hs'] at h ⊢
        split at h
        · next hd =>
          rw [if_pos hd]
          split at h
          · next name rest' hg =>
            have hg' := gather_append hg
            rw [List.cons_append] at hg'
            simp only [hg']
            generalize String.ofList name = border at h ⊢
            split at h
            all_goals
              cases h
            all_goals rfl
          · cases h
        · next hd =>
          rw [if_neg hd]
          cases h
          rfl
    · simp only [namedBorder, List.cons_append, List.cons.injEq, hc, false_and, imp_self,
        implies_true] at h ⊢
      cases h
      rfl

lemma local_escape (fl : Flags) : Local (escape fl) := by
  intro s a rest h
  cases s with
  | nil => cases h
  | cons c s =>
    simp only [List.cons_append, escape] at h ⊢
    split at h
    -- a character without a meaning of its own behind a backslash
    case h_24 =>
      split at h
      · cases h
      · next hdigit =>
        rw [if_neg hdigit]
        split at h
        · next hescape =>
          rw [if_pos hescape]
          exact local_ok _ h
        · cases h
    all_goals
      first
      | exact local_ok _ h
      | exact local_map _ Atom.set h
      | exact (local_hexEscape fl _).map Atom.char h
      | exact (local_propertyEscape fl _).map Atom.set h
      | exact (local_namedBorder fl).map Atom.assert h

end Escapes

section Brackets

lemma span_append (h : s.span p = (taken, c :: rest)) :
    (s ++ closing).span p = (taken, c :: (rest ++ closing)) := by
  rw [List.span_eq_takeWhile_dropWhile, Prod.mk.injEq] at h ⊢
  obtain ⟨rfl, hd⟩ := h
  have hlen : (s.takeWhile p).length ≠ s.length := by
    intro hl
    have hsum := congrArg List.length (List.takeWhile_append_dropWhile (p := p) (l := s))
    rw [hd, List.length_append, hl, List.length_cons] at hsum
    omega
  rw [List.takeWhile_append, if_neg hlen, List.dropWhile_append, hd]
  exact ⟨rfl, rfl⟩

lemma span_append_of_nil (hp : ∀ c ∈ closing, p c = true) (h : (s.span p).2 = []) :
    ((s ++ closing).span p).2 = [] := by
  rw [List.span_eq_takeWhile_dropWhile] at h ⊢
  dsimp only at h ⊢
  rw [List.dropWhile_append, h]
  exact List.dropWhile_eq_nil_iff.2 hp

lemma setName_append (negated : Bool) (s : List Char) :
    (match (s ++ closing).span (· ≠ ':') with
      | (name, ':' :: ']' :: rest) => (asciiSet? (String.ofList name)).map (·, negated, rest)
      | _ => none) =
    (match s.span (· ≠ ':') with
      | (name, ':' :: ']' :: rest) => (asciiSet? (String.ofList name)).map (·, negated, rest)
      | _ => none).map fun (ranges, negated, rest) => (ranges, negated, rest ++ closing) := by
  rcases hs : s.span (· ≠ ':') with ⟨name, _ | ⟨c, rest⟩⟩
  · have hs' := span_append_of_nil (p := (· ≠ ':')) (s := s) (by simp [closing]) (by rw [hs])
    rcases hs'' : (s ++ closing).span (· ≠ ':') with ⟨name', rest'⟩
    rw [hs''] at hs'
    simp only at hs'
    simp [hs']
  · rw [span_append hs]
    rcases rest with _ | ⟨d, rest⟩
    · simp [closing]
    · by_cases hcd : c = ':' ∧ d = ']'
      · obtain ⟨rfl, rfl⟩ := hcd
        simp only [List.cons_append]
        cases asciiSet? (String.ofList name) <;> rfl
      · split
        · next heq =>
          cases heq
          exact absurd ⟨rfl, rfl⟩ hcd
        · split
          · next heq =>
            cases heq
            exact absurd ⟨rfl, rfl⟩ hcd
          · rfl

lemma namedSet?_append (s : List Char) : namedSet? (s ++ closing) =
    (namedSet? s).map fun (ranges, negated, rest) => (ranges, negated, rest ++ closing) := by
  rcases s with _ | ⟨c, _ | ⟨d, s⟩⟩
  · rfl
  · by_cases hc : c = '['
    · subst hc
      rfl
    · simp [namedSet?, hc]
  · by_cases hcd : c = '[' ∧ d = ':'
    · obtain ⟨rfl, rfl⟩ := hcd
      rcases s with _ | ⟨e, s⟩
      · rfl
      · by_cases he : e = '^'
        · subst he
          exact setName_append true s
        · simp only [namedSet?, List.cons_append, List.cons.injEq, he, false_and, imp_self,
            implies_true]
          exact setName_append false (e :: s)
    · rw [not_and] at hcd
      by_cases hc : c = '['
      · simp [namedSet?, hc, hcd hc]
      · simp [namedSet?, hc]

lemma peekBeyond_go_append {passed : Bool} (h : peekBeyond.go passed s = some c) :
    peekBeyond.go passed (s ++ closing) = some c := by
  induction s generalizing passed with
  | nil => cases h
  | cons d ds ih =>
    rw [List.cons_append]
    rw [peekBeyond.go] at h ⊢
    split at h
    · next hd => rw [if_pos hd, ih h]
    · next hd =>
      rw [if_neg hd]
      split at h
      · next hp => rw [if_pos hp, ih h]
      · next hp => rw [if_neg hp, h]

/-- Where the look ahead finds nothing, there is nothing to read: it passes over no more comment signs
than a comment would. -/
lemma skipVerbose_eq_nil_of_go {passed : Bool} (hp : inComment = true → passed = true)
    (h : peekBeyond.go passed s = none) : skipVerbose inComment s = [] := by
  induction s generalizing passed inComment with
  | nil => rfl
  | cons d ds ih =>
    rw [peekBeyond.go] at h
    rw [skipVerbose]
    split at h
    · next hd =>
      rw [if_pos hd]
      cases inComment with
      | true => exact ih (fun _ => hp rfl) h
      | false => exact ih nofun h
    · next hd =>
      split at h
      · next hd' =>
        simp only [Bool.and_eq_true, Bool.not_eq_true', decide_eq_true_eq] at hd'
        obtain ⟨rfl, rfl⟩ := hd'
        cases inComment with
        | true => exact absurd (hp rfl) nofun
        | false =>
          simp only [hd, if_false, Bool.false_eq_true, if_true]
          exact ih (fun _ => rfl) h
      · cases h

lemma peekBeyond_append (h : skip verbose s = c :: rest) :
    peekBeyond verbose (s ++ closing) = peekBeyond verbose s := by
  cases verbose with
  | false =>
    rw [skip, if_neg nofun] at h
    rw [h]
    rfl
  | true =>
    cases hg : peekBeyond.go false s with
    | none =>
      have hnil : skipVerbose false s = [] := skipVerbose_eq_nil_of_go nofun hg
      rw [skip, if_pos rfl, hnil] at h
      cases h
    | some d => simp only [peekBeyond, if_true, hg, peekBeyond_go_append hg, Option.or]

lemma peekBeyond_append_of_eq (h : peekBeyond verbose s = some c) (hc : c = ']' ∨ c = '-') :
    peekBeyond verbose (s ++ closing) = some c := by
  rw [← h]
  cases s with
  | nil =>
    rw [peekBeyond] at h
    cases verbose <;> cases h
  | cons d ds =>
    cases verbose with
    | false => rfl
    | true =>
      cases hg : peekBeyond.go false (d :: ds) with
      | some e => simp only [peekBeyond, if_true, hg, peekBeyond_go_append hg, Option.or]
      | none =>
        -- the first character is given only where it is blank or a comment sign
        simp only [peekBeyond, if_true, hg, Option.or, List.head?_cons, Option.some.injEq] at h
        subst h
        rcases hc with rfl | rfl <;> cases hg

/-- The bound on the rounds is never reached, whatever follows. -/
lemma openBracket_go_append {n m : Nat} {found ms : List Member} (hn : s.length ≤ n)
    (hm : s.length ≤ m) (h : openBracket.go verbose n s found = .ok (ms, rest)) :
    openBracket.go verbose m (s ++ closing) found = .ok (ms, rest ++ closing) := by
  induction n generalizing s m found with
  | zero =>
    rw [List.eq_nil_of_length_eq_zero (Nat.le_zero.1 hn)] at h
    cases h
  | succ n ih =>
    cases s with
    | nil => cases h
    | cons c s =>
      obtain ⟨m, rfl⟩ : ∃ k, m = k + 1 := ⟨m - 1, by rw [List.length_cons] at hm; omega⟩
      rw [List.length_cons, Nat.succ_le_succ_iff] at hn hm
      rw [List.cons_append]
      rw [openBracket.go] at h ⊢
      split at h
      · next hc =>
        rw [if_pos hc]
        cases hs : skip verbose s with
        | nil =>
          rw [hs] at h
          cases n <;> cases h
        | cons d ds =>
          have hle := length_skip_le verbose s
          rw [skip_append hs, ← List.cons_append, ← hs]
          exact ih (hle.trans hn) (hle.trans hm) h
      · next hc =>
        rw [if_neg hc]
        split at h
        · next hc' =>
          rw [if_pos hc']
          cases hs : skip verbose s with
          | nil =>
            rw [hs] at h
            cases h
          | cons d ds =>
            rw [hs] at h
            rw [skip_append hs]
            cases h
            rfl
        · next hc' =>
          rw [if_neg hc']
          cases h
          rfl

lemma hyphens_append {found ms : List Member}
    (h : openBracket.hyphens verbose s found = .ok (ms, rest)) :
    openBracket.hyphens verbose (s ++ closing) found = .ok (ms, rest ++ closing) :=
  openBracket_go_append (Nat.le_refl _) (List.length_append ▸ Nat.le_add_right _ _) h

lemma openBracket_append {negated : Bool} {found : List Member}
    (h : openBracket verbose s = .ok (negated, found, rest)) :
    openBracket verbose (s ++ closing) = .ok (negated, found, rest ++ closing) := by
  cases hs : skip verbose s with
  | nil =>
    simp only [openBracket, hs] at h
    cases h
  | cons c cs =>
    have hs' := skip_append hs
    by_cases hc : c = '^'
    · subst hc
      simp only [openBracket, hs, hs'] at h ⊢
      obtain ⟨⟨ms, rest'⟩, hms, heq⟩ := map_eq_ok_iff.1 h
      cases heq
      cases hcs : skip verbose cs with
      | nil =>
        rw [hcs] at hms
        cases hms
      | cons d ds =>
        rw [hcs] at hms
        rw [skip_append hcs, ← List.cons_append, hyphens_append hms]
        rfl
    · simp only [openBracket, hs, hs', List.cons.injEq, hc, false_and, imp_self,
        implies_true] at h ⊢
      obtain ⟨⟨ms, rest'⟩, hms, heq⟩ := map_eq_ok_iff.1 h
      cases heq
      rw [← List.cons_append, hyphens_append hms]
      rfl

lemma local_bracketAtom (fl : Flags) : Local (bracketAtom fl) := by
  intro s a rest h
  cases s with
  | nil => cases h
  | cons c cs =>
    by_cases hc : c = '\\'
    · subst hc
      exact local_escape fl h
    · simp only [bracketAtom, List.cons_append] at h ⊢
      exact local_ok _ h

lemma local_rangeEnd (fl : Flags) (first : Atom) : Local fun s =>
    bracketAtom fl s >>= fun (last, rest) => first.toMemberChar fl >>= fun lo =>
      last.toMemberChar fl >>= fun hi =>
        if lo ≤ hi then .ok ((⟨.range lo hi, 0⟩ : Member), rest) else .error .invalidRange := by
  intro s a rest h
  obtain ⟨⟨last, s'⟩, hlast, h⟩ := bind_eq_ok_iff.1 h
  refine bind_eq_ok_iff.2 ⟨(last, s' ++ closing), local_bracketAtom fl hlast, ?_⟩
  obtain ⟨lo, hlo, h⟩ := bind_eq_ok_iff.1 h
  obtain ⟨hi, hhi, h⟩ := bind_eq_ok_iff.1 h
  refine bind_eq_ok_iff.2 ⟨lo, hlo, bind_eq_ok_iff.2 ⟨hi, hhi, ?_⟩⟩
  split at h
  · next hle =>
    rw [if_pos hle]
    exact local_ok _ h
  · cases h

lemma local_bracketRange (fl : Flags) : Local (bracketRange fl) := by
  intro s a rest h
  obtain ⟨⟨first, s₁⟩, hfirst, h⟩ := bind_eq_ok_iff.1 h
  refine bind_eq_ok_iff.2 ⟨(first, s₁ ++ closing), local_bracketAtom fl hfirst, ?_⟩
  cases hs : skip fl.verbose s₁ with
  | nil =>
    simp only [hs] at h
    cases h
  | cons c beyond =>
    have hs' := skip_append hs
    by_cases hc : c = '-'
    · subst hc
      simp only [hs, hs'] at h ⊢
      split at h
      · next hpeek =>
        rw [if_pos (hpeek.imp (peekBeyond_append_of_eq · (.inl rfl))
          (peekBeyond_append_of_eq · (.inr rfl)))]
        exact local_bind _ (fun m => local_ok m) h
      · next hpeek =>
        cases hb : skip fl.verbose beyond with
        | nil =>
          simp only [hb] at h
          cases h
        | cons d ds =>
          rw [peekBeyond_append hb, if_neg hpeek]
          simp only [hb, skip_append hb] at h ⊢
          exact local_rangeEnd fl first h
    · simp only [hs, hs', List.cons.injEq, hc, false_and, imp_self, implies_true] at h ⊢
      exact local_bind _ (fun m => local_ok m) h

section Operators

variable {fuel levels : Nat} {negated : Bool} {waiting : Option (Member × SetOp)} {found : List Member}

/-- The characters that make an operation of two sets where they are doubled. -/
def operators : List Char := ['&', '-', '~']

lemma bracketBody_member (hs : skip fl.verbose s = c :: rest) (hclose : c ≠ ']') (hopen : c ≠ '[')
    (hop : c ∈ operators → rest.head? ≠ some c) :
    bracketBody fl (fuel + 1) levels negated waiting found s =
      bracketRange fl (c :: rest) >>= fun (member, rest) =>
        bracketBody fl fuel levels negated waiting (found ++ [member]) rest := by
  rw [bracketBody, hs]
  dsimp only
  split <;> simp_all [operators]

lemma bracketBody_operator (fl : Flags) (hc : c ∈ operators) : ∃ op, ∀ s rest fuel levels negated
    waiting found, skip fl.verbose s = c :: c :: rest →
      bracketBody fl (fuel + 1) levels negated waiting found s = bracketBody fl fuel levels negated
        (some (Member.finish fl waiting (Member.join found), op)) [] rest := by
  simp only [operators, List.mem_cons, List.not_mem_nil, or_false] at hc
  rcases hc with rfl | rfl | rfl
  · exact ⟨.inter, fun s rest fuel levels negated waiting found hs => by simp only [bracketBody, hs]⟩
  · exact ⟨.diff, fun s rest fuel levels negated waiting found hs => by simp only [bracketBody, hs]⟩
  · exact ⟨.symm, fun s rest fuel levels negated waiting found hs => by simp only [bracketBody, hs]⟩

/-- No parenthesis makes an operation of the sign before it. -/
lemma operator_or_member (c : Char) (cs : List Char) : (c ∈ operators ∧ ∃ ds, cs = c :: ds) ∨
    ((c ∈ operators → cs.head? ≠ some c) ∧ (c ∈ operators → (cs ++ closing).head? ≠ some c)) := by
  by_cases hc : c ∈ operators
  · cases cs with
    | nil =>
      refine .inr ⟨nofun, fun hc heq => ?_⟩
      cases heq
      exact absurd hc (by decide)
    | cons d ds =>
      by_cases hd : d = c
      · exact .inl ⟨hc, ds, by rw [hd]⟩
      · exact .inr ⟨fun _ heq => hd (Option.some.inj heq), fun _ heq => hd (Option.some.inj heq)⟩
  · exact .inr ⟨fun h => absurd h hc, fun h => absurd h hc⟩

end Operators

/-- With more to read there is more fuel, and whatever is enough reads the same. -/
lemma bracketBody_append {levels fuel m : Nat} {negated : Bool} {waiting : Option (Member × SetOp)}
    {found : List Member} {member : Member} (hm : fuel ≤ m)
    (h : bracketBody fl fuel levels negated waiting found s = .ok (member, rest)) :
    bracketBody fl m levels negated waiting found (s ++ closing) = .ok (member, rest ++ closing) := by
  induction fuel generalizing m levels negated waiting found s member rest with
  | zero => cases h
  | succ fuel ih =>
    obtain ⟨m, rfl⟩ : ∃ k, m = k + 1 := ⟨m - 1, by omega⟩
    rw [Nat.succ_le_succ_iff] at hm
    cases hs : skip fl.verbose s with
    | nil =>
      simp only [bracketBody, hs] at h
      cases h
    | cons c cs =>
      have hs' := skip_append hs
      by_cases hclose : c = ']'
      · subst hclose
        simp only [bracketBody, hs, hs'] at h ⊢
        exact local_bind _ (fun set => local_ok _) h
      by_cases hopen : c = '['
      · subst hopen
        simp only [bracketBody, hs, hs'] at h ⊢
        have hname := namedSet?_append ('[' :: cs)
        rw [List.cons_append] at hname
        cases hn : namedSet? ('[' :: cs) with
        | some named =>
          obtain ⟨ranges, negatedName, rest'⟩ := named
          simp only [hname, hn, Option.map_some] at h ⊢
          obtain ⟨set, hset, h⟩ := bind_eq_ok_iff.1 h
          exact bind_eq_ok_iff.2 ⟨set, hset, ih hm h⟩
        | none =>
          simp only [hname, hn, Option.map_none] at h ⊢
          cases levels with
          | zero => cases h
          | succ levels =>
            obtain ⟨⟨negatedInner, first, s₁⟩, hfirst, h⟩ := bind_eq_ok_iff.1 h
            obtain ⟨⟨inner, s₂⟩, hinner, h⟩ := bind_eq_ok_iff.1 h
            refine bind_eq_ok_iff.2 ⟨_, openBracket_append hfirst, ?_⟩
            exact bind_eq_ok_iff.2 ⟨_, ih hm hinner, ih hm h⟩
      rcases operator_or_member c cs with ⟨hc, ds, rfl⟩ | ⟨hop, hop'⟩
      · obtain ⟨op, hop⟩ := bracketBody_operator fl hc
        rw [hop _ _ _ _ _ _ _ hs] at h
        rw [hop _ _ _ _ _ _ _ hs']
        exact ih hm h
      · rw [bracketBody_member hs hclose hopen hop] at h
        rw [bracketBody_member hs' hclose hopen hop']
        obtain ⟨⟨member, s₁⟩, hmember, h⟩ := bind_eq_ok_iff.1 h
        exact bind_eq_ok_iff.2 ⟨_, local_bracketRange fl hmember, ih hm h⟩

lemma local_bracketSet (fl : Flags) (levels : Nat) : Local (bracketSet fl levels) := by
  intro s a rest h
  obtain ⟨⟨negated, first, s₁⟩, hopen, h⟩ := bind_eq_ok_iff.1 h
  refine bind_eq_ok_iff.2 ⟨(negated, first, s₁ ++ closing), openBracket_append hopen, ?_⟩
  refine bracketBody_append ?_ h
  rw [List.length_append]
  omega

end Brackets

end TypedPid.Regex
