import TypedPid.Proofs.Regex.Coverage
import TypedPid.Proofs.Regex.Progress

/-!
How an expression breaks out of the group that is put around it. What cannot be read by itself, but can
with the closing end behind it, has taken the parenthesis of that end for its own, so that the group is
left open. Only an expression that closes the group itself gets by.
-/

namespace TypedPid.Regex

/-- What is read only with the closing end behind it has taken the parenthesis in. -/
def Starved {α : Type} (read : List Char → Except SyntaxError (α × List Char)) : Prop :=
  ∀ ⦃s e a rest⦄, read s = .error e → read (s ++ closing) = .ok (a, rest) → rest <:+ ['$']

variable {verbose inComment : Bool} {s s' rest taken : List Char} {c : Char} {fl : Flags}
  {scope : Scope} {p : Char → Bool} {e : SyntaxError}

lemma starved_ok {α : Type} (a : α) : Starved fun s => .ok (a, s) := by
  intro s e b rest he
  cases he

lemma Starved.map {α β : Type} {read : List Char → Except SyntaxError (α × List Char)}
    (hr : Starved read) (f : α → β) : Starved fun s => (read s).map fun (a, rest) => (f a, rest) := by
  intro s e b rest he h
  obtain ⟨⟨a, rest'⟩, ha, heq⟩ := map_eq_ok_iff.1 h
  cases heq
  cases hs : read s with
  | error e => exact hr hs ha
  | ok a =>
    dsimp only at he
    rw [hs] at he
    cases he

lemma starved_map {α β : Type} (x : Except SyntaxError α) (f : α → β) :
    Starved fun s => x.map fun a => (f a, s) := by
  intro s e b rest he h
  cases x with
  | error e => cases h
  | ok a => cases he

section Closing

/-! A character that is not of the closing end stands in the text itself. -/

lemma skip_append_of_nil (h : skip verbose s = []) :
    skip verbose (s ++ closing) = [')', '$'] ∨ skip verbose (s ++ closing) = [] := by
  rcases followed_skip verbose s with hs | ⟨-, hs⟩
  · rw [h] at hs
    exact .inl hs
  · exact .inr hs

lemma skip_append_suffix (h : skip verbose s = []) : skip verbose (s ++ closing) <:+ closing := by
  rcases skip_append_of_nil h with hs | hs <;> rw [hs]
  · exact List.suffix_refl _
  · exact List.nil_suffix

lemma skip_of_append (hc : c ∉ closing) (h : skip verbose (s ++ closing) = c :: rest) :
    ∃ t, skip verbose s = c :: t := by
  cases hs : skip verbose s with
  | nil =>
    rcases skip_append_of_nil hs with hs' | hs'
    · rw [hs'] at h
      cases h
      exact absurd List.mem_cons_self hc
    · rw [hs'] at h
      cases h
  | cons d t =>
    rw [skip_append hs] at h
    cases h
    exact ⟨t, rfl⟩

lemma gather_append_nil (h : (gather verbose p inComment s).2 = []) :
    (gather verbose p inComment (s ++ closing)).2 <:+ closing := by
  induction s generalizing inComment with
  | nil => exact gather_suffix
  | cons c cs ih =>
    rw [List.cons_append]
    rw [gather] at h ⊢
    split at h
    · next h₁ =>
      rw [if_pos h₁]
      exact ih h
    · next h₁ =>
      rw [if_neg h₁]
      split at h
      · next h₂ =>
        rw [if_pos h₂]
        exact ih h
      · next h₂ =>
        rw [if_neg h₂]
        split at h
        · next h₃ =>
          rw [if_pos h₃]
          exact ih h
        · next h₃ =>
          rw [if_neg h₃]
          split at h
          · next h₄ =>
            rw [if_pos h₄]
            exact ih h
          · cases h

lemma mem_closing_of_suffix (h : c :: rest <:+ closing) : c ∈ closing :=
  h.subset List.mem_cons_self

lemma gather_of_append (hc : c ∉ closing)
    (h : gather verbose p inComment (s ++ closing) = (taken, c :: rest)) :
    ∃ t, gather verbose p inComment s = (taken, c :: t) := by
  rcases hg : gather verbose p inComment s with ⟨taken', _ | ⟨d, t⟩⟩
  · have hsuffix := gather_append_nil (congrArg Prod.snd hg)
    rw [h] at hsuffix
    exact absurd (mem_closing_of_suffix hsuffix) hc
  · rw [gather_append hg] at h
    cases h
    exact ⟨t, rfl⟩

lemma span_of_append (hc : c ∉ closing) (h : (s ++ closing).span p = (taken, c :: rest)) :
    ∃ t, s.span p = (taken, c :: t) := by
  rcases hs : s.span p with ⟨taken', _ | ⟨d, t⟩⟩
  · rw [List.span_eq_takeWhile_dropWhile, Prod.mk.injEq] at hs h
    rw [List.dropWhile_append, hs.2] at h
    have hsuffix := List.dropWhile_suffix p (l := closing)
    rw [show closing.dropWhile p = c :: rest from h.2] at hsuffix
    exact absurd (mem_closing_of_suffix hsuffix) hc
  · rw [span_append hs] at h
    cases h
    exact ⟨t, rfl⟩

lemma skip_closing : skip verbose closing = closing := by
  cases verbose <;> rfl

end Closing

section Escapes

lemma starved_hexDigits (verbose : Bool) (n : Nat) : Starved (hexDigits verbose n) := by
  induction n with
  | zero =>
    intro s e a rest he
    cases he
  | succ n ih =>
    intro s e a rest he h
    rw [hexDigits] at he h
    cases hs : skip verbose s with
    | nil =>
      rcases skip_append_of_nil hs with hs' | hs' <;> rw [hs'] at h <;> cases h
    | cons c cs =>
      rw [hs] at he
      rw [skip_append hs] at h
      dsimp only at he h
      split at h
      · next hc =>
        rw [if_pos hc] at he
        exact ih.map _ he h
      · cases h

lemma hexDigits_closing (verbose : Bool) (n : Nat) :
    hexDigits verbose (n + 1) [')', '$'] = .error .invalidEscape := by
  rw [hexDigits, show skip verbose [')', '$'] = [')', '$'] from skip_closing]
  rfl

lemma starved_hexEscape (fl : Flags) (n : Nat) : Starved (hexEscape fl (n + 1)) := by
  intro s e a rest he h
  cases hs : skip fl.verbose s with
  | nil =>
    rcases skip_append_of_nil hs with hs' | hs'
    · simp [hexEscape, hs', hexDigits_closing] at h
    · simp only [hexEscape, hs'] at h
      cases h
  | cons c cs =>
    have hs' := skip_append hs
    by_cases hc : c = '{'
    · subst hc
      simp only [hexEscape, hs, hs'] at he h
      split at h
      · next ds rest' hg =>
        obtain ⟨t, hg'⟩ := gather_of_append (by decide) hg
        simp only [hg'] at he
        split at h
        · cases h
        · next hds =>
          rw [if_neg hds] at he
          split at h
          · next hv =>
            simp only [hv] at he
            cases he
          · cases h
      · cases h
    · simp only [hexEscape, hs, hs', List.cons.injEq, hc, false_and, imp_self, implies_true] at he h
      split at h
      · cases h
      · next ds rest' hd =>
        rw [← List.cons_append] at hd
        cases hd' : hexDigits fl.verbose (n + 1) (c :: cs) with
        | error e =>
          have hlost := starved_hexDigits _ _ hd' hd
          split at h
          · split at h
            · cases h
            · cases h
              exact hlost
          · cases h
        | ok x =>
          obtain ⟨ds', t⟩ := x
          rw [local_hexDigits _ _ hd'] at hd
          cases hd
          simp only [hd'] at he
          split at h
          · next hv =>
            simp only [hv] at he
            split at h
            · cases h
            · next hbyte =>
              rw [if_neg hbyte] at he
              cases he
          · cases h

lemma starved_propertyEscape (fl : Flags) (negated : Bool) : Starved (propertyEscape fl negated) := by
  intro s e a rest he h
  cases hs : skip fl.verbose s with
  | nil =>
    rcases skip_append_of_nil hs with hs' | hs'
    · simp only [propertyEscape, hs'] at h
      split at h
      · cases h
      · cases h
      · next set unequal rest' heq =>
        obtain ⟨-, rfl⟩ := Prod.mk.inj (Except.ok.inj heq)
        split at h
        · cases h
        · obtain ⟨set', -, heq⟩ := map_eq_ok_iff.1 h
          cases heq
          exact List.suffix_refl _
    · simp only [propertyEscape, hs'] at h
      cases h
  | cons c cs =>
    have hs' := skip_append hs
    by_cases hc : c = '{'
    · subst hc
      simp only [propertyEscape, hs, hs'] at he h
      split at h
      · cases h
      · cases h
      · next set unequal rest' heq =>
        split at heq
        · next name t hg =>
          obtain ⟨t', hg'⟩ := gather_of_append (by decide) hg
          obtain ⟨hfound, rfl⟩ := Prod.mk.inj (Except.ok.inj heq)
          simp only [hg', hfound] at he
          split at h
          · cases h
          · next hu =>
            obtain ⟨set', hset, -⟩ := map_eq_ok_iff.1 h
            rw [if_neg hu, hset] at he
            cases he
        · cases heq
    · simp only [propertyEscape, hs, hs'] at he h
      generalize (Unicode.propertyNamed (String.singleton c)).map (·, false) = found at he h
      rcases found with _ | ⟨set, unequal⟩
      · cases h
      · dsimp only at he h
        split at h
        · cases h
        · next hu =>
          obtain ⟨set', hset, -⟩ := map_eq_ok_iff.1 h
          rw [if_neg hu, hset] at he
          cases he

/-- A brace that nothing follows cannot be told from one that opens the name of a border; with the
parenthesis behind it, it can. -/
lemma brace_of_namedBorder {a : Assertion} (he : namedBorder fl s = .error e)
    (h : namedBorder fl (s ++ closing) = .ok (a, rest)) :
    ∃ cs, rest = '{' :: (cs ++ closing) ∧ skip fl.verbose cs = [] := by
  cases s with
  | nil => cases he
  | cons c cs =>
    by_cases hc : c = '{'
    · subst hc
      simp only [namedBorder, List.cons_append] at he h
      cases hs : skip fl.verbose cs with
      | nil =>
        refine ⟨cs, ?_, hs⟩
        rcases skip_append_of_nil hs with hs' | hs'
        · rw [hs'] at h
          cases h
          rfl
        · rw [hs'] at h
          cases h
      | cons d ds =>
        have hs' := skip_append hs
        simp only [hs, hs'] at he h
        split at h
        · next hd =>
          rw [if_pos hd] at he
          split at h
          · next name rest' hg =>
            rw [← List.cons_append] at hg
            obtain ⟨t, hg'⟩ := gather_of_append (c := '}') (by decide) hg
            simp only [hg'] at he
            generalize String.ofList name = border at he h
            split at h
            all_goals
              cases h
            all_goals cases he
          · cases h
        · next hd =>
          rw [if_neg hd] at he
          cases he
    · simp only [namedBorder, List.cons.injEq, hc, false_and, imp_self, implies_true] at he
      cases he

lemma starved_escape {a : Atom} (he : escape fl s = .error e)
    (h : escape fl (s ++ closing) = .ok (a, rest)) : rest <:+ ['$'] ∨
      ∃ b cs, a = .assert b ∧ rest = '{' :: (cs ++ closing) ∧ skip fl.verbose cs = [] := by
  cases s with
  | nil =>
    have hclosing : escape fl [')', '$'] = .ok (.char ')', ['$']) := rfl
    rw [List.nil_append, closing, hclosing] at h
    cases h
    exact .inl (List.suffix_refl _)
  | cons c s =>
    revert he
    simp only [List.cons_append, escape] at h ⊢
    split at h
    -- a border may have a name
    case h_20 =>
      intro he
      obtain ⟨⟨b, rest'⟩, hb, heq⟩ := map_eq_ok_iff.1 h
      cases heq
      cases hs : namedBorder fl s with
      | ok x =>
        rw [hs] at he
        cases he
      | error e =>
        obtain ⟨cs, hrest, hcs⟩ := brace_of_namedBorder hs hb
        exact .inr ⟨b, cs, rfl, hrest, hcs⟩
    -- a character without a meaning of its own behind a backslash
    case h_24 =>
      intro he
      split at h
      · cases h
      · next hdigit =>
        rw [if_neg hdigit] at he
        split at h
        · next hescape =>
          rw [if_pos hescape] at he
          cases he
        · cases h
    all_goals
      intro he
      first
      | exact .inl (starved_ok _ he h)
      | exact .inl (starved_map _ Atom.set he h)
      | exact .inl ((starved_hexEscape fl _).map Atom.char he h)
      | exact .inl ((starved_propertyEscape fl _).map Atom.set he h)

end Escapes

section Brackets

lemma peekBeyond_go_append_none {passed : Bool} (h : peekBeyond.go passed s = none) :
    peekBeyond.go passed (s ++ closing) = some ')' := by
  induction s generalizing passed with
  | nil => cases passed <;> rfl
  | cons d ds ih =>
    rw [List.cons_append]
    rw [peekBeyond.go] at h ⊢
    split at h
    · next hd =>
      rw [if_pos hd]
      exact ih h
    · next hd =>
      rw [if_neg hd]
      split at h
      · next hp =>
        rw [if_pos hp]
        exact ih h
      · cases h

/-- Whether a bracket or a hyphen comes next does not depend on the closing end. -/
lemma peekBeyond_of_append (h : peekBeyond verbose (s ++ closing) = some c) (hc : c = ']' ∨ c = '-') :
    peekBeyond verbose s = some c := by
  cases verbose with
  | false =>
    cases s with
    | nil => rcases hc with rfl | rfl <;> cases h
    | cons d ds => exact h
  | true =>
    cases hg : peekBeyond.go false s with
    | some d =>
      simp only [peekBeyond, if_true, peekBeyond_go_append hg, Option.or] at h
      simp only [peekBeyond, if_true, hg, Option.or, h]
    | none =>
      simp only [peekBeyond, if_true, peekBeyond_go_append_none hg, Option.or] at h
      rcases hc with rfl | rfl <;> cases h

/-- A border is no member of a set, nor an end of a range. -/
lemma bracketRange_ne_ok_of_assert {b : Assertion} {x : Member × List Char}
    (ha : bracketAtom fl s = .ok (.assert b, s')) : bracketRange fl s ≠ .ok x := by
  intro h
  rw [bracketRange, ha] at h
  simp only [ok_bind] at h
  split at h
  · cases h
  · split at h
    · cases h
    · split at h
      · cases h
      · obtain ⟨⟨last, s₂⟩, -, h⟩ := bind_eq_ok_iff.1 h
        cases h
  · cases h

lemma starved_bracketAtom {a : Atom} (he : bracketAtom fl s = .error e)
    (h : bracketAtom fl (s ++ closing) = .ok (a, rest)) : rest <:+ ['$'] ∨ ∃ b, a = .assert b := by
  cases s with
  | nil =>
    cases h
    exact .inl (List.suffix_refl _)
  | cons c cs =>
    by_cases hc : c = '\\'
    · subst hc
      rcases starved_escape he h with hrest | ⟨b, -, hb, -⟩
      · exact .inl hrest
      · exact .inr ⟨b, hb⟩
    · simp only [bracketAtom] at he
      cases he

lemma starved_rangeEnd (fl : Flags) (first : Atom) : Starved fun s =>
    bracketAtom fl s >>= fun (last, rest) => first.toMemberChar fl >>= fun lo =>
      last.toMemberChar fl >>= fun hi =>
        if lo ≤ hi then .ok ((⟨.range lo hi, 0⟩ : Member), rest) else .error .invalidRange := by
  intro s e member rest he h
  obtain ⟨⟨last, s₁⟩, hlast, h⟩ := bind_eq_ok_iff.1 h
  obtain ⟨lo, hlo, h⟩ := bind_eq_ok_iff.1 h
  obtain ⟨hi, hhi, h⟩ := bind_eq_ok_iff.1 h
  split at h
  · next hle =>
    cases h
    cases hs : bracketAtom fl s with
    | error e =>
      rcases starved_bracketAtom hs hlast with hrest | ⟨b, rfl⟩
      · exact hrest
      · cases hhi
    | ok last' =>
      rw [local_bracketAtom fl hs] at hlast
      cases hlast
      simp only [hs, ok_bind, hlo, hhi, if_pos hle] at he
      cases he
  · cases h

lemma bracketRange_of_suffix {first : Atom} {member : Member}
    (hfirst : bracketAtom fl s = .ok (first, s')) (hs : skip fl.verbose s' <:+ closing)
    (h : bracketRange fl s = .ok (member, rest)) : rest <:+ closing := by
  rw [bracketRange, hfirst] at h
  simp only [ok_bind] at h
  split at h
  · cases h
  · next hs' =>
    rw [hs'] at hs
    exact absurd (mem_closing_of_suffix hs) (by decide)
  · obtain ⟨m, -, h⟩ := bind_eq_ok_iff.1 h
    cases h
    exact hs

lemma starved_bracketRange {member : Member} (he : bracketRange fl s = .error e)
    (h : bracketRange fl (s ++ closing) = .ok (member, rest)) : rest <:+ closing := by
  cases hfirst : bracketAtom fl s with
  | error e =>
    obtain ⟨⟨first, s₁⟩, hfirst', -⟩ := bind_eq_ok_iff.1 h
    rcases starved_bracketAtom hfirst hfirst' with hs₁ | ⟨b, rfl⟩
    · have hs := (skip_suffix fl.verbose s₁).trans hs₁
      exact bracketRange_of_suffix hfirst' (hs.trans (List.suffix_cons _ _)) h
    · exact absurd h (bracketRange_ne_ok_of_assert hfirst')
  | ok x =>
    obtain ⟨first, s₁⟩ := x
    have hfirst' := local_bracketAtom fl hfirst
    cases hs : skip fl.verbose s₁ with
    | nil =>
      exact bracketRange_of_suffix hfirst' (skip_append_suffix hs) h
    | cons c beyond =>
      have hs' := skip_append hs
      simp only [bracketRange, hfirst, hfirst', ok_bind] at he h
      by_cases hc : c = '-'
      · subst hc
        simp only [hs, hs'] at he h
        split at h
        · next hpeek =>
          rw [if_pos (hpeek.imp (peekBeyond_of_append · (.inl rfl))
            (peekBeyond_of_append · (.inr rfl)))] at he
          obtain ⟨m, hm, h⟩ := bind_eq_ok_iff.1 h
          simp only [hm] at he
          cases he
        · next hpeek =>
          have hpeek' : ¬ (peekBeyond fl.verbose beyond = some ']' ∨
              peekBeyond fl.verbose beyond = some '-') := fun hp =>
            hpeek (hp.imp (peekBeyond_append_of_eq · (.inl rfl)) (peekBeyond_append_of_eq · (.inr rfl)))
          rw [if_neg hpeek'] at he
          cases hb : skip fl.verbose beyond with
          | nil =>
            rcases skip_append_of_nil hb with hb' | hb'
            · simp only [hb'] at h
              obtain ⟨⟨last, s₂⟩, hlast, h⟩ := bind_eq_ok_iff.1 h
              obtain ⟨lo, -, h⟩ := bind_eq_ok_iff.1 h
              obtain ⟨hi, -, h⟩ := bind_eq_ok_iff.1 h
              cases hlast
              split at h <;> cases h
              exact List.suffix_cons _ _
            · simp only [hb'] at h
              cases h
          | cons d ds =>
            simp only [hb, skip_append hb] at he h
            exact (starved_rangeEnd fl first he h).trans (List.suffix_cons _ _)
      · simp only [hs, hs', List.cons.injEq, hc, false_and, imp_self, implies_true] at he h
        obtain ⟨m, hm, h⟩ := bind_eq_ok_iff.1 h
        simp only [hm] at he
        cases he

lemma openBracket_go_of_suffix {n : Nat} {found ms : List Member} (hs : s <:+ closing)
    (h : openBracket.go verbose n s found = .ok (ms, rest)) : rest <:+ closing := by
  cases s with
  | nil => cases n <;> cases h
  | cons c t =>
    have hc := mem_closing_of_suffix hs
    simp only [closing, List.mem_cons, List.not_mem_nil, or_false] at hc
    cases n with
    | zero =>
      cases h
      exact hs
    | succ n =>
      rcases hc with rfl | rfl <;> cases h <;> exact hs

lemma starved_openBracket_go {n m : Nat} {found ms : List Member} (hn : s.length ≤ n)
    (hm : s.length ≤ m) (he : openBracket.go verbose n s found = .error e)
    (h : openBracket.go verbose m (s ++ closing) found = .ok (ms, rest)) : rest <:+ closing := by
  induction n generalizing s m found with
  | zero =>
    rw [List.eq_nil_of_length_eq_zero (Nat.le_zero.1 hn)] at h
    exact openBracket_go_of_suffix (List.suffix_refl _) h
  | succ n ih =>
    cases s with
    | nil => exact openBracket_go_of_suffix (List.suffix_refl _) h
    | cons c s =>
      obtain ⟨m, rfl⟩ : ∃ k, m = k + 1 := ⟨m - 1, by rw [List.length_cons] at hm; omega⟩
      rw [List.length_cons, Nat.succ_le_succ_iff] at hn hm
      rw [List.cons_append] at h
      rw [openBracket.go] at he h
      split at h
      · next hc =>
        rw [if_pos hc] at he
        cases hs : skip verbose s with
        | nil =>
          exact openBracket_go_of_suffix (skip_append_suffix hs) h
        | cons d ds =>
          have hle := length_skip_le verbose s
          rw [skip_append hs, ← List.cons_append, ← hs] at h
          exact ih (hle.trans hn) (hle.trans hm) he h
      · next hc =>
        rw [if_neg hc] at he
        split at h
        · next hc' =>
          rw [if_pos hc'] at he
          cases hs : skip verbose s with
          | nil =>
            rcases skip_append_of_nil hs with hs' | hs' <;> rw [hs'] at h <;> cases h
            exact List.suffix_refl _
          | cons d ds =>
            rw [hs] at he
            cases he
        · next hc' =>
          rw [if_neg hc'] at he
          cases he

lemma starved_hyphens {found ms : List Member} (he : openBracket.hyphens verbose s found = .error e)
    (h : openBracket.hyphens verbose (s ++ closing) found = .ok (ms, rest)) : rest <:+ closing :=
  starved_openBracket_go (Nat.le_refl _) (List.length_append ▸ Nat.le_add_right _ _) he h

lemma starved_openBracket {negated : Bool} {found : List Member}
    (he : openBracket verbose s = .error e)
    (h : openBracket verbose (s ++ closing) = .ok (negated, found, rest)) : rest <:+ closing := by
  cases hs : skip verbose s with
  | nil =>
    rcases skip_append_of_nil hs with hs' | hs'
    · simp only [openBracket, hs'] at h
      obtain ⟨⟨ms, rest'⟩, hms, heq⟩ := map_eq_ok_iff.1 h
      cases heq
      exact openBracket_go_of_suffix (List.suffix_refl _) hms
    · simp only [openBracket, hs'] at h
      cases h
  | cons c cs =>
    have hs' := skip_append hs
    by_cases hc : c = '^'
    · subst hc
      simp only [openBracket, hs, hs'] at he h
      obtain ⟨⟨ms, rest'⟩, hms, heq⟩ := map_eq_ok_iff.1 h
      cases heq
      cases hcs : skip verbose cs with
      | nil =>
        exact openBracket_go_of_suffix (skip_append_suffix hcs) hms
      | cons d ds =>
        rw [skip_append hcs, ← List.cons_append, ← hcs] at hms
        cases hh : openBracket.hyphens verbose (skip verbose cs) [] with
        | error e => exact starved_hyphens hh hms
        | ok x =>
          rw [hh] at he
          cases he
    · simp only [openBracket, hs, hs', List.cons.injEq, hc, false_and, imp_self,
        implies_true] at he h
      obtain ⟨⟨ms, rest'⟩, hms, heq⟩ := map_eq_ok_iff.1 h
      cases heq
      rw [← List.cons_append] at hms
      cases hh : openBracket.hyphens verbose (c :: cs) [] with
      | error e => exact starved_hyphens hh hms
      | ok x =>
        rw [hh] at he
        cases he

variable {levels fuel m : Nat} {negated : Bool} {waiting : Option (Member × SetOp)}
  {found : List Member} {x : Member × List Char}

/-- No set is closed behind its text: there is no bracket in the closing end. -/
lemma bracketBody_ne_ok_of_suffix (hs : skip fl.verbose s <:+ closing) :
    bracketBody fl fuel levels negated waiting found s ≠ .ok x := by
  induction fuel generalizing found s with
  | zero => nofun
  | succ fuel ih =>
    intro h
    cases hs' : skip fl.verbose s with
    | nil =>
      simp only [bracketBody, hs'] at h
      cases h
    | cons c t =>
      rw [hs'] at hs
      have hc := mem_closing_of_suffix hs
      have hmember : c ≠ ']' ∧ c ≠ '[' ∧ c ≠ '\\' ∧ c ∉ operators := by
        simp only [closing, List.mem_cons, List.not_mem_nil, or_false] at hc
        rcases hc with rfl | rfl <;> decide
      obtain ⟨hclose, hopen, hescape, hop⟩ := hmember
      rw [bracketBody_member hs' hclose hopen fun hc => absurd hc hop] at h
      obtain ⟨⟨member, rest'⟩, hm, h⟩ := bind_eq_ok_iff.1 h
      have hatom : bracketAtom fl (c :: t) = .ok (.char c, t) := by
        simp only [bracketAtom]
      have ht : skip fl.verbose t <:+ closing :=
        (skip_suffix _ _).trans ((List.suffix_cons c t).trans hs)
      exact ih ((skip_suffix _ _).trans (bracketRange_of_suffix hatom ht hm)) h

lemma bracketBody_ne_ok (hlt : s.length < fuel) (hm : fuel ≤ m)
    (he : bracketBody fl fuel levels negated waiting found s = .error e) :
    bracketBody fl m levels negated waiting found (s ++ closing) ≠ .ok x := by
  induction fuel generalizing m levels negated waiting found s e x with
  | zero => cases hlt
  | succ fuel ih =>
    intro h
    obtain ⟨m, rfl⟩ : ∃ k, m = k + 1 := ⟨m - 1, by omega⟩
    rw [Nat.succ_le_succ_iff] at hm
    cases hs : skip fl.verbose s with
    | nil =>
      exact bracketBody_ne_ok_of_suffix (skip_append_suffix hs) h
    | cons c cs =>
      have hs' := skip_append hs
      have hcs := length_of_skip hs
      by_cases hclose : c = ']'
      · subst hclose
        simp only [bracketBody, hs, hs'] at he h
        obtain ⟨set, hset, h⟩ := bind_eq_ok_iff.1 h
        rw [hset] at he
        cases he
      by_cases hopen : c = '['
      · subst hopen
        simp only [bracketBody, hs, hs'] at he h
        have hname := namedSet?_append ('[' :: cs)
        rw [List.cons_append] at hname
        cases hn : namedSet? ('[' :: cs) with
        | some named =>
          obtain ⟨ranges, negatedName, rest'⟩ := named
          simp only [hname, hn, Option.map_some] at he h
          obtain ⟨set, hset, h⟩ := bind_eq_ok_iff.1 h
          have hrest := length_of_namedSet? hn
          rw [List.length_cons] at hrest
          rw [hset, ok_bind] at he
          exact ih (by omega) hm he h
        | none =>
          simp only [hname, hn, Option.map_none] at he h
          cases levels with
          | zero => cases h
          | succ levels =>
            obtain ⟨⟨negatedInner, first, s₁⟩, hfirst, h⟩ := bind_eq_ok_iff.1 h
            obtain ⟨⟨inner, s₂⟩, hinner, h⟩ := bind_eq_ok_iff.1 h
            cases hopened : openBracket fl.verbose cs with
            | error e =>
              have hs₁ := (skip_suffix fl.verbose s₁).trans (starved_openBracket hopened hfirst)
              exact bracketBody_ne_ok_of_suffix hs₁ hinner
            | ok opened =>
              have hlt₁ := (length_of_openBracket hopened).trans_lt (show cs.length < fuel by omega)
              rw [openBracket_append hopened] at hfirst
              cases hfirst
              simp only [hopened, ok_bind] at he
              cases hread : bracketBody fl fuel levels opened.1 none opened.2.1 opened.2.2 with
              | error e => exact ih hlt₁ hm hread hinner
              | ok read =>
                have hlt₂ := (length_of_bracketBody hread).trans_lt hlt₁
                rw [bracketBody_append hm hread] at hinner
                cases hinner
                simp only [hread, ok_bind] at he
                exact ih hlt₂ hm he h
      rcases operator_or_member c cs with ⟨hc, ds, rfl⟩ | ⟨hop, hop'⟩
      · obtain ⟨op, hop⟩ := bracketBody_operator fl hc
        rw [hop _ _ _ _ _ _ _ hs] at he
        rw [hop _ _ _ _ _ _ _ hs'] at h
        rw [List.length_cons] at hcs
        exact ih (by omega) hm he h
      · rw [bracketBody_member hs hclose hopen hop] at he
        rw [bracketBody_member hs' hclose hopen hop'] at h
        obtain ⟨⟨member, s₁⟩, hmember, h⟩ := bind_eq_ok_iff.1 h
        cases hread : bracketRange fl (c :: cs) with
        | error e =>
          have hs₁ := (skip_suffix fl.verbose s₁).trans (starved_bracketRange hread hmember)
          exact bracketBody_ne_ok_of_suffix hs₁ h
        | ok read =>
          have hle := length_of_bracketRange hread
          rw [List.length_cons] at hle
          rw [← List.cons_append, local_bracketRange fl hread] at hmember
          cases hmember
          simp only [hread, ok_bind] at he
          exact ih (by omega) hm he h

lemma starved_bracketSet (fl : Flags) (levels : Nat) : Starved (bracketSet fl levels) := by
  intro s e member rest he h
  obtain ⟨⟨negated, first, s₁⟩, hopen, h⟩ := bind_eq_ok_iff.1 h
  cases hopened : openBracket fl.verbose s with
  | error e =>
    have hs₁ := (skip_suffix fl.verbose s₁).trans (starved_openBracket hopened hopen)
    exact absurd h (bracketBody_ne_ok_of_suffix hs₁)
  | ok opened =>
    have hle := length_of_openBracket hopened
    rw [openBracket_append hopened] at hopen
    cases hopen
    simp only [bracketSet, hopened, ok_bind] at he
    refine absurd h (bracketBody_ne_ok (Nat.lt_succ_of_le hle) ?_ he)
    rw [List.length_append]
    omega

end Brackets

section Counts

lemma dropWhile_append_nil (h : s.dropWhile p = []) : (s ++ closing).dropWhile p <:+ closing := by
  rw [List.dropWhile_append, h]
  exact List.dropWhile_suffix p

lemma count_append_nil (h : (count verbose s).2 = []) :
    (count verbose (s ++ closing)).2 <:+ closing := by
  rw [count] at h ⊢
  dsimp only at h ⊢
  cases hb : s.dropWhile Unicode.isBlank with
  | nil =>
    have hblank := dropWhile_append_nil hb
    exact (List.dropWhile_suffix _).trans (gather_suffix.trans hblank)
  | cons d ds =>
    rw [hb] at h
    rw [dropWhile_append hb, ← List.cons_append]
    rcases hg : gather verbose Char.isDigit false (d :: ds) with ⟨taken, _ | ⟨c, cs⟩⟩
    · exact (List.dropWhile_suffix _).trans (gather_append_nil (congrArg Prod.snd hg))
    · rw [hg] at h
      rw [gather_append hg, ← List.cons_append]
      exact dropWhile_append_nil h

lemma count_of_append {ds : Option (List Char)} (hc : c ∉ closing)
    (h : count verbose (skip verbose (s ++ closing)) = (ds, c :: rest)) :
    ∃ t, rest = t ++ closing ∧ count verbose (skip verbose s) = (ds, c :: t) := by
  have hnone : ¬ (count verbose (skip verbose (s ++ closing))).2 <:+ closing := by
    rw [h]
    exact fun hsuffix => hc (mem_closing_of_suffix hsuffix)
  cases hs : skip verbose s with
  | nil => exact absurd (count_suffix.trans (skip_append_suffix hs)) hnone
  | cons d t =>
    rcases hcount : count verbose (d :: t) with ⟨ds', _ | ⟨x, xs⟩⟩
    · rw [skip_append hs, ← List.cons_append] at hnone
      exact absurd (count_append_nil (congrArg Prod.snd hcount)) hnone
    · rw [← hs] at hcount
      rw [count_skip_append hcount] at h
      cases h
      exact ⟨xs, rfl, rfl⟩

lemma counted_of_append {min : Nat} {max : Option Nat} (h : Counted verbose (s ++ closing) min max rest) :
    ∃ t, Counted verbose s min max t := by
  cases h with
  | exactly hc hn =>
    obtain ⟨t, -, ht⟩ := count_of_append (by decide) hc
    exact ⟨t, .exactly ht hn⟩
  | atLeast hc hn hu =>
    obtain ⟨u, rfl, ht⟩ := count_of_append (by decide) hc
    obtain ⟨t, hu'⟩ := skip_of_append (by decide) hu
    exact ⟨t, .atLeast ht hn hu'⟩
  | between hc hn hu hm hmost =>
    obtain ⟨u, rfl, ht⟩ := count_of_append (by decide) hc
    obtain ⟨t, -, hm'⟩ := count_of_append (by decide) hm
    refine ⟨t, .between ht hn (fun v hv => ?_) hm' hmost⟩
    exact hu _ (skip_append hv)

lemma bounds_ne_ok {x : Nat × Option Nat × List Char} (he : bounds verbose s = .error e) :
    bounds verbose (s ++ closing) ≠ .ok x := by
  intro h
  obtain ⟨t, ht, hany, -⟩ := bounds_eq_ok_iff.1 h
  obtain ⟨t', ht'⟩ := counted_of_append ht
  rw [bounds_eq_ok_iff.2 ⟨t', ht', hany, rfl⟩] at he
  cases he

lemma bounds_ne_ok_of_skip {x : Nat × Option Nat × List Char} (hs : skip verbose s = []) :
    bounds verbose (s ++ closing) ≠ .ok x := by
  have he : bounds verbose s = .error .invalidCount := by
    rw [bounds, hs]
    rfl
  exact bounds_ne_ok he

end Counts

section Openings

lemma starved_groupName (names : List (List Char)) : Starved (groupName names) := by
  intro s e a rest he h
  rw [groupName] at h
  split at h
  · next name rest' hspan =>
    obtain ⟨t, hspan'⟩ := span_of_append (by decide) hspan
    rw [groupName, hspan'] at he
    split at h
    · cases h
    · split at h
      · next hname =>
        simp only [hname, if_true] at he
        cases he
      · cases h
  · cases h

lemma starved_flagRun {seen : List Flag} {on dangling unchanged : Bool} {fl' : Flags}
    (he : flagRun fl seen on dangling s = .error e)
    (h : flagRun fl seen on dangling (s ++ closing) = .ok (fl', unchanged, c, rest)) :
    rest = ['$'] := by
  induction s generalizing fl seen on dangling with
  | nil =>
    cases dangling <;> cases h
    rfl
  | cons d ds ih =>
    rw [List.cons_append] at h
    rw [flagRun] at he h
    split at h
    · next hend =>
      rw [if_pos hend] at he
      split at h
      · cases h
      · next hdangling =>
        rw [if_neg hdangling] at he
        cases he
    · next hend =>
      rw [if_neg hend] at he
      split at h
      · next hminus =>
        rw [if_pos hminus] at he
        split at h
        · next hon =>
          rw [if_pos hon] at he
          exact ih he h
        · cases h
      · next hminus =>
        rw [if_neg hminus] at he
        split at h
        · cases h
        · next f hf =>
          split at h
          · cases h
          · next hseen =>
            simp only [hf] at he
            rw [if_neg hseen] at he
            exact ih he h

lemma starved_opening (scope : Scope) : Starved (opening scope) := by
  intro s e o rest he h
  cases hs : skip scope.flags.verbose s with
  | nil =>
    rw [opening_plain (by simp [hs])] at he
    cases he
  | cons c cs =>
    have hs' := skip_append hs
    by_cases hc : c = '?'
    swap
    · rw [opening_plain (by simp [hs, hc])] at he
      cases he
    subst hc
    -- a name, with or without the letter that may stand before it
    by_cases hname : ∃ t, cs = '<' :: t
    · obtain ⟨t, rfl⟩ := hname
      by_cases hlook : t.head? ≠ some '=' ∧ t.head? ≠ some '!'
      · have hlook' : (t ++ closing).head? ≠ some '=' ∧ (t ++ closing).head? ≠ some '!' := by
          cases t with
          | nil => simp [closing]
          | cons d ds => exact hlook
        rw [opening_named hs hlook] at he
        rw [opening_named (show _ = '?' :: '<' :: (t ++ closing) from hs') hlook'] at h
        exact (starved_groupName _).map (fun name => Opening.group { scope with names := name :: _ }) he h
      · cases t with
        | nil => simp at hlook
        | cons d ds =>
          have hd : d = '=' ∨ d = '!' := by
            simpa only [List.head?_cons, ne_eq, Option.some.injEq, not_and_or, not_not] using hlook
          rcases hd with rfl | rfl <;> simp only [opening, hs', List.cons_append] at h <;> cases h
    by_cases hnamed : ∃ t, cs = 'P' :: '<' :: t
    · obtain ⟨t, rfl⟩ := hnamed
      simp only [opening, hs, hs', List.cons_append] at he h
      exact (starved_groupName _).map (fun name => Opening.group { scope with names := name :: _ }) he h
    -- flags
    cases cs with
    | nil =>
      rw [opening_flags (show _ = '?' :: ')' :: ['$'] from hs') (by decide) (by decide)] at h
      cases h
    | cons d ds =>
      by_cases hlook : d = '=' ∨ d = '!'
      · rcases hlook with rfl | rfl <;> simp only [opening, hs', List.cons_append] at h <;> cases h
      have hd : d ∉ ['=', '!', '<'] := by
        simp only [List.mem_cons, List.not_mem_nil, or_false, ← or_assoc, hlook, false_or]
        rintro rfl
        exact hname ⟨ds, rfl⟩
      have hp : d = 'P' → ds.head? ≠ some '<' := by
        rintro rfl hhead
        obtain ⟨t, rfl⟩ := List.head?_eq_some_iff.1 hhead
        exact hnamed ⟨t, rfl⟩
      have hp' : d = 'P' → (ds ++ closing).head? ≠ some '<' := by
        cases ds with
        | nil => simp [closing]
        | cons d ds => exact hp
      rw [opening_flags hs hd hp] at he
      rw [opening_flags (show _ = '?' :: d :: (ds ++ closing) from hs') hd hp', ← List.cons_append] at h
      cases hr : flagRun scope.flags [] true false (d :: ds) with
      | error e =>
        obtain ⟨⟨flags, unchanged, c, s₁⟩, hr', h⟩ := bind_eq_ok_iff.1 h
        obtain rfl := starved_flagRun hr hr'
        dsimp only at h
        split at h
        · cases h
          exact List.suffix_refl _
        · split at h <;> cases h
          exact List.suffix_refl _
      | ok x =>
        rw [flagRun_append hr, ok_bind] at h
        rw [hr, ok_bind] at he
        dsimp only at he h
        split at h
        · next hcolon =>
          rw [if_pos hcolon] at he
          cases he
        · next hcolon =>
          rw [if_neg hcolon] at he
          split at h
          · cases h
          · next hunchanged =>
            rw [if_neg hunchanged] at he
            cases he

lemma starved_item {r : Regex} (he : item fl c s = .error e)
    (h : item fl c (s ++ closing) = .ok (r, rest)) :
    rest <:+ ['$'] ∨ ∃ cs, rest = '{' :: (cs ++ closing) ∧ skip fl.verbose cs = [] := by
  revert he
  simp only [item] at h ⊢
  split at h
  · intro he
    obtain ⟨⟨atom, rest'⟩, ha, heq⟩ := map_eq_ok_iff.1 h
    have hrest : rest' = rest := by cases atom <;> cases heq <;> rfl
    subst hrest
    cases hs : escape fl s with
    | error e =>
      rcases starved_escape hs ha with hrest | ⟨-, cs, -, hrest⟩
      · exact .inl hrest
      · exact .inr ⟨cs, hrest⟩
    | ok x =>
      rw [hs] at he
      cases he
  · exact fun he => .inl (starved_map fl.dot (Regex.chars · 0) he h)
  · exact fun he => .inl (starved_ok _ he h)
  · exact fun he => .inl (starved_ok _ he h)
  · exact fun he => .inl (starved_ok _ he h)

end Openings

section Bodies

variable {fuel levels m k : Nat} {branches items : List Regex} {r : Regex} {outer : Scope}

lemma eq_nil_of_body (hs : s <:+ ['$'])
    (h : body fuel levels scope branches items s = .ok (r, outer, rest)) : rest = [] := by
  cases fuel with
  | zero => cases h
  | succ fuel =>
    rcases List.suffix_cons_iff.1 hs with rfl | hs
    · have hdollar : skip scope.flags.verbose ['$'] = ['$'] := by
        cases hv : scope.flags.verbose <;> rfl
      rw [body_item hdollar (by decide)] at h
      obtain ⟨⟨r', s₁⟩, hr, h⟩ := bind_eq_ok_iff.1 h
      cases hr
      cases fuel with
      | zero => cases h
      | succ fuel =>
        dsimp only at h
        rw [body_nil] at h
        cases h
        rfl
    · rw [List.suffix_nil.1 hs, body_nil] at h
      cases h
      rfl

lemma body_brace_ne_ok {x : Regex × Scope × List Char} (hs : skip scope.flags.verbose s = []) :
    body fuel levels scope branches items ('{' :: (s ++ closing)) ≠ .ok x := by
  cases fuel with
  | zero => nofun
  | succ fuel =>
    intro h
    have hbrace : skip scope.flags.verbose ('{' :: (s ++ closing)) = '{' :: (s ++ closing) := by
      cases hv : scope.flags.verbose <;> rfl
    simp only [body, hbrace] at h
    obtain ⟨counted, hcounted, -⟩ := bind_eq_ok_iff.1 h
    exact bounds_ne_ok_of_skip hs hcounted

/-- What is read with the closing end behind it, against what cannot be read without: it runs on to
the end of the text. -/
def Lost (x y : Except SyntaxError (Regex × Scope × List Char)) : Prop :=
  ∀ ⦃e r scope rest⦄, x = .error e → y = .ok (r, scope, rest) → rest = []

lemma lost_bind {α : Type} (x : Except SyntaxError α)
    {f g : α → Except SyntaxError (Regex × Scope × List Char)} (h : ∀ a, Lost (f a) (g a)) :
    Lost (x >>= f) (x >>= g) := by
  intro e r scope rest he hg
  obtain ⟨a, rfl, hg⟩ := bind_eq_ok_iff.1 hg
  exact h a he hg

/-- A group that is left open takes the parenthesis of the closing end. -/
lemma lost_group {x y : Except SyntaxError (Regex × Scope × List Char)}
    {f g : Regex → Scope → List Char → Except SyntaxError (Regex × Scope × List Char)}
    (hxy : Spliced x y) (hlost : Lost x y)
    (hend : ∀ r scope r' scope' rest, g r scope ['$'] = .ok (r', scope', rest) → rest = [])
    (hnext : ∀ r scope t, x = .ok (r, scope, ')' :: t) →
      Lost (f r scope t) (g r scope (t ++ closing))) :
    Lost
      (x >>= fun (r, scope, s) =>
        match s with
        | ')' :: s => f r scope s
        | _ => .error .unclosedGroup)
      (y >>= fun (r, scope, s) =>
        match s with
        | ')' :: s => g r scope s
        | _ => .error .unclosedGroup) := by
  intro e r scope rest he hg
  obtain ⟨⟨q, inner, s'⟩, hy, hg⟩ := bind_eq_ok_iff.1 hg
  cases hx : x with
  | error e =>
    obtain rfl := hlost hx hy
    cases hg
  | ok read =>
    obtain ⟨q, inner, s⟩ := read
    rw [hx, ok_bind] at he
    rcases hxy hx with hdeep | ⟨s'', hs'', hs⟩
    · rw [hdeep] at hy
      cases hy
    · rw [hs''] at hy
      cases hy
      cases s with
      | nil =>
        rcases hs with rfl | ⟨-, rfl⟩
        · exact hend _ _ _ _ _ hg
        · cases hg
      | cons c t =>
        obtain rfl : s' = c :: t ++ closing := hs.resolve_right nofun
        dsimp only [List.cons_append] at hg
        split at hg
        · next t' heq =>
          cases heq
          exact hnext _ _ _ hx he hg
        · cases hg

/-- The induction is on the fuel, which is enough for the text; the levels may differ. -/
theorem body_lost (hlt : s.length < fuel) (hm : fuel ≤ m) (hk : k ≤ levels) (hs : Followed s s') :
    Lost (body fuel levels scope branches items s) (body m k scope branches items s') := by
  induction fuel generalizing m levels k scope branches items s s' with
  | zero => cases hlt
  | succ fuel ih =>
    obtain ⟨m, rfl⟩ : ∃ n, m = n + 1 := ⟨m - 1, by omega⟩
    rw [Nat.succ_le_succ_iff] at hm
    rcases hs with rfl | ⟨rfl, rfl⟩
    swap
    · intro e r outer rest he h
      exact eq_nil_of_body List.nil_suffix h
    cases hs : skip scope.flags.verbose s with
    | nil =>
      intro e r outer rest he
      simp only [body, hs] at he
      cases he
    | cons c cs =>
      have hs' := skip_append hs
      have hcs : cs.length < fuel := (length_of_skip hs).trans_le (Nat.lt_succ_iff.1 hlt)
      by_cases hc : c ∈ [')', '|', '(', '[', '?', '*', '+', '{']
      · simp only [List.mem_cons, List.not_mem_nil, or_false] at hc
        rcases hc with rfl | rfl | rfl | rfl | rfl | rfl | rfl | rfl
        all_goals simp only [body, hs, hs']
        · exact fun e r outer rest he => by cases he
        · exact ih hcs hm hk (.inl rfl)
        · intro e r outer rest he h
          obtain ⟨⟨o, s₁'⟩, ho', h⟩ := bind_eq_ok_iff.1 h
          cases ho : opening scope cs with
          | error e =>
            have hs₁ := starved_opening _ ho ho'
            cases o with
            | directive flags => exact eq_nil_of_body hs₁ h
            | group inner =>
              cases k with
              | zero => cases h
              | succ k =>
                obtain ⟨⟨q, inner', s₂⟩, hq, h⟩ := bind_eq_ok_iff.1 h
                obtain rfl := eq_nil_of_body hs₁ hq
                cases h
          | ok opened =>
            obtain ⟨o, s₁⟩ := opened
            obtain ⟨t, ht, hs₁⟩ := opening_append ho
            rw [ht] at ho'
            cases ho'
            have hlt₁ := (shrinks_opening _ ho).trans_lt hcs
            simp only [ho, ok_bind] at he
            cases o with
            | directive flags => exact ih hlt₁ hm hk hs₁ he h
            | group inner =>
              obtain _ | k := k
              · cases h
              obtain _ | levels := levels
              · omega
              have hk' := Nat.succ_le_succ_iff.1 hk
              have hinner : Lost (body fuel levels inner [] [] s₁) (body m k inner [] [] s₁') :=
                ih hlt₁ hm hk' hs₁
              refine lost_group
                (f := fun q inner s => body fuel (levels + 1) { scope with names := inner.names }
                  branches (.group q :: items) s)
                (g := fun q inner s => body m (k + 1) { scope with names := inner.names }
                  branches (.group q :: items) s)
                (body_spliced hm hk' hs₁) hinner ?_ ?_ he h
              · intro q inner₁ r' outer' rest' hend
                exact eq_nil_of_body (List.suffix_refl _) hend
              · intro q inner₁ t hq
                have hle := length_of_body hq
                rw [List.length_cons] at hle
                exact ih (by omega) hm hk (.inl rfl)
        · intro e r outer rest he h
          obtain ⟨⟨member, s₁⟩, hmember, h⟩ := bind_eq_ok_iff.1 h
          cases hread : bracketSet scope.flags nestLimit cs with
          | error e => exact eq_nil_of_body (starved_bracketSet _ _ hread hmember) h
          | ok read =>
            rw [local_bracketSet _ _ hread] at hmember
            cases hmember
            simp only [hread, ok_bind] at he
            exact ih ((shrinks_bracketSet _ _ hread).trans_lt hcs) hm hk (.inl rfl) he h
        · exact lost_bind _ fun _ =>
            ih ((length_dropLazy_le cs).trans_lt hcs) hm hk (followed_dropLazy (.inl rfl))
        · exact lost_bind _ fun _ =>
            ih ((length_dropLazy_le cs).trans_lt hcs) hm hk (followed_dropLazy (.inl rfl))
        · exact lost_bind _ fun _ =>
            ih ((length_dropLazy_le cs).trans_lt hcs) hm hk (followed_dropLazy (.inl rfl))
        · intro e r outer rest he h
          obtain ⟨⟨min, max, s₁'⟩, hbounds', h⟩ := bind_eq_ok_iff.1 h
          cases hbounds : bounds scope.flags.verbose cs with
          | error e => exact absurd hbounds' (bounds_ne_ok hbounds)
          | ok read =>
            obtain ⟨t, ht, hs₁⟩ := bounds_append hbounds
            rw [ht] at hbounds'
            cases hbounds'
            simp only [hbounds, ok_bind] at he
            have hlt₁ := (length_of_bounds hbounds).trans_lt hcs
            exact lost_bind _ (fun _ => ih hlt₁ hm hk hs₁) he h
      · intro e r outer rest he h
        rw [body_item hs hc] at he
        rw [body_item hs' hc] at h
        obtain ⟨⟨r', s₁⟩, hr, h⟩ := bind_eq_ok_iff.1 h
        cases hread : item scope.flags c cs with
        | error e =>
          rcases starved_item hread hr with hs₁ | ⟨t, rfl, ht⟩
          · exact eq_nil_of_body hs₁ h
          · exact absurd h (body_brace_ne_ok ht)
        | ok read =>
          rw [local_item _ _ hread] at hr
          cases hr
          simp only [hread, ok_bind] at he
          exact ih ((shrinks_item _ _ hread).trans_lt hcs) hm hk (.inl rfl) he h

lemma isMatch_whole {text : List Char} : (whole r).isMatch text = true ↔ Matches text r 0 text.length := by
  rw [isMatch_iff]
  simp only [matches_whole]
  constructor
  · rintro ⟨i, j, -, -, -, hm⟩
    exact hm
  · intro hm
    exact ⟨0, _, Nat.zero_le _, rfl, rfl, hm⟩

lemma nesting_le_whole (r : Regex) : r.nesting ≤ r.whole.nesting := by
  simp only [whole, nesting]
  omega

lemma weight_le_whole (r : Regex) : r.weight ≤ r.whole.weight := by
  simp only [whole, weight]
  omega

lemma body_ne_error_of_anchored {q : Regex} (h : body (s.length + 7) nestLimit {} [] []
    ('^' :: '(' :: '?' :: ':' :: (s ++ closing)) = .ok (q, outer, rest)) :
    body (s.length + 1) nestLimit {} [] [] s ≠ .error e := by
  intro he
  rw [body_opening] at h
  obtain ⟨⟨r, inner, t⟩, hr, h⟩ := bind_eq_ok_iff.1 h
  have hfuel : s.length + 1 ≤ s.length + 5 := by omega
  obtain rfl :=
    body_lost (Nat.lt_succ_self _) hfuel (Nat.sub_le nestLimit 1) (.inl rfl) he hr
  cases h

end Bodies

end TypedPid.Regex

namespace TypedPid.ValuePattern

variable {source : String} {p : ValuePattern}

/-- A pattern is a regular expression by itself, and accepts just the values that this covers, unless
by itself it has a parenthesis too many that closes a group. -/
theorem wellFormed_iff (hp : ofString? source = .ok p) :
    (∃ r, Regex.ofString? source = .ok r ∧ ∀ value, p.accepts value = true ↔
      Regex.Matches value.toList r 0 value.toList.length) ↔
    Regex.ofString? source ≠ .error .unopenedGroup := by
  constructor
  · rintro ⟨r, hr, -⟩ he
    rw [hr] at he
    cases he
  · intro hne
    obtain ⟨⟨outer, houter⟩, hnesting, hweight⟩ := body_of_ofString? hp
    cases hread : Regex.body (source.toList.length + 1) Regex.nestLimit {} [] [] source.toList with
    | error e => exact absurd hread (Regex.body_ne_error_of_anchored houter)
    | ok read =>
      obtain ⟨r, scope, rest⟩ := read
      cases rest with
      | nil =>
        have hwhole := Regex.body_anchored hread houter
        rw [hwhole] at hnesting hweight
        have hr : Regex.ofString? source = .ok r := Regex.ofString?_eq_ok_iff.2
          ⟨⟨scope, hread⟩, (Regex.nesting_le_whole r).trans hnesting,
            (Regex.weight_le_whole r).trans hweight⟩
        refine ⟨r, hr, fun value => ?_⟩
        rw [accepts, hwhole, Regex.isMatch_whole]
      | cons c cs =>
        refine absurd ?_ hne
        simp only [Regex.ofString?, hread, ok_bind, List.isEmpty_cons]
        rfl

theorem wellFormed_iff_quantity : ∃ p, ofString? "[0-9]+(?: m|%)" = .ok p ∧
    Regex.ofString? "[0-9]+(?: m|%)" ≠ .error .unopenedGroup ∧
    ∃ r, Regex.ofString? "[0-9]+(?: m|%)" = .ok r ∧ ∀ value, p.accepts value = true ↔
      Regex.Matches value.toList r 0 value.toList.length := by
  obtain ⟨r, hr, -⟩ : ∃ r, Regex.ofString? "[0-9]+(?: m|%)" = .ok r ∧ true = true :=
    exists_of_any (by decide +kernel)
  obtain ⟨p, hp, -⟩ : ∃ p, ofString? "[0-9]+(?: m|%)" = .ok p ∧ true = true :=
    exists_of_any (by decide +kernel)
  have hne : Regex.ofString? "[0-9]+(?: m|%)" ≠ .error .unopenedGroup := by
    rw [hr]
    nofun
  exact ⟨p, hp, hne, (wellFormed_iff hp).2 hne⟩

/-- A source that closes the group and opens another one gives a pattern that accepts a value for its
beginning. -/
theorem breakout_accepts_part : Regex.ofString? "a)|(?:b" = .error .unopenedGroup ∧
    ∃ p, ofString? "a)|(?:b" = .ok p ∧ p.accepts "axyz" = true :=
  ⟨rfl, exists_of_any (by decide +kernel)⟩

end TypedPid.ValuePattern
