import TypedPid.Proofs.Regex.Splicing

/-!
Reading goes forward: what is left behind what was read is never longer than the text, and a member of
a set takes at least one character.
-/

namespace TypedPid.Regex

def Shrinks {α : Type} (read : List Char → Except SyntaxError (α × List Char)) : Prop :=
  ∀ ⦃s a rest⦄, read s = .ok (a, rest) → rest.length ≤ s.length

variable {verbose inComment : Bool} {s rest taken : List Char} {c : Char} {fl : Flags} {scope : Scope}
  {p : Char → Bool}

lemma shrinks_ok {α : Type} (a : α) : Shrinks fun s => .ok (a, s) := by
  intro s b rest h
  cases h
  exact Nat.le_refl _

lemma Shrinks.map {α β : Type} {read : List Char → Except SyntaxError (α × List Char)}
    (hr : Shrinks read) (f : α → β) : Shrinks fun s => (read s).map fun (a, rest) => (f a, rest) := by
  intro s b rest h
  obtain ⟨⟨a, rest'⟩, ha, heq⟩ := map_eq_ok_iff.1 h
  cases heq
  exact hr ha

lemma shrinks_map {α β : Type} (x : Except SyntaxError α) (f : α → β) :
    Shrinks fun s => x.map fun a => (f a, s) := by
  intro s b rest h
  obtain ⟨a, rfl, heq⟩ := map_eq_ok_iff.1 h
  cases heq
  exact Nat.le_refl _

section Escapes

lemma gather_suffix : (gather verbose p inComment s).2 <:+ s := by
  induction s generalizing inComment with
  | nil => exact List.suffix_refl []
  | cons c cs ih =>
    rw [gather]
    split
    · exact ih.trans (List.suffix_cons c cs)
    · split
      · exact ih.trans (List.suffix_cons c cs)
      · split
        · exact ih.trans (List.suffix_cons c cs)
        · split
          · exact ih.trans (List.suffix_cons c cs)
          · exact List.suffix_refl _

lemma length_of_skip (h : skip verbose s = c :: rest) : rest.length < s.length := by
  have hle := length_skip_le verbose s
  rw [h, List.length_cons] at hle
  exact hle

lemma length_of_gather (h : gather verbose p inComment s = (taken, c :: rest)) :
    rest.length < s.length := by
  have hle : (gather verbose p inComment s).2.length ≤ s.length := gather_suffix.length_le
  rw [h, List.length_cons] at hle
  exact hle

lemma shrinks_hexDigits (verbose : Bool) (n : Nat) : Shrinks (hexDigits verbose n) := by
  induction n with
  | zero => exact shrinks_ok []
  | succ n ih =>
    intro s a rest h
    rw [hexDigits] at h
    cases hs : skip verbose s with
    | nil =>
      rw [hs] at h
      cases h
    | cons c cs =>
      rw [hs] at h
      dsimp only at h
      split at h
      · obtain ⟨⟨ds, rest'⟩, hd, heq⟩ := map_eq_ok_iff.1 h
        cases heq
        exact (ih hd).trans (length_of_skip hs).le
      · cases h

lemma shrinks_hexEscape (fl : Flags) (count : Nat) : Shrinks (hexEscape fl count) := by
  intro s a rest h
  rw [hexEscape] at h
  split at h
  · cases h
  · next cs hs =>
    split at h
    · next ds rest' hg =>
      split at h
      · cases h
      · split at h
        · cases h
          have hlt := length_of_gather hg
          have hlt' := length_of_skip hs
          omega
        · cases h
    · cases h
  · split at h
    · cases h
    · next ds rest' hd =>
      have hle := (shrinks_hexDigits _ _ hd).trans (length_skip_le _ _)
      split at h
      · split at h <;> cases h
        exact hle
      · cases h

lemma shrinks_negated (fl : Flags) (negated : Bool) (set : Unicode.CharSet) :
    Shrinks fun s =>
      if ¬ fl.unicode then .error .notText else (fl.negateIf negated set).map (·, s) := by
  intro s a rest h
  dsimp only at h
  split at h
  · cases h
  · exact shrinks_map _ id h

lemma shrinks_propertyEscape (fl : Flags) (negated : Bool) : Shrinks (propertyEscape fl negated) := by
  intro s a rest h
  cases hs : skip fl.verbose s with
  | nil =>
    simp only [propertyEscape, hs] at h
    cases h
  | cons c cs =>
    have hlt := length_of_skip hs
    by_cases hc : c = '{'
    · subst hc
      simp only [propertyEscape, hs] at h
      split at h
      · cases h
      · cases h
      · next set unequal rest' heq =>
        split at heq
        · next name t hg =>
          obtain ⟨-, rfl⟩ := Prod.mk.inj (Except.ok.inj heq)
          exact (shrinks_negated fl _ _ h).trans ((length_of_gather hg).le.trans hlt.le)
        · cases heq
    · simp only [propertyEscape, hs] at h
      generalize (Unicode.propertyNamed (String.singleton c)).map (·, false) = found at h
      rcases found with _ | ⟨set, unequal⟩
      · cases h
      · exact (shrinks_negated fl _ _ h).trans hlt.le

lemma shrinks_namedBorder (fl : Flags) : Shrinks (namedBorder fl) := by
  intro s a rest h
  rw [namedBorder.eq_def] at h
  dsimp only at h
  split at h
  · next cs =>
    split at h
    · cases h
    · next d ds hs =>
      split at h
      · split at h
        · next name rest' hg =>
          have hle := (length_of_gather hg).le.trans (length_of_skip hs)
          split at h <;> cases h
          all_goals exact hle.trans (Nat.le_succ _)
        · cases h
      · cases h
        exact Nat.le_refl _
  · cases h
    exact Nat.le_refl _

lemma length_of_escape {a : Atom} (h : escape fl s = .ok (a, rest)) : rest.length < s.length := by
  cases s with
  | nil => cases h
  | cons c s =>
    rw [List.length_cons, Nat.lt_succ_iff]
    simp only [escape] at h
    split at h
    -- a character without a meaning of its own behind a backslash
    case h_24 =>
      split at h
      · cases h
      · split at h
        · exact shrinks_ok _ h
        · cases h
    all_goals
      first
      | exact shrinks_ok _ h
      | exact shrinks_map _ Atom.set h
      | exact (shrinks_hexEscape fl _).map Atom.char h
      | exact (shrinks_propertyEscape fl _).map Atom.set h
      | exact (shrinks_namedBorder fl).map Atom.assert h

end Escapes

section Brackets

lemma length_of_bracketAtom {a : Atom} (h : bracketAtom fl s = .ok (a, rest)) :
    rest.length < s.length := by
  cases s with
  | nil => cases h
  | cons c cs =>
    by_cases hc : c = '\\'
    · subst hc
      exact (length_of_escape h).trans (Nat.lt_succ_self _)
    · simp only [bracketAtom] at h
      cases h
      exact Nat.lt_succ_self _

lemma length_of_bracketRange {member : Member} (h : bracketRange fl s = .ok (member, rest)) :
    rest.length < s.length := by
  obtain ⟨⟨first, s₁⟩, hfirst, h⟩ := bind_eq_ok_iff.1 h
  have hlt := length_of_bracketAtom hfirst
  have hle := length_skip_le fl.verbose s₁
  cases hs : skip fl.verbose s₁ with
  | nil =>
    simp only [hs] at h
    cases h
  | cons c beyond =>
    rw [hs] at hle
    by_cases hc : c = '-'
    · subst hc
      simp only [hs] at h
      split at h
      · obtain ⟨m, -, h⟩ := bind_eq_ok_iff.1 h
        cases h
        omega
      · cases hb : skip fl.verbose beyond with
        | nil =>
          simp only [hb] at h
          cases h
        | cons d ds =>
          have hle' := length_skip_le fl.verbose beyond
          simp only [hb] at h
          obtain ⟨⟨last, s₂⟩, hlast, h⟩ := bind_eq_ok_iff.1 h
          obtain ⟨lo, -, h⟩ := bind_eq_ok_iff.1 h
          obtain ⟨hi, -, h⟩ := bind_eq_ok_iff.1 h
          have hlt' := length_of_bracketAtom hlast
          rw [hb] at hle'
          rw [List.length_cons] at hle
          dsimp only at h
          split at h
          · cases h
            omega
          · cases h
    · simp only [hs, List.cons.injEq, hc, false_and, imp_self, implies_true] at h
      obtain ⟨m, -, h⟩ := bind_eq_ok_iff.1 h
      cases h
      omega

lemma length_of_openBracket_go {n : Nat} {found ms : List Member}
    (h : openBracket.go verbose n s found = .ok (ms, rest)) : rest.length ≤ s.length := by
  induction n generalizing s found with
  | zero =>
    cases s <;> cases h
    exact Nat.le_refl _
  | succ n ih =>
    cases s with
    | nil => cases h
    | cons c s =>
      have hle := length_skip_le verbose s
      rw [openBracket.go] at h
      rw [List.length_cons]
      split at h
      · have hlt := ih h
        omega
      · split at h
        · split at h
          · cases h
          · cases h
            omega
        · cases h
          exact Nat.le_refl _

lemma length_of_openBracket {negated : Bool} {found : List Member}
    (h : openBracket verbose s = .ok (negated, found, rest)) : rest.length ≤ s.length := by
  rw [openBracket] at h
  split at h
  · cases h
  · next cs hs =>
    obtain ⟨⟨ms, rest'⟩, hms, heq⟩ := map_eq_ok_iff.1 h
    cases heq
    have hle := (length_of_openBracket_go hms).trans (length_skip_le _ _)
    exact hle.trans (length_of_skip hs).le
  · obtain ⟨⟨ms, rest'⟩, hms, heq⟩ := map_eq_ok_iff.1 h
    cases heq
    exact (length_of_openBracket_go hms).trans (length_skip_le _ _)

lemma length_of_span (h : s.span p = (taken, c :: rest)) : rest.length < s.length := by
  have hle := (List.dropWhile_suffix p (l := s)).length_le
  rw [List.span_eq_takeWhile_dropWhile] at h
  rw [(Prod.mk.inj h).2] at hle
  exact hle

lemma length_of_namedSet? {ranges : Unicode.Ranges} {negated : Bool}
    (h : namedSet? s = some (ranges, negated, rest)) : rest.length < s.length := by
  rw [namedSet?.eq_def] at h
  split at h
  · next s =>
    dsimp only at h
    split at h
    · next name t hspan =>
      obtain ⟨set, -, heq⟩ := Option.map_eq_some_iff.1 h
      cases heq
      have hlt := length_of_span hspan
      simp only [List.length_cons] at hlt ⊢
      split at hlt <;> simp only [List.length_cons] at hlt ⊢ <;> omega
    · cases h
  · cases h

lemma length_of_bracketBody {fuel levels : Nat} {negated : Bool} {waiting : Option (Member × SetOp)}
    {found : List Member} {member : Member}
    (h : bracketBody fl fuel levels negated waiting found s = .ok (member, rest)) :
    rest.length ≤ s.length := by
  induction fuel generalizing levels negated waiting found s member rest with
  | zero => cases h
  | succ fuel ih =>
    cases hs : skip fl.verbose s with
    | nil =>
      simp only [bracketBody, hs] at h
      cases h
    | cons c cs =>
      have hlt := length_of_skip hs
      by_cases hclose : c = ']'
      · subst hclose
        simp only [bracketBody, hs] at h
        obtain ⟨set, -, h⟩ := bind_eq_ok_iff.1 h
        cases h
        exact hlt.le
      by_cases hopen : c = '['
      · subst hopen
        simp only [bracketBody, hs] at h
        split at h
        · next ranges negatedName rest' hn =>
          obtain ⟨set, -, h⟩ := bind_eq_ok_iff.1 h
          have hle := (ih h).trans_lt (length_of_namedSet? hn)
          rw [List.length_cons] at hle
          omega
        · cases levels with
          | zero => cases h
          | succ levels =>
            obtain ⟨⟨negatedInner, first, s₁⟩, hfirst, h⟩ := bind_eq_ok_iff.1 h
            obtain ⟨⟨inner, s₂⟩, hinner, h⟩ := bind_eq_ok_iff.1 h
            have hle := (ih h).trans (ih hinner)
            exact hle.trans ((length_of_openBracket hfirst).trans hlt.le)
      rcases operator_or_member c cs with ⟨hc, ds, rfl⟩ | ⟨hop, -⟩
      · obtain ⟨op, hop⟩ := bracketBody_operator fl hc
        rw [hop _ _ _ _ _ _ _ hs] at h
        have hle := ih h
        rw [List.length_cons] at hlt
        omega
      · rw [bracketBody_member hs hclose hopen hop] at h
        obtain ⟨⟨m, s₁⟩, hm, h⟩ := bind_eq_ok_iff.1 h
        have hlt' := (ih h).trans_lt (length_of_bracketRange hm)
        rw [List.length_cons] at hlt'
        omega

lemma shrinks_bracketSet (fl : Flags) (levels : Nat) : Shrinks (bracketSet fl levels) := by
  intro s a rest h
  obtain ⟨⟨negated, first, s₁⟩, hopen, h⟩ := bind_eq_ok_iff.1 h
  exact (length_of_bracketBody h).trans (length_of_openBracket hopen)

end Brackets

section Bodies

lemma count_suffix : (count verbose s).2 <:+ s := by
  have hblank : s.dropWhile Unicode.isBlank <:+ s := List.dropWhile_suffix _
  exact (List.dropWhile_suffix _).trans (gather_suffix.trans hblank)

lemma length_of_count {ds : Option (List Char)} (h : count verbose (skip verbose s) = (ds, c :: rest)) :
    rest.length < s.length := by
  have hle : (count verbose (skip verbose s)).2.length ≤ s.length :=
    (count_suffix.trans (skip_suffix verbose s)).length_le
  rw [h, List.length_cons] at hle
  exact hle

lemma length_dropLazy_le (s : List Char) : (dropLazy s).length ≤ s.length := by
  rw [dropLazy.eq_def]
  split
  · exact Nat.le_succ _
  · exact Nat.le_refl _

lemma length_of_bounds {min : Nat} {max : Option Nat} (h : bounds verbose s = .ok (min, max, rest)) :
    rest.length ≤ s.length := by
  obtain ⟨t, ht, -, rfl⟩ := bounds_eq_ok_iff.1 h
  refine (length_dropLazy_le _).trans ((length_skip_le _ _).trans ?_)
  cases ht with
  | exactly hc => exact (length_of_count hc).le
  | atLeast hc _ hu => exact (length_of_skip hu).le.trans (length_of_count hc).le
  | between hc _ _ hm => exact (length_of_count hm).le.trans (length_of_count hc).le

lemma length_of_flagRun {seen : List Flag} {on dangling unchanged : Bool} {fl' : Flags}
    (h : flagRun fl seen on dangling s = .ok (fl', unchanged, c, rest)) : rest.length < s.length := by
  induction s generalizing fl seen on dangling with
  | nil => cases h
  | cons d ds ih =>
    rw [flagRun] at h
    split at h
    · split at h <;> cases h
      exact Nat.lt_succ_self _
    · split at h
      · split at h
        · exact (ih h).trans (Nat.lt_succ_self _)
        · cases h
      · split at h
        · cases h
        · split at h
          · cases h
          · exact (ih h).trans (Nat.lt_succ_self _)

lemma shrinks_groupName (names : List (List Char)) : Shrinks (groupName names) := by
  intro s a rest h
  rw [groupName] at h
  split at h
  · next name rest' hspan =>
    split at h
    · cases h
    · split at h <;> cases h
      exact (length_of_span hspan).le
  · cases h

lemma shrinks_opening (scope : Scope) : Shrinks (opening scope) := by
  intro s o rest h
  have hle := length_skip_le scope.flags.verbose s
  rw [opening] at h
  split at h
  · cases h
  · cases h
  · cases h
  · cases h
  · next t hs =>
    obtain ⟨⟨name, rest'⟩, hn, heq⟩ := map_eq_ok_iff.1 h
    cases heq
    have hle' := shrinks_groupName _ hn
    simp only [hs, List.length_cons] at hle
    omega
  · next t _ _ hs =>
    obtain ⟨⟨name, rest'⟩, hn, heq⟩ := map_eq_ok_iff.1 h
    cases heq
    have hle' := shrinks_groupName _ hn
    simp only [hs, List.length_cons] at hle
    omega
  · next t _ _ _ _ _ _ hs =>
    split at h
    · cases h
    · next flags unchanged c rest' hr =>
      have hlt := length_of_flagRun hr
      simp only [hs, List.length_cons] at hle
      split at h
      · cases h
        omega
      · split at h
        · cases h
        · cases h
          omega
  · cases h
    exact hle

lemma shrinks_item (fl : Flags) (c : Char) : Shrinks (item fl c) := by
  intro s a rest h
  simp only [item] at h
  split at h
  · obtain ⟨⟨atom, rest'⟩, ha, heq⟩ := map_eq_ok_iff.1 h
    have hlt := length_of_escape ha
    cases atom <;> cases heq <;> exact hlt.le
  · exact shrinks_map _ _ h
  · exact shrinks_ok _ h
  · exact shrinks_ok _ h
  · exact shrinks_ok _ h

lemma length_of_body {fuel levels : Nat} {branches items : List Regex} {r : Regex} {outer : Scope}
    (h : body fuel levels scope branches items s = .ok (r, outer, rest)) :
    rest.length ≤ s.length := by
  induction fuel generalizing levels scope branches items s r outer rest with
  | zero => cases h
  | succ fuel ih =>
    cases hs : skip scope.flags.verbose s with
    | nil =>
      simp only [body, hs] at h
      cases h
      exact Nat.zero_le _
    | cons c cs =>
      have hlt := length_of_skip hs
      by_cases hc : c ∈ [')', '|', '(', '[', '?', '*', '+', '{']
      · simp only [List.mem_cons, List.not_mem_nil, or_false] at hc
        rcases hc with rfl | rfl | rfl | rfl | rfl | rfl | rfl | rfl
        all_goals simp only [body, hs] at h
        · cases h
          exact hlt
        · exact (ih h).trans hlt.le
        · obtain ⟨⟨o, s₁⟩, ho, h⟩ := bind_eq_ok_iff.1 h
          have hle := shrinks_opening _ ho
          cases o with
          | directive flags => exact (ih h).trans (hle.trans hlt.le)
          | group inner =>
            cases levels with
            | zero => cases h
            | succ levels =>
              obtain ⟨⟨q, inner₁, s₂⟩, hq, h⟩ := bind_eq_ok_iff.1 h
              have hle' := ih hq
              dsimp only at h
              split at h
              · have hle'' := ih h
                rw [List.length_cons] at hle'
                omega
              · cases h
        · obtain ⟨⟨member, s₁⟩, hmember, h⟩ := bind_eq_ok_iff.1 h
          exact (ih h).trans ((shrinks_bracketSet _ _ hmember).trans hlt.le)
        · obtain ⟨items', -, h⟩ := bind_eq_ok_iff.1 h
          exact (ih h).trans ((length_dropLazy_le _).trans hlt.le)
        · obtain ⟨items', -, h⟩ := bind_eq_ok_iff.1 h
          exact (ih h).trans ((length_dropLazy_le _).trans hlt.le)
        · obtain ⟨items', -, h⟩ := bind_eq_ok_iff.1 h
          exact (ih h).trans ((length_dropLazy_le _).trans hlt.le)
        · obtain ⟨⟨min, max, s₁⟩, hbounds, h⟩ := bind_eq_ok_iff.1 h
          obtain ⟨items', -, h⟩ := bind_eq_ok_iff.1 h
          exact (ih h).trans ((length_of_bounds hbounds).trans hlt.le)
      · rw [body_item hs hc] at h
        obtain ⟨⟨r', s₁⟩, hr, h⟩ := bind_eq_ok_iff.1 h
        exact (ih h).trans ((shrinks_item _ _ hr).trans hlt.le)

end Bodies

end TypedPid.Regex
