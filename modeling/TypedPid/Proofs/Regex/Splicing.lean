import TypedPid.Proofs.Regex.Locality

/-!
What is read of a text is read of it inside a group as well: a text that is a regular expression by
itself gives the same expression where a parenthesis closes the group around it, with the same
flags and names behind it, unless the groups nest too deep by then.
-/

namespace TypedPid.Regex

variable {verbose : Bool} {s s' rest taken : List Char} {c : Char} {fl : Flags} {scope : Scope}
  {p : Char → Bool}

section Counts

lemma dropWhile_append (h : s.dropWhile p = c :: rest) :
    (s ++ closing).dropWhile p = c :: (rest ++ closing) := by
  rw [List.dropWhile_append, h]
  rfl

lemma count_append {ds : Option (List Char)} (h : count verbose s = (ds, c :: rest)) :
    count verbose (s ++ closing) = (ds, c :: (rest ++ closing)) := by
  rw [count] at h ⊢
  cases hb : s.dropWhile Unicode.isBlank with
  | nil =>
    rw [hb] at h
    cases h
  | cons d ds =>
    rcases hg : gather verbose Char.isDigit false (d :: ds) with ⟨taken, _ | ⟨e, es⟩⟩
    · rw [hb, hg] at h
      cases h
    · rw [hb, hg] at h
      obtain ⟨rfl, hrest⟩ := Prod.mk.inj h
      have hg' := gather_append hg
      rw [List.cons_append] at hg'
      rw [dropWhile_append hb, hg']
      exact Prod.ext rfl (dropWhile_append hrest)

lemma followed_dropLazy (h : Followed s s') : Followed (dropLazy s) (dropLazy s') := by
  rcases h with rfl | ⟨rfl, rfl⟩
  · cases s with
    | nil => exact .inl rfl
    | cons c cs =>
      by_cases hc : c = '?'
      · subst hc
        exact .inl rfl
      · simp [dropLazy, hc, Followed]
  · exact .inr ⟨rfl, rfl⟩

/-- The three ways to write how often a part is repeated, up to the brace behind it. -/
inductive Counted (verbose : Bool) (s : List Char) : Nat → Option Nat → List Char → Prop
  | exactly {least : Option (List Char)} {n : Nat} {t : List Char} :
      count verbose (skip verbose s) = (least, '}' :: t) → countValue least = .ok n →
      Counted verbose s n (some n) t
  | atLeast {least : Option (List Char)} {n : Nat} {t u : List Char} :
      count verbose (skip verbose s) = (least, ',' :: u) → countValue least = .ok n →
      skip verbose u = '}' :: t → Counted verbose s n none t
  | between {least most : Option (List Char)} {n m : Nat} {t u : List Char} :
      count verbose (skip verbose s) = (least, ',' :: u) → countValue least = .ok n →
      (∀ v, skip verbose u ≠ '}' :: v) → count verbose (skip verbose u) = (most, '}' :: t) →
      countValue most = .ok m → Counted verbose s n (some m) t

lemma bounds_end (x : Nat × Option Nat × List Char) {min : Nat} {max : Option Nat}
    (h : (match x.2.2 with
      | '}' :: s =>
        if x.2.1.any (· < x.1) then .error .invalidCount
        else pure (x.1, x.2.1, dropLazy (skip verbose s))
      | _ => .error .invalidCount : Except SyntaxError (Nat × Option Nat × List Char)) =
        .ok (min, max, rest)) :
    ∃ t, x = (min, max, '}' :: t) ∧ max.any (· < min) = false ∧ rest = dropLazy (skip verbose t) := by
  obtain ⟨n, limit, s⟩ := x
  dsimp only at h
  split at h
  · next t =>
    split at h
    · cases h
    · next hany =>
      cases h
      exact ⟨t, rfl, Bool.not_eq_true _ ▸ hany, rfl⟩
  · cases h

lemma bounds_eq_ok_iff {min : Nat} {max : Option Nat} :
    bounds verbose s = .ok (min, max, rest) ↔ ∃ t, Counted verbose s min max t ∧
      max.any (· < min) = false ∧ rest = dropLazy (skip verbose t) := by
  constructor
  · intro h
    rcases hc : count verbose (skip verbose s) with ⟨least, u⟩
    by_cases hcomma : ∃ v, u = ',' :: v
    · obtain ⟨u, rfl⟩ := hcomma
      by_cases hbrace : ∃ t, skip verbose u = '}' :: t
      · obtain ⟨t, ht⟩ := hbrace
        simp only [bounds, hc, ht] at h
        obtain ⟨n, hn, h⟩ := bind_eq_ok_iff.1 h
        obtain ⟨t', heq, hend⟩ := bounds_end (n, none, '}' :: t) h
        cases heq
        exact ⟨t, .atLeast hc hn ht, hend⟩
      · rw [not_exists] at hbrace
        simp only [bounds, hc] at h
        obtain ⟨n, hn, h⟩ := bind_eq_ok_iff.1 h
        obtain ⟨m, hm, h⟩ := bind_eq_ok_iff.1 h
        rcases hmost : count verbose (skip verbose u) with ⟨most, v⟩
        rw [hmost] at h hm
        obtain ⟨t, heq, hend⟩ := bounds_end (n, some m, v) h
        cases heq
        exact ⟨t, .between hc hn hbrace hmost hm, hend⟩
    · rw [not_exists] at hcomma
      simp only [bounds, hc] at h
      obtain ⟨n, hn, h⟩ := bind_eq_ok_iff.1 h
      obtain ⟨t, heq, hend⟩ := bounds_end (n, some n, u) h
      cases heq
      exact ⟨t, .exactly hc hn, hend⟩
  · rintro ⟨t, ht, hany, rfl⟩
    have hmin : ¬ max.any (· < min) = true := by rw [hany]; nofun
    cases ht with
    | exactly hc hn =>
      rw [bounds, hc]
      dsimp only
      rw [hn]
      exact if_neg hmin
    | atLeast hc hn hu =>
      simp only [bounds, hc, hn, hu]
      rfl
    | between hc hn hu hm hmost =>
      simp only [bounds, hc, hn, hm, hmost]
      exact if_neg hmin

lemma count_skip_append {ds : Option (List Char)} (h : count verbose (skip verbose s) = (ds, c :: rest)) :
    count verbose (skip verbose (s ++ closing)) = (ds, c :: (rest ++ closing)) := by
  cases hs : skip verbose s with
  | nil =>
    rw [hs] at h
    cases h
  | cons d t =>
    rw [skip_append hs, ← List.cons_append, ← hs]
    exact count_append h

lemma counted_append {min : Nat} {max : Option Nat} {t : List Char} (h : Counted verbose s min max t) :
    Counted verbose (s ++ closing) min max (t ++ closing) := by
  cases h with
  | exactly hc hn => exact .exactly (count_skip_append hc) hn
  | atLeast hc hn hu => exact .atLeast (count_skip_append hc) hn (skip_append hu)
  | @between _ _ _ _ _ u hc hn hu hm hmost =>
    refine .between (count_skip_append hc) hn (fun v hv => ?_) (count_skip_append hm) hmost
    cases hs : skip verbose u with
    | nil =>
      rw [hs] at hm
      cases hm
    | cons d ds =>
      rw [skip_append hs] at hv
      cases hv
      exact hu _ hs

lemma bounds_append {min : Nat} {max : Option Nat} (h : bounds verbose s = .ok (min, max, rest)) :
    ∃ rest', bounds verbose (s ++ closing) = .ok (min, max, rest') ∧ Followed rest rest' := by
  obtain ⟨t, ht, hany, rfl⟩ := bounds_eq_ok_iff.1 h
  refine ⟨_, bounds_eq_ok_iff.2 ⟨t ++ closing, counted_append ht, hany, rfl⟩, ?_⟩
  exact followed_dropLazy (followed_skip verbose t)

end Counts

section Openings

lemma local_groupName (names : List (List Char)) : Local (groupName names) := by
  intro s a rest h
  rw [groupName] at h
  split at h
  · next name rest' hspan =>
    rw [groupName, span_append hspan]
    split at h
    · cases h
    · next d ds =>
      split at h
      · next hname =>
        simp only [hname, if_true]
        exact local_ok _ h
      · cases h
  · cases h

lemma flagRun_append {seen : List Flag} {on dangling unchanged : Bool} {fl' : Flags}
    (h : flagRun fl seen on dangling s = .ok (fl', unchanged, c, rest)) :
    flagRun fl seen on dangling (s ++ closing) = .ok (fl', unchanged, c, rest ++ closing) := by
  induction s generalizing fl seen on dangling with
  | nil => cases h
  | cons d ds ih =>
    rw [List.cons_append]
    rw [flagRun] at h ⊢
    split at h
    · next hend =>
      rw [if_pos hend]
      split at h
      · cases h
      · next hdangling =>
        rw [if_neg hdangling]
        cases h
        rfl
    · next hend =>
      rw [if_neg hend]
      split at h
      · next hminus =>
        rw [if_pos hminus]
        split at h
        · next hon => rw [if_pos hon, ih h]
        · cases h
      · next hminus =>
        rw [if_neg hminus]
        split at h
        · cases h
        · next f hf =>
          split at h
          · cases h
          · next hseen =>
            rw [if_neg hseen, ih h]

lemma opening_named (hs : skip scope.flags.verbose s = '?' :: '<' :: rest)
    (hrest : rest.head? ≠ some '=' ∧ rest.head? ≠ some '!') :
    opening scope s = (groupName scope.names rest).map fun (name, rest) =>
      (.group { scope with names := name :: scope.names }, rest) := by
  rw [opening, hs]
  split
  case h_6 heq =>
    cases heq
    rfl
  case h_7 hother heq =>
    cases heq
    exact absurd rfl (hother _)
  all_goals simp_all

lemma opening_flags (hs : skip scope.flags.verbose s = '?' :: c :: rest) (hc : c ∉ ['=', '!', '<'])
    (hp : c = 'P' → rest.head? ≠ some '<') :
    opening scope s = flagRun scope.flags [] true false (c :: rest) >>= fun (flags, unchanged, d, s') =>
      if d = ':' then .ok (.group { scope with flags }, s')
      else if unchanged then .error .nothingToRepeat
      else .ok (.directive flags, s') := by
  rw [opening, hs]
  split
  case h_7 heq =>
    cases heq
    cases flagRun scope.flags [] true false (c :: rest) <;> rfl
  all_goals simp_all

lemma opening_plain (hs : ∀ t, skip scope.flags.verbose s ≠ '?' :: t) :
    opening scope s = .ok (.group scope, skip scope.flags.verbose s) := by
  rw [opening]
  split <;> simp_all

lemma opening_append {o : Opening} (h : opening scope s = .ok (o, rest)) :
    ∃ rest', opening scope (s ++ closing) = .ok (o, rest') ∧ Followed rest rest' := by
  cases hs : skip scope.flags.verbose s with
  | nil =>
    have hs' := followed_skip scope.flags.verbose s
    rw [opening_plain (by simp [hs]), hs] at h
    rw [hs] at hs'
    cases h
    refine ⟨_, opening_plain ?_, hs'⟩
    rintro t ht
    rw [ht] at hs'
    rcases hs' with hs' | ⟨-, hs'⟩ <;> cases hs'
  | cons c cs =>
    have hs' := skip_append hs
    by_cases hc : c = '?'
    · subst hc
      simp only [opening, hs] at h
      split at h
      · cases h
      · cases h
      · cases h
      · cases h
      · next s₁ heq =>
        cases heq
        obtain ⟨⟨name, rest'⟩, hn, heq⟩ := map_eq_ok_iff.1 h
        cases heq
        refine ⟨rest' ++ closing, ?_, .inl rfl⟩
        simp only [opening, hs', List.cons_append, local_groupName _ hn]
        rfl
      · next s₁ hne₁ hne₂ heq =>
        cases heq
        obtain ⟨⟨name, rest'⟩, hn, heq⟩ := map_eq_ok_iff.1 h
        cases heq
        refine ⟨rest' ++ closing, ?_, .inl rfl⟩
        have hnamed : (s₁ ++ closing).head? ≠ some '=' ∧ (s₁ ++ closing).head? ≠ some '!' := by
          cases s₁ with
          | nil => cases hn
          | cons d ds =>
            simp only [List.cons_append, List.head?_cons, ne_eq, Option.some.injEq]
            constructor
            · rintro rfl
              exact hne₁ _ rfl
            · rintro rfl
              exact hne₂ _ rfl
        have ho := opening_named (show _ = '?' :: '<' :: (s₁ ++ closing) from hs') hnamed
        rw [ho, local_groupName _ hn]
        rfl
      · next s₁ h₁ h₂ _ _ h₅ h₆ heq =>
        cases heq
        cases cs with
        | nil => cases h
        | cons d ds =>
          rcases hr : flagRun scope.flags [] true false (d :: ds) with e |
            ⟨flags, unchanged, e, s₁⟩
          · rw [hr] at h
            cases h
          · simp only [hr] at h
            have hmem : d ∉ ['=', '!', '<'] := by
              simp only [List.mem_cons, List.not_mem_nil, or_false, not_or]
              refine ⟨?_, ?_, ?_⟩
              · rintro rfl
                exact h₁ _ rfl
              · rintro rfl
                exact h₂ _ rfl
              · rintro rfl
                exact h₆ _ rfl
            have hp : d = 'P' → (ds ++ closing).head? ≠ some '<' := by
              rintro rfl
              cases ds with
              | nil => simp [closing]
              | cons e es =>
                simp only [List.cons_append, List.head?_cons, ne_eq, Option.some.injEq]
                rintro rfl
                exact h₅ _ rfl
            have ho := opening_flags (show _ = '?' :: d :: (ds ++ closing) from hs') hmem hp
            rw [ho, ← List.cons_append, flagRun_append hr, ok_bind]
            dsimp only
            split at h
            · next hcolon =>
              cases h
              exact ⟨_, if_pos hcolon, .inl rfl⟩
            · next hcolon =>
              rw [if_neg hcolon]
              split at h
              · cases h
              · next hunchanged =>
                cases h
                exact ⟨_, if_neg hunchanged, .inl rfl⟩
      · next hother => exact absurd rfl (hother _)
    · have hplain : ∀ t, skip scope.flags.verbose s ≠ '?' :: t := by simp [hs, hc]
      have hplain' : ∀ t, skip scope.flags.verbose (s ++ closing) ≠ '?' :: t := by simp [hs', hc]
      rw [opening_plain hplain, hs] at h
      rw [opening_plain hplain', hs']
      cases h
      exact ⟨_, rfl, .inl rfl⟩

lemma local_item (fl : Flags) (c : Char) : Local (item fl c) := by
  intro s a rest h
  simp only [item] at h ⊢
  split at h
  · obtain ⟨⟨atom, rest'⟩, ha, heq⟩ := map_eq_ok_iff.1 h
    rw [local_escape fl ha]
    cases atom <;> cases heq <;> rfl
  · exact local_map _ _ h
  · exact local_ok _ h
  · exact local_ok _ h
  · exact local_ok _ h

end Openings

section Bodies

/-- What is read with the closing end behind it, against what is read without: the same, up to how
deep groups may nest. -/
def Spliced (x y : Except SyntaxError (Regex × Scope × List Char)) : Prop :=
  ∀ ⦃r scope rest⦄, x = .ok (r, scope, rest) →
    y = .error .tooDeep ∨ ∃ rest', y = .ok (r, scope, rest') ∧ Followed rest rest'

variable {fuel levels m k : Nat} {branches items : List Regex}

lemma spliced_bind {α : Type} (x : Except SyntaxError α)
    {f g : α → Except SyntaxError (Regex × Scope × List Char)} (h : ∀ a, Spliced (f a) (g a)) :
    Spliced (x >>= f) (x >>= g) := by
  intro r scope rest hf
  obtain ⟨a, rfl, hf⟩ := bind_eq_ok_iff.1 hf
  exact h a hf

lemma spliced_finish (hs : Followed s s') (r : Regex) (scope : Scope) :
    Spliced (.ok (r, scope, s)) (.ok (r, scope, s')) := by
  intro r' scope' rest h
  cases h
  exact .inr ⟨s', rfl, hs⟩

lemma body_nil : body (fuel + 1) levels scope branches items [] =
    .ok (body.finish branches items, scope, []) := by
  cases hv : scope.flags.verbose <;> simp [body, skip, skipVerbose, hv]

lemma body_item (hs : skip scope.flags.verbose s = c :: rest)
    (hc : c ∉ [')', '|', '(', '[', '?', '*', '+', '{']) :
    body (fuel + 1) levels scope branches items s =
      item scope.flags c rest >>= fun (r, s) =>
        body fuel levels scope branches (r :: items) s := by
  simp only [List.mem_cons, List.not_mem_nil, or_false, not_or] at hc
  rw [body, hs]
  split <;> simp_all

/-- The induction is on the fuel; the levels may differ, as the group around the text takes one. -/
theorem body_spliced (hm : fuel ≤ m) (hk : k ≤ levels) (hs : Followed s s') :
    Spliced (body fuel levels scope branches items s) (body m k scope branches items s') := by
  induction fuel generalizing m levels k scope branches items s s' with
  | zero =>
    intro r scope₁ rest h
    cases h
  | succ fuel ih =>
    obtain ⟨m, rfl⟩ : ∃ n, m = n + 1 := ⟨m - 1, by omega⟩
    rw [Nat.succ_le_succ_iff] at hm
    rcases hs with rfl | ⟨rfl, rfl⟩
    swap
    · rw [body_nil, body_nil]
      exact spliced_finish (.inr ⟨rfl, rfl⟩) _ _
    cases hs : skip scope.flags.verbose s with
    | nil =>
      have hend := followed_skip scope.flags.verbose s
      rw [hs] at hend
      rcases hend with hs' | ⟨-, hs'⟩
      · simp only [body, hs, hs']
        exact spliced_finish (.inl rfl) _ _
      · simp only [body, hs, hs']
        exact spliced_finish (.inr ⟨rfl, rfl⟩) _ _
    | cons c cs =>
      have hs' := skip_append hs
      by_cases hc : c ∈ [')', '|', '(', '[', '?', '*', '+', '{']
      · simp only [List.mem_cons, List.not_mem_nil, or_false] at hc
        rcases hc with rfl | rfl | rfl | rfl | rfl | rfl | rfl | rfl
        all_goals simp only [body, hs, hs']
        · exact spliced_finish (.inl rfl) _ _
        · exact ih hm hk (.inl rfl)
        · intro r scope₁ rest h
          obtain ⟨⟨o, s₁⟩, ho, h⟩ := bind_eq_ok_iff.1 h
          obtain ⟨s₁', ho', hs₁⟩ := opening_append ho
          rw [ho']
          cases o with
          | directive flags => exact ih hm hk hs₁ h
          | group inner =>
            cases levels with
            | zero => cases h
            | succ levels =>
              -- with fewer levels left the group may be one too many
              cases k with
              | zero => exact .inl rfl
              | succ k =>
                obtain ⟨⟨q, inner₁, s₂⟩, hq, h⟩ := bind_eq_ok_iff.1 h
                rcases ih hm (Nat.succ_le_succ_iff.1 hk) hs₁ hq with hdeep | ⟨s₂', hq', hs₂⟩
                · simp only [ok_bind, hdeep]
                  exact .inl rfl
                · simp only [ok_bind, hq']
                  dsimp only at h
                  split at h
                  · next s₃ =>
                    -- the parenthesis of the inner group is there, so no comment took it in
                    rcases hs₂ with rfl | ⟨hs₂, -⟩
                    · exact ih hm hk (.inl rfl) h
                    · cases hs₂
                  · cases h
        · intro r scope₁ rest h
          obtain ⟨⟨member, s₁⟩, hmember, h⟩ := bind_eq_ok_iff.1 h
          rw [local_bracketSet _ _ hmember]
          exact ih hm hk (.inl rfl) h
        · exact spliced_bind _ fun _ => ih hm hk (followed_dropLazy (.inl rfl))
        · exact spliced_bind _ fun _ => ih hm hk (followed_dropLazy (.inl rfl))
        · exact spliced_bind _ fun _ => ih hm hk (followed_dropLazy (.inl rfl))
        · intro r scope₁ rest h
          obtain ⟨⟨min, max, s₁⟩, hbounds, h⟩ := bind_eq_ok_iff.1 h
          obtain ⟨s₁', hbounds', hs₁⟩ := bounds_append hbounds
          rw [hbounds']
          exact spliced_bind _ (fun _ => ih hm hk hs₁) h
      · rw [body_item hs hc, body_item hs' hc]
        intro r scope₁ rest h
        obtain ⟨⟨r', s₁⟩, hr, h⟩ := bind_eq_ok_iff.1 h
        rw [local_item _ _ hr]
        exact ih hm hk (.inl rfl) h

end Bodies

end TypedPid.Regex
