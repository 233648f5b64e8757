import TypedPid.Proofs.Regex.Matching
import TypedPid.Proofs.Regex.Splicing

/-!
A pattern accepts a value if and only if the expression it is written with covers the whole of it.
The expression between the two ends is read as the one that the source is by itself, and the ends
are read under no flags, so that whatever is set inside does not move them.
-/

namespace TypedPid

variable {source : String} {r q : Regex}

namespace Regex

variable {cs text : List Char} {scope : Scope}

lemma ofString?_eq_ok_iff : ofString? source = .ok r ↔
    (∃ scope, body (source.toList.length + 1) nestLimit {} [] [] source.toList =
      .ok (r, scope, [])) ∧ r.nesting ≤ nestLimit ∧ r.weight ≤ weightLimit := by
  constructor
  · intro h
    obtain ⟨⟨r', scope, rest⟩, hbody, h⟩ := bind_eq_ok_iff.1 h
    dsimp only at h
    split at h
    · cases h
    · next hrest =>
      split at h
      · cases h
      · next hnesting =>
        split at h
        · cases h
        · next hweight =>
          cases h
          rw [not_not, List.isEmpty_iff] at hrest
          exact ⟨⟨scope, hrest ▸ hbody⟩, Nat.not_lt.1 hnesting, Nat.not_lt.1 hweight⟩
  · rintro ⟨⟨scope, hbody⟩, hnesting, hweight⟩
    simp only [ofString?, hbody, ok_bind, List.isEmpty_nil, not_true_eq_false, if_false,
      Nat.not_lt.2 hnesting, Nat.not_lt.2 hweight]
    rfl

/-- An expression between the two ends of a text. -/
def whole (r : Regex) : Regex := .seq (.assert .textStart) (.seq (.group r) (.assert .textEnd))

lemma body_opening (fuel : Nat) (s : List Char) :
    body (fuel + 2) nestLimit {} [] [] ('^' :: '(' :: '?' :: ':' :: s) =
      body fuel (nestLimit - 1) {} [] [] s >>= fun (r, inner, s) =>
        match s with
        | ')' :: s =>
          body fuel nestLimit { names := inner.names } [] [.group r, .assert .textStart] s
        | _ => .error .unclosedGroup := rfl

lemma body_closing (fuel : Nat) (names : List (List Char)) :
    body (fuel + 2) nestLimit { names := names } [] [.group r, .assert .textStart] ['$'] =
      .ok (whole r, { names := names }, []) := rfl

/-- The text that `anchored` puts around an expression is read as what it stands for, unless a
comment takes the closing end in. -/
lemma body_anchored {rest : List Char} {outer : Scope}
    (h : body (cs.length + 1) nestLimit {} [] [] cs = .ok (r, scope, []))
    (hq : body (cs.length + 7) nestLimit {} [] [] ('^' :: '(' :: '?' :: ':' :: (cs ++ closing)) =
      .ok (q, outer, rest)) : q = whole r := by
  rw [body_opening] at hq
  obtain ⟨⟨r', inner, s⟩, hr', hq⟩ := bind_eq_ok_iff.1 hq
  have hfuel : cs.length + 1 ≤ cs.length + 5 := by omega
  rcases body_spliced hfuel (Nat.sub_le nestLimit 1) (.inl rfl) h with hdeep | ⟨s', hs', hfollowed⟩
  · rw [hdeep] at hr'
    cases hr'
  · rw [hs'] at hr'
    cases hr'
    rcases hfollowed with rfl | ⟨-, rfl⟩
    · have hclose := body_closing (r := r) (cs.length + 3) scope.names
      change body (cs.length + 5) nestLimit { names := scope.names } [] _ ['$'] = _ at hq
      rw [hclose] at hq
      cases hq
      rfl
    · cases hq

lemma matches_whole {i j : Nat} : Matches text (whole r) i j ↔
    i = 0 ∧ j = text.length ∧ Matches text r 0 text.length := by
  simp only [whole, matches_seq, matches_assert, matches_group, Assertion.holds]
  constructor
  · rintro ⟨i', ⟨rfl, hi, hstart⟩, j', hm, rfl, hj, hend⟩
    have hi₀ : i = 0 := by
      by_contra hne
      rw [if_neg hne, Option.isNone_iff_eq_none, List.getElem?_eq_none_iff] at hstart
      omega
    have hj₀ : j' = text.length := by
      rw [Option.isNone_iff_eq_none, List.getElem?_eq_none_iff] at hend
      omega
    subst hi₀ hj₀
    exact ⟨rfl, rfl, hm⟩
  · rintro ⟨rfl, rfl, hm⟩
    refine ⟨0, ⟨rfl, Nat.zero_le _, rfl⟩, text.length, hm, rfl, Nat.le_refl _, ?_⟩
    rw [Option.isNone_iff_eq_none, List.getElem?_eq_none_iff]

end Regex

namespace ValuePattern

variable {p : ValuePattern}

lemma regex_of_ofString? (hp : ofString? source = .ok p) :
    Regex.ofString? (anchored source) = .ok p.regex := by
  rw [ofString?] at hp
  split at hp
  · next h =>
    cases hp
    exact h
  · cases hp

lemma body_of_ofString? (hp : ofString? source = .ok p) :
    (∃ outer, Regex.body (source.toList.length + 7) Regex.nestLimit {} [] []
      ('^' :: '(' :: '?' :: ':' :: (source.toList ++ Regex.closing)) = .ok (p.regex, outer, [])) ∧
    p.regex.nesting ≤ Regex.nestLimit ∧ p.regex.weight ≤ Regex.weightLimit := by
  have htext : (anchored source).toList =
      '^' :: '(' :: '?' :: ':' :: (source.toList ++ Regex.closing) := by
    simp [anchored, Regex.closing]
  have hlen : (anchored source).toList.length + 1 = source.toList.length + 7 := by
    simp [htext, Regex.closing]
  have hread := Regex.ofString?_eq_ok_iff.1 (regex_of_ofString? hp)
  rwa [hlen, htext] at hread

theorem regex_eq_whole (h : Regex.ofString? source = .ok r) (hp : ofString? source = .ok p) :
    p.regex = r.whole := by
  obtain ⟨⟨scope, hbody⟩, -⟩ := Regex.ofString?_eq_ok_iff.1 h
  obtain ⟨⟨outer, houter⟩, -⟩ := body_of_ofString? hp
  exact Regex.body_anchored hbody houter

/-- The matches of the search are those of the source that begin at the first position of the value
and end at its last one. -/
theorem accepts_iff_covers (h : Regex.ofString? source = .ok r) (hp : ofString? source = .ok p)
    (value : String) :
    p.accepts value = true ↔ Regex.Matches value.toList r 0 value.toList.length := by
  rw [accepts, regex_eq_whole h hp, Regex.isMatch_iff]
  simp only [Regex.matches_whole]
  constructor
  · rintro ⟨i, j, -, -, -, hm⟩
    exact hm
  · intro hm
    exact ⟨0, _, Nat.zero_le _, rfl, rfl, hm⟩

lemma exists_of_any {ε α : Type} {x : Except ε α} {f : α → Bool}
    (h : x.toOption.any f = true) : ∃ a, x = .ok a ∧ f a = true := by
  cases x with
  | error e => cases h
  | ok a => exact ⟨a, rfl, h⟩

theorem accepts_iff_covers_lines : ∃ r p,
    Regex.ofString? "(?m)^a$|ab(?x) # either\n" = .ok r ∧
    ofString? "(?m)^a$|ab(?x) # either\n" = .ok p ∧
    Regex.Matches "ab".toList r 0 "ab".toList.length ∧
    ¬ Regex.Matches "a\nb".toList r 0 "a\nb".toList.length := by
  obtain ⟨r, hr, -⟩ : ∃ r, Regex.ofString? "(?m)^a$|ab(?x) # either\n" = .ok r ∧ true = true :=
    exists_of_any (by decide +kernel)
  obtain ⟨p, hp, hv⟩ : ∃ p, ofString? "(?m)^a$|ab(?x) # either\n" = .ok p ∧
      (p.accepts "ab" && !p.accepts "a\nb") = true := exists_of_any (by decide +kernel)
  rw [Bool.and_eq_true, Bool.not_eq_true'] at hv
  refine ⟨r, p, hr, hp, (accepts_iff_covers hr hp "ab").1 hv.1, fun hm => ?_⟩
  rw [(accepts_iff_covers hr hp "a\nb").2 hm] at hv
  exact absurd hv.2 nofun

end ValuePattern
end TypedPid
