import Mathlib.Tactic.Common
import TypedPid.Json.Node
import TypedPid.Record.Json

/-! A string that is written in quotes is read back, so that two texts tell their strings apart. -/

namespace TypedPid.Json

variable {c : Char} {s t : String} {cs found : List Char} {xs ys : List Char} {rest : Source}

lemma escaped_eq_cons (c : Char) : ∃ d ds, escaped c = d :: ds ∧ d ≠ '"' := by
  unfold escaped
  split
  · exact ⟨_, _, rfl, by decide⟩
  next hquote =>
  -- a backslash, or the character itself
  repeat' split
  all_goals first | exact ⟨_, _, rfl, hquote⟩ | exact ⟨_, _, rfl, by decide⟩

lemma codeUnit?_lower {n : Nat} (h : n < 0x20) :
    codeUnit? (some '0') (some '0') (some (Hex.lower (n / 16))) (some (Hex.lower (n % 16))) =
      some n := by
  have hall : ∀ k < 0x20, codeUnit? (some '0') (some '0') (some (Hex.lower (k / 16)))
      (some (Hex.lower (k % 16))) = some k := by decide
  exact hall n h

lemma unitCharacter_of_lt {n : Nat} (h : n < 0xD800) :
    unitCharacter n rest = (some (Char.ofNat n), rest) := by
  have hhigh : isHighSurrogate n = false := by
    simp only [isHighSurrogate, Bool.and_eq_false_imp, decide_eq_true_eq]
    omega
  have hlow : isLowSurrogate n = false := by
    simp only [isLowSurrogate, Bool.and_eq_false_imp, decide_eq_true_eq]
    omega
  rw [unitCharacter, hhigh, hlow, if_neg Bool.false_ne_true, if_neg Bool.false_ne_true]

lemma character?_escaped (c : Char) (rest : Source) :
    character? ((escaped c).map some ++ rest) = some (some c, rest) := by
  unfold escaped
  -- the characters with an escape of their own
  iterate 7
    split
    · next h =>
      subst h
      rfl
  next hslash _ _ _ _ _ =>
  split
  · next hlt =>
    simp only [List.map_cons, List.map_nil, List.cons_append, List.nil_append]
    rw [character?, if_pos rfl, escape?, codeUnit?_lower hlt, Option.map_some,
      unitCharacter_of_lt (by omega), Char.ofNat_toNat]
  · next hlt =>
    rw [List.map_cons, List.map_nil, List.cons_append, List.nil_append, character?, if_neg hslash,
      if_neg hlt]

lemma stringBody_escaped (cs found : List Char) (rest : Source) :
    stringBody (some found) ((cs.flatMap escaped).map some ++ some '"' :: rest) =
      some (some (String.ofList (found.reverse ++ cs)), rest) := by
  induction cs generalizing found with
  | nil =>
    rw [stringBody]
    simp
  | cons c cs ih =>
    obtain ⟨d, ds, hc, hd⟩ := escaped_eq_cons c
    have hread := character?_escaped c ((cs.flatMap escaped).map some ++ some '"' :: rest)
    have hhead : ((escaped c).map some ++ ((cs.flatMap escaped).map some ++ some '"' :: rest)).head? ≠
        some (some '"') := by
      rw [hc]
      simpa using hd
    rw [List.flatMap_cons, List.map_append, List.append_assoc, stringBody, if_neg hhead]
    split
    · next hnone =>
      rw [hread] at hnone
      cases hnone
    · next d' rest' hsome =>
      rw [hread] at hsome
      cases hsome
      have htail := ih (c :: found)
      rw [List.reverse_cons, List.append_assoc, List.singleton_append] at htail
      exact htail

/-- What stands behind the opening quote of a string is read as the string. -/
theorem stringBody_quoted (s : String) (rest : Source) :
    stringBody (some []) ((quoted s).tail.map some ++ rest) = some (some s, rest) := by
  have hbody := stringBody_escaped s.toList [] rest
  rw [List.reverse_nil, List.nil_append, String.ofList_toList] at hbody
  rw [quoted, List.tail_cons, List.map_append, List.append_assoc]
  exact hbody

lemma quoted_append_inj (h : quoted s ++ xs = quoted t ++ ys) : s = t ∧ xs = ys := by
  have htail : (quoted s).tail ++ xs = (quoted t).tail ++ ys := List.cons_inj_right '"' |>.1 h
  have hread := stringBody_quoted s (xs.map some)
  rw [← List.map_append, htail, List.map_append, stringBody_quoted t (ys.map some)] at hread
  simp only [Option.some.injEq, Prod.mk.injEq] at hread
  have hrest : ys = xs := (List.map_inj_right fun _ _ => Option.some.inj).1 hread.2
  exact ⟨hread.1.symm, hrest.symm⟩

lemma pid_of_text_eq {r r' : Record} (h : r.toJson.text = r'.toJson.text) : r.pid = r'.pid := by
  have hchars : r.toJson.chars = r'.toJson.chars := String.ofList_inj.1 h
  simp only [Record.toJson, Value.chars, Value.fieldChars, List.cons.injEq, List.append_assoc,
    List.cons_append, List.append_cancel_left_eq, true_and] at hchars
  exact (quoted_append_inj hchars).1

end TypedPid.Json
