import Mathlib.Tactic.Common
import TypedPid.Json.Reading
import TypedPid.Proofs.Json.Writing

/-! The text of a value is read as the tree of the value, down to the last character. -/

namespace TypedPid.Json

namespace Value

mutual

/-- What a reader finds in the text of a value. -/
def tree : Value → Node
  | null => .null
  | bool b => .bool b
  | number n => .number ⟨false, Nat.toDigits 10 n, none, none⟩
  | string s => .string (some s)
  | array items => .array (itemTrees items) true
  | object fields => .object (fieldTrees fields) true

def itemTrees : List Value → List Node
  | [] => []
  | v :: vs => v.tree :: itemTrees vs

def fieldTrees : List (String × Value) → List (Option String × Node)
  | [] => []
  | (k, v) :: fs => (some k, v.tree) :: fieldTrees fs

end

lemma itemTrees_eq_map (items : List Value) : itemTrees items = items.map tree := by
  induction items with
  | nil => rw [itemTrees, List.map_nil]
  | cons v vs ih => rw [itemTrees, List.map_cons, ih]

lemma fieldTrees_eq_map (fields : List (String × Value)) :
    fieldTrees fields = fields.map fun f => (some f.1, f.2.tree) := by
  induction fields with
  | nil => rw [fieldTrees, List.map_nil]
  | cons f fs ih => rw [fieldTrees, List.map_cons, ih]

lemma fieldTrees_append (fs gs : List (String × Value)) :
    fieldTrees (fs ++ gs) = fieldTrees fs ++ fieldTrees gs := by
  simp only [fieldTrees_eq_map, List.map_append]

end Value

/-- What can stand behind a value: the end of the text or of an array or object, or a comma. -/
def Delimited : Source → Prop
  | [] => True
  | none :: _ => False
  | some c :: _ => c = ',' ∨ c = ']' ∨ c = '}'

variable {rest : Source} {c : Char} {ds : List Char} {n fuel : Nat}

lemma skipSpace_cons (h : isSpace c = false) : skipSpace (some c :: rest) = some c :: rest := by
  rw [skipSpace, h, if_neg Bool.false_ne_true]

lemma digits_append (hds : ∀ c ∈ ds, c.isDigit = true) (hr : Delimited rest) :
    digits (ds.map some ++ rest) = (ds, rest) := by
  induction ds with
  | nil =>
    rw [List.map_nil, List.nil_append]
    match rest, hr with
    | [], _ => rfl
    | some c :: s, hr =>
      have hc : c.isDigit = false := by
        rcases hr with rfl | rfl | rfl <;> rfl
      rw [digits, hc, if_neg Bool.false_ne_true]
  | cons c ds ih =>
    rw [List.map_cons, List.cons_append, digits, if_pos (hds c List.mem_cons_self),
      ih fun d hd => hds d (List.mem_cons_of_mem c hd)]

lemma power?_of_delimited (hr : Delimited rest) : power? rest = some (none, rest) := by
  match rest, hr with
  | [], _ => rfl
  | some c :: s, hr =>
    have hc : ¬ (c = 'e' ∨ c = 'E') := by
      rcases hr with rfl | rfl | rfl <;> decide
    simp [power?, hc]

lemma toDigits_eq_cons (n : Nat) : ∃ c cs, Nat.toDigits 10 n = c :: cs ∧ c.isDigit = true := by
  obtain ⟨c, cs, hcs⟩ := List.exists_cons_of_ne_nil (Nat.toDigits_ne_nil (n := n) (b := 10))
  have hmem : c ∈ Nat.toDigits 10 n := hcs ▸ List.mem_cons_self
  exact ⟨c, cs, hcs, Nat.isDigit_of_mem_toDigits (by decide) (by decide) hmem⟩

lemma isSpace_of_isDigit (h : c.isDigit = true) : isSpace c = false := by
  by_contra hspace
  simp only [isSpace, Bool.or_eq_true, decide_eq_true_eq, Bool.not_eq_false] at hspace
  rcases hspace with ((rfl | rfl) | rfl) | rfl <;> cases h

lemma head?_toDigits_ne_zero (h : 0 < n) : (Nat.toDigits 10 n).head? ≠ some '0' := by
  induction n using Nat.strongRecOn with
  | ind n ih =>
    rcases Nat.lt_or_ge n 10 with hn | hn
    · rw [Nat.toDigits_of_lt_base hn, List.head?_cons, ne_eq, Option.some.injEq]
      have hall : ∀ k < 10, 0 < k → k.digitChar ≠ '0' := by decide
      exact hall n hn h
    · have hfirst := ih (n / 10) (by omega) (by omega)
      obtain ⟨c, cs, hcs, -⟩ := toDigits_eq_cons (n / 10)
      rw [Nat.toDigits_of_base_le (by decide) hn, hcs, List.cons_append, List.head?_cons]
      rwa [hcs, List.head?_cons] at hfirst

/-- A number is written without a leading zero. -/
lemma toDigits_ne_zero_cons (n : Nat) (d : Char) (ds : List Char) :
    Nat.toDigits 10 n ≠ '0' :: d :: ds := by
  intro h
  rcases Nat.eq_zero_or_pos n with rfl | hn
  · cases h
  · exact head?_toDigits_ne_zero hn (by rw [h, List.head?_cons])

lemma number?_toDigits (n : Nat) (hr : Delimited rest) :
    number? ((Nat.toDigits 10 n).map some ++ rest) =
      some (⟨false, Nat.toDigits 10 n, none, none⟩, rest) := by
  have hdigits : ∀ c ∈ Nat.toDigits 10 n, c.isDigit = true := fun c hc =>
    Nat.isDigit_of_mem_toDigits (by decide) (by decide) hc
  have hread := digits_append hdigits hr
  have hsign : ∀ s : Source, (Nat.toDigits 10 n).map some ++ rest ≠ some '-' :: s := by
    intro s hs
    obtain ⟨c, cs, hcs, hc⟩ := toDigits_eq_cons n
    rw [hcs, List.map_cons, List.cons_append, List.cons.injEq, Option.some.injEq] at hs
    rw [hs.1] at hc
    cases hc
  rw [number?.eq_def]
  simp only [hread]
  split
  · next heq => exact absurd (Prod.mk.inj heq).1 Nat.toDigits_ne_nil
  · next d ds _ heq => exact absurd (Prod.mk.inj heq).1 (toDigits_ne_zero_cons n d ds)
  · next s _ _ heq =>
    obtain ⟨-, rfl⟩ := Prod.mk.inj heq
    rcases hr with h | h | h <;> cases h
  · next heq =>
    obtain ⟨rfl, rfl⟩ := Prod.mk.inj heq
    rw [power?_of_delimited hr, Option.map_some]

lemma node_number {s : Source} {literal : NumberLiteral} (hc : c.isDigit = true)
    (hn : number? (some c :: s) = some (literal, rest)) :
    node (fuel + 1) (some c :: s) = (.number literal, rest) := by
  rw [node, skipSpace_cons (isSpace_of_isDigit hc)]
  split
  case h_7 =>
    rw [hn]
  all_goals
    next heq =>
    cases heq
    cases hc

lemma exists_body (s : String) (rest : Source) : ∃ body,
    (quoted s).map some ++ rest = some '"' :: body ∧
      stringBody (some []) body = some (some s, rest) :=
  ⟨(quoted s).tail.map some ++ rest, rfl, stringBody_quoted s rest⟩

lemma node_string (s : String) (rest : Source) :
    node (fuel + 1) ((quoted s).map some ++ rest) = (.string (some s), rest) := by
  obtain ⟨body, hquoted, hbody⟩ := exists_body s rest
  rw [hquoted, node, skipSpace_cons (by decide)]
  simp only [hbody]

lemma node_array {s : Source} {ns : List Node} (hspace : isSpace c = false) (hc : c ≠ ']')
    (hitems : items fuel (some c :: s) = (ns, true, rest)) :
    node (fuel + 1) (some '[' :: some c :: s) = (.array ns true, rest) := by
  rw [node, skipSpace_cons (by decide)]
  simp only [skipSpace_cons hspace]
  split
  · next heq =>
    cases heq
    exact absurd rfl hc
  · rw [hitems]

lemma node_object {s : Source} {ms : List (Option String × Node)}
    (hmembers : members fuel (some '"' :: s) = (ms, true, rest)) :
    node (fuel + 1) (some '{' :: some '"' :: s) = (.object ms true, rest) := by
  rw [node, skipSpace_cons (by decide)]
  simp only [skipSpace_cons (show isSpace '"' = false by decide)]
  split
  · next heq => cases heq
  · rw [hmembers]

lemma items_last {s : Source} {n : Node} (hn : node fuel s = (n, some ']' :: rest)) :
    items (fuel + 1) s = ([n], true, rest) := by
  rw [items, hn]
  rfl

lemma items_cons {s s' : Source} {n : Node} {ns : List Node} (hn : node fuel s = (n, some ',' :: s'))
    (hitems : items fuel s' = (ns, true, rest)) : items (fuel + 1) s = (n :: ns, true, rest) := by
  rw [items, hn]
  simp only [skipSpace_cons (show isSpace ',' = false by decide), hitems]

lemma members_last {s : Source} {n : Node} (k : String) (hn : node fuel s = (n, some '}' :: rest)) :
    members (fuel + 1) ((quoted k).map some ++ some ':' :: s) = ([(some k, n)], true, rest) := by
  obtain ⟨body, hquoted, hbody⟩ := exists_body k (some ':' :: s)
  rw [hquoted, members, skipSpace_cons (by decide)]
  simp only [hbody, skipSpace_cons (show isSpace ':' = false by decide), hn,
    skipSpace_cons (show isSpace '}' = false by decide)]

lemma members_cons {s s' : Source} {n : Node} {ms : List (Option String × Node)} (k : String)
    (hn : node fuel s = (n, some ',' :: s')) (hmembers : members fuel s' = (ms, true, rest)) :
    members (fuel + 1) ((quoted k).map some ++ some ':' :: s) = ((some k, n) :: ms, true, rest) := by
  obtain ⟨body, hquoted, hbody⟩ := exists_body k (some ':' :: s)
  rw [hquoted, members, skipSpace_cons (by decide)]
  simp only [hbody, skipSpace_cons (show isSpace ':' = false by decide), hn,
    skipSpace_cons (show isSpace ',' = false by decide), hmembers]

namespace Value

lemma chars_number (n : Nat) : (number n).chars = Nat.toDigits 10 n := by
  rw [chars, Nat.toString_eq_ofList_toDigits, String.toList_ofList]

lemma itemChars_cons_cons (v w : Value) (vs : List Value) :
    itemChars (v :: w :: vs) = v.chars ++ ',' :: itemChars (w :: vs) := rfl

lemma fieldChars_cons_cons (k : String) (v : Value) (f : String × Value) (fs : List (String × Value)) :
    fieldChars ((k, v) :: f :: fs) = quoted k ++ ':' :: (v.chars ++ ',' :: fieldChars (f :: fs)) := rfl

/-- A value begins with a character that is neither a blank nor the end of an array. -/
lemma chars_eq_cons (v : Value) : ∃ c cs, v.chars = c :: cs ∧ isSpace c = false ∧ c ≠ ']' := by
  cases v with
  | null => exact ⟨_, _, rfl, by decide, by decide⟩
  | bool b => cases b <;> exact ⟨_, _, rfl, by decide, by decide⟩
  | number n =>
    obtain ⟨c, cs, hcs, hc⟩ := toDigits_eq_cons n
    refine ⟨c, cs, by rw [chars_number, hcs], isSpace_of_isDigit hc, ?_⟩
    rintro rfl
    cases hc
  | string s => exact ⟨_, _, rfl, by decide, by decide⟩
  | array items => exact ⟨_, _, rfl, by decide, by decide⟩
  | object fields => exact ⟨_, _, rfl, by decide, by decide⟩

lemma itemChars_eq_cons (v : Value) (vs : List Value) :
    ∃ c cs, itemChars (v :: vs) = c :: cs ∧ isSpace c = false ∧ c ≠ ']' := by
  obtain ⟨c, cs, hcs, hc⟩ := v.chars_eq_cons
  cases vs with
  | nil => exact ⟨c, cs, hcs, hc⟩
  | cons w ws => exact ⟨c, _, by rw [itemChars_cons_cons, hcs, List.cons_append], hc⟩

lemma fieldChars_eq_cons (f : String × Value) (fs : List (String × Value)) :
    ∃ cs, fieldChars (f :: fs) = '"' :: cs := by
  cases fs <;> exact ⟨_, rfl⟩

end Value

lemma node_number_chars (n : Nat) (hr : Delimited rest) :
    node (fuel + 1) ((Value.number n).chars.map some ++ rest) = ((Value.number n).tree, rest) := by
  have hnumber := number?_toDigits n hr
  obtain ⟨c, cs, hcs, hc⟩ := toDigits_eq_cons n
  rw [Value.chars_number, Value.tree]
  rw [hcs, List.map_cons, List.cons_append] at hnumber ⊢
  exact node_number hc hnumber

mutual

/-- The recursion follows the writer. What is left of the fuel pays for what is left of the text. -/
theorem node_chars : ∀ (v : Value) (fuel : Nat) (rest : Source), 2 * v.chars.length < fuel →
    Delimited rest → node fuel (v.chars.map some ++ rest) = (v.tree, rest)
  | .null, fuel + 1, rest, _, _ => rfl
  | .bool true, fuel + 1, rest, _, _ => rfl
  | .bool false, fuel + 1, rest, _, _ => rfl
  | .string s, fuel + 1, rest, _, _ => node_string s rest
  | .number n, fuel + 1, rest, _, hr => node_number_chars n hr
  | .array [], fuel + 1, rest, _, _ => rfl
  | .array (v :: vs), fuel + 1, rest, hf, _ => by
    have hitems := items_itemChars v vs fuel rest (by
      simp only [Value.chars, List.length_cons, List.length_append] at hf
      omega)
    obtain ⟨c, cs, hcs, hspace, hc⟩ := Value.itemChars_eq_cons v vs
    rw [hcs, List.map_cons, List.cons_append] at hitems
    rw [Value.chars, Value.tree, hcs, List.map_cons, List.cons_append, List.map_append,
      List.append_assoc, List.map_cons, List.cons_append]
    exact node_array hspace hc hitems
  | .object [], fuel + 1, rest, _, _ => rfl
  | .object (f :: fs), fuel + 1, rest, hf, _ => by
    have hmembers := members_fieldChars f fs fuel rest (by
      simp only [Value.chars, List.length_cons, List.length_append] at hf
      omega)
    obtain ⟨cs, hcs⟩ := Value.fieldChars_eq_cons f fs
    rw [hcs, List.map_cons, List.cons_append] at hmembers
    rw [Value.chars, Value.tree, hcs, List.map_cons, List.cons_append, List.map_append,
      List.append_assoc, List.map_cons, List.cons_append]
    exact node_object hmembers

theorem items_itemChars : ∀ (v : Value) (vs : List Value) (fuel : Nat) (rest : Source),
    2 * (Value.itemChars (v :: vs)).length + 1 < fuel →
    items fuel ((Value.itemChars (v :: vs)).map some ++ some ']' :: rest) =
      (Value.itemTrees (v :: vs), true, rest)
  | v, [], fuel + 1, rest, hf => by
    have hf' : 2 * v.chars.length + 1 < fuel + 1 := hf
    exact items_last (node_chars v fuel (some ']' :: rest) (by omega) (.inr (.inl rfl)))
  | v, w :: vs, fuel + 1, rest, hf => by
    rw [Value.itemChars_cons_cons, List.length_append, List.length_cons] at hf
    have hn := node_chars v fuel
      (some ',' :: ((Value.itemChars (w :: vs)).map some ++ some ']' :: rest)) (by omega) (.inl rfl)
    have hitems := items_itemChars w vs fuel rest (by omega)
    rw [Value.itemChars_cons_cons, List.map_append, List.append_assoc, List.map_cons,
      List.cons_append, Value.itemTrees]
    exact items_cons hn hitems

theorem members_fieldChars : ∀ (f : String × Value) (fs : List (String × Value)) (fuel : Nat)
    (rest : Source), 2 * (Value.fieldChars (f :: fs)).length + 1 < fuel →
    members fuel ((Value.fieldChars (f :: fs)).map some ++ some '}' :: rest) =
      (Value.fieldTrees (f :: fs), true, rest)
  | (k, v), [], fuel + 1, rest, hf => by
    simp only [Value.fieldChars, List.length_append, List.length_cons] at hf
    have hn := node_chars v fuel (some '}' :: rest) (by omega) (.inr (.inr rfl))
    rw [Value.fieldChars, List.map_append, List.append_assoc, List.map_cons, List.cons_append]
    exact members_last k hn
  | (k, v), f :: fs, fuel + 1, rest, hf => by
    simp only [Value.fieldChars_cons_cons, List.length_append, List.length_cons] at hf
    have hn := node_chars v fuel
      (some ',' :: ((Value.fieldChars (f :: fs)).map some ++ some '}' :: rest)) (by omega) (.inl rfl)
    have hmembers := members_fieldChars f fs fuel rest (by omega)
    rw [Value.fieldChars_cons_cons, List.map_append, List.append_assoc, List.map_cons,
      List.cons_append, List.map_append, List.append_assoc, List.map_cons, List.cons_append,
      Value.fieldTrees]
    exact members_cons k hn hmembers

end

/-- The text of a value is read to its end, and as the value. -/
theorem parse_text (v : Value) : parse (Source.ofString v.text) = (v.tree, []) := by
  have hchars : Source.ofString v.text = v.chars.map some := by
    rw [Source.ofString, Value.text, String.toList_ofList]
  have hread := node_chars v (2 * (v.chars.map some).length + 2) [] (by rw [List.length_map]; omega)
    trivial
  rw [List.append_nil] at hread
  rw [hchars, parse, hread]

theorem read_text (read : Reader α) (v : Value) :
    Json.read read (Source.ofString v.text) = read v.tree := by
  rw [Json.read, parse_text]
  change (read v.tree).bind (finish true) = read v.tree
  cases read v.tree <;> rfl

end TypedPid.Json
