import Mathlib.Data.List.Forall2

/-!
Where items of a row stand among those that have a property, and rows in which one is changed.
-/

namespace TypedPid

section Place

variable {α β : Type} (p : α → Bool)

/-- Where an item of a row stands among those that have a property. -/
def place? : List α → Nat → Option Nat
  | [], _ => none
  | a :: _, 0 => if p a then some 0 else none
  | a :: l, n + 1 => (place? l n).map (· + if p a then 1 else 0)

variable {p} {l l' : List α} {a b : α} {n m : Nat} {f : α → α}

lemma place?_append (h : place? p l n = some m) : place? p (l ++ l') n = some m := by
  induction l generalizing n m with
  | nil => cases h
  | cons a l ih =>
    cases n with
    | zero => exact h
    | succ n =>
      obtain ⟨m', hm, rfl⟩ := Option.map_eq_some_iff.1 h
      simp only [List.cons_append, place?, ih hm, Option.map_some]

lemma place?_length (ha : p a = true) : place? p (l ++ [a]) l.length = some (l.filter p).length := by
  induction l with
  | nil => simp [place?, ha]
  | cons b l ih => cases hb : p b <;> simp [place?, ih, hb]

lemma place?_congr (h : l.map p = l'.map p) : place? p l n = place? p l' n := by
  induction l generalizing l' n with
  | nil =>
    obtain rfl := List.map_eq_nil_iff.1 h.symm
    rfl
  | cons a l ih =>
    cases l' with
    | nil => cases h
    | cons a' l' =>
      obtain ⟨ha, hl⟩ := List.cons.inj h
      cases n <;> simp only [place?, ha, ih hl]

lemma getElem?_filter (h : place? p l n = some m) : (l.filter p)[m]? = l[n]? := by
  induction l generalizing n m with
  | nil => cases h
  | cons a l ih =>
    cases n with
    | zero =>
      simp only [place?, Option.ite_none_right_eq_some, Option.some.injEq] at h
      obtain ⟨ha, rfl⟩ := h
      simp [ha]
    | succ n =>
      obtain ⟨m', hm, rfl⟩ := Option.map_eq_some_iff.1 h
      cases ha : p a <;> simp [ha, ih hm]

lemma place?_isSome : (place? p l n).isSome = l[n]?.any p := by
  induction l generalizing n with
  | nil => rfl
  | cons a l ih =>
    cases n with
    | zero => cases ha : p a <;> simp [place?, ha]
    | succ n => simp [place?, ih]

lemma exists_of_place? (h : place? p l n = some m) : ∃ a, l[n]? = some a ∧ p a = true := by
  have hsome := place?_isSome.symm.trans (congrArg Option.isSome h)
  cases ha : l[n]? with
  | none =>
    rw [ha] at hsome
    cases hsome
  | some a =>
    rw [ha] at hsome
    exact ⟨a, rfl, hsome⟩

lemma place?_eq_none_iff (ha : l[n]? = some a) : place? p l n = none ↔ p a = false := by
  rw [← Option.isNone_iff_eq_none, ← Option.not_isSome, place?_isSome, ha]
  simp

variable (hf : ∀ a, p (f a) = p a)

include hf

lemma map_modify : (l.modify n f).map p = l.map p := by
  induction l generalizing n with
  | nil => simp
  | cons a l ih => cases n <;> simp [hf, ih]

lemma filter_modify (h : place? p l n = some m) :
    (l.modify n f).filter p = (l.filter p).modify m f := by
  induction l generalizing n m with
  | nil => cases h
  | cons a l ih =>
    cases n with
    | zero =>
      simp only [place?, Option.ite_none_right_eq_some, Option.some.injEq] at h
      obtain ⟨ha, rfl⟩ := h
      simp [hf, ha]
    | succ n =>
      obtain ⟨m', hm, rfl⟩ := Option.map_eq_some_iff.1 h
      cases ha : p a <;> simp [ha, ih hm]

lemma filter_modify_of_none (h : place? p l n = none) : (l.modify n f).filter p = l.filter p := by
  induction l generalizing n with
  | nil => simp
  | cons a l ih =>
    cases n with
    | zero =>
      have ha : p a = false := by simpa [place?] using h
      simp [hf, ha]
    | succ n =>
      have hn : place? p l n = none := by simpa [place?] using h
      simp [List.filter_cons, ih hn]

end Place

section Pairs

variable {α β : Type} {R : α → β → Prop} {l : List α} {l' : List β} {n : Nat}

lemma forall₂_getElem? (h : List.Forall₂ R l l') {a : α} (ha : l[n]? = some a) :
    ∃ b, l'[n]? = some b ∧ R a b := by
  induction h generalizing n with
  | nil => cases ha
  | @cons a₀ b₀ l l' hab hl ih =>
    cases n with
    | zero =>
      cases ha
      exact ⟨b₀, rfl, hab⟩
    | succ n => exact ih ha

lemma forall₂_modify {f : α → α} {g : β → β} (h : List.Forall₂ R l l')
    (hn : ∀ a b, l[n]? = some a → R a b → R (f a) (g b)) :
    List.Forall₂ R (l.modify n f) (l'.modify n g) := by
  induction h generalizing n with
  | nil => simp
  | @cons a b l l' hab hl ih =>
    cases n with
    | zero => exact .cons (hn a b rfl hab) hl
    | succ n => exact .cons hab (ih fun a b ha => hn a b ha)

end Pairs

end TypedPid
