import Mathlib.Data.Finset.Card
import Mathlib.Data.Finset.Dedup
import TypedPid.Cache.Entries
import TypedPid.Proofs.Keyed

/-!
What becomes of the definitions that are kept where another one is stored. Those that are expired go;
where there is no room then, one of those that were stored first goes too, and that is enough as long
as no more are kept than there may be.
-/

namespace TypedPid.Cache

variable {c : Config} {entries : Entries} {id id' : String} {l : Loaded} {now n capacity fuel : Nat}
  {a : String × Stored} {stored : Stored}

section Expiry

lemma isExpired_eq_false_iff : c.isExpired now stored = false ↔
    ∀ lifetime, c.lifetime = some lifetime → now - stored.storedAt < lifetime.nanoseconds := by
  cases h : c.lifetime with
  | none => simp [Config.isExpired, h]
  | some lifetime => simp [Config.isExpired, h]

lemma isExpired_mono {n m : Nat} {stored : Stored} (hnm : n ≤ m)
    (h : c.isExpired m stored = false) : c.isExpired n stored = false := by
  rw [isExpired_eq_false_iff] at h ⊢
  intro lifetime hl
  have hlt := h lifetime hl
  omega

lemma purge_eq : entries.purge c now = entries.filter (!c.isExpired now ·.2) := by
  simp only [Entries.purge, c.outlasts_eq]

lemma mem_purge : a ∈ entries.purge c now ↔ a ∈ entries ∧ c.isExpired now a.2 = false := by
  simp [purge_eq]

lemma ordered_purge (h : Keyed.Ordered entries) : Keyed.Ordered (entries.purge c now) :=
  Keyed.ordered_filter _ h

/-- What is purged would not be found any more. -/
lemma find_purge (h : Keyed.Ordered entries) (hn : now ≤ n) :
    (entries.purge c now).find c n id = entries.find c n id := by
  rw [Entries.find, Entries.find, purge_eq, Keyed.lookup_filter h, Option.filter_filter]
  congr 2
  funext stored
  cases hx : c.isExpired n stored with
  | true => exact Bool.and_false _
  | false => simp [isExpired_mono hn hx]

end Expiry

section Room

lemma mem_makeRoom (h : a ∈ Entries.makeRoom capacity id n entries) : a ∈ entries := by
  induction n generalizing entries with
  | zero => exact h
  | succ n ih =>
    rw [Entries.makeRoom] at h
    split at h
    · split at h
      · exact (Keyed.mem_erase.1 (ih h)).1
      · exact h
    · exact h

lemma ordered_makeRoom (h : Keyed.Ordered entries) :
    Keyed.Ordered (Entries.makeRoom capacity id n entries) := by
  induction n generalizing entries with
  | zero => exact h
  | succ n ih =>
    rw [Entries.makeRoom]
    split
    · split
      · exact ih (Keyed.erase_ordered _ h)
      · exact h
    · exact h

lemma makeRoom_eq_self (h : entries.length < capacity ∨ Keyed.contains id entries = true) :
    Entries.makeRoom capacity id fuel entries = entries := by
  cases fuel with
  | zero => rfl
  | succ fuel =>
    rw [Entries.makeRoom, if_neg]
    rintro ⟨hle, hn⟩
    rcases h with h | h
    · omega
    · simp [h] at hn

lemma oldest_eq_none_iff : entries.oldest = none ↔ entries = [] := by
  cases entries with
  | nil => simp [Entries.oldest]
  | cons a entries =>
    rw [Entries.oldest]
    split
    · split <;> simp
    · simp

lemma oldest_spec {first : String} {time : Nat} (h : entries.oldest = some (first, time)) :
    (∃ stored, (first, stored) ∈ entries ∧ stored.storedAt = time) ∧
      ∀ a ∈ entries, time ≤ a.2.storedAt := by
  induction entries generalizing first time with
  | nil => cases h
  | cons a entries ih =>
    obtain ⟨id, stored⟩ := a
    rw [Entries.oldest] at h
    cases ho : Entries.oldest entries with
    | none =>
      rw [ho] at h
      cases h
      simp [oldest_eq_none_iff.1 ho]
    | some other =>
      obtain ⟨other, time'⟩ := other
      obtain ⟨⟨stored', hm, rfl⟩, hle⟩ := ih ho
      simp only [ho] at h
      split at h
      · next hlt =>
        cases h
        refine ⟨⟨stored', List.mem_cons_of_mem _ hm, rfl⟩, ?_⟩
        exact List.forall_mem_cons.2 ⟨hlt.le, hle⟩
      · next hlt =>
        cases h
        refine ⟨⟨stored, List.mem_cons_self, rfl⟩, ?_⟩
        exact List.forall_mem_cons.2 ⟨le_rfl, fun b hb => (Nat.not_lt.1 hlt).trans (hle b hb)⟩

end Room

section Store

lemma mem_store (h : a ∈ entries.store c now id l) : a = (id, ⟨l, now⟩) ∨ a ∈ entries := by
  rcases Keyed.mem_insert_key h with h | h
  · exact .inl h
  · exact .inr (mem_purge.1 (mem_makeRoom h)).1

lemma ordered_store (h : Keyed.Ordered entries) : Keyed.Ordered (entries.store c now id l) :=
  Keyed.insert_ordered _ _ (ordered_makeRoom (ordered_purge h))

lemma lookup_store_self : Keyed.lookup id (entries.store c now id l) = some ⟨l, now⟩ := by
  rw [Entries.store, Keyed.lookup_insert, if_pos rfl]

lemma lookup_of_lookup_store (h : Keyed.Ordered entries) (hne : id ≠ id')
    (hs : Keyed.lookup id (entries.store c now id' l) = some stored) :
    Keyed.lookup id entries = some stored := by
  rcases mem_store (Keyed.mem_of_lookup hs) with heq | hm
  · cases heq
    exact absurd rfl hne
  · exact Keyed.lookup_of_mem h hm

lemma find_store_self : (entries.store c now id l).find c n id =
    if c.isExpired n ⟨l, now⟩ then none else some l := by
  rw [Entries.find, lookup_store_self]
  cases hx : c.isExpired n ⟨l, now⟩ <;> simp [hx]

lemma find_store_of_ne (h : Keyed.Ordered entries) (hne : id ≠ id') (hn : now ≤ n)
    (hroom : (entries.purge c now).length < c.capacity ∨
      Keyed.contains id' (entries.purge c now) = true) :
    (entries.store c now id' l).find c n id = entries.find c n id := by
  rw [← find_purge h hn, Entries.store, makeRoom_eq_self hroom, Entries.find, Keyed.lookup_insert,
    if_neg hne]
  rfl

/-- There is room where no more identifiers can be asked for than are kept. -/
lemma room_of_card {ids : Finset String} (h : Keyed.Ordered entries)
    (hkeys : ∀ a ∈ entries, a.1 ∈ ids) (hid : id ∈ ids) (hcard : ids.card ≤ capacity) :
    entries.length < capacity ∨ Keyed.contains id entries = true := by
  by_cases hm : id ∈ Keyed.keys entries
  · exact .inr (Keyed.contains_iff_mem_keys.2 hm)
  · left
    have hnodup : (id :: Keyed.keys entries).Nodup := List.nodup_cons.2 ⟨hm, Keyed.nodup_keys h⟩
    have hsub : (id :: Keyed.keys entries).toFinset ⊆ ids := by
      intro key hkey
      rcases List.mem_cons.1 (List.mem_toFinset.1 hkey) with rfl | hkey
      · exact hid
      · obtain ⟨a, ha, rfl⟩ := List.mem_map.1 hkey
        exact hkeys a ha
    have hle := (Finset.card_le_card hsub).trans hcard
    rw [List.toFinset_card_of_nodup hnodup, List.length_cons, Keyed.keys, List.length_map] at hle
    exact hle

end Store

end TypedPid.Cache
