import TypedPid.Proofs.Cache.Retention

/-!
How much is kept. There are never more definitions than there is room for; so where one is stored that
has no place yet, one other at most has to go, and it is one that was stored first.
-/

namespace TypedPid.Cache

/-- There is no room for a definition, and none under its identifier whose place it could take. -/
def Full (capacity : Nat) (id : String) (entries : Entries) : Prop :=
  capacity ≤ entries.length ∧ Keyed.contains id entries = false

/-- Until there is room, one definition after another goes, each the one that was stored first of
those that are left: so many rounds, and what is kept then. -/
inductive Frees (capacity : Nat) (id : String) : Nat → Entries → Entries → Prop
  | enough {entries} : ¬ Full capacity id entries → Frees capacity id 0 entries entries
  | evict {n first time entries room} : Full capacity id entries →
      entries.oldest = some (first, time) → Frees capacity id n (Keyed.erase first entries) room →
      Frees capacity id (n + 1) entries room

/-- Those that a lookup would still find. -/
def Entries.unexpired (c : Config) (now : Nat) (entries : Entries) : Entries :=
  entries.filter (!c.isExpired now ·.2)

/-- What is kept once `l` was stored under `id`, by what was kept before. -/
structure Inserted (c : Config) (now : Nat) (id : String) (l : Loaded) (entries entries' : Entries) :
    Prop where
  stored : Keyed.lookup id entries' = some ⟨l, now⟩
  others : ∀ a ∈ entries', a.1 ≠ id → a ∈ entries.unexpired c now
  roomy : Keyed.contains id (entries.unexpired c now) = true ∨
      (entries.unexpired c now).length < max 1 c.maxEntries →
    ∀ a ∈ entries.unexpired c now, a.1 ≠ id → a ∈ entries'
  full : Keyed.contains id (entries.unexpired c now) = false →
      max 1 c.maxEntries ≤ (entries.unexpired c now).length →
    ∃ a ∈ entries.unexpired c now, a ∉ entries' ∧
      ∀ b ∈ entries.unexpired c now, b ≠ a → b ∈ entries' ∧ a.2.storedAt ≤ b.2.storedAt
  once : ∃ n ≤ 1, ∃ room, Frees c.capacity id n (entries.purge c now) room ∧
    entries' = Keyed.insert id ⟨l, now⟩ room

/-- A step stores a definition under an identifier. -/
def Stores (a : State × Event) (id : String) (l : Loaded) : Prop :=
  ∃ k f : Nat, a.2 = .proceed k ∧ a.1.callers[k]? = some ⟨id, .storing f l⟩

variable {c : Config} {endpoint : String} {past : List (State × Event)} {s s' t : State} {k : Nat}
  {id id' : String} {e : Event} {p p' : Phase} {l l' : Loaded} {entries room : Entries}
  {now n capacity fuel : Nat}

section Room

lemma length_erase_oldest {first : String} {time : Nat} (h : Keyed.Ordered entries)
    (ho : entries.oldest = some (first, time)) : (Keyed.erase first entries).length + 1 = entries.length := by
  obtain ⟨⟨stored, hm, -⟩, -⟩ := oldest_spec ho
  exact Keyed.length_erase h (Keyed.contains_of_mem hm)

lemma frees_makeRoom (id : String) (hcap : 0 < capacity) (h : Keyed.Ordered entries)
    (hfuel : entries.length ≤ fuel) : ∃ n ≤ entries.length + 1 - capacity,
      Frees capacity id n entries (Entries.makeRoom capacity id fuel entries) := by
  induction fuel generalizing entries with
  | zero =>
    refine ⟨0, Nat.zero_le _, .enough fun hfull => ?_⟩
    have hle := hfull.1
    omega
  | succ fuel ih =>
    by_cases hfull : Full capacity id entries
    · obtain ⟨hle, hn⟩ := hfull
      cases ho : entries.oldest with
      | none =>
        rw [oldest_eq_none_iff.1 ho] at hle
        exact absurd hle (Nat.not_le.2 hcap)
      | some found =>
        obtain ⟨first, time⟩ := found
        have hlen := length_erase_oldest h ho
        obtain ⟨n, hn', hfrees⟩ := ih (Keyed.erase_ordered first h) (by omega)
        rw [Entries.makeRoom, if_pos ⟨hle, by simp [hn]⟩, ho]
        exact ⟨n + 1, by omega, .evict ⟨hle, hn⟩ ho hfrees⟩
    · have hroom : entries.length < capacity ∨ Keyed.contains id entries = true := by
        rw [Full, not_and_or, Nat.not_le, Bool.not_eq_false] at hfull
        exact hfull
      rw [makeRoom_eq_self hroom]
      exact ⟨0, Nat.zero_le _, .enough hfull⟩

lemma Frees.not_full {room : Entries} (h : Frees capacity id n entries room) : ¬ Full capacity id room := by
  induction h with
  | enough hn => exact hn
  | evict _ _ _ ih => exact ih

lemma Frees.length_le {room : Entries} (h : Frees capacity id n entries room) :
    room.length ≤ entries.length := by
  induction h with
  | enough => exact le_rfl
  | evict _ _ _ ih => exact ih.trans (List.length_filter_le _ _)

end Room

section Insertion

lemma capacity_pos : 0 < c.capacity := Nat.le_max_right _ _

lemma frees_purge (id : String) (now : Nat) (h : Keyed.Ordered entries)
    (hlen : entries.length ≤ c.capacity) : ∃ n ≤ 1,
    Frees c.capacity id n (entries.purge c now)
      (Entries.makeRoom c.capacity id (entries.purge c now).length (entries.purge c now)) := by
  have hle : (entries.purge c now).length ≤ entries.length := List.length_filter_le _ _
  obtain ⟨n, hn, hfrees⟩ := frees_makeRoom id capacity_pos (ordered_purge h) le_rfl
  exact ⟨n, by omega, hfrees⟩

lemma length_store_le (h : Keyed.Ordered entries) (hlen : entries.length ≤ c.capacity) :
    (entries.store c now id l).length ≤ c.capacity := by
  have hle : (entries.purge c now).length ≤ entries.length := List.length_filter_le _ _
  obtain ⟨n, -, hfrees⟩ := frees_purge id now h hlen
  have hroom := hfrees.not_full
  have hshort := hfrees.length_le
  rw [Entries.store]
  generalize hr : Entries.makeRoom _ _ _ _ = room at *
  have ho : Keyed.Ordered room := hr ▸ ordered_makeRoom (ordered_purge h)
  cases hc : Keyed.contains id room with
  | true =>
    rw [Keyed.length_insert_of_contains ho hc]
    omega
  | false =>
    have hlt : room.length < c.capacity := by
      by_contra hle
      exact hroom ⟨Nat.not_lt.1 hle, hc⟩
    exact Keyed.length_insert_le.trans hlt

lemma Frees.once (h : Frees capacity id n entries room) (hn : n ≤ 1) :
    ¬ Full capacity id entries ∧ room = entries ∨ Full capacity id entries ∧
      ∃ first time, entries.oldest = some (first, time) ∧ room = Keyed.erase first entries := by
  cases h with
  | enough hroom => exact .inl ⟨hroom, rfl⟩
  | @evict n first time _ _ hfull ho h =>
    cases h with
    | enough => exact .inr ⟨hfull, first, time, ho, rfl⟩
    | evict => omega

end Insertion

section Steps

lemma Stores.unique {a : State × Event} (h : Stores a id l) (h' : Stores a id' l') : id' = id ∧ l' = l := by
  obtain ⟨k, f, he, hk⟩ := h
  obtain ⟨k', f', he', hk'⟩ := h'
  rw [he] at he'
  cases he'
  rw [hk] at hk'
  cases hk'
  exact ⟨rfl, rfl⟩

lemma stores_iff (hk : s.callers[k]? = some ⟨id, p⟩) (ha : Act c endpoint s k id e p t p') :
    Stores (s, e) id' l ↔ ∃ f, e = .proceed k ∧ id' = id ∧ p = .storing f l := by
  constructor
  · rintro ⟨j, f, rfl, hj⟩
    obtain rfl : j = k := by
      by_contra hne
      exact act_event_ne ha hne rfl
    rw [hk] at hj
    cases hj
    exact ⟨f, rfl, rfl, rfl⟩
  · rintro ⟨f, rfl, rfl, rfl⟩
    exact ⟨k, f, rfl, hk⟩

lemma act_ne_invalidate (ha : Act c endpoint s k id e p t p') (id' : String) : e ≠ .invalidate id' := by
  rintro rfl
  cases ha with
  | finish he => cases he

lemma entries_step (hs : s.step c endpoint e = some s') :
    (∃ id l, Stores (s, e) id l ∧ s'.entries = s.entries.store c s.now id l) ∨
      (∀ id l, ¬ Stores (s, e) id l) ∧ ((∀ id, e ≠ .invalidate id) ∧ s'.entries = s.entries ∨
        ∃ id, e = .invalidate id ∧ s'.entries = Keyed.erase id s.entries) := by
  cases step_eq_some_iff.1 hs with
  | @act k id p e t p' hk ha =>
    by_cases hst : ∃ id l, Stores (s, e) id l
    · obtain ⟨id', l, hst⟩ := hst
      obtain ⟨f, rfl, rfl, rfl⟩ := (stores_iff hk ha).1 hst
      cases ha
      exact .inl ⟨id', l, hst, rfl⟩
    · refine .inr ⟨fun id l h => hst ⟨id, l, h⟩, .inl ⟨act_ne_invalidate ha, ?_⟩⟩
      rcases act_entries ha with ht | ⟨f, l, rfl, rfl, -⟩
      · exact ht
      · cases ha with
        | store => exact absurd ⟨id, l, k, f, rfl, hk⟩ hst
  | invalidate id => exact .inr ⟨nofun, .inr ⟨id, rfl, rfl⟩⟩
  | _ => exact .inr ⟨nofun, .inl ⟨nofun, rfl⟩⟩

end Steps

lemma Run.length_le (h : Run c endpoint past s) : s.entries.length ≤ c.capacity := by
  induction h with
  | start => exact Nat.zero_le _
  | @step past s e s' hr hs ih =>
    rcases entries_step hs with ⟨id, l, -, ht⟩ | ⟨-, ⟨-, ht⟩ | ⟨id, -, ht⟩⟩
    · rw [ht]
      exact length_store_le (Run.wanting hr).ordered ih
    · rwa [ht]
    · rw [ht]
      exact (List.length_filter_le _ _).trans ih

end TypedPid.Cache
