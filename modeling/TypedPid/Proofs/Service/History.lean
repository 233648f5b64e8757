import TypedPid.Proofs.Keyed
import TypedPid.Proofs.Service.Admission

/-!
What the store holds is told by the history of the run: under each identifier stands the record that
was written there last, an identifier once taken stays taken, and what is read is what stands there
at that step.
-/

namespace TypedPid.Service

open Procedure

/-- A request takes an operation on the store as its next step. -/
def Does (a : Traffic × Event) (o : Store.Operation) : Prop :=
  ∃ i outside q taken next, a.2 = .proceed i outside ∧
    a.1.calls[i]? = some ⟨q, taken, .ask (.store o) next⟩

/-- A step registers a record under an identifier that is not taken. -/
def Inserts (a : Traffic × Event) (r : Record) : Prop :=
  Does a (.register r) ∧ Keyed.lookup r.pid a.1.store.records = none

def Replaces (a : Traffic × Event) (r : Record) : Prop :=
  Does a (.update r) ∧ (a.1.store.update r).1 = true

def Written (a : Traffic × Event) (r : Record) : Prop := Inserts a r ∨ Replaces a r

def Inserted (past : List (Traffic × Event)) (k : String) : Prop :=
  ∃ a ∈ past, ∃ r, Inserts a r ∧ r.pid = k

/-- Of all that was written under an identifier the record was written last, when the identifier was
inserted or by an update since then. -/
def LastWritten (past : List (Traffic × Event)) (k : String) (r : Record) : Prop :=
  r.pid = k ∧ ∃ newer a older, past = newer ++ a :: older ∧
    (Inserts a r ∨ (Replaces a r ∧ Inserted older k)) ∧
    ∀ b ∈ newer, ∀ r', r'.pid = k → ¬ Written b r'

variable {s : Service} {past : List (Traffic × Event)} {w w' : Traffic} {e : Event} {i : Nat}
  {call : Call} {st : Store} {r r' : Record} {k : String} {a : Traffic × Event}
  {o o' : Store.Operation} {log : List Taken}

section Steps

lemma Does.unique (h : Does a o) (h' : Does a o') : o = o' := by
  obtain ⟨i, outside, q, taken, next, he, hi⟩ := h
  obtain ⟨i', outside', q', taken', next', he', hi'⟩ := h'
  rw [he] at he'
  cases he'
  rw [hi] at hi'
  cases hi'
  rfl

lemma Written.does (h : Written a r) : Does a (.register r) ∨ Does a (.update r) :=
  h.imp And.left And.left

lemma Written.unique (h : Written a r) (h' : Written a r') : r = r' := by
  rcases h.does with hd | hd <;> rcases h'.does with hd' | hd' <;> cases hd.unique hd' <;> rfl

lemma update_eq_true_iff :
    (st.update r).1 = true ↔ ∃ kept, Keyed.lookup r.pid st.records = some kept := by
  rw [← Option.isSome_iff_exists, Store.update, Store.isRegistered, Keyed.contains]
  cases Keyed.lookup r.pid st.records <;> simp

lemma step_writes (hs : w.step s e = some w') :
    (∃ r, Written (w, e) r ∧ w'.store = w.store.put r) ∨
      ((∀ r, ¬ Written (w, e) r) ∧ w'.store = w.store) := by
  cases e with
  | arrive q =>
    cases hs
    refine .inr ⟨fun r h => ?_, rfl⟩
    rcases h.does with ⟨i, outside, _, _, _, he, -⟩ | ⟨i, outside, _, _, _, he, -⟩ <;> cases he
  | proceed i outside =>
    obtain ⟨q, taken, action, next, hi, rfl⟩ := step_proceed hs
    have hother : (∀ r, action ≠ .store (.register r) ∧ action ≠ .store (.update r)) →
        ∀ r, ¬ Written (w, .proceed i outside) r := by
      intro hn r h
      rcases h.does with ⟨_, _, _, _, _, he, hi'⟩ | ⟨_, _, _, _, _, he, hi'⟩ <;> cases he <;>
        rw [hi] at hi' <;> cases hi'
      · exact (hn r).1 rfl
      · exact (hn r).2 rfl
    cases action with
    | store o =>
      have hd : Does (w, .proceed i outside) o := ⟨i, outside, q, taken, next, rfl, hi⟩
      cases o with
      | register r =>
        cases hl : Keyed.lookup r.pid w.store.records with
        | none =>
          refine .inl ⟨r, .inl ⟨hd, hl⟩, ?_⟩
          simp [Store.answer, Store.perform, Store.register, hl]
        | some kept =>
          refine .inr ⟨fun r' h => ?_, by simp [Store.answer, Store.perform, Store.register, hl]⟩
          rcases h with ⟨hd', hn⟩ | ⟨hd', -⟩ <;> cases hd.unique hd'
          rw [hl] at hn
          cases hn
      | update r =>
        by_cases hu : (w.store.update r).1 = true
        · refine .inl ⟨r, .inr ⟨hd, hu⟩, ?_⟩
          simp only [Store.answer, Store.perform, Store.update] at hu ⊢
          split at hu
          · next hr => rw [if_pos hr]
          · cases hu
        · refine .inr ⟨fun r' h => ?_, ?_⟩
          · rcases h with ⟨hd', -⟩ | ⟨hd', hu'⟩ <;> cases hd.unique hd'
            exact hu hu'
          · simp only [Store.answer, Store.perform, Store.update] at hu ⊢
            split at hu
            · exact absurd rfl hu
            · next hr => rw [if_neg hr]
      | _ => exact .inr ⟨hother (by simp), rfl⟩
    | _ => exact .inr ⟨hother (by simp), rfl⟩

end Steps

section Histories

lemma inserted_cons : Inserted (a :: past) k ↔ (∃ r, Inserts a r ∧ r.pid = k) ∨ Inserted past k := by
  simp [Inserted]

lemma Run.inserted_iff (h : Run s past w) :
    Inserted past k ↔ ∃ r, Keyed.lookup k w.store.records = some r := by
  induction h with
  | start => simp [Inserted, Keyed.lookup]
  | @step past w e w' hr hs ih =>
    rw [inserted_cons, ih]
    rcases step_writes hs with ⟨r, hw, ht⟩ | ⟨hn, ht⟩
    · rw [ht, lookup_put]
      by_cases hk : k = r.pid
      · simp only [hk, if_true, Option.some.injEq, exists_eq', iff_true]
        rcases hw with hi | ⟨-, hu⟩
        · exact .inl ⟨r, hi, rfl⟩
        · exact .inr (update_eq_true_iff.1 hu)
      · rw [if_neg hk, or_iff_right]
        rintro ⟨r', hi, rfl⟩
        exact hk (congrArg _ (Written.unique (.inl hi) hw))
    · rw [ht, or_iff_right]
      rintro ⟨r', hi, -⟩
      exact hn r' (.inl hi)

lemma lastWritten_cons : LastWritten (a :: past) k r ↔ r.pid = k ∧
    ((Inserts a r ∨ (Replaces a r ∧ Inserted past k)) ∨
      ((∀ r', r'.pid = k → ¬ Written a r') ∧ LastWritten past k r)) := by
  constructor
  · rintro ⟨hk, newer, b, older, heq, hb, hn⟩
    refine ⟨hk, ?_⟩
    cases newer with
    | nil =>
      cases heq
      exact .inl hb
    | cons c newer =>
      cases heq
      obtain ⟨hc, hn⟩ := List.forall_mem_cons.1 hn
      exact .inr ⟨hc, hk, newer, b, older, rfl, hb, hn⟩
  · rintro ⟨hk, hb | ⟨hn, -, newer, b, older, rfl, hb, hn'⟩⟩
    · exact ⟨hk, [], a, past, rfl, hb, fun _ hc => by cases hc⟩
    · exact ⟨hk, a :: newer, b, older, rfl, hb, List.forall_mem_cons.2 ⟨hn, hn'⟩⟩

lemma Run.lookup_eq_some_iff (h : Run s past w) :
    Keyed.lookup k w.store.records = some r ↔ LastWritten past k r := by
  induction h with
  | start => simp [LastWritten, Keyed.lookup]
  | @step past w e w' hr hs ih =>
    rw [lastWritten_cons]
    rcases step_writes hs with ⟨r₀, hw, ht⟩ | ⟨hn, ht⟩
    · rw [ht, lookup_put]
      by_cases hk : k = r₀.pid
      · subst hk
        rw [if_pos rfl]
        constructor
        · intro heq
          cases heq
          refine ⟨rfl, .inl (hw.imp_right fun hw => ⟨hw, ?_⟩)⟩
          exact (Run.inserted_iff hr).2 (update_eq_true_iff.1 hw.2)
        · rintro ⟨hk, hb | ⟨hn, -⟩⟩
          · rw [hw.unique (hb.imp_right And.left)]
          · exact absurd hw (hn r₀ rfl)
      · rw [if_neg hk, ih]
        constructor
        · intro hl
          refine ⟨hl.1, .inr ⟨fun r' hk' hw' => hk ?_, hl⟩⟩
          rw [← hk', hw'.unique hw]
        · rintro ⟨hk', hb | ⟨-, hl⟩⟩
          · rw [← hk', Written.unique (hb.imp_right And.left) hw] at hk
            exact absurd rfl hk
          · exact hl
    · rw [ht, ih]
      constructor
      · exact fun hl => ⟨hl.1, .inr ⟨fun r' _ => hn r', hl⟩⟩
      · rintro ⟨-, hb | ⟨-, hl⟩⟩
        · exact absurd (hb.imp_right And.left) (hn r)
        · exact hl

end Histories

section Keys

lemma within_update : Within (fun action => ∀ r', action ≠ .store (.register r')) (s.update r) := by
  refine Within.bind (Within.mono ?_ (within_validate s r)) fun verdict => ?_
  · rintro action ⟨identifier, rfl⟩ r' heq
    cases heq
  · cases verdict with
    | error e => exact .done _
    | ok u =>
      refine .ask (fun r' heq => by cases heq) fun updated => ?_
      cases updated <;> exact .done _

lemma pid_ne_of_register {q : Request} {next : _ → Procedure q.Answer}
    (h : Reaches (s.handle q) log (.ask (.store (.register r)) next)) : r.pid ≠ "" := by
  obtain ⟨checks, between, r₀, -, -, hc⟩ := handle_reaches h .register
  cases hc with
  | minted text hp => simp [Record.setPid, Store.pidPrefix]
  | free hp => exact hp
  | replacing => exact absurd rfl (within_update.allows h r)

lemma Run.pid_ne_of_written (h : Run s past w) (hk : ∀ k r, Keyed.lookup k w.store.records = some r →
    k ≠ "") (hw : Written (w, e) r) : r.pid ≠ "" := by
  rcases hw with ⟨⟨i, outside, q, taken, next, -, hi⟩, -⟩ | ⟨-, hu⟩
  · exact pid_ne_of_register (Run.reaches h hi)
  · obtain ⟨kept, hl⟩ := update_eq_true_iff.1 hu
    exact hk _ kept hl

lemma Run.key_ne (h : Run s past w) (hk : Keyed.lookup k w.store.records = some r) : k ≠ "" := by
  induction h generalizing k r with
  | start => cases hk
  | @step past w e w' hr hs ih =>
    rcases step_writes hs with ⟨r₀, hw, ht⟩ | ⟨-, ht⟩
    · rw [ht, lookup_put] at hk
      split at hk
      · next heq => exact heq ▸ Run.pid_ne_of_written hr (fun k r => ih) hw
      · exact ih hk
    · exact ih (ht ▸ hk)

lemma Run.ordered (h : Run s past w) : Keyed.Ordered w.store.records := by
  induction h with
  | start => exact Keyed.ordered_nil
  | step hr hs ih =>
    rcases step_writes hs with ⟨r, -, ht⟩ | ⟨-, ht⟩
    · exact ht ▸ Keyed.insert_ordered _ _ ih
    · exact ht ▸ ih

lemma register_keeps (hs : w.step s e = some w') (hd : Does (w, e) (.register r))
    (hk : Keyed.lookup k w.store.records = some r') :
    Keyed.lookup k w'.store.records = some r' := by
  rcases step_writes hs with ⟨r₀, hw, ht⟩ | ⟨-, ht⟩
  · rcases hw with ⟨hd', hn⟩ | ⟨hd', -⟩ <;> cases hd.unique hd'
    rw [ht, lookup_put, if_neg, hk]
    rintro rfl
    rw [hk] at hn
    cases hn
  · rw [ht, hk]

end Keys

section Readings

/-- What a request was told by the store is what the store said at a step of the request. -/
lemma Run.told (h : Run s past w) (hi : w.calls[i]? = some call) {answer : o.Answer}
    (hm : (⟨.store o, answer⟩ : Taken) ∈ call.taken) :
    ∃ newer v outside older, past = newer ++ (v, .proceed i outside) :: older ∧ Run s older v ∧
      answer = (v.store.perform o).1 := by
  induction h generalizing call with
  | start => cases hi
  | @step past w e w' hr hs ih =>
    have hold : ∀ {call}, w.calls[i]? = some call → (⟨.store o, answer⟩ : Taken) ∈ call.taken →
        ∃ newer v outside older, (w, e) :: past = newer ++ (v, .proceed i outside) :: older ∧
          Run s older v ∧ answer = (v.store.perform o).1 := by
      intro call hi hm
      obtain ⟨newer, v, outside, older, rfl, hv, heq⟩ := ih hi hm
      exact ⟨(w, e) :: newer, v, outside, older, rfl, hv, heq⟩
    rcases call_of_step hs hi with hj | ⟨q, -, rfl⟩ | ⟨outside, q, taken, action, next, rfl, hj, -, rfl⟩
    · exact hold hj hm
    · cases hm
    · rcases List.mem_append.1 hm with hm | hm
      · exact hold hj hm
      · rw [List.mem_singleton] at hm
        cases hm
        exact ⟨[], w, outside, past, rfl, hr, rfl⟩

lemma list_pairwise (h : Keyed.Ordered st.records) : st.list.Pairwise (· < ·) :=
  List.Pairwise.filter _ h

lemma mem_list {pid : String} : pid ∈ st.list ↔
    (∃ r, Keyed.lookup pid st.records = some r) ∧ Store.pidPrefix.toList <+: pid.toList := by
  rw [Store.list, List.mem_filter, ← Keyed.contains_iff_mem_keys, Keyed.contains,
    Option.isSome_iff_exists, List.isPrefixOf_iff_prefix]

lemma list_nodup (h : Keyed.Ordered st.records) : st.list.Nodup :=
  nodup_of_ascending (list_pairwise h)

end Readings

/-- What the store holds and tells in a run. Every record stands under its own identifier, which is
not empty, and is the one that was written there last; nothing is ever removed, and registering
changes nothing that is there. A resolved record is the one written last, and it is missing only if
its identifier was never inserted; what is listed are the identifiers with the prefix of the store,
each once and in ascending order. -/
theorem Run.store_history (h : Run s past w) :
    (∀ k r, Keyed.lookup k w.store.records = some r → r.pid = k ∧ k ≠ "") ∧
    (∀ e w', w.step s e = some w' →
      (∀ k, (∃ r, Keyed.lookup k w.store.records = some r) →
        ∃ r, Keyed.lookup k w'.store.records = some r) ∧
      ∀ r, Does (w, e) (.register r) → ∀ k kept, Keyed.lookup k w.store.records = some kept →
        Keyed.lookup k w'.store.records = some kept) ∧
    (∀ k r, Keyed.lookup k w.store.records = some r ↔ LastWritten past k r) ∧
    (∀ (i : Nat) pid taken answer, w.calls[i]? = some ⟨.delete pid, taken, .done answer⟩ →
      answer = .error (.store (.deleteUnsupported pid))) ∧
    (∀ (i : Nat) pid taken answer, w.calls[i]? = some ⟨.resolve pid, taken, .done answer⟩ →
      ∃ newer v outside older, past = newer ++ (v, .proceed i outside) :: older ∧
        ((∃ r, answer = .ok r ∧ LastWritten older pid r) ∨
          (answer = .error (.store (.notFound pid)) ∧ ¬ Inserted older pid))) ∧
    ∀ (i : Nat) taken answer, w.calls[i]? = some ⟨.list, taken, .done answer⟩ →
      ∃ newer v outside older, past = newer ++ (v, .proceed i outside) :: older ∧
        answer.Pairwise (· < ·) ∧ answer.Nodup ∧
        ∀ pid, pid ∈ answer ↔ Inserted older pid ∧ Store.pidPrefix.toList <+: pid.toList := by
  refine ⟨fun k r hk => ⟨(h.storedBy hk).1, h.key_ne hk⟩, fun e w' hs => ⟨fun k hk => ?_, ?_⟩,
    fun k r => h.lookup_eq_some_iff, fun i pid taken answer hi => ?_,
    fun i pid taken answer hi => ?_, fun i taken answer hi => ?_⟩
  · have hw' : Run s ((w, e) :: past) w' := h.step hs
    rw [← hw'.inserted_iff]
    exact inserted_cons.2 (.inr (h.inserted_iff.2 hk))
  · exact fun r hd k kept hk => register_keeps hs hd hk
  · obtain ⟨said, rfl, rfl⟩ := reaches_ask_done (h.reaches hi)
    obtain ⟨newer, v, outside, older, -, -, rfl⟩ := h.told hi List.mem_cons_self
    rfl
  · obtain ⟨found, rfl, rfl⟩ := reaches_ask_done (h.reaches hi)
    obtain ⟨newer, v, outside, older, hpast, hv, rfl⟩ := h.told hi List.mem_cons_self
    refine ⟨newer, v, outside, older, hpast, ?_⟩
    rw [hv.inserted_iff]
    cases hl : Keyed.lookup pid v.store.records with
    | some r =>
      refine .inl ⟨r, ?_, hv.lookup_eq_some_iff.1 hl⟩
      simp [Store.perform, Store.query, hl, Except.mapError]
    | none =>
      refine .inr ⟨?_, by simp⟩
      simp [Store.perform, Store.query, hl, Except.mapError]
  · obtain ⟨found, rfl, rfl⟩ := reaches_ask_done (h.reaches hi)
    obtain ⟨newer, v, outside, older, hpast, hv, rfl⟩ := h.told hi List.mem_cons_self
    refine ⟨newer, v, outside, older, hpast, list_pairwise hv.ordered, list_nodup hv.ordered,
      fun pid => ?_⟩
    rw [hv.inserted_iff]
    exact mem_list

/-- After two records are registered and one of them is replaced, all is read and nothing deleted. -/
def readings : List Event :=
  sideBySide ++ [.arrive (.resolve "own"), .arrive (.resolve "other"), .arrive .list,
    .arrive (.delete "own"), .proceed 3 (fromOutside ""), .proceed 4 (fromOutside ""),
    .proceed 5 (fromOutside ""), .proceed 6 (fromOutside "")]

theorem Run.store_history_readings :
    ∃ past w, Run ⟨"profile", .failFast, .strict⟩ past w ∧ LastWritten past "own" (listing "own") ∧
      (∃ taken answer, w.calls[3]? = some ⟨.resolve "own", taken, .done answer⟩ ∧
        ∃ newer a older, past = newer ++ a :: older ∧
          ((∃ r, answer = .ok r ∧ LastWritten older "own" r) ∨
            (answer = .error (.store (.notFound "own")) ∧ ¬ Inserted older "own"))) ∧
      (∃ taken answer, w.calls[5]? = some ⟨.list, taken, .done answer⟩ ∧
        answer.Pairwise (· < ·) ∧ answer = ["sandboxed/1"]) ∧
      ∃ taken answer, w.calls[6]? = some ⟨.delete "own", taken, .done answer⟩ ∧
        answer = .error (.store (.deleteUnsupported "own")) := by
  have hr : Run ⟨"profile", .failFast, .strict⟩ _ _ :=
    .replay .start (rfl : replay _ [] _ readings = some (_, _))
  obtain ⟨-, -, hlast, hdelete, hresolve, hlist⟩ := hr.store_history
  obtain ⟨newer, v, outside, older, hpast, hanswer⟩ := hresolve 3 "own" _ _ rfl
  obtain ⟨-, -, -, -, -, hsorted, -, -⟩ := hlist 5 _ _ rfl
  exact ⟨_, _, hr, (hlast "own" (listing "own")).1 rfl,
    ⟨_, _, rfl, newer, (v, .proceed 3 outside), older, hpast, hanswer⟩, ⟨_, _, rfl, hsorted, rfl⟩,
    _, _, rfl, hdelete 6 "own" _ _ rfl⟩

end TypedPid.Service
