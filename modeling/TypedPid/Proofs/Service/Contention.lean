import TypedPid.Proofs.Service.History

/-!
Requests that register records under one identifier side by side. To find out whether the identifier
is free and to register the record are two steps. What was inserted first stays, and whoever finds
the identifier taken or brings another record is refused; but of those who found it free, everybody
who brings the very record that is kept is told that it was registered.
-/

namespace TypedPid.Service

open Procedure

/-- The request was told that nothing is registered under the identifier. -/
def FoundFree (pid : String) (taken : List Taken) : Prop :=
  ⟨.store (.isRegistered pid), false⟩ ∈ taken

/-- What a request to register a valid record does, and what it is answered. -/
inductive Decided (r : Record) : List Taken → Except ServiceError Record → Prop
  | occupied :
      Decided r [⟨.store (.isRegistered r.pid), true⟩] (.error (.store (.alreadyExists r.pid)))
  | accepted (pid : String) :
      Decided r [⟨.store (.isRegistered r.pid), false⟩, ⟨.store (.register r), .ok pid⟩] (.ok r)
  | refused (e : StoreError) :
      Decided r [⟨.store (.isRegistered r.pid), false⟩, ⟨.store (.register r), .error e⟩]
        (.error (.store e))

variable {s : Service} {st : Store} {past : List (Traffic × Event)} {w w' : Traffic} {e : Event}
  {i : Nat} {call : Call} {pid : String} {r kept : Record} {log : List Taken} {dryRun : Bool}
  {answer : Except ServiceError Record}

section Courses

lemma within_register :
    Within (fun action => ∀ r', action ≠ .store (.update r')) (s.register r dryRun) := by
  have henter : ∀ r', Within (fun action => ∀ r', action ≠ .store (.update r')) (enter r') := by
    intro r'
    refine .ask (fun r'' heq => by cases heq) fun said => ?_
    cases said <;> exact .done _
  refine Within.bind (Within.mono ?_ (within_validate s r)) fun verdict => ?_
  · rintro action ⟨identifier, rfl⟩ r' heq
    cases heq
  · cases verdict with
    | error e => exact .done _
    | ok u =>
      cases dryRun with
      | true => exact .done _
      | false =>
        change Within _ (accept r)
        by_cases hp : r.pid = ""
        · rw [accept_of_pid_eq hp]
          exact .ask (fun r' heq => by cases heq) fun text => henter _
        · rw [accept_of_pid_ne hp]
          refine .ask (fun r' heq => by cases heq) fun registered => ?_
          cases registered with
          | true => exact .done _
          | false => exact henter r

lemma request_of_update {q : Request} {next : Bool → Procedure q.Answer}
    (h : Reaches (s.handle q) log (.ask (.store (.update r)) next)) : q = .update r := by
  obtain ⟨checks, between, r₀, -, -, hc⟩ := handle_reaches h .update
  cases hc with
  | minted text hp => exact absurd rfl (within_register.allows h _)
  | free hp => exact absurd rfl (within_register.allows h _)
  | replacing => rfl

lemma decided_of_accept (hp : r.pid ≠ "") (h : Reaches (accept r) log (.done answer)) :
    Decided r log answer := by
  rw [accept_of_pid_ne hp, reaches_ask] at h
  rcases h with ⟨-, heq⟩ | ⟨registered, log, rfl, h⟩
  · cases heq
  · cases registered with
    | true =>
      obtain ⟨rfl, heq⟩ := reaches_done.1 h
      cases heq
      exact .occupied
    | false =>
      change Reaches (enter r) log (.done answer) at h
      rw [enter_eq, reaches_ask] at h
      rcases h with ⟨-, heq⟩ | ⟨said, log, rfl, h⟩
      · cases heq
      · cases said with
        | error e =>
          obtain ⟨rfl, heq⟩ := reaches_done.1 h
          cases heq
          exact .refused e
        | ok pid =>
          obtain ⟨rfl, heq⟩ := reaches_done.1 h
          cases heq
          exact .accepted pid

lemma register_answered (hp : r.pid ≠ "") (h : Reaches (s.register r false) log (.done answer)) :
    (∃ e, answer = .error (.validation e) ∧ Reaches (s.validate r) log (.done (.error e))) ∨
    ∃ checks between, log = checks ++ between ∧ Reaches (s.validate r) checks (.done (.ok ())) ∧
      Decided r between answer := by
  rcases reaches_bind h with ⟨action, next, -, heq⟩ | ⟨verdict, checks, between, rfl, hv, hf⟩
  · cases heq
  · cases verdict with
    | error e =>
      obtain ⟨rfl, heq⟩ := reaches_done.1 hf
      cases heq
      exact .inl ⟨e, rfl, by rwa [List.append_nil]⟩
    | ok u => exact .inr ⟨checks, between, rfl, hv, decided_of_accept hp hf⟩

lemma not_foundFree_of_validate {verdict : Except ValidationError Unit}
    (h : Reaches (s.validate r) log (.done verdict)) : ¬ FoundFree pid log := by
  intro hm
  obtain ⟨identifier, heq⟩ := (within_validate s r).taken h _ hm
  cases heq

end Courses

section Stores

lemma arrived_of_call (h : Trace (Traffic.step s) ⟨st, []⟩ past w)
    (hi : w.calls[i]? = some call) : ∃ v, (v, .arrive call.request) ∈ past := by
  induction h generalizing call with
  | start => cases hi
  | @step past w e w' hr hs ih =>
    rcases call_of_step hs hi with hj | ⟨q, rfl, rfl⟩ | ⟨outside, q, taken, action, next, -, hj, -, rfl⟩
    · obtain ⟨v, hv⟩ := ih hj
      exact ⟨v, List.mem_cons_of_mem _ hv⟩
    · exact ⟨w, List.mem_cons_self⟩
    · obtain ⟨v, hv⟩ := ih hj
      exact ⟨v, List.mem_cons_of_mem _ hv⟩

variable (past) in
/-- No request to replace the record under the identifier has come in. -/
def Unreplaced (pid : String) : Prop := ∀ v r, (v, .arrive (.update r)) ∈ past → r.pid ≠ pid

lemma Unreplaced.tail {a : Traffic × Event} (h : Unreplaced (a :: past) pid) :
    Unreplaced past pid :=
  fun v r hv => h v r (List.mem_cons_of_mem a hv)

lemma kept_of_step (h : Trace (Traffic.step s) ⟨st, []⟩ past w) (hu : Unreplaced past pid)
    (hs : w.step s e = some w') (hk : Keyed.lookup pid w.store.records = some kept) :
    Keyed.lookup pid w'.store.records = some kept := by
  rcases step_writes hs with ⟨r, hw, ht⟩ | ⟨-, ht⟩
  · have hne : pid ≠ r.pid := by
      rcases hw with ⟨-, hfree⟩ | ⟨⟨i, outside, q, taken, next, -, hi⟩, -⟩
      · rintro rfl
        rw [hk] at hfree
        cases hfree
      · have hq : q = .update r := request_of_update (reaches_of_trace h hi)
        obtain ⟨v, hv⟩ := arrived_of_call h hi
        subst hq
        exact (hu v r hv).symm
    rw [ht, lookup_put, if_neg hne, hk]
  · rw [ht, hk]

/-- What a request was told of an identifier is still true of a store. -/
structure Stands (pid : String) (st : Store) (t : Taken) : Prop where
  occupied : t = ⟨.store (.isRegistered pid), true⟩ →
    ∃ kept, Keyed.lookup pid st.records = some kept
  registered : ∀ r said, r.pid = pid → t = ⟨.store (.register r), said⟩ →
    ∃ kept, Keyed.lookup pid st.records = some kept ∧
      said = if kept = r then .ok pid else .error (.alreadyExists pid)

lemma Stands.mono {st' : Store} {t : Taken} (h : Stands pid st t)
    (hk : ∀ kept, Keyed.lookup pid st.records = some kept →
      Keyed.lookup pid st'.records = some kept) : Stands pid st' t where
  occupied ht := by
    obtain ⟨kept, hl⟩ := h.occupied ht
    exact ⟨kept, hk kept hl⟩
  registered r said hp ht := by
    obtain ⟨kept, hl, hs⟩ := h.registered r said hp ht
    exact ⟨kept, hk kept hl, hs⟩

lemma register_tells (st : Store) (r : Record) :
    ∃ kept, Keyed.lookup r.pid (st.register r).2.records = some kept ∧
      (st.register r).1 = if kept = r then .ok r.pid else .error (.alreadyExists r.pid) := by
  cases hl : Keyed.lookup r.pid st.records with
  | some kept =>
    refine ⟨kept, ?_, ?_⟩
    · rw [Store.register, hl]
      exact hl
    · rw [Store.register, hl]
  | none =>
    refine ⟨r, ?_, ?_⟩
    · rw [Store.register, hl]
      exact lookup_put.trans (if_pos rfl)
    · rw [Store.register, hl, if_pos rfl]

lemma stands_answer (st : Store) (outside : (action : Action) → action.Answer) (action : Action) :
    Stands pid (st.answer outside action).2 ⟨action, (st.answer outside action).1⟩ where
  occupied ht := by
    obtain ⟨rfl, hs⟩ := Taken.mk.inj ht
    exact Option.isSome_iff_exists.1 (eq_of_heq hs)
  registered r said hp ht := by
    obtain ⟨rfl, hs⟩ := Taken.mk.inj ht
    cases hp
    cases eq_of_heq hs
    exact register_tells st r

lemma stands (h : Trace (Traffic.step s) ⟨st, []⟩ past w) (hu : Unreplaced past pid)
    (hi : w.calls[i]? = some call) : ∀ t ∈ call.taken, Stands pid w.store t := by
  induction h generalizing call with
  | start => cases hi
  | @step past w e w' hr hs ih =>
    have hold : ∀ {t}, Stands pid w.store t → Stands pid w'.store t :=
      fun ht => ht.mono fun _ => kept_of_step hr hu.tail hs
    rcases call_of_step hs hi with hj | ⟨q, -, rfl⟩ | ⟨outside, q, taken, action, next, -, hj, ht, rfl⟩
    · exact fun t ht => hold (ih hu.tail hj t ht)
    · exact fun t ht => by cases ht
    · intro t hm
      rcases List.mem_append.1 hm with hm | hm
      · exact hold (ih hu.tail hj t hm)
      · rw [List.mem_singleton.1 hm, ht]
        exact stands_answer w.store outside action

end Stores

/-- A request has registered a record. -/
def Accepted (w : Traffic) (i : Nat) (r : Record) : Prop :=
  ∃ taken, w.calls[i]? = some ⟨.register r false, taken, .done (.ok r)⟩

lemma answered_register (h : Trace (Traffic.step s) ⟨st, []⟩ past w) (hpid : r.pid ≠ "")
    (hu : Unreplaced past r.pid)
    (hi : w.calls[i]? = some ⟨.register r false, log, .done answer⟩) :
    (∃ e, answer = .error (.validation e) ∧ Reaches (s.validate r) log (.done (.error e))) ∨
    ((∃ checks between, log = checks ++ between ∧
        Reaches (s.validate r) checks (.done (.ok ()))) ∧
      (∃ kept, Keyed.lookup r.pid w.store.records = some kept) ∧
      (answer = .ok r ∨ answer = .error (.store (.alreadyExists r.pid))) ∧
      (answer = .ok r ↔ FoundFree r.pid log ∧ Keyed.lookup r.pid w.store.records = some r)) := by
  have htold : ∀ t ∈ log, Stands r.pid w.store t := stands h hu hi
  rcases register_answered hpid (reaches_of_trace h hi) with hv | ⟨checks, between, rfl, hv, hd⟩
  · exact .inl hv
  have hchecks : ¬ FoundFree r.pid checks := not_foundFree_of_validate hv
  have hbetween : ∀ t ∈ between, Stands r.pid w.store t :=
    fun t ht => htold t (List.mem_append_right checks ht)
  refine .inr ⟨⟨checks, between, rfl, hv⟩, ?_⟩
  have hfree : FoundFree r.pid (checks ++ between) ↔ FoundFree r.pid between :=
    List.mem_append.trans (or_iff_right hchecks)
  rw [hfree]
  cases hd with
  | occupied =>
    refine ⟨(hbetween _ List.mem_cons_self).occupied rfl, .inr rfl, ?_⟩
    simp [FoundFree]
  | accepted pid =>
    obtain ⟨kept, hk, hsaid⟩ :=
      (hbetween _ (List.mem_cons_of_mem _ List.mem_cons_self)).registered r _ rfl rfl
    have heq : kept = r := by
      by_contra hne
      rw [if_neg hne] at hsaid
      cases hsaid
    subst heq
    refine ⟨⟨kept, hk⟩, .inl rfl, ?_⟩
    simp [FoundFree, hk]
  | refused e =>
    obtain ⟨kept, hk, hsaid⟩ :=
      (hbetween _ (List.mem_cons_of_mem _ List.mem_cons_self)).registered r _ rfl rfl
    have hne : kept ≠ r := by
      rintro rfl
      rw [if_pos rfl] at hsaid
      cases hsaid
    rw [if_neg hne] at hsaid
    cases hsaid
    refine ⟨⟨kept, hk⟩, .inr rfl, ?_⟩
    simp [hk, hne]

/-- Requests that register records under one identifier side by side, while nobody replaces the record
there. Who brings a valid record is answered that it is registered or that the identifier exists; it is
registered if and only if it is the record that the store keeps and the identifier was found free. So
at most one of the requests is accepted exactly where at most one of those that bring the kept record
found the identifier free. -/
theorem registered_side_by_side (h : Trace (Traffic.step s) ⟨st, []⟩ past w) (hpid : pid ≠ "")
    (hu : Unreplaced past pid) :
    (∀ (i : Nat) r taken answer, r.pid = pid →
      w.calls[i]? = some ⟨.register r false, taken, .done answer⟩ →
      (∃ e, answer = .error (.validation e) ∧ Reaches (s.validate r) taken (.done (.error e))) ∨
      ((∃ checks between, taken = checks ++ between ∧
          Reaches (s.validate r) checks (.done (.ok ()))) ∧
        (∃ kept, Keyed.lookup pid w.store.records = some kept) ∧
        (answer = .ok r ∨ answer = .error (.store (.alreadyExists pid))) ∧
        (answer = .ok r ↔ FoundFree pid taken ∧ Keyed.lookup pid w.store.records = some r))) ∧
    ((∀ (i j : Nat) r r', r.pid = pid → r'.pid = pid → Accepted w i r → Accepted w j r' → i = j) ↔
      ∀ (i j : Nat) r taken taken' answer answer', r.pid = pid →
        Keyed.lookup pid w.store.records = some r →
        w.calls[i]? = some ⟨.register r false, taken, .done answer⟩ → FoundFree pid taken →
        w.calls[j]? = some ⟨.register r false, taken', .done answer'⟩ → FoundFree pid taken' →
        i = j) := by
  have hanswered : ∀ (i : Nat) r taken answer, r.pid = pid →
      w.calls[i]? = some ⟨.register r false, taken, .done answer⟩ →
      (∃ e, answer = .error (.validation e) ∧ Reaches (s.validate r) taken (.done (.error e))) ∨
      ((∃ checks between, taken = checks ++ between ∧
          Reaches (s.validate r) checks (.done (.ok ()))) ∧
        (∃ kept, Keyed.lookup pid w.store.records = some kept) ∧
        (answer = .ok r ∨ answer = .error (.store (.alreadyExists pid))) ∧
        (answer = .ok r ↔ FoundFree pid taken ∧ Keyed.lookup pid w.store.records = some r)) := by
    rintro i r taken answer rfl hi
    exact answered_register h hpid hu hi
  have hkept : ∀ {i : Nat} {r taken}, r.pid = pid →
      w.calls[i]? = some ⟨.register r false, taken, .done (.ok r)⟩ →
      FoundFree pid taken ∧ Keyed.lookup pid w.store.records = some r := by
    intro i r taken hp hi
    rcases hanswered i r taken _ hp hi with ⟨e, heq, -⟩ | ⟨-, -, -, hok⟩
    · cases heq
    · exact hok.1 rfl
  have haccepted : ∀ {i : Nat} {r taken answer}, r.pid = pid →
      Keyed.lookup pid w.store.records = some r →
      w.calls[i]? = some ⟨.register r false, taken, .done answer⟩ → FoundFree pid taken →
      Accepted w i r := by
    intro i r taken answer hp hl hi hf
    rcases hanswered i r taken answer hp hi with ⟨e, rfl, hv⟩ | ⟨-, -, -, hok⟩
    · exact absurd hf (not_foundFree_of_validate hv)
    · cases hok.2 ⟨hf, hl⟩
      exact ⟨taken, hi⟩
  refine ⟨hanswered, fun hone i j r taken taken' answer answer' hp hl hi hf hj hf' => ?_,
    fun hone i j r r' hp hp' hi hj => ?_⟩
  · exact hone i j r r hp hp (haccepted hp hl hi hf) (haccepted hp hl hj hf')
  · obtain ⟨taken, hi⟩ := hi
    obtain ⟨taken', hj⟩ := hj
    obtain ⟨hf, hl⟩ := hkept hp hi
    obtain ⟨hf', hl'⟩ := hkept hp' hj
    rw [hl] at hl'
    cases hl'
    exact hone i j r taken taken' _ _ hp hl hi hf hj hf'

/-- Two requests with the same record and one with another find the identifier free, and a fourth one
comes later. -/
def crowd : List Event :=
  [.arrive (.register (listing "own") false), .arrive (.register (listing "own") false),
    .arrive (.register ((listing "own").add "more" none "x") false),
    .proceed 0 (fromOutside ""), .proceed 1 (fromOutside ""), .proceed 2 (fromOutside ""),
    .proceed 0 (fromOutside ""), .proceed 1 (fromOutside ""), .proceed 2 (fromOutside ""),
    .proceed 0 (fromOutside ""), .proceed 1 (fromOutside ""), .proceed 2 (fromOutside ""),
    .arrive (.register (listing "own") false), .proceed 3 (fromOutside ""),
    .proceed 3 (fromOutside "")]

/-- The same record is registered twice. -/
theorem registered_twice : ∃ past w, Run ⟨"profile", .failFast, .strict⟩ past w ∧
    Accepted w 0 (listing "own") ∧ Accepted w 1 (listing "own") := by
  have hr : Run ⟨"profile", .failFast, .strict⟩ _ _ :=
    .replay .start (rfl : replay _ [] _ crowd = some (_, _))
  exact ⟨_, _, hr, ⟨_, rfl⟩, _, rfl⟩

theorem registered_side_by_side_crowd :
    ∃ past w, Run ⟨"profile", .failFast, .strict⟩ past w ∧ "own" ≠ "" ∧ Unreplaced past "own" ∧
      ∃ taken answer, w.calls[3]? = some ⟨.register (listing "own") false, taken, .done answer⟩ ∧
        answer = .error (.store (.alreadyExists "own")) ∧
        (answer = .ok (listing "own") ↔ FoundFree "own" taken ∧
          Keyed.lookup "own" w.store.records = some (listing "own")) := by
  obtain ⟨past, w, hr, hu, taken, hi⟩ : ∃ past w, Run ⟨"profile", .failFast, .strict⟩ past w ∧
      Unreplaced past "own" ∧ ∃ taken, w.calls[3]? = some ⟨.register (listing "own") false, taken,
        .done (.error (.store (.alreadyExists "own")))⟩ := by
    refine ⟨_, _, .replay .start (rfl : replay _ [] _ crowd = some (_, _)), ?_, _, rfl⟩
    intro v r hv
    simp only [List.mem_cons, Prod.mk.injEq, reduceCtorEq, and_false, or_false,
      List.not_mem_nil, Event.arrive.injEq] at hv
  have hpid : "own" ≠ "" := by decide
  rcases (registered_side_by_side hr hpid hu).1 3 (listing "own") taken _ rfl hi with
    ⟨e, heq, -⟩ | ⟨-, -, -, hok⟩
  · cases heq
  · exact ⟨past, w, hr, hpid, hu, taken, _, hi, rfl, hok⟩

end TypedPid.Service
