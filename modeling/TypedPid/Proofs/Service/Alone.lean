import TypedPid.Proofs.Service.Admission
import TypedPid.Service.Running

/-!
Requests that nobody interrupts. The store answers what is asked of it, and only the request changes it;
everything else is answered from outside as it may be.
-/

namespace TypedPid

namespace Procedure

variable {α β : Type}

/-- With the answers of a log a procedure comes to its end, and the store from the first to the second. -/
inductive Alone : Store → Procedure α → List Taken → α → Store → Prop
  | done (st : Store) (a : α) : Alone st (.done a) [] a st
  | store {st st' : Store} {o : Store.Operation} {next : o.Answer → Procedure α} {log a} :
      Alone (st.perform o).2 (next (st.perform o).1) log a st' →
      Alone st (.ask (.store o) next) (⟨.store o, (st.perform o).1⟩ :: log) a st'
  | outside {st st' : Store} {action : Action} {next : action.Answer → Procedure α} {log a}
      (answer : action.Answer) : (∀ o, action ≠ .store o) → Alone st (next answer) log a st' →
      Alone st (.ask action next) (⟨action, answer⟩ :: log) a st'

variable {p : Procedure α} {f : α → Procedure β} {a : α} {b : β} {st mid st' : Store}
  {log log₁ log₂ : List Taken} {action : Action} {o : Store.Operation}

lemma Alone.reaches (h : Alone st p log a st') : Reaches p log (.done a) := by
  induction h with
  | done st a => exact .refl _
  | store _ ih => exact .ask ih
  | outside answer _ _ ih => exact .ask ih

lemma alone_done {b : α} : Alone st (.done a) log b st' ↔ log = [] ∧ b = a ∧ st' = st := by
  constructor
  · intro h
    cases h
    exact ⟨rfl, rfl, rfl⟩
  · rintro ⟨rfl, rfl, rfl⟩
    exact .done _ _

lemma alone_store {next : o.Answer → Procedure α} :
    Alone st (.ask (.store o) next) log a st' ↔
      ∃ log', log = ⟨.store o, (st.perform o).1⟩ :: log' ∧
        Alone (st.perform o).2 (next (st.perform o).1) log' a st' := by
  constructor
  · intro h
    cases h with
    | store h => exact ⟨_, rfl, h⟩
    | outside answer hn _ => exact absurd rfl (hn o)
  · rintro ⟨log', rfl, h⟩
    exact .store h

lemma alone_outside {next : action.Answer → Procedure α} (hn : ∀ o, action ≠ .store o) :
    Alone st (.ask action next) log a st' ↔
      ∃ answer log', log = ⟨action, answer⟩ :: log' ∧ Alone st (next answer) log' a st' := by
  constructor
  · intro h
    cases h with
    | store h => exact absurd rfl (hn _)
    | outside answer _ h => exact ⟨answer, _, rfl, h⟩
  · rintro ⟨answer, log', rfl, h⟩
    exact .outside answer hn h

lemma Alone.bind (h : Alone st p log₁ a mid) (hf : Alone mid (f a) log₂ b st') :
    Alone st (p >>= f) (log₁ ++ log₂) b st' := by
  induction h with
  | done st a => exact hf
  | store _ ih => exact .store (ih hf)
  | outside answer hn _ ih => exact .outside answer hn (ih hf)

lemma alone_bind : Alone st (p >>= f) log b st' ↔ ∃ a log₁ log₂ mid, log = log₁ ++ log₂ ∧
    Alone st p log₁ a mid ∧ Alone mid (f a) log₂ b st' := by
  constructor
  · intro h
    induction p generalizing st log with
    | done a => exact ⟨a, [], log, st, rfl, .done _ _, h⟩
    | ask action next ih =>
      rw [ask_bind] at h
      cases h with
      | store h =>
        obtain ⟨a, log₁, log₂, mid, rfl, hp, hf⟩ := ih _ h
        exact ⟨a, _ :: log₁, log₂, mid, rfl, .store hp, hf⟩
      | outside answer hn h =>
        obtain ⟨a, log₁, log₂, mid, rfl, hp, hf⟩ := ih _ h
        exact ⟨a, _ :: log₁, log₂, mid, rfl, .outside answer hn hp, hf⟩
  · rintro ⟨a, log₁, log₂, mid, rfl, hp, hf⟩
    exact hp.bind hf

lemma alone_bind_done {g : α → β} (hf : ∀ a, f a = .done (g a)) :
    Alone st (p >>= f) log b st' ↔ ∃ a, Alone st p log a st' ∧ b = g a := by
  constructor
  · intro h
    obtain ⟨a, log₁, log₂, mid, rfl, hp, hend⟩ := alone_bind.1 h
    rw [hf] at hend
    obtain ⟨rfl, rfl, rfl⟩ := alone_done.1 hend
    exact ⟨a, by rwa [List.append_nil], rfl⟩
  · rintro ⟨a, hp, rfl⟩
    have hend : Alone st' (f a) [] (g a) st' := by
      rw [hf]
      exact .done _ _
    have h := hp.bind hend
    rwa [List.append_nil] at h

lemma alone_map {g : α → β} : Alone st (g <$> p) log b st' ↔
    ∃ a, Alone st p log a st' ∧ b = g a :=
  alone_bind_done fun _ => rfl

lemma alone_take_store {f : o.Answer → Procedure β} :
    Alone st (take (.store o) >>= f) log b st' ↔
      ∃ log', log = ⟨.store o, (st.perform o).1⟩ :: log' ∧
        Alone (st.perform o).2 (f (st.perform o).1) log' b st' :=
  alone_store

lemma alone_take_outside {f : action.Answer → Procedure β} (hn : ∀ o, action ≠ .store o) :
    Alone st (take action >>= f) log b st' ↔
      ∃ answer log', log = ⟨action, answer⟩ :: log' ∧ Alone st (f answer) log' b st' :=
  alone_outside hn

/-- Every procedure comes to an end, if it gets its answers. -/
lemma exists_alone (p : Procedure α) (st : Store) : ∃ log a st', Alone st p log a st' := by
  induction p generalizing st with
  | done a => exact ⟨[], a, st, .done st a⟩
  | ask action next ih =>
    cases action with
    | store o =>
      obtain ⟨log, a, st', h⟩ := ih (st.perform o).1 (st.perform o).2
      exact ⟨_, a, st', .store h⟩
    | lookup identifier =>
      obtain ⟨log, a, st', h⟩ := ih (.error (.notFound identifier)) st
      exact ⟨_, a, st', .outside _ (by simp) h⟩
    | mint =>
      obtain ⟨log, a, st', h⟩ := ih "" st
      exact ⟨_, a, st', .outside _ (by simp) h⟩
    | report =>
      obtain ⟨log, a, st', h⟩ := ih ⟨"", 0, {}⟩ st
      exact ⟨_, a, st', .outside _ (by simp) h⟩

lemma Alone.keeps (h : Alone st p log a st')
    (hp : Within (fun action => ∀ r, ¬ Service.Writes r action) p) : st' = st := by
  induction h with
  | done st a => rfl
  | @store st st' o next log a _ ih =>
    cases hp with
    | ask ho hn =>
      have hsame : (st.perform o).2 = st := by
        apply (Service.perform_store o).resolve_right
        rintro ⟨r, hw, -⟩
        exact ho r hw
      exact (ih (hn _)).trans hsame
  | outside answer _ _ ih =>
    cases hp with
    | ask _ hn => exact ih (hn _)

lemma reaches_done_unique {a a' : α} {log₁' log₂' : List Taken} (h : Reaches p log₁ (.done a))
    (h' : Reaches p log₁' (.done a')) (heq : log₁ ++ log₂ = log₁' ++ log₂') : a = a' ∧ log₂ = log₂' := by
  induction p generalizing log₁ log₁' with
  | done b =>
    obtain ⟨rfl, hb⟩ := reaches_done.1 h
    obtain ⟨rfl, hb'⟩ := reaches_done.1 h'
    cases hb
    cases hb'
    exact ⟨rfl, heq⟩
  | ask action next ih =>
    rcases reaches_ask.1 h with ⟨-, hn⟩ | ⟨answer, log, rfl, hr⟩
    · cases hn
    rcases reaches_ask.1 h' with ⟨-, hn⟩ | ⟨answer', log', rfl, hr'⟩
    · cases hn
    simp only [List.cons_append, List.cons.injEq, Taken.mk.injEq, heq_eq_eq, true_and] at heq
    obtain ⟨rfl, heq⟩ := heq
    exact ih _ hr hr' heq

end Procedure

namespace Running

open Procedure

/-- Requests that are run one after another are each alone with the store. -/
theorem alone_run {α : Type} (fresh : Nat → String) (p : Procedure α) (w : Running) :
    ∃ log, Alone w.store p log (run fresh p w).1 (run fresh p w).2.store := by
  induction p generalizing w with
  | done a => exact ⟨[], .done _ _⟩
  | ask action next ih =>
    cases action with
    | store o =>
      obtain ⟨log, h⟩ := ih (w.store.perform o).1 { w with store := (w.store.perform o).2 }
      exact ⟨_, .store h⟩
    | lookup identifier =>
      obtain ⟨log, h⟩ := ih (Cache.Simulation.lookup identifier w.types).1
        { w with types := (Cache.Simulation.lookup identifier w.types).2 }
      exact ⟨_, .outside _ (by simp) h⟩
    | mint =>
      obtain ⟨log, h⟩ := ih (fresh w.minted) { w with minted := w.minted + 1 }
      exact ⟨_, .outside _ (by simp) h⟩
    | report =>
      obtain ⟨log, h⟩ := ih w.types.report w
      exact ⟨_, .outside _ (by simp) h⟩

end Running

namespace Service

open Procedure

variable {s : Service} {r record kept : Record} {st st' : Store} {log rest rest' : List Taken}
  {pid typeIdentifier : String} {dryRun : Bool} {answer : Except ServiceError Record}

/-- The record that is registered is the one that came in, or has a minted identifier in place of an
empty one. -/
inductive Named (r : Record) : List Taken → Record → Prop
  | own {rest : List Taken} : r.pid ≠ "" → Named r rest r
  | minted {rest : List Taken} (text : String) : r.pid = "" →
      Named r (⟨.mint, text⟩ :: rest) (r.setPid (Store.pidPrefix ++ text))

/-- With the first answers of a log the record is found valid, and the others are left. -/
def Validated (s : Service) (r : Record) (log rest : List Taken) : Prop :=
  ∃ checks, log = checks ++ rest ∧ Reaches (s.validate r) checks (.done (.ok ()))

lemma Named.pid_ne (h : Named r rest record) : record.pid ≠ "" := by
  cases h with
  | own hp => exact hp
  | minted text hp => simp [Record.setPid, Store.pidPrefix]

lemma validate_keeps {verdict : Except ValidationError Unit}
    (h : Alone st (s.validate r) log verdict st') : st' = st := by
  apply h.keeps
  apply Within.mono _ (within_validate s r)
  rintro action ⟨identifier, rfl⟩ r' hw
  cases hw

lemma query_of_lookup (h : Keyed.lookup pid st.records = some kept) : st.query pid = .ok kept := by
  rw [Store.query, h]

lemma query_of_lookup_none (h : Keyed.lookup pid st.records = none) :
    st.query pid = .error (.notFound pid) := by
  rw [Store.query, h]

lemma alone_enter (h : Alone st (enter r) log answer st') :
    (Keyed.lookup r.pid st.records = none ∧ answer = .ok r ∧ st' = st.put r) ∨
    ∃ kept, Keyed.lookup r.pid st.records = some kept ∧ st' = st ∧
      ((∃ e, answer = .error e) ∨ (kept = r ∧ answer = .ok r)) := by
  rw [enter_eq, alone_store] at h
  obtain ⟨log', rfl, h⟩ := h
  simp only [Store.perform] at h
  cases hl : Keyed.lookup r.pid st.records with
  | none =>
    simp only [Store.register, hl] at h
    obtain ⟨-, rfl, rfl⟩ := alone_done.1 h
    exact .inl ⟨rfl, rfl, rfl⟩
  | some kept =>
    right
    refine ⟨kept, rfl, ?_⟩
    by_cases heq : kept = r
    · simp only [Store.register, hl, heq, if_true] at h
      obtain ⟨-, rfl, rfl⟩ := alone_done.1 h
      exact ⟨rfl, .inr ⟨heq, rfl⟩⟩
    · simp only [Store.register, hl, heq, if_false] at h
      obtain ⟨-, rfl, rfl⟩ := alone_done.1 h
      exact ⟨rfl, .inl ⟨_, rfl⟩⟩

lemma alone_accept (h : Alone st (accept r) log answer st') : ∃ record, Named r log record ∧
    ((Keyed.lookup record.pid st.records = none ∧ answer = .ok record ∧ st' = st.put record) ∨
      ∃ kept, Keyed.lookup record.pid st.records = some kept ∧ st' = st ∧
        ((∃ e, answer = .error e) ∨ (r.pid = "" ∧ kept = record ∧ answer = .ok record))) := by
  by_cases hp : r.pid = ""
  · rw [accept_of_pid_eq hp, alone_outside (by simp)] at h
    obtain ⟨text, log', rfl, h⟩ := h
    refine ⟨_, .minted text hp, ?_⟩
    rcases alone_enter h with hfree | ⟨kept, hk, hst, he | hok⟩
    · exact .inl hfree
    · exact .inr ⟨kept, hk, hst, .inl he⟩
    · exact .inr ⟨kept, hk, hst, .inr ⟨hp, hok⟩⟩
  · refine ⟨r, .own hp, ?_⟩
    rw [accept_of_pid_ne hp, alone_store] at h
    obtain ⟨log', rfl, h⟩ := h
    cases hl : Keyed.lookup r.pid st.records with
    | none =>
      simp only [Store.perform, Store.isRegistered, Keyed.contains, hl, Option.isSome_none,
        Bool.false_eq_true, if_false] at h
      rcases alone_enter h with hfree | ⟨kept, hk, -⟩
      · exact .inl ⟨rfl, hfree.2⟩
      · rw [hl] at hk
        cases hk
    | some kept =>
      simp only [Store.perform, Store.isRegistered, Keyed.contains, hl, Option.isSome_some,
        if_true] at h
      obtain ⟨-, rfl, rfl⟩ := alone_done.1 h
      exact .inr ⟨kept, rfl, rfl, .inl ⟨_, rfl⟩⟩

lemma enter_free (hfree : Keyed.lookup r.pid st.records = none) :
    Alone st (enter r) [⟨.store (.register r), .ok r.pid⟩] (.ok r) (st.put r) := by
  rw [enter_eq, alone_store]
  have hregister : st.register r = (.ok r.pid, st.put r) := by rw [Store.register, hfree]
  refine ⟨[], by rw [Store.perform, hregister], ?_⟩
  rw [Store.perform, hregister]
  exact .done _ _

lemma accept_own (hp : r.pid ≠ "") (hfree : Keyed.lookup r.pid st.records = none) :
    Alone st (accept r) [⟨.store (.isRegistered r.pid), false⟩, ⟨.store (.register r), .ok r.pid⟩]
      (.ok r) (st.put r) := by
  rw [accept_of_pid_ne hp, alone_store]
  have hregistered : st.isRegistered r.pid = false := by
    rw [Store.isRegistered, Keyed.contains, hfree]
    rfl
  refine ⟨_, by rw [Store.perform, hregistered], ?_⟩
  simp only [Store.perform, hregistered, Bool.false_eq_true, if_false]
  exact enter_free hfree

lemma accept_minted (text : String) (hp : r.pid = "")
    (hfree : Keyed.lookup (Store.pidPrefix ++ text) st.records = none) :
    Alone st (accept r) [⟨.mint, text⟩,
        ⟨.store (.register (r.setPid (Store.pidPrefix ++ text))), .ok (Store.pidPrefix ++ text)⟩]
      (.ok (r.setPid (Store.pidPrefix ++ text))) (st.put (r.setPid (Store.pidPrefix ++ text))) := by
  rw [accept_of_pid_eq hp, alone_outside (by simp)]
  exact ⟨text, _, rfl, enter_free hfree⟩

lemma mem_minted {text text' : String} {o : Store.Operation} {answer : o.Answer} :
    (⟨.mint, text⟩ : Taken) ∈ [⟨.mint, text'⟩, ⟨.store o, answer⟩] ↔ text = text' := by
  simp

lemma alone_register (h : Alone st (s.register r dryRun) log answer st') :
    ((∃ e, answer = .error e) ∧ st' = st) ∨ ∃ rest, Validated s r log rest ∧
      if dryRun then answer = .ok r ∧ st' = st else Alone st (accept r) rest answer st' := by
  obtain ⟨verdict, checks, rest, mid, rfl, hv, h⟩ := alone_bind.1 h
  obtain rfl := (validate_keeps hv).symm
  cases verdict with
  | error e =>
    obtain ⟨-, rfl, rfl⟩ := alone_done.1 h
    exact .inl ⟨⟨_, rfl⟩, rfl⟩
  | ok u =>
    refine .inr ⟨rest, ⟨checks, rfl, hv.reaches⟩, ?_⟩
    cases dryRun with
    | true =>
      obtain ⟨-, rfl, rfl⟩ := alone_done.1 h
      exact ⟨rfl, rfl⟩
    | false => exact h

lemma alone_register_free (h : Alone st (s.register r false) log answer st')
    (hv : Validated s r log rest) (hp : r.pid ≠ "") (hfree : Keyed.lookup r.pid st.records = none) :
    answer = .ok r ∧ st' = st.put r := by
  obtain ⟨verdict, checks, rest', mid, rfl, hc, h⟩ := alone_bind.1 h
  obtain rfl := (validate_keeps hc).symm
  obtain ⟨checks', heq, hv⟩ := hv
  obtain ⟨rfl, rfl⟩ := reaches_done_unique hc.reaches hv heq
  obtain ⟨record, hn, hor⟩ := alone_accept (show Alone st (accept r) rest' answer st' from h)
  have hrecord : record = r := by
    cases hn with
    | own _ => rfl
    | minted text hp' => exact absurd hp' hp
  subst hrecord
  rcases hor with ⟨-, hok⟩ | ⟨kept, hk, -⟩
  · exact hok
  · rw [hfree] at hk
    cases hk

lemma alone_update (h : Alone st (s.update r) log answer st') :
    ((∃ e, answer = .error e) ∧ st' = st) ∨
      (answer = .ok r ∧ (∃ kept, Keyed.lookup r.pid st.records = some kept) ∧ st' = st.put r) := by
  obtain ⟨verdict, checks, rest, mid, rfl, hv, h⟩ := alone_bind.1 h
  obtain rfl := (validate_keeps hv).symm
  cases verdict with
  | error e =>
    obtain ⟨-, rfl, rfl⟩ := alone_done.1 h
    exact .inl ⟨⟨_, rfl⟩, rfl⟩
  | ok u =>
    obtain ⟨log', -, hu⟩ := alone_take_store.1 h
    cases hl : Keyed.lookup r.pid st.records with
    | none =>
      simp only [Store.perform, Store.update, Store.isRegistered, Keyed.contains, hl,
        Option.isSome_none, Bool.false_eq_true, if_false] at hu
      obtain ⟨-, rfl, rfl⟩ := alone_done.1 hu
      exact .inl ⟨⟨_, rfl⟩, rfl⟩
    | some kept =>
      simp only [Store.perform, Store.update, Store.isRegistered, Keyed.contains, hl,
        Option.isSome_some, if_true] at hu
      obtain ⟨-, rfl, rfl⟩ := alone_done.1 hu
      exact .inr ⟨rfl, ⟨kept, rfl⟩, rfl⟩

lemma alone_resolve : Alone st (resolve pid) log answer st' ↔
    log = [⟨.store (.query pid), st.query pid⟩] ∧ answer = (st.query pid).mapError .store ∧ st' = st := by
  constructor
  · intro h
    obtain ⟨log', rfl, hs⟩ := alone_take_store.1 h
    obtain ⟨rfl, ha, hst⟩ := alone_done.1 hs
    exact ⟨rfl, ha, hst⟩
  · rintro ⟨rfl, rfl, rfl⟩
    exact alone_take_store.2 ⟨[], rfl, .done _ _⟩

lemma alone_view (h : Alone st (view pid typeIdentifier) log answer st') : st' = st ∧
    ((∃ e, answer = .error e) ∨
      ∃ d kept, Keyed.lookup pid st.records = some kept ∧ answer = .ok (kept.project d)) := by
  obtain ⟨found, log', -, hf⟩ := (alone_take_outside (by simp)).1 h
  cases found with
  | error e =>
    obtain ⟨-, rfl, rfl⟩ := alone_done.1 hf
    exact ⟨rfl, .inl ⟨_, rfl⟩⟩
  | ok d =>
    obtain ⟨log', -, hs⟩ := alone_take_store.1 hf
    obtain ⟨-, hanswer, hst⟩ := alone_done.1 hs
    refine ⟨hst, ?_⟩
    rw [hanswer]
    cases hl : Keyed.lookup pid st.records with
    | none =>
      left
      simp [Store.perform, Store.view, query_of_lookup_none hl, Except.map, Except.mapError]
    | some kept =>
      right
      refine ⟨d, kept, rfl, ?_⟩
      simp [Store.perform, Store.view, query_of_lookup hl, Except.map, Except.mapError]

lemma alone_delete {answer : Except ServiceError Unit} (h : Alone st (delete pid) log answer st') :
    (∃ e, answer = .error e) ∧ st' = st := by
  obtain ⟨log', -, hs⟩ := alone_take_store.1 h
  obtain ⟨-, rfl, rfl⟩ := alone_done.1 hs
  exact ⟨⟨_, rfl⟩, rfl⟩

lemma alone_list {pids : List String} (h : Alone st list log pids st') : pids = st.list ∧ st' = st := by
  obtain ⟨log', -, hs⟩ := alone_store.1 h
  obtain ⟨-, rfl, rfl⟩ := alone_done.1 hs
  exact ⟨rfl, rfl⟩

end Service

end TypedPid
