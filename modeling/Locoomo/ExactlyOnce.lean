import Mathlib.Data.List.Induction
import Locoomo.Lib.ReadCommitted
import Locoomo.StepEffects

/-! A confirming step takes effect exactly once. Any number of calls of one
step for one order run side by side, statement by statement; the insert of the
step's key decides which of them does the work, and the others either wait for
it or find the key. -/

namespace Locoomo.ExactlyOnce

open Locoomo.Delivery Locoomo.Database Locoomo.Routing Locoomo.Handoffs Locoomo.System
  Locoomo.Frames Locoomo.Changes Locoomo.Transactions Locoomo.Books Locoomo.StepEffects
  ReadCommitted Relational

/-! ## The calls -/

/-- `idempotency_keys` has one unique index; an abort rolls back. -/
def rules : Rules State TxError IdempotencyKey := ⟨State.keys, rollback⟩

abbrev Calls := World State TxError OrderRow IdempotencyKey

def stepKey (step : ConfirmStep) (orderId : Nat) : IdempotencyKey := ⟨step.scope, orderId⟩

variable (d : Deployment) (step : ConfirmStep) (orderId : Nat)

/-- One call for each of `args`, none begun. -/
def called (s : State) (args : List ConfirmArgs) : Calls :=
  opened s (args.map (Handoffs.confirm d step orderId))

/-- The read of the order a duplicate answers with. -/
def reread : Db OrderRow := do
  let row ← Tx.read fun s => getOrder s orderId
  Tx.expect row (.entityNotFound "Order" orderId)

def answer : Option OrderRow → Db OrderRow
  | some order => return order
  | none => reread orderId

/-- A call past its ownership check. -/
def keyed (args : ConfirmArgs) : Db OrderRow :=
  withIdempotency step.scope orderId (stepBody d step orderId args) >>= answer orderId

/-- A call past its key insert. -/
def inside (args : ConfirmArgs) : Db OrderRow :=
  (stepBody d step orderId args >>= fun order => pure (some order)) >>= answer orderId

variable {d step orderId}

theorem confirm_eq (args : ConfirmArgs) :
    Handoffs.confirm d step orderId args = .stmt id fun s =>
      if (getOrder s orderId).any (ownsOrder step args) then keyed d step orderId args
      else .abort (.entityNotFound "Order" orderId) := by
  change Tx.stmt id _ = _
  congr 1
  funext s
  change (Tx.ensure ((getOrder s orderId).any (ownsOrder step args)) _ >>= fun _ => _) = _
  cases (getOrder s orderId).any (ownsOrder step args) with
  | false => rfl
  | true =>
      change (withIdempotency step.scope orderId (stepBody d step orderId args) >>= _) = _
      rw [if_pos rfl, keyed]
      congr 1

theorem keyed_eq (args : ConfirmArgs) :
    keyed d step orderId args = .stmt
      (fun s => if stepKey step orderId ∈ s.keys then s else insertKey step.scope orderId s)
      fun s => if stepKey step orderId ∈ s.keys then reread orderId
        else inside d step orderId args :=
  withIdempotency_stmt step.scope orderId _ _

theorem inside_run (args : ConfirmArgs) (s : State) :
    (inside d step orderId args).run s = (stepBody d step orderId args).run s := by
  cases hbody : (stepBody d step orderId args).run s with
  | error e =>
      have hinner : (stepBody d step orderId args >>= fun order => pure (some order)).run s
          = .error e := Tx.run_bind_of_error hbody
      exact Tx.run_bind_of_error hinner
  | ok r =>
      have hinner : (stepBody d step orderId args >>= fun order => pure (some order)).run s
          = .ok (some r.1, r.2) := by
        rw [Tx.run_bind_of_ok hbody]
        rfl
      exact Tx.run_bind_of_ok hinner

/-! ## Before the step has happened -/

variable (d step orderId) in
/-- What is left of a call that has not inserted its key. -/
inductive Outside (args : ConfirmArgs) : Db OrderRow → Prop
  | called : Outside args (Handoffs.confirm d step orderId args)
  | owned : Outside args (keyed d step orderId args)
  | foreign : Outside args (.abort (.entityNotFound "Order" orderId))

variable (d step orderId) in
/-- A call while the step has not happened: ended in failure, not at its key
yet, or past it with the outcome of the body still ahead. -/
inductive Before (db : State) (args : ConfirmArgs) :
    Call State TxError OrderRow IdempotencyKey → Prop
  | failed : Before db args .failed
  | outside {rest : Db OrderRow} (h : Outside d step orderId args rest) :
      Before db args (.running rest id [])
  | inside {rest : Db OrderRow} {writes : State → State} {held : List IdempotencyKey}
      (hrun : rest.run (writes db)
        = (stepBody d step orderId args).run (insertKey step.scope orderId db))
      (hheld : stepKey step orderId ∈ held) : Before db args (.running rest writes held)

/-- `failedAttempts` of some codes raised, and nothing else. -/
def bumped (s : State) (codeIds : List Nat) : State := codeIds.foldl recordFailedAttempt s

theorem bumped_keys (s : State) (codeIds : List Nat) : (bumped s codeIds).keys = s.keys := by
  induction codeIds generalizing s with
  | nil => rfl
  | cons codeId codeIds ih => exact ih (recordFailedAttempt s codeId)

theorem bumped_aligned {s : State} (hs : Aligned s) (codeIds : List Nat) :
    Aligned (bumped s codeIds) := by
  induction codeIds generalizing s with
  | nil => exact hs
  | cons codeId codeIds ih =>
      refine ih ?_
      have hclerical : Clerical s (recordFailedAttempt s codeId) := ⟨le_rfl, rfl⟩
      exact ⟨clerical_inStep hs.inStep hclerical, hs.sourced.mono hclerical.legs⟩

/-- A rollback raises one attempt counter at most. -/
theorem rollback_cases (s : State) (e : TxError) :
    rollback s e = s ∨ ∃ codeId, rollback s e = recordFailedAttempt s codeId := by
  unfold rollback
  split
  · exact Or.inr ⟨_, rfl⟩
  · exact Or.inl rfl

variable (d step orderId) in
structure Pending (s : State) (args : List ConfirmArgs) (w : Calls) : Prop where
  db : ∃ codeIds, w.db = bumped s codeIds
  fresh : stepKey step orderId ∉ s.keys
  one : OneHolder (stepKey step orderId) w.calls
  calls : ∀ (i : Nat) c, w.calls[i]? = some c →
    ∃ a, args[i]? = some a ∧ Before d step orderId w.db a c

/-! ## After it -/

variable (d step orderId) in
/-- A call once the step has happened and left `db`. -/
inductive After (db : State) (args : ConfirmArgs) :
    Call State TxError OrderRow IdempotencyKey → Prop
  | failed : After db args .failed
  | committed {o : OrderRow} (h : getOrder db orderId = some o) : After db args (.committed o)
  | outside {rest : Db OrderRow} (h : Outside d step orderId args rest) :
      After db args (.running rest id [])
  | reread {writes : State → State} {held : List IdempotencyKey} (hw : writes db = db) :
      After db args (.running (reread orderId) writes held)
  | found {o : OrderRow} {writes : State → State} {held : List IdempotencyKey}
      (hw : writes db = db) (h : getOrder db orderId = some o) :
      After db args (.running (.ret o) writes held)
  | lost {e : TxError} {writes : State → State} {held : List IdempotencyKey}
      (he : rollback db e = db) : After db args (.running (.abort e) writes held)

variable (d step orderId) in
structure Done (db : State) (args : List ConfirmArgs) (w : Calls) : Prop where
  key : stepKey step orderId ∈ db.keys
  same : w.db = db
  calls : ∀ (i : Nat) c, w.calls[i]? = some c →
    ∃ a, args[i]? = some a ∧ After d step orderId db a c

theorem reread_eq : reread orderId = .stmt id fun s =>
    match getOrder s orderId with
    | some o => .ret o
    | none => .abort (.entityNotFound "Order" orderId) := by
  change Tx.stmt id _ = _
  congr 1
  funext s
  change Tx.expect (getOrder s orderId) _ = _
  cases getOrder s orderId <;> rfl

/-- The statements before the key insert read only; then comes the insert. -/
theorem Outside.stmt {args : ConfirmArgs} {change : State → State}
    {next : State → Db OrderRow} (h : Outside d step orderId args (.stmt change next)) :
    (change = id ∧ ∀ s, Outside d step orderId args (next s)) ∨
      (∀ s, change s = if stepKey step orderId ∈ s.keys then s
        else insertKey step.scope orderId s) ∧
      ∀ s, next s = if stepKey step orderId ∈ s.keys then reread orderId
        else inside d step orderId args := by
  generalize hrest : Tx.stmt change next = rest at h
  cases h with
  | called =>
      rw [confirm_eq] at hrest
      obtain ⟨rfl, rfl⟩ := Tx.stmt.inj hrest
      refine Or.inl ⟨rfl, fun s => ?_⟩
      dsimp only
      split
      · exact .owned
      · exact .foreign
  | owned =>
      rw [keyed_eq] at hrest
      obtain ⟨rfl, rfl⟩ := Tx.stmt.inj hrest
      exact Or.inr ⟨fun _ => rfl, fun _ => rfl⟩
  | foreign => cases hrest

theorem Outside.not_ret {args : ConfirmArgs} {o : OrderRow} :
    ¬ Outside d step orderId args (.ret o) := by
  intro h
  generalize hrest : Tx.ret o = rest at h
  cases h with
  | called =>
      rw [confirm_eq] at hrest
      cases hrest
  | owned =>
      rw [keyed_eq] at hrest
      cases hrest
  | foreign => cases hrest

theorem Outside.rollback {args : ConfirmArgs} {e : TxError}
    (h : Outside d step orderId args (.abort e)) (s : State) : rollback s e = s := by
  generalize hrest : Tx.abort e = rest at h
  cases h with
  | called =>
      rw [confirm_eq] at hrest
      cases hrest
  | owned =>
      rw [keyed_eq] at hrest
      cases hrest
  | foreign =>
      cases hrest
      rfl

/-- One more statement of a call once the step has happened. -/
theorem After.moves {db : State} {args : ConfirmArgs} {change : State → State}
    {next : State → Db OrderRow} {writes : State → State} {held : List IdempotencyKey}
    (hkey : stepKey step orderId ∈ db.keys)
    (h : After d step orderId db args (.running (.stmt change next) writes held)) :
    After d step orderId db args (.running (next (writes db)) (change ∘ writes)
      (held ++ inserted rules (writes db) (change (writes db)))) := by
  generalize hcall : Call.running (Tx.stmt change next) writes held = c at h
  cases h with
  | outside h =>
      obtain ⟨rfl, rfl, rfl⟩ := Call.running.inj hcall
      rcases h.stmt with ⟨rfl, hnext⟩ | ⟨hchange, hnext⟩
      · have hnone : inserted rules db (id db) = [] := inserted_self rules db
        simp only [id, List.nil_append] at hnone ⊢
        rw [hnone]
        exact .outside (hnext db)
      · rw [id, hnext, if_pos hkey]
        refine .reread ?_
        rw [Function.comp, id, hchange, if_pos hkey]
  | reread hw =>
      obtain ⟨hrest, rfl, rfl⟩ := Call.running.inj hcall
      rw [reread_eq] at hrest
      obtain ⟨rfl, rfl⟩ := Tx.stmt.inj hrest
      rw [hw]
      have hw' : (id ∘ writes) db = db := hw
      dsimp only
      cases horder : getOrder db orderId with
      | some o => exact .found hw' horder
      | none =>
          have hlost : rollback db (.entityNotFound "Order" orderId) = db := rfl
          exact .lost hlost
  | failed => cases hcall
  | committed h => cases hcall
  | found hw h => cases hcall
  | lost he => cases hcall

/-- A call that commits now changes nothing and answers with the order. -/
theorem After.commits {db : State} {args : ConfirmArgs} {o : OrderRow} {writes : State → State}
    {held : List IdempotencyKey}
    (h : After d step orderId db args (.running (.ret o) writes held)) :
    writes db = db ∧ getOrder db orderId = some o := by
  generalize hcall : Call.running (Tx.ret o) writes held = c at h
  cases h with
  | outside h =>
      obtain ⟨rfl, rfl, rfl⟩ := Call.running.inj hcall
      exact absurd h Outside.not_ret
  | reread hw =>
      have hrest := (Call.running.inj hcall).1
      rw [reread_eq] at hrest
      cases hrest
  | found hw horder =>
      obtain ⟨hrest, rfl, rfl⟩ := Call.running.inj hcall
      cases hrest
      exact ⟨hw, horder⟩
  | failed => cases hcall
  | committed h => cases hcall
  | lost he => cases hcall

theorem After.aborts {db : State} {args : ConfirmArgs} {e : TxError} {writes : State → State}
    {held : List IdempotencyKey}
    (h : After d step orderId db args (.running (.abort e) writes held)) :
    rollback db e = db := by
  generalize hcall : Call.running (Tx.abort e) writes held = c at h
  cases h with
  | outside h =>
      obtain ⟨rfl, rfl, rfl⟩ := Call.running.inj hcall
      exact h.rollback db
  | reread hw =>
      have hrest := (Call.running.inj hcall).1
      rw [reread_eq] at hrest
      cases hrest
  | lost he =>
      obtain ⟨hrest, -, -⟩ := Call.running.inj hcall
      cases hrest
      exact he
  | failed => cases hcall
  | committed h => cases hcall
  | found hw h => cases hcall

/-- Once the step has happened, nothing a call does changes the state. -/
theorem Done.next {db : State} {args : List ConfirmArgs} {w w' : Calls}
    (h : Done d step orderId db args w) (hstep : Step rules w w') :
    Done d step orderId db args w' := by
  obtain ⟨hkey, rfl, hcalls⟩ := h
  have hset : ∀ {i : Nat} {c' : Call State TxError OrderRow IdempotencyKey},
      (∃ a, args[i]? = some a ∧ After d step orderId w.db a c') → ∀ (j : Nat) c,
        (w.calls.set i c')[j]? = some c → ∃ a, args[j]? = some a ∧ After d step orderId w.db a c :=
    fun hnew => forall_set (fun j c _ hj => hcalls j c hj) hnew
  cases hstep with
  | stays => exact ⟨hkey, rfl, hcalls⟩
  | moves hi hfree =>
      obtain ⟨a, ha, hafter⟩ := hcalls _ _ hi
      exact ⟨hkey, rfl, hset ⟨a, ha, hafter.moves hkey⟩⟩
  | commits hi =>
      obtain ⟨a, ha, hafter⟩ := hcalls _ _ hi
      obtain ⟨hsame, horder⟩ := hafter.commits
      exact ⟨hkey, hsame, hset ⟨a, ha, .committed horder⟩⟩
  | aborts hi =>
      obtain ⟨a, ha, hafter⟩ := hcalls _ _ hi
      exact ⟨hkey, hafter.aborts, hset ⟨a, ha, .failed⟩⟩
  | crashes hi =>
      obtain ⟨a, ha, -⟩ := hcalls _ _ hi
      exact ⟨hkey, rfl, hset ⟨a, ha, .failed⟩⟩

/-! ## Up to it -/

/-- One more statement of a call before the step has happened. -/
theorem Before.moves {db : State} {args : ConfirmArgs} {change : State → State}
    {next : State → Db OrderRow} {writes : State → State} {held : List IdempotencyKey}
    (hfresh : stepKey step orderId ∉ db.keys)
    (h : Before d step orderId db args (.running (.stmt change next) writes held)) :
    Before d step orderId db args (.running (next (writes db)) (change ∘ writes)
      (held ++ inserted rules (writes db) (change (writes db)))) := by
  cases h with
  | outside h =>
      rcases h.stmt with ⟨rfl, hnext⟩ | ⟨hchange, hnext⟩
      · have hnone : inserted rules db (id db) = [] := inserted_self rules db
        simp only [id, List.nil_append] at hnone ⊢
        rw [hnone]
        exact .outside (hnext db)
      · rw [id, hnext, if_neg hfresh]
        refine .inside ?_ ?_
        · rw [inside_run, Function.comp, id, hchange, if_neg hfresh]
        · rw [hchange, if_neg hfresh, List.nil_append, inserted, List.mem_filter]
          refine ⟨?_, decide_eq_true hfresh⟩
          exact List.mem_append_right _ (List.mem_singleton.mpr rfl)
  | inside hrun hheld => exact .inside hrun (List.mem_append_left _ hheld)

/-- What a step that took effect has done, besides running its body once. -/
structure Took (d : Deployment) (step : ConfirmStep) (orderId : Nat) (args : ConfirmArgs)
    (s s' : State) (o : OrderRow) : Prop where
  body : (stepBody d step orderId args).run (insertKey step.scope orderId s) = .ok (o, s')
  key : s'.keys = s.keys ++ [stepKey step orderId]
  before : ∃ o₀, getOrder s orderId = some o₀ ∧ o₀.status = (edgeOf step).1
  current : getOrder s' orderId = some o
  status : o.status = (edgeOf step).2
  event : ∃ payload,
    s'.orderEvents = s.orderEvents ++ [⟨orderId, eventOf step, payload, s.now⟩]

theorem took_of_body {s s' : State} (hs : Aligned s) {args : ConfirmArgs} {o : OrderRow}
    (h : (stepBody d step orderId args).run (insertKey step.scope orderId s) = .ok (o, s')) :
    Took d step orderId args s s' o := by
  have hkey : Change d false (fun _ => none) s (insertKey step.scope orderId s) :=
    insertKey_change _ _
  have hlogged := stepBody_logs (hkey.aligned hs) h
  exact ⟨h, hlogged.keys, hlogged.before, hlogged.current, hlogged.status, hlogged.event⟩

/-- The call that commits first runs the body on the state it finds. -/
theorem Before.commits {db : State} {args : ConfirmArgs} {o : OrderRow} {writes : State → State}
    {held : List IdempotencyKey}
    (h : Before d step orderId db args (.running (.ret o) writes held)) :
    stepKey step orderId ∈ held ∧ (stepBody d step orderId args).run
      (insertKey step.scope orderId db) = .ok (o, writes db) := by
  cases h with
  | outside h => exact absurd h Outside.not_ret
  | inside hrun hheld => exact ⟨hheld, hrun.symm⟩

/-- A call without the key fits any state. -/
theorem Before.move_db {db db' : State} {args : ConfirmArgs}
    {c : Call State TxError OrderRow IdempotencyKey} (h : Before d step orderId db args c)
    (hfree : stepKey step orderId ∉ c.held) : Before d step orderId db' args c := by
  cases h with
  | failed => exact .failed
  | outside h => exact .outside h
  | inside hrun hheld => exact absurd hheld hfree

theorem Before.after {db db' : State} {args : ConfirmArgs}
    {c : Call State TxError OrderRow IdempotencyKey} (h : Before d step orderId db args c)
    (hfree : stepKey step orderId ∉ c.held) : After d step orderId db' args c := by
  cases h with
  | failed => exact .failed
  | outside h => exact .outside h
  | inside hrun hheld => exact absurd hheld hfree

/-- **One action before the step has happened**: it still has not, or one call
has taken effect. -/
theorem Pending.next {s : State} {args : List ConfirmArgs} {w w' : Calls}
    (hs : Aligned s) (h : Pending d step orderId s args w) (hstep : Step rules w w') :
    Pending d step orderId s args w' ∨ ∃ codeIds, ∃ a ∈ args, ∃ o,
      Took d step orderId a (bumped s codeIds) w'.db o ∧ Done d step orderId w'.db args w' := by
  have hone := h.one.step hstep
  obtain ⟨⟨codeIds, hdb⟩, hfresh, hheld, hcalls⟩ := h
  have hfresh' : stepKey step orderId ∉ w.db.keys := by
    rw [hdb, bumped_keys]
    exact hfresh
  have hset : ∀ {i : Nat} {c' : Call State TxError OrderRow IdempotencyKey},
      (∃ a, args[i]? = some a ∧ Before d step orderId w.db a c') → ∀ (j : Nat) c,
        (w.calls.set i c')[j]? = some c →
          ∃ a, args[j]? = some a ∧ Before d step orderId w.db a c :=
    fun hnew => forall_set (fun j c _ hj => hcalls j c hj) hnew
  cases hstep with
  | stays => exact Or.inl ⟨⟨codeIds, hdb⟩, hfresh, hone, hcalls⟩
  | moves hi hfree =>
      obtain ⟨a, ha, hbefore⟩ := hcalls _ _ hi
      exact Or.inl ⟨⟨codeIds, hdb⟩, hfresh, hone, hset ⟨a, ha, hbefore.moves hfresh'⟩⟩
  | @commits i o writes held hi =>
      obtain ⟨a, ha, hbefore⟩ := hcalls _ _ hi
      obtain ⟨hk, hbody⟩ := hbefore.commits
      rw [hdb] at hbody
      have htook := took_of_body (bumped_aligned hs codeIds) hbody
      rw [← hdb] at hbody htook
      refine Or.inr ⟨codeIds, a, List.mem_of_getElem? ha, o, hdb ▸ htook, ?_, rfl, ?_⟩
      · rw [htook.key]
        exact List.mem_append_right _ (List.mem_singleton.mpr rfl)
      · refine forall_set (fun j c hji hj => ?_) ⟨a, ha, .committed htook.current⟩
        obtain ⟨b, hb, hother⟩ := hcalls j c hj
        exact ⟨b, hb, hother.after fun hkc => hji (hheld i j _ _ hi hj hk hkc).symm⟩
  | @aborts i e writes held hi =>
      obtain ⟨a, ha, hbefore⟩ := hcalls _ _ hi
      rcases rollback_cases w.db e with hsame | ⟨codeId, hbump⟩
      · refine Or.inl ⟨⟨codeIds, hsame.trans hdb⟩, hfresh, hone, ?_⟩
        change ∀ (j : Nat) c, (w.calls.set i .failed)[j]? = some c →
          ∃ b, args[j]? = some b ∧ Before d step orderId (rollback w.db e) b c
        rw [hsame]
        exact hset ⟨a, ha, .failed⟩
      · refine Or.inl ⟨⟨codeIds ++ [codeId], ?_⟩, hfresh, hone, ?_⟩
        · change rollback w.db e = _
          rw [hbump, hdb, bumped, bumped, List.foldl_append]
          rfl
        · cases hbefore with
          | outside h =>
              change ∀ (j : Nat) c, (w.calls.set i .failed)[j]? = some c →
                ∃ b, args[j]? = some b ∧ Before d step orderId (rollback w.db e) b c
              rw [h.rollback w.db]
              exact hset ⟨a, ha, .failed⟩
          | inside hrun hk =>
              refine forall_set (fun j c hji hj => ?_) ⟨a, ha, .failed⟩
              obtain ⟨b, hb, hother⟩ := hcalls j c hj
              exact ⟨b, hb, hother.move_db fun hkc => hji (hheld i j _ _ hi hj hk hkc).symm⟩
  | crashes hi =>
      obtain ⟨a, ha, -⟩ := hcalls _ _ hi
      exact Or.inl ⟨⟨codeIds, hdb⟩, hfresh, hone, hset ⟨a, ha, .failed⟩⟩

/-! ## Runs -/

variable (d step orderId) in
/-- How the calls stand: the step has not happened and no call says so; one of
them has taken effect; or it had happened before them. Whoever has returned,
returned the order as it stands. -/
inductive Outcome (s : State) (args : List ConfirmArgs) (w : Calls) : Prop
  | notYet (codeIds : List Nat) (hfresh : stepKey step orderId ∉ s.keys)
      (hdb : w.db = bumped s codeIds) (hnone : ∀ o, .committed o ∉ w.calls)
  | once (codeIds : List Nat) {a : ConfirmArgs} {o : OrderRow}
      (hfresh : stepKey step orderId ∉ s.keys) (harg : a ∈ args)
      (htook : Took d step orderId a (bumped s codeIds) w.db o)
      (hcurrent : ∀ o', .committed o' ∈ w.calls → getOrder w.db orderId = some o')
  | already (hkey : stepKey step orderId ∈ s.keys) (hdb : w.db = s)
      (hcurrent : ∀ o', .committed o' ∈ w.calls → getOrder w.db orderId = some o')

theorem Done.current {db : State} {args : List ConfirmArgs} {w : Calls}
    (h : Done d step orderId db args w) :
    ∀ o, .committed o ∈ w.calls → getOrder w.db orderId = some o := by
  intro o ho
  obtain ⟨i, hi⟩ := List.mem_iff_getElem?.mp ho
  obtain ⟨a, -, hafter⟩ := h.calls i _ hi
  rw [h.same]
  cases hafter with
  | committed horder => exact horder

theorem Pending.none {s : State} {args : List ConfirmArgs} {w : Calls}
    (h : Pending d step orderId s args w) : ∀ o, .committed o ∉ w.calls := by
  intro o ho
  obtain ⟨i, hi⟩ := List.mem_iff_getElem?.mp ho
  obtain ⟨a, -, hbefore⟩ := h.calls i _ hi
  cases hbefore

variable (d step orderId) in
theorem called_calls (s : State) (args : List ConfirmArgs) {i : Nat}
    {c : Call State TxError OrderRow IdempotencyKey}
    (hi : (called d step orderId s args).calls[i]? = some c) :
    ∃ a, args[i]? = some a ∧ c = .running (Handoffs.confirm d step orderId a) id [] := by
  rw [called, opened, List.getElem?_map, List.getElem?_map, Option.map_map,
    Option.map_eq_some_iff] at hi
  obtain ⟨a, ha, rfl⟩ := hi
  exact ⟨a, ha, rfl⟩

/-- The phases of a run of the calls. -/
theorem run_phase {s : State} (hs : Aligned s) (args : List ConfirmArgs)
    (schedule : List ReadCommitted.Action) :
    let w := Runs.run (exec rules) (called d step orderId s args) schedule
    (Pending d step orderId s args w ∨ stepKey step orderId ∉ s.keys ∧ ∃ codeIds, ∃ a ∈ args,
      ∃ o, Took d step orderId a (bumped s codeIds) w.db o ∧ Done d step orderId w.db args w) ∨
      stepKey step orderId ∈ s.keys ∧ Done d step orderId s args w := by
  induction schedule using List.reverseRecOn with
  | nil =>
      by_cases hkey : stepKey step orderId ∈ s.keys
      · refine Or.inr ⟨hkey, hkey, rfl, fun i c hi => ?_⟩
        obtain ⟨a, ha, rfl⟩ := called_calls d step orderId s args hi
        exact ⟨a, ha, .outside .called⟩
      · refine Or.inl (Or.inl ⟨⟨[], rfl⟩, hkey, oneHolder_opened _ _ _, fun i c hi => ?_⟩)
        obtain ⟨a, ha, rfl⟩ := called_calls d step orderId s args hi
        exact ⟨a, ha, .outside .called⟩
  | append_singleton schedule x ih =>
      intro w
      have hstep :
          Step rules (Runs.run (exec rules) (called d step orderId s args) schedule) w := by
        rw [show w = _ from Runs.run_snoc _ _ _ _]
        exact exec_step rules _ x
      rcases ih with (hpending | ⟨hfresh, codeIds, a, ha, o, htook, hdone⟩) | ⟨hkey, hdone⟩
      · rcases hpending.next hs hstep with hpending' | hdone
        · exact Or.inl (Or.inl hpending')
        · exact Or.inl (Or.inr ⟨hpending.fresh, hdone⟩)
      · have hdone' := hdone.next hstep
        rw [← hdone'.same] at htook hdone'
        exact Or.inl (Or.inr ⟨hfresh, codeIds, a, ha, o, htook, hdone'⟩)
      · exact Or.inr ⟨hkey, hdone.next hstep⟩

/-- A call that fails leaves at most a raised attempt counter. -/
theorem failure_leaves {w w' : Calls} (hstep : Step rules w w') {i : Nat}
    {rest : Db OrderRow} {writes : State → State} {held : List IdempotencyKey}
    (hi : w.calls[i]? = some (.running rest writes held)) (hi' : w'.calls[i]? = some .failed) :
    w'.db = w.db ∨ ∃ codeId, w'.db = recordFailedAttempt w.db codeId := by
  cases hstep with
  | stays => exact Or.inl rfl
  | moves hj hfree => exact Or.inl rfl
  | @commits j o writes' held' hj =>
      rw [List.getElem?_set] at hi'
      split at hi'
      · split at hi'
        · cases hi'
        · cases hi'
      · rw [hi] at hi'
        cases hi'
  | aborts hj => exact rollback_cases w.db _
  | crashes hj => exact Or.inl rfl

/-- **Handoff steps take effect exactly once**, from any reachable state, for
any calls of a step for an order under any schedule of their statements and
failures. -/
theorem handoffs_take_effect_once (d : Deployment) {s₀ : State} (h : Initial s₀)
    (before : List System.Action) (step : ConfirmStep) (orderId : Nat) (args : List ConfirmArgs)
    (schedule : List ReadCommitted.Action) :
    let s := System.run d s₀ before
    let w := Runs.run (exec rules) (called d step orderId s args) schedule
    Outcome d step orderId s args w ∧
      ∀ x (i : Nat) rest writes held, w.calls[i]? = some (.running rest writes held) →
        (exec rules w x).calls[i]? = some .failed →
          (exec rules w x).db = w.db ∨
            ∃ codeId, (exec rules w x).db = recordFailedAttempt w.db codeId := by
  intro s w
  have hs : Aligned s := (run_balanced d h before).1
  constructor
  · rcases run_phase hs args schedule with
      (hpending | ⟨hfresh, codeIds, a, ha, o, htook, hdone⟩) | ⟨hkey, hdone⟩
    · obtain ⟨codeIds, hdb⟩ := hpending.db
      exact .notYet codeIds hpending.fresh hdb hpending.none
    · exact .once codeIds hfresh ha htook hdone.current
    · exact .already hkey hdone.same hdone.current
  · intro x i rest writes held hi hi'
    exact failure_leaves (exec_step rules w x) hi hi'

/-- Two drop-offs of one parcel: the second waits for the first and answers
with its order. -/
theorem demo_drop_off_once :
    let s := System.run demo demoState (demoBooking ++ [.webhook 10 (some demoPayment) ["LOC1"]])
    let w := Runs.run (exec rules) (called demo .dropOff 11 s [demoArgs "", demoArgs ""])
      ((List.replicate 30 [.step 0, .step 1]).flatten)
    w.calls.map Call.isRunning = [false, false] ∧
      w.db.orders.map OrderRow.status = [.parcelReceivedAtOrigin] ∧
      Outcome demo .dropOff 11 s [demoArgs "", demoArgs ""] w := by
  intro s w
  refine ⟨by decide +kernel, by decide +kernel, ?_⟩
  exact (handoffs_take_effect_once demo demoState_initial
    (demoBooking ++ [.webhook 10 (some demoPayment) ["LOC1"]]) .dropOff 11 _ _).1

end Locoomo.ExactlyOnce
