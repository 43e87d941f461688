import Mathlib.Data.List.Sort
import Locoomo.System

/-! The courier side, step by step. A submission, the expiry of an unassigned
leg and an admin's fallback each read a leg, talk to its courier and only then
write; here their steps interleave with one another and with the transactions
of the rest of the system. -/

namespace Locoomo.Interleaved

open Locoomo.Delivery Locoomo.Database Locoomo.Routing Locoomo.Logistics Locoomo.Handoffs
  Locoomo.System Relational

/-- A run of `submit` past its read: the leg as it was read, and the courier's
answer once there is one. -/
structure Submission where
  leg : DeliveryLegRow
  answer : Option SubmitAnswer

/-- Who takes a leg back. -/
inductive EndingKind
  | timeout | fallback
  deriving DecidableEq, Repr

/-- A leg being taken back: as it was read, and whether its courier has agreed. -/
structure Ending where
  kind : EndingKind
  leg : DeliveryLegRow
  cleared : Bool

structure Work where
  db : State
  submissions : List Submission
  endings : List Ending

inductive Action
  | atomic (a : System.Action)
  | readSubmit (legId : Nat)
  | answerSubmit (i : Nat) (answer : SubmitAnswer)
  | writeSubmit (i : Nat)
  | readOverdue
  | readFallback (legId : Nat)
  | cancelAtProvider (i : Nat) (accepted : Bool)
  | cancelLocally (i : Nat)

/-- What `System` takes as one step and only happens in several here. A
submission may happen either way. -/
def isSplit : System.Action → Bool
  | .cancelLeg _ _ _ | .fallbackToInHouse _ => true
  | _ => false

/-- Commit, or roll back. -/
def commit (x : Db Unit) (s : State) : State :=
  match x.run s with
  | .ok (_, s') => s'
  | .error e => rollback s e

theorem commit_cases (x : Db Unit) (s : State) :
    (∃ s', x.run s = .ok ((), s') ∧ commit x s = s') ∨
      ∃ e, x.run s = .error e ∧ commit x s = rollback s e := by
  unfold commit
  cases h : x.run s with
  | error e => exact Or.inr ⟨e, rfl, rfl⟩
  | ok r => exact Or.inl ⟨r.2, rfl, rfl⟩

/-! ## Submission -/

/-- The second half of `submit`, with the answer of the provider. -/
def writeAnswer (d : Deployment) (leg : DeliveryLegRow) (answer : SubmitAnswer) : Db Unit := do
  let provider ← Tx.expect (registryGet d leg.providerKey) (.noAdapter leg.providerKey)
  match answerOf provider answer with
  | .booked result => recordBooking leg.id result
  | .refused message => recordRefusal d leg message
  | .failed => Tx.reject .providerUnavailable

/-- A submission reads the leg and writes the answer, or finds nothing to submit. -/
theorem submit_ok {d : Deployment} {legId : Nat} {answer : SubmitAnswer} {s s' : State}
    (h : (submit d legId answer).run s = .ok ((), s')) :
    s' = s ∨
      ∃ leg, submittable s legId = some leg ∧ (writeAnswer d leg answer).run s = .ok ((), s') := by
  rw [submit, Tx.run_read_bind] at h
  cases hsub : submittable s legId with
  | none =>
      rw [hsub] at h
      cases h
      exact Or.inl rfl
  | some leg =>
      rw [hsub] at h
      exact Or.inr ⟨leg, rfl, h⟩

/-! ## Taking a leg back -/

def batchSize : Nat := 50

/-- `l.status = 'requested'` longer than its provider's `assignTimeoutMinutes`. -/
def isOverdue (s : State) (leg : DeliveryLegRow) : Bool :=
  decide (leg.status = .requested) &&
    match (get LogisticsProviderRow.key leg.providerKey s.providers).bind
        LogisticsProviderRow.assignTimeoutMinutes with
    | none => false
    | some minutes => decide (leg.createdAt + minutes * minute < s.now)

/-- The query of `expireUnassigned`. -/
def overdueLegs (s : State) : List DeliveryLegRow :=
  ((s.legs.filter (isOverdue s)).insertionSort fun a b => a.createdAt ≤ b.createdAt).take batchSize

/-- The legs its loop goes on with: a provider without an adapter is passed over. -/
def expiringLegs (d : Deployment) (s : State) : List DeliveryLegRow :=
  (overdueLegs s).filter fun leg => (registryGet d leg.providerKey).isSome

/-- What `fallbackToInHouse` goes on with. -/
def fallbackLeg (s : State) (legId : Nat) : Option DeliveryLegRow :=
  (getLeg s legId).filter fun leg =>
    leg.providerKey ≠ inHouseProviderKey ∧ (leg.status = .requested ∨ leg.status = .assigned)

/-- Whether the step calls the courier. `expireUnassigned` always does, an
adapter's `cancel` of null being no call; the fallback only with an adapter
and an id. -/
def asksCourier (d : Deployment) (ending : Ending) : Bool :=
  match ending.kind with
  | .timeout => true
  | .fallback => (registryGet d ending.leg.providerKey).isSome && hasExternalId ending.leg

def EndingKind.reason : EndingKind → String
  | .timeout => "assign_timeout"
  | .fallback => "admin_fallback"

def EndingKind.thenRouteTo : EndingKind → Option String
  | .timeout => none
  | .fallback => some inHouseProviderKey

/-- The local cancellation of a leg that was read earlier. -/
def endLeg (d : Deployment) (ending : Ending) : Db Unit := do
  let _ ← cancelLeg d ending.leg.id ending.kind.reason ending.kind.thenRouteTo
  return ()

/-! ## Steps -/

def exec (d : Deployment) (w : Work) : Action → Work
  | .atomic a => if isSplit a then w else { w with db := System.exec d w.db a }
  | .readSubmit legId =>
      match (submittable w.db legId).filter fun leg => (registryGet d leg.providerKey).isSome with
      | none => w
      | some leg => { w with submissions := w.submissions ++ [⟨leg, none⟩] }
  | .answerSubmit i answer =>
      match w.submissions[i]? with
      | some ⟨leg, none⟩ => { w with submissions := w.submissions.set i ⟨leg, some answer⟩ }
      | _ => w
  | .writeSubmit i =>
      match w.submissions[i]? with
      | some ⟨leg, some answer⟩ =>
          { w with
            db := commit (writeAnswer d leg answer) w.db
            submissions := w.submissions.eraseIdx i }
      | _ => w
  | .readOverdue =>
      { w with endings := w.endings ++ (expiringLegs d w.db).map fun leg => ⟨.timeout, leg, false⟩ }
  | .readFallback legId =>
      match fallbackLeg w.db legId with
      | none => w
      | some leg => { w with endings := w.endings ++ [⟨.fallback, leg, false⟩] }
  | .cancelAtProvider i accepted =>
      match w.endings[i]? with
      | none => w
      | some ending =>
          if accepted || !asksCourier d ending then
            { w with endings := w.endings.set i { ending with cleared := true } }
          else
            -- an error ends it; the snapshot it may fetch is a step of its own
            { w with endings := w.endings.eraseIdx i }
  | .cancelLocally i =>
      match w.endings[i]? with
      | none => w
      | some ending =>
          if ending.cleared then
            { w with db := commit (endLeg d ending) w.db, endings := w.endings.eraseIdx i }
          else w

def run (d : Deployment) (w : Work) (as : List Action) : Work := Runs.run (exec d) w as

/-- A database with nothing under way. -/
def idle (s : State) : Work := ⟨s, [], []⟩

/-! ## The submission in one step -/

/-- With nobody in between, the steps of a submission are a whole `submit`. -/
theorem submit_steps (d : Deployment) (s : State) (legId : Nat) (answer : SubmitAnswer) :
    (run d (idle s) [.readSubmit legId, .answerSubmit 0 answer, .writeSubmit 0]).db
      = System.exec d s (.submit legId answer) := by
  change (exec d (exec d (exec d (idle s) (.readSubmit legId)) (.answerSubmit 0 answer))
    (.writeSubmit 0)).db = commit (submit d legId answer) s
  cases hleg : submittable s legId with
  | none => simp [exec, idle, hleg, commit, submit]
  | some leg =>
      cases hprovider : registryGet d leg.providerKey with
      | none =>
          have hread : exec d (idle s) (.readSubmit legId) = idle s := by
            simp [exec, idle, hleg, hprovider, Option.filter]
          rw [hread]
          simp [exec, idle, hleg, hprovider, commit, submit, rollback]
      | some provider =>
          have hread : exec d (idle s) (.readSubmit legId) = ⟨s, [⟨leg, none⟩], []⟩ := by
            simp [exec, idle, hleg, hprovider, Option.filter]
          have hsubmit : (submit d legId answer).run s = (writeAnswer d leg answer).run s := by
            rw [submit, Tx.run_read_bind, hleg]
            rfl
          rw [hread]
          change commit (writeAnswer d leg answer) s = _
          rw [commit, commit, hsubmit]

end Locoomo.Interleaved
