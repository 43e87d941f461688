import Locoomo.AccessRuns
import Locoomo.System

/-! Who the counter acts for. A call of the staff first looks up the Nodes of its
caller, and works on the order in a later transaction; memberships come and go in
between. -/

namespace Locoomo.CounterAccess

open Identity (UserRole)
open Locoomo.Delivery Locoomo.Database Locoomo.Routing Locoomo.Handoffs Locoomo.AccessGrants
  Locoomo.AccessRuns Relational

/-! ## Calls -/

inductive Job
  | confirm (step : ConfirmStep) (code : String) (identityConfirmed : Bool)
  | resendCode
  deriving DecidableEq

/-- A call that has looked up the Nodes of its caller. -/
structure Visit where
  caller : Nat
  orderId : Nat
  job : Job
  operatorNodeIds : List Nat
  deriving DecidableEq

/-- Accounts and memberships, the orders, and the calls so far; one that was
turned away, or has run, is none. -/
structure Office where
  access : Access.World
  db : State
  visits : List (Option Visit)

inductive Action
  | tick (ms : Nat)
  | access (a : Access.Action)
  | system (a : System.Action)
  | look (token : Option Access.AccessToken) (orderId : Nat) (job : Job)
  | finish (i : Nat) (drawnCode : String)

/-- `@Roles` of the counter's routes. -/
def counterRoles : List UserRole := [.nodeOperator, .nodeStaff]

def isTick : Access.Action → Bool
  | .tick _ => true
  | _ => false

/-- What runs elsewhere: the clock, which all share, and the counter's own calls. -/
def isElsewhere : System.Action → Bool
  | .tick _ | .confirm _ _ _ | .resendCode _ _ _ => true
  | _ => false

def look (o : Office) (token : Option Access.AccessToken) (orderId : Nat) (job : Job) :
    Option Visit :=
  match Access.guard o.access token counterRoles with
  | .error _ => none
  | .ok caller => some ⟨caller, orderId, job, Access.getNodeIdsForUser o.access caller⟩

def Visit.transaction (v : Visit) (drawnCode : String) : System.Action :=
  match v.job with
  | .confirm step code identityConfirmed =>
      .confirm step v.orderId ⟨v.operatorNodeIds, code, identityConfirmed, drawnCode⟩
  | .resendCode => .resendCode v.orderId v.operatorNodeIds drawnCode

def exec (p : Access.Platform) (d : Deployment) (o : Office) : Action → Office
  | .tick ms =>
      { o with access := Access.exec p o.access (.tick ms), db := System.exec d o.db (.tick ms) }
  | .access a => if isTick a then o else { o with access := Access.exec p o.access a }
  | .system a => if isElsewhere a then o else { o with db := System.exec d o.db a }
  | .look token orderId job => { o with visits := o.visits ++ [look o token orderId job] }
  | .finish i drawnCode =>
      match o.visits[i]?.join with
      | none => o
      | some v =>
          { o with
            db := System.exec d o.db (v.transaction drawnCode)
            visits := o.visits.set i none }

def run (p : Access.Platform) (d : Deployment) (o : Office) (as : List Action) : Office :=
  Runs.run (exec p d) o as

/-- The Node where a job is done. -/
def nodeOf (job : Job) (order : OrderRow) : Nat :=
  match job with
  | .confirm step _ _ => if step.atOrigin then order.originNodeId else order.destinationNodeId
  | .resendCode =>
      if order.status = .readyForSenderCollection then order.originNodeId
      else order.destinationNodeId

variable {p : Access.Platform} {d : Deployment} {o o₀ : Office} {as bs : List Action}

/-! ## A transaction for another Node -/

/-- A call does nothing at all, unless the order is at one of the Nodes looked up. -/
theorem transaction_elsewhere {v : Visit} {s : State} (drawnCode : String)
    (h : ∀ order, getOrder s v.orderId = some order → nodeOf v.job order ∉ v.operatorNodeIds) :
    System.exec d s (v.transaction drawnCode) = s := by
  obtain ⟨caller, orderId, job, operatorNodeIds⟩ := v
  obtain ⟨e, hrun, hrollback⟩ : ∃ e, (System.tx d
      (Visit.transaction ⟨caller, orderId, job, operatorNodeIds⟩ drawnCode)).run s = .error e ∧
      rollback s e = s := by
    refine ⟨.entityNotFound "Order" orderId, ?_, rfl⟩
    cases job with
    | confirm step code identityConfirmed =>
        have hnot : (getOrder s orderId).any
            (ownsOrder step ⟨operatorNodeIds, code, identityConfirmed, drawnCode⟩) = false := by
          rw [Option.any_eq_false]
          intro order horder
          exact decide_eq_false (h order horder)
        apply Tx.run_bind_of_error
        rw [Handoffs.confirm, Tx.run_read_bind, hnot]
        rfl
    | resendCode =>
        change (Handoffs.resendCode d orderId operatorNodeIds drawnCode).run s = _
        rw [Handoffs.resendCode, Tx.run_read_bind]
        cases horder : getOrder s orderId with
        | none => rfl
        | some order =>
            have helsewhere := h order horder
            by_cases hsender : order.status = .readyForSenderCollection
            · rw [nodeOf, if_pos hsender] at helsewhere
              rw [if_pos (by rw [Option.map_some, hsender]), Option.any_some,
                decide_eq_false helsewhere]
              rfl
            · rw [nodeOf, if_neg hsender] at helsewhere
              rw [if_neg (by simpa using hsender), Option.any_some, decide_eq_false helsewhere]
              rfl
  rw [System.exec, hrun]
  exact hrollback

/-! ## Runs -/

/-- The accounts and memberships run on their own. -/
def accessActions : Action → List Access.Action
  | .tick ms => [.tick ms]
  | .access a => if isTick a then [] else [a]
  | _ => []

theorem exec_access (o : Office) (a : Action) :
    (exec p d o a).access = Access.run p o.access (accessActions a) := by
  cases a with
  | access a =>
      simp only [exec, accessActions]
      split <;> rfl
  | system a =>
      simp only [exec]
      split <;> rfl
  | finish i drawnCode =>
      simp only [exec]
      split <;> rfl
  | tick ms => rfl
  | look token orderId job => rfl

theorem run_access (o : Office) (as : List Action) :
    (run p d o as).access = Access.run p o.access (as.flatMap accessActions) := by
  have htrace : Runs.trace (exec p d) (fun _ => accessActions) o as
      = as.flatMap accessActions := by
    induction as generalizing o with
    | nil => rfl
    | cons a as ih => rw [Runs.trace, ih, List.flatMap_cons]
  rw [← htrace]
  exact Runs.run_trace Office.access exec_access o as

theorem run_granted (h : Founded o₀.access) (as : List Action) :
    Granted p o₀.access (as.flatMap accessActions) (run p d o₀ as).access := by
  rw [run_access]
  exact AccessRuns.run_granted h _

theorem look_some {token : Option Access.AccessToken} {orderId : Nat} {job : Job} {v : Visit}
    (h : look o token orderId job = some v) :
    ∃ t, token = some t ∧ t ∈ o.access.issued ∧ t.role ∈ counterRoles ∧
      v = ⟨t.sub, orderId, job, Access.getNodeIdsForUser o.access t.sub⟩ := by
  unfold look at h
  split at h
  · cases h
  · next caller hguard =>
      cases h
      obtain ⟨t, rfl, hissued, hrole, rfl⟩ := guard_ok hguard
      exact ⟨t, rfl, hissued, hrole.resolve_left (by decide), rfl⟩

/-- A call that looked up its caller's Nodes did so in its turn, with a session. -/
def Looked (p : Access.Platform) (d : Deployment) (o₀ : Office) (as : List Action) (i : Nat)
    (v : Visit) : Prop :=
  Runs.Earlier (exec p d) o₀ as fun o a => ∃ token, a = .look (some token) v.orderId v.job ∧
    o.visits.length = i ∧ token ∈ o.access.issued ∧ token.role ∈ counterRoles ∧
    token.sub = v.caller ∧ v.operatorNodeIds = Access.getNodeIdsForUser o.access v.caller

/-- The calls are never more than were made, and none changes on its way. -/
theorem exec_visits (o : Office) (a : Action) {i : Nat} {v : Visit}
    (h : (exec p d o a).visits[i]? = some (some v)) :
    o.visits[i]? = some (some v) ∨
      ∃ token orderId job, a = .look token orderId job ∧ i = o.visits.length ∧
        look o token orderId job = some v := by
  cases a with
  | tick ms => exact Or.inl h
  | access a =>
      simp only [exec] at h
      split at h <;> exact Or.inl h
  | system a =>
      simp only [exec] at h
      split at h <;> exact Or.inl h
  | look token orderId job =>
      change (o.visits ++ [look o token orderId job])[i]? = _ at h
      rcases lt_trichotomy i o.visits.length with hlt | rfl | hgt
      · rw [List.getElem?_append_left hlt] at h
        exact Or.inl h
      · rw [List.getElem?_concat_length] at h
        exact Or.inr ⟨token, orderId, job, rfl, rfl, Option.some.inj h⟩
      · rw [List.getElem?_eq_none (by simp; omega)] at h
        cases h
  | finish j drawnCode =>
      simp only [exec] at h
      split at h
      · exact Or.inl h
      · left
        rw [List.getElem?_set] at h
        split at h
        · split at h
          · cases h
          · cases h
        · exact h

theorem exec_visits_length (o : Office) (a : Action) :
    o.visits.length ≤ (exec p d o a).visits.length := by
  cases a with
  | tick ms => exact le_rfl
  | access a =>
      simp only [exec]
      split <;> exact le_rfl
  | system a =>
      simp only [exec]
      split <;> exact le_rfl
  | look token orderId job => simp [exec]
  | finish j drawnCode =>
      simp only [exec]
      split
      · exact le_rfl
      · rw [List.length_set]

theorem visits_looked (h₀ : o₀.visits = []) (as : List Action) {i : Nat} {v : Visit}
    (h : (run p d o₀ as).visits[i]? = some (some v)) : Looked p d o₀ as i v := by
  have hall : ∀ i v, (run p d o₀ as).visits[i]? = some (some v) → Looked p d o₀ as i v := by
    refine Runs.run_history (s := o₀)
      (I := fun as o => ∀ i v, o.visits[i]? = some (some v) → Looked p d o₀ as i v) ?_ ?_ as
    · intro i v hv
      rw [h₀] at hv
      cases hv
    · intro as a ih i v hv
      rcases exec_visits _ a hv with hv | ⟨token, orderId, job, rfl, rfl, hlook⟩
      · exact (ih i v hv).snoc a
      · obtain ⟨t, rfl, hissued, hrole, rfl⟩ := look_some hlook
        exact Runs.earlier_last ⟨t, rfl, rfl, hissued, hrole, rfl, rfl⟩
  exact hall i v h

/-- The Nodes looked up are those with an active membership. -/
theorem mem_getNodeIdsForUser {w : Access.World} {userId nodeId : Nat} :
    nodeId ∈ Access.getNodeIdsForUser w userId ↔
      ∃ m ∈ w.memberships, Access.isActiveMember userId nodeId m = true := by
  simp only [Access.getNodeIdsForUser, Access.isActiveMember, List.mem_map, List.mem_filter,
    Bool.and_eq_true, decide_eq_true_eq]
  constructor
  · rintro ⟨m, ⟨hm, huser, hactive⟩, rfl⟩
    exact ⟨m, hm, ⟨huser, rfl⟩, hactive⟩
  · rintro ⟨m, hm, ⟨huser, rfl⟩, hactive⟩
    exact ⟨m, ⟨hm, huser, hactive⟩, rfl⟩

/-- A call that changes anything is one whose order is at a Node it looked up. -/
theorem finish_changes {i : Nat} {drawnCode : String}
    (h : (exec p d o (.finish i drawnCode)).db ≠ o.db) :
    ∃ v order, o.visits[i]? = some (some v) ∧ getOrder o.db v.orderId = some order ∧
      nodeOf v.job order ∈ v.operatorNodeIds := by
  simp only [exec] at h
  split at h
  · exact absurd rfl h
  · next v hv =>
      by_contra hnot
      refine h (transaction_elsewhere drawnCode fun order horder hmem => hnot ?_)
      exact ⟨v, order, Option.join_eq_some_iff.mp hv, horder, hmem⟩

/-- Once a call has looked up no Node, it stays so until it has run. -/
theorem run_empty {i : Nat} (hlt : i < o.visits.length)
    (h : ∀ v, o.visits[i]? = some (some v) → v.operatorNodeIds = []) (as : List Action) :
    ∀ v, (run p d o as).visits[i]? = some (some v) → v.operatorNodeIds = [] := by
  have hkept : i < (run p d o as).visits.length ∧
      ∀ v, (run p d o as).visits[i]? = some (some v) → v.operatorNodeIds = [] := by
    refine Runs.run_invariant
      (P := fun o : Office => i < o.visits.length ∧
        ∀ v, o.visits[i]? = some (some v) → v.operatorNodeIds = []) ?_ ⟨hlt, h⟩ as
    rintro o a ⟨hlt, h⟩
    refine ⟨hlt.trans_le (exec_visits_length o a), fun v hv => ?_⟩
    rcases exec_visits o a hv with hv | ⟨-, -, -, -, rfl, -⟩
    · exact h v hv
    · exact absurd hlt (lt_irrefl _)
  exact hkept.2

/-- **The counter acts for members.** A call that changes anything was asked for with
a session of an account that was then an active member of the Node the order is
handled at; and staff who have been removed have nothing done at any counter. -/
theorem counter_acts_for_members (p : Access.Platform) (d : Deployment)
    (h : Founded o₀.access) (h₀ : o₀.visits = []) (as : List Action) :
    (∀ i drawnCode,
      (exec p d (run p d o₀ as) (.finish i drawnCode)).db ≠ (run p d o₀ as).db →
      ∃ orderId job order, getOrder (run p d o₀ as).db orderId = some order ∧
        Runs.Earlier (exec p d) o₀ as fun o a => ∃ token,
          a = .look (some token) orderId job ∧ o.visits.length = i ∧
          token ∈ o.access.issued ∧ token.role ∈ counterRoles ∧
          (∃ u ∈ o.access.users, u.id = token.sub ∧ u.role ∈ counterRoles) ∧
          ∃ m ∈ o.access.memberships,
            Access.isActiveMember token.sub (nodeOf job order) m = true) ∧
    ∀ m ∈ (run p d o₀ as).access.memberships, m.roleAtNode = .staff → m.status = .removed →
      ∀ bs token orderId job cs drawnCode, token.sub = m.userId →
        let o := run p d o₀ (as ++ bs ++ .look (some token) orderId job :: cs)
        (exec p d o (.finish (run p d o₀ (as ++ bs)).visits.length drawnCode)).db = o.db := by
  constructor
  · intro i drawnCode hchange
    obtain ⟨v, order, hv, horder, hnode⟩ := finish_changes hchange
    refine ⟨v.orderId, v.job, order, horder, ?_⟩
    obtain ⟨before, a, after, rfl, token, rfl, hlength, hissued, hrole, hsub, hnodes⟩ :=
      visits_looked h₀ as hv
    have hgranted := run_granted (p := p) (d := d) h before
    obtain ⟨u, hu, hid, hurole⟩ := hgranted.sessions token hissued
    rw [hnodes, ← hsub] at hnode
    refine ⟨before, _, after, rfl, token, rfl, hlength, hissued, hrole, ⟨u, hu, hid, ?_⟩, ?_⟩
    · rw [hurole]
      exact hrole
    · exact mem_getNodeIdsForUser.mp hnode
  · intro m hm hstaff hremoved bs token orderId job cs drawnCode hsub
    set o₁ := run p d o₀ (as ++ bs) with ho₁
    have hnowhere : Access.getNodeIdsForUser o₁.access m.userId = [] := by
      have hstays : m ∈ o₁.access.memberships := by
        rw [ho₁, run, Runs.run_append, ← run, ← run, run_access]
        exact run_keeps_removed _ hm hremoved
      exact removed_works_nowhere (run_granted h (as ++ bs)) hstays hstaff hremoved
    have hrun : run p d o₀ (as ++ bs ++ .look (some token) orderId job :: cs)
        = run p d (exec p d o₁ (.look (some token) orderId job)) cs := by
      rw [run, Runs.run_append]
      rfl
    rw [hrun]
    intro o
    by_contra hchange
    obtain ⟨v, order, hv, -, hnode⟩ := finish_changes hchange
    have hempty : v.operatorNodeIds = [] := by
      refine run_empty ?_ ?_ cs v hv
      · change o₁.visits.length < (o₁.visits ++ [_]).length
        simp
      · intro v hv
        change (o₁.visits ++ [look o₁ (some token) orderId job])[_]? = _ at hv
        rw [List.getElem?_concat_length] at hv
        obtain ⟨t, ht, -, -, rfl⟩ := look_some (Option.some.inj hv)
        cases ht
        rw [← hnowhere, ← hsub]
    rw [hempty] at hnode
    cases hnode

/-! ## A small office -/

/-- An operator, with the id 0, at Node 1. -/
def demoOffice : Office where
  access :=
    { demoWorld with
      nextId := 3
      users := [⟨0, "bola", some "h", "Bola", "Ade", none, none, .nodeOperator, .active, none, none,
        0, none, 0⟩]
      nodes := [⟨1, .active, true⟩]
      memberships := [⟨2, 0, 1, .owner, .active⟩] }
  db := System.demoPaid
  visits := []

theorem demoOffice_founded : Founded demoOffice.access where
  userIds := ⟨by decide, by decide⟩
  emails := by decide
  nodeIds := ⟨by decide, by decide⟩
  memberIds := ⟨by decide, by decide⟩
  pairs := by decide
  located := by decide
  held := by decide
  alone := by decide
  sessions t ht := by cases ht
  idle := rfl

/-- The parcel of the order 11 is dropped off there. -/
def demoVisit : List Action :=
  [.access (.logIn 0), .look (some ⟨0, .nodeOperator, 900⟩) 11 (.confirm .dropOff "" true)]

theorem demo_counter_acts_for_members :
    ∃ orderId job order,
      getOrder (run demoPlatform System.demo demoOffice demoVisit).db orderId = some order ∧
      Runs.Earlier (exec demoPlatform System.demo) demoOffice demoVisit fun o a => ∃ token,
        a = .look (some token) orderId job ∧ o.visits.length = 0 ∧
        token ∈ o.access.issued ∧ token.role ∈ counterRoles ∧
        (∃ u ∈ o.access.users, u.id = token.sub ∧ u.role ∈ counterRoles) ∧
        ∃ m ∈ o.access.memberships,
          Access.isActiveMember token.sub (nodeOf job order) m = true := by
  refine (counter_acts_for_members demoPlatform System.demo demoOffice_founded rfl
    demoVisit).1 0 "" ?_
  intro hsame
  have hstatuses := congrArg (fun s : State => s.orders.map OrderRow.status) hsame
  exact absurd hstatuses (by decide +kernel)

end Locoomo.CounterAccess
