import Locoomo.Books
import Locoomo.Interleaved

/-! A rider's counter and the orders the audit counts for him. They move
together in every transaction but one: a leg that a Locoomo rider has claimed
may be cancelled, and no branch of that cancellation gives his slot back. The
reconciler gets there when a rider accepts between its read of an overdue leg
and its `cancelLeg`. -/

namespace Locoomo.RiderCapacity

open Locoomo.Delivery Locoomo.Database Locoomo.Routing Locoomo.Logistics Locoomo.Handoffs
  Locoomo.Payments Locoomo.System Locoomo.OrderMoves Locoomo.Lockstep Locoomo.Frames
  Locoomo.Changes Locoomo.Transactions Locoomo.Effects Locoomo.Books Locoomo.Interleaved
  Relational

/-! ## The audit -/

/-- The rows `auditRiders` joins to a rider. -/
def carriedBy (riderId : Nat) (o : OrderRow) : Bool :=
  decide (o.riderId = some riderId) && isOpen o.status

/-- `auditRiders`: the open orders of a rider. -/
def openOrders (s : State) (riderId : Nat) : Nat := s.orders.countP (carriedBy riderId)

/-- The counters are what the audit counts, and within the limit. -/
structure Manned (s : State) : Prop where
  riderIds : Distinct RiderProfileRow.userId s.riders
  count : ∀ p ∈ s.riders, p.currentActiveOrderCount = openOrders s p.userId
  limit : ∀ p ∈ s.riders, p.currentActiveOrderCount ≤ maxActiveOrdersPerRider

variable {d : Deployment} {recalls : Bool} {answers : Answers} {s s' : State}

theorem carriedBy_eq (riderId : Nat) (o : OrderRow) :
    carriedBy riderId o = decide (openFor o = some riderId) := by
  rw [carriedBy, openFor]
  cases isOpen o.status with
  | true => simp
  | false => simp

/-! ## Every change without a recall keeps it -/

theorem Manned.same (h : Manned s) (hriders : s'.riders = s.riders)
    (hopen : ∀ r, openOrders s' r = openOrders s r) : Manned s' where
  riderIds := by rw [hriders]; exact h.riderIds
  count := by
    intro p hp
    rw [hriders] at hp
    rw [hopen]
    exact h.count p hp
  limit := by rw [hriders]; exact h.limit

/-- One rider's counter moves with the number of his open orders. -/
theorem Manned.adjust (h : Manned s) {riderId : Nat} {f : Nat → Nat}
    (hriders : s'.riders = (adjustRider riderId f s).riders)
    (hother : ∀ r, r ≠ riderId → openOrders s' r = openOrders s r)
    (hcount : ∀ p ∈ s.riders, p.userId = riderId →
      f p.currentActiveOrderCount = openOrders s' riderId)
    (hlimit : ∀ p ∈ s.riders, p.userId = riderId →
      f p.currentActiveOrderCount ≤ maxActiveOrdersPerRider) : Manned s' where
  riderIds := by
    rw [hriders]
    exact h.riderIds.update fun _ _ _ => rfl
  count := by
    intro p hp
    rw [hriders] at hp
    obtain ⟨q, hq, rfl⟩ := mem_update.mp hp
    by_cases hid : q.userId = riderId
    · simp only [hid, decide_true, if_true]
      exact hcount q hq hid
    · simp only [hid, decide_false, Bool.false_eq_true, if_false]
      rw [hother q.userId hid]
      exact h.count q hq
  limit := by
    intro p hp
    rw [hriders] at hp
    obtain ⟨q, hq, rfl⟩ := mem_update.mp hp
    by_cases hid : q.userId = riderId
    · simp only [hid, decide_true, if_true]
      exact hlimit q hq hid
    · simp only [hid, decide_false, Bool.false_eq_true, if_false]
      exact h.limit q hq

/-- What a moved order does to a rider's open orders. -/
theorem open_put (hs : InStep s) {o o' : OrderRow} (hmem : o ∈ s.orders) (hcore : core o' = core o)
    (horders : s'.orders = put OrderRow.id o' s.orders) (riderId : Nat) :
    openOrders s' riderId + (decide (openFor o = some riderId)).toNat
      = openOrders s riderId + (decide (openFor o' = some riderId)).toNat := by
  have hput := hs.orderIds.countP_put (q := carriedBy riderId) hmem (core_id hcore)
  rw [carriedBy_eq, carriedBy_eq] at hput
  rw [openOrders, openOrders, horders]
  exact hput

theorem Manned.move (h : Manned s) (hs : InStep s) {o o' : OrderRow}
    (hm : OrderMove false s s' o o') : Manned s' := by
  have hput := open_put hs hm.mem hm.same hm.orders
  cases hm.rider with
  | keep hopen hriders =>
      refine h.same hriders fun r => ?_
      have := hput r
      rw [hopen] at this
      omega
  | @take riderId p hp hpid hroom hbefore hafter hriders =>
      have hone : ∀ q ∈ s.riders, q.userId = riderId → q = p := by
        intro q hq hqid
        exact h.riderIds.eq_of_key hq hp (hqid.trans hpid.symm)
      have hnow := hput riderId
      simp only [hbefore, hafter, reduceCtorEq, decide_false, decide_true, Bool.toNat_false,
        Bool.toNat_true] at hnow
      refine h.adjust hriders (fun r hne => ?_) (fun q hq hqid => ?_) (fun q hq hqid => ?_)
      · have := hput r
        have hne' : ¬ riderId = r := fun heq => hne heq.symm
        simp only [hbefore, hafter, reduceCtorEq, Option.some.injEq, hne', decide_false,
          Bool.toNat_false] at this
        omega
      · have hcount := h.count q hq
        rw [hqid] at hcount
        show q.currentActiveOrderCount + 1 = openOrders s' riderId
        omega
      · rw [hone q hq hqid]
        show p.currentActiveOrderCount + 1 ≤ maxActiveOrdersPerRider
        omega
  | @give riderId hbefore hafter hriders =>
      have hnow := hput riderId
      simp only [hbefore, hafter, reduceCtorEq, decide_false, decide_true, Bool.toNat_false,
        Bool.toNat_true] at hnow
      refine h.adjust hriders (fun r hne => ?_) (fun q hq hqid => ?_) (fun q hq _ => ?_)
      · have := hput r
        have hne' : ¬ riderId = r := fun heq => hne heq.symm
        simp only [hbefore, hafter, reduceCtorEq, Option.some.injEq, hne', decide_false,
          Bool.toNat_false] at this
        omega
      · have hcount := h.count q hq
        rw [hqid] at hcount
        show q.currentActiveOrderCount - 1 = openOrders s' riderId
        omega
      · have hlimit := h.limit q hq
        show q.currentActiveOrderCount - 1 ≤ maxActiveOrdersPerRider
        omega
  | leak hrecalls _ _ _ => cases hrecalls

theorem Manned.keep (h : Manned s) (hs : InStep s) (he : Effect false answers s s') :
    Manned s' := by
  cases he with
  | still hstill =>
      exact h.same hstill.riders fun r => by rw [openOrders, openOrders, hstill.orders]
  | book hbooked =>
      refine h.same (by rw [hbooked.eq]; rfl) fun r => ?_
      rw [openOrders, openOrders, hbooked.eq]
      rfl
  | refer intentId hr =>
      cases hr
      exact h.same rfl fun _ => rfl
  | @pay intent verification order hanswer hpayable hc =>
      refine h.same (by rw [hc.frame]) fun r => ?_
      have hnew : carriedBy r order = false := by
        simp [carriedBy, hc.placed.riderId]
      rw [openOrders, openOrders, hc.orders, List.countP_append, List.countP_singleton, hnew]
      simp
  | expire hmem hpending heq => exact h.same (by rw [heq]; rfl) fun r => by rw [heq]; rfl
  | move hm => exact h.move hs hm

theorem manned_change (hs : Aligned s) (h : Manned s) (hc : Change d false answers s s') :
    Manned s' := h.keep hs.inStep (effect_of_change hs.inStep hc)

/-- A step of the system that recalls no claimed leg. -/
theorem Manned.exec (hs : Aligned s) (h : Manned s) {a : System.Action}
    (hrecall : recalling s a = false) :
    Aligned (System.exec d s a) ∧ Manned (System.exec d s a) := by
  have hchanges := exec_changes (d := d) hs a
  rw [hrecall] at hchanges
  exact ChangeSeq.keeps manned_change hchanges hs h

/-! ## Interleaved runs -/

/-- A step other than the read of a submission. -/
def noSubmission : Interleaved.Action → Bool
  | .readSubmit _ => false
  | _ => true

/-- A `cancelLeg` that finds its leg claimed by a Locoomo rider. -/
def recallsClaimed (w : Work) : Interleaved.Action → Bool
  | .cancelLocally i => w.endings[i]?.any fun ending =>
      ending.cleared && recalled w.db ending.leg.id
  | _ => false

abbrev Unclaimed (w : Work) (a : Interleaved.Action) : Prop := recallsClaimed w a = false

theorem recalling_of_not_split {a : System.Action} (h : isSplit a = false) (s : State) :
    recalling s a = false := by
  cases a <;> first | rfl | cases h

structure Steady (w : Work) : Prop where
  quiet : w.submissions = []
  aligned : Aligned w.db
  manned : Manned w.db

theorem Steady.exec {w : Work} (h : Steady w) {a : Interleaved.Action}
    (hsubmit : noSubmission a = true) (hclaim : Unclaimed w a) :
    Steady (Interleaved.exec d w a) := by
  obtain ⟨hquiet, haligned, hmanned⟩ := h
  cases a with
  | atomic a =>
      cases hsplit : isSplit a with
      | true =>
          simp only [Interleaved.exec, hsplit, if_true]
          exact ⟨hquiet, haligned, hmanned⟩
      | false =>
          simp only [Interleaved.exec, hsplit, Bool.false_eq_true, if_false]
          have hstep := Manned.exec (d := d) haligned hmanned (recalling_of_not_split hsplit w.db)
          exact ⟨hquiet, hstep.1, hstep.2⟩
  | readSubmit legId => cases hsubmit
  | answerSubmit i answer =>
      simp only [Interleaved.exec, hquiet, List.getElem?_nil]
      exact ⟨hquiet, haligned, hmanned⟩
  | writeSubmit i =>
      simp only [Interleaved.exec, hquiet, List.getElem?_nil]
      exact ⟨hquiet, haligned, hmanned⟩
  | readOverdue => exact ⟨hquiet, haligned, hmanned⟩
  | readFallback legId =>
      simp only [Interleaved.exec]
      split
      · exact ⟨hquiet, haligned, hmanned⟩
      · exact ⟨hquiet, haligned, hmanned⟩
  | cancelAtProvider i accepted =>
      simp only [Interleaved.exec]
      split
      · exact ⟨hquiet, haligned, hmanned⟩
      · split
        · exact ⟨hquiet, haligned, hmanned⟩
        · exact ⟨hquiet, haligned, hmanned⟩
  | cancelLocally i =>
      simp only [Interleaved.exec]
      split
      · exact ⟨hquiet, haligned, hmanned⟩
      · next ending hending =>
          split
          · next hcleared =>
            have hrecall : recalling w.db (.cancelLeg ending.leg.id ending.kind.reason
                ending.kind.thenRouteTo) = false := by
              show recalled w.db ending.leg.id = false
              simpa [Unclaimed, recallsClaimed, hending, hcleared] using hclaim
            have hstep := Manned.exec (d := d) haligned hmanned hrecall
            exact ⟨hquiet, hstep.1, hstep.2⟩
          · exact ⟨hquiet, haligned, hmanned⟩

theorem manned_of_initial (h : Initial s) : Manned s where
  riderIds := h.riders
  count := by
    intro p hp
    rw [h.riders_idle p hp, openOrders, h.orders]
    rfl
  limit := by
    intro p hp
    rw [h.riders_idle p hp]
    exact Nat.zero_le _

/-- **Rider capacity.** As long as no claimed leg is recalled, every rider's
counter is the number of his open orders, and within the limit, in every state
of the run. -/
theorem rider_counters_match_audit (d : Deployment) {s₀ : State} (h : Initial s₀)
    (as : List Interleaved.Action) (hsubmit : ∀ a ∈ as, noSubmission a = true)
    (hmeets : Runs.Meets (Interleaved.exec d) Unclaimed (idle s₀) as) :
    Runs.Always (Interleaved.exec d)
      (fun w => ∀ p ∈ w.db.riders, p.currentActiveOrderCount = openOrders w.db p.userId ∧
        p.currentActiveOrderCount ≤ maxActiveOrdersPerRider) (idle s₀) as := by
  have hsteady : Steady (idle s₀) := ⟨rfl, aligned_of_initial h, manned_of_initial h⟩
  have hall : Runs.Always (Interleaved.exec d) Steady (idle s₀) as := by
    generalize idle s₀ = w at hsteady hmeets
    induction as generalizing w with
    | nil => exact hsteady
    | cons a as ih =>
        have hnext := hsteady.exec (d := d) (hsubmit a List.mem_cons_self) hmeets.1
        exact ⟨hsteady, ih (fun b hb => hsubmit b (List.mem_cons_of_mem a hb)) _ hnext hmeets.2⟩
  exact hall.mono fun w hw p hp => ⟨hw.manned.count p hp, hw.manned.limit p hp⟩

/-- A parcel taken from its courier and offered to the riders, with a timeout
on the in-house pool that has passed. -/
def demoOffered : List Interleaved.Action :=
  demoBooking.map .atomic ++ [.atomic (.webhook 10 (some demoPayment) ["LOC1"]),
    .atomic (.confirm .dropOff 11 (demoArgs ""))] ++
    [.readFallback 12, .cancelAtProvider 0 true, .cancelLocally 0,
      .atomic (.updateProvider inHouseProviderKey
        ⟨none, none, none, some (some 5), none, none, none⟩),
      .atomic (.tick 600000)]

/-- The reconciler reads the unclaimed leg, a rider accepts it, and the
cancellation leaves his counter at one with no order to show for it. -/
theorem timeout_leaks_rider_slot :
    let w := Interleaved.run demo (idle demoState) (demoOffered ++
      [.readOverdue, .atomic (.accept 11 3), .cancelAtProvider 0 true, .cancelLocally 0])
    w.db.riders = [⟨3, .active, 1⟩] ∧ openOrders w.db 3 = 0 ∧
      ¬ ∀ p ∈ w.db.riders, p.currentActiveOrderCount = openOrders w.db p.userId := by
  intro w
  have hriders : w.db.riders = [⟨3, .active, 1⟩] := by decide +kernel
  have hopen : openOrders w.db 3 = 0 := by decide +kernel
  refine ⟨hriders, hopen, fun h => ?_⟩
  have hcount := h ⟨3, .active, 1⟩ (by rw [hriders]; exact List.mem_singleton.mpr rfl)
  rw [hopen] at hcount
  cases hcount

/-- Accepted before the reconciler reads, the leg is left alone. -/
theorem demo_rider_counters :
    Runs.Always (Interleaved.exec demo)
      (fun w => ∀ p ∈ w.db.riders, p.currentActiveOrderCount = openOrders w.db p.userId ∧
        p.currentActiveOrderCount ≤ maxActiveOrdersPerRider) (idle demoState)
      (demoOffered ++ [.atomic (.accept 11 3), .readOverdue, .cancelAtProvider 0 true,
        .cancelLocally 0]) := by
  refine rider_counters_match_audit demo demoState_initial _ ?_ ?_
  · decide
  · decide +kernel

end Locoomo.RiderCapacity
