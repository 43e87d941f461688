import Locoomo.Transactions

/-! Leg and order move in lockstep, over every run of the system. -/

namespace Locoomo.Lockstep

open Locoomo.Delivery Locoomo.Database Locoomo.Routing Locoomo.Logistics Locoomo.Handoffs
  Locoomo.System Locoomo.Changes Locoomo.Transactions Relational

/-- Orders just placed, and no leg yet. -/
structure FreshlyPaid (s : State) : Prop where
  orderIds : Distinct OrderRow.id s.orders
  orderIds_lt : ∀ o ∈ s.orders, o.id < s.nextId
  placed : ∀ o ∈ s.orders, o.status = .awaitingDropOff ∧ o.riderId = none
  legs : s.legs = []

/-- An order and its legs agree. -/
structure Agrees (s : State) (o : OrderRow) : Prop where
  oneLeg : (s.legs.filter (isActiveOf o.id)).length ≤ 1
  beside : ∀ l ∈ s.legs, isActiveOf o.id l = true →
    (l.status = .requested ∧ o.status = .parcelReceivedAtOrigin) ∨
    (l.status = .assigned ∧ o.status = .riderAssigned) ∨
    (l.status = .pickedUp ∧ o.status = .inTransit) ∨
    (l.status = .returning ∧ o.status = .returnInTransit)
  idle : (∀ l ∈ s.legs, isActiveOf o.id l = false) →
    o.status ≠ .riderAssigned ∧ o.status ≠ .inTransit ∧ o.status ≠ .returnInTransit

theorem FreshlyPaid.aligned {s : State} (h : FreshlyPaid s) : Aligned s where
  inStep :=
    { orderIds := h.orderIds, legIds := by rw [h.legs]; exact List.nodup_nil
      orderIds_lt := h.orderIds_lt, legIds_lt := by simp [h.legs], legOrder := by simp [h.legs]
      forward := by simp [h.legs], unclaimed := by simp [h.legs], oneActive := by simp [h.legs]
      paired := by simp [h.legs]
      covered := by
        intro o ho hneeds
        rw [(h.placed o ho).1] at hneeds
        cases hneeds
      free := fun o ho _ => (h.placed o ho).2 }
  sourced := ⟨by simp [h.legs], by simp [h.legs]⟩

theorem isActiveOf_iff {orderId : Nat} {l : DeliveryLegRow} :
    isActiveOf orderId l = true ↔ l.orderId = orderId ∧ isActive l.status = true := by
  simp [isActiveOf]

/-- The four active statuses of a leg, each with its order's. -/
theorem paired_cases {status : DeliveryLegStatus} {orderStatus : OrderStatus}
    (hactive : isActive status = true) (h : orderStatus = pairedStatus status) :
    (status = .requested ∧ orderStatus = .parcelReceivedAtOrigin) ∨
    (status = .assigned ∧ orderStatus = .riderAssigned) ∨
    (status = .pickedUp ∧ orderStatus = .inTransit) ∨
    (status = .returning ∧ orderStatus = .returnInTransit) := by
  subst h
  revert hactive
  cases status <;> decide

theorem InStep.agrees {s : State} (hs : InStep s) {o : OrderRow} (ho : o ∈ s.orders) :
    Agrees s o where
  oneLeg := hs.oneLeg o.id
  beside := by
    intro l hl hact
    obtain ⟨hlo, hact⟩ := isActiveOf_iff.mp hact
    exact paired_cases hact (hs.paired l hl hact o ho hlo.symm).1
  idle := by
    intro hidle
    by_contra hbusy
    have hneeds : needsLeg o.status = true := by
      revert hbusy
      cases o.status <;> simp [needsLeg]
    obtain ⟨l, hl, hlo, hact⟩ := hs.covered o ho hneeds
    have := hidle l hl
    rw [isActiveOf_iff.mpr ⟨hlo, hact⟩] at this
    cases this

/-- A run from freshly paid orders keeps every leg and order in step. -/
theorem run_aligned (d : Deployment) {s₀ : State} (h : Aligned s₀) (as : List Action) :
    Aligned (run d s₀ as) :=
  (run_keeps (P := fun _ => True) (fun _ _ _ => trivial) h trivial as).1

/-- **Leg and order move in lockstep**, and so no snapshot and no cancellation
is ever refused by the order state machine. -/
theorem orders_agree_with_legs (d : Deployment) {s₀ : State} (h : FreshlyPaid s₀)
    (as : List Action) :
    (∀ o ∈ (run d s₀ as).orders, Agrees (run d s₀ as) o) ∧
      (∀ providerKey snapshot, ∃ r s',
        (syncFromSnapshot d providerKey snapshot).run (run d s₀ as) = .ok (r, s')) ∧
      ∀ legId reason thenRouteTo, ∃ r s',
        (cancelLeg d legId reason thenRouteTo).run (run d s₀ as) = .ok (r, s') := by
  have hs := (run_aligned d h.aligned as).inStep
  refine ⟨fun o ho => hs.agrees ho, ?_, ?_⟩
  · exact fun providerKey snapshot => syncFromSnapshot_commits d providerKey snapshot hs
  · exact fun legId reason thenRouteTo => cancelLeg_commits d legId reason thenRouteTo hs

theorem demoPaid_freshlyPaid : FreshlyPaid demoPaid where
  orderIds := by decide +kernel
  orderIds_lt := by decide +kernel
  placed := by decide +kernel
  legs := by decide +kernel

/-- A courier that assigns, drops out and is cancelled; the in-house pool takes over. -/
theorem demo_agrees_with_legs :
    let s := run demo demoPaid (demoBooked ++
      [.syncFromSnapshot "sendii" (demoSnapshot .assigned 1),
        .cancelLeg 12 "assign_timeout" none, .accept 11 3])
    s.legs.map DeliveryLegRow.status = [.cancelled, .assigned] ∧
      s.orders.map OrderRow.status = [.riderAssigned] ∧ ∀ o ∈ s.orders, Agrees s o := by
  intro s
  refine ⟨by decide +kernel, by decide +kernel, ?_⟩
  exact (orders_agree_with_legs demo demoPaid_freshlyPaid _).1

end Locoomo.Lockstep
