import Locoomo.Carriers
import Locoomo.StepKeys

/-! The pool of orders that riders choose from. In every run an order is
offered exactly when a rider with room for it can take it; the one who does has
it on the list of their own orders from then on, gets codes for it, and nobody
else is offered it or given a code. -/

namespace Locoomo.RiderPool

open Locoomo.Delivery Locoomo.Database Locoomo.Routing Locoomo.Logistics Locoomo.Handoffs
  Locoomo.System Locoomo.OrderMoves Locoomo.LegMoves Locoomo.Soundness Locoomo.Lockstep
  Locoomo.Frames Locoomo.Changes Locoomo.Transactions Locoomo.StepKeys Relational

/-! ## The lists -/

/-- The `EXISTS` inside `IN_POOL`: another courier has the order. -/
def isElsewhere (orderId : Nat) (leg : DeliveryLegRow) : Bool :=
  isActiveOf orderId leg && decide (leg.providerKey ≠ inHouseProviderKey)

/-- `IN_POOL`: received at its origin, no rider yet, not with another courier. -/
def inPool (s : State) (o : OrderRow) : Bool :=
  decide (o.status = .parcelReceivedAtOrigin) && o.riderId.isNone &&
    !(s.legs.any (isElsewhere o.id))

/-- What `BrowseAvailableOrdersService.browse` pages through, nearest first. -/
def availableOrders (s : State) : List OrderRow := s.orders.filter (inPool s)

/-- What `ListMyOrdersService.list` pages through, newest first. -/
def myOrders (s : State) (riderId : Nat) : List OrderRow :=
  s.orders.filter fun o => decide (o.riderId = some riderId)

/-- The rider is active and carries less than the most allowed. -/
def HasRoom (s : State) (riderId : Nat) : Prop :=
  ∃ p, get RiderProfileRow.userId riderId s.riders = some p ∧ p.status = .active ∧
    p.currentActiveOrderCount < maxActiveOrdersPerRider

variable {d : Deployment} {s s' : State} {orderId riderId : Nat}

/-! ## Room -/

theorem reserve_iff :
    (∃ s', (reserveDeliverySlot riderId).run s = .ok (true, s')) ↔ HasRoom s riderId := by
  rw [reserveDeliverySlot, Tx.run_read_bind]
  constructor
  · rintro ⟨s', h⟩
    obtain ⟨p, s₁, hexpect, hrest⟩ := Tx.run_bind_eq_ok.mp h
    obtain ⟨hp, rfl⟩ := Tx.run_expect_eq_ok.mp hexpect
    obtain ⟨_, s₂, hensure, hslot⟩ := Tx.run_bind_eq_ok.mp hrest
    obtain ⟨hactive, rfl⟩ := Tx.run_ensure_eq_ok.mp hensure
    refine ⟨p, hp, of_decide_eq_true hactive, ?_⟩
    split at hslot
    · cases hslot
    · next hfree => exact Nat.lt_of_not_le hfree
  · rintro ⟨p, hp, hactive, hroom⟩
    refine ⟨adjustRider riderId (· + 1) s, ?_⟩
    rw [hp, Tx.expect_some, Tx.run_pure_bind, decide_eq_true hactive, Tx.ensure_true,
      Tx.run_pure_bind, if_neg (Nat.not_le.mpr hroom)]
    rfl

theorem reserve_run (h : HasRoom s riderId) :
    (reserveDeliverySlot riderId).run s = .ok (true, adjustRider riderId (· + 1) s) := by
  obtain ⟨s', hrun⟩ := reserve_iff.mpr h
  obtain ⟨p, -, -, ⟨hr, -⟩ | ⟨-, -, rfl⟩⟩ := reserveDeliverySlot_ok hrun
  · cases hr
  · exact hrun

/-! ## Claims -/

/-- The leg a rider claims, as `apply` gets it. -/
def claimed (s : State) (riderId : Nat) (leg : DeliveryLegRow) : DeliveryLegRow :=
  { leg with
    courierUserId := some riderId
    courierName := (get UserRow.id riderId s.users).map courierNameOf
    courierPhone := (get UserRow.id riderId s.users).bind UserRow.phone }

/-- A claim, from the leg it works on to the event that assigns it. -/
theorem assign_iff {leg : DeliveryLegRow} {s₁ : State}
    (hleg : (activeLegOr orderId (createInHouseLeg orderId .requested none)).run s
      = .ok (leg, s₁)) :
    (∃ s', (assignInHouseRider d orderId riderId).run s = .ok ((), s')) ↔
      leg.providerKey = inHouseProviderKey ∧ leg.status = .requested ∧
        ∃ r s', (apply d (claimed s₁ riderId leg) .assigned none).run s₁ = .ok (r, s') := by
  rw [assignInHouseRider, Tx.run_bind_of_ok hleg]
  constructor
  · rintro ⟨s', h⟩
    obtain ⟨_, s₂, hensure₁, hrest⟩ := Tx.run_bind_eq_ok.mp h
    obtain ⟨hkey, rfl⟩ := Tx.run_ensure_eq_ok.mp hensure₁
    obtain ⟨_, s₃, hensure₂, hrest⟩ := Tx.run_bind_eq_ok.mp hrest
    obtain ⟨hstatus, rfl⟩ := Tx.run_ensure_eq_ok.mp hensure₂
    rw [Tx.run_read_bind] at hrest
    obtain ⟨r, s₄, happly, -⟩ := Tx.run_bind_eq_ok.mp hrest
    exact ⟨of_decide_eq_true hkey, of_decide_eq_true hstatus, r, s₄, happly⟩
  · rintro ⟨hkey, hstatus, r, s', happly⟩
    refine ⟨s', ?_⟩
    rw [decide_eq_true hkey, Tx.ensure_true, Tx.run_pure_bind, decide_eq_true hstatus,
      Tx.ensure_true, Tx.run_pure_bind, Tx.run_read_bind]
    exact Tx.run_bind_of_ok happly

theorem claimed_stands (s : State) (riderId : Nat) (leg : DeliveryLegRow) :
    Stands (claimed s riderId leg) leg .assigned :=
  ⟨rfl, rfl, rfl, rfl, rfl, fun h => absurd rfl h⟩

theorem requested_of_waiting {status : DeliveryLegStatus} (hactive : isActive status = true)
    (h : pairedStatus status = .parcelReceivedAtOrigin) : status = .requested := by
  revert hactive h
  cases status <;> decide

/-- The leg of an order in the pool waits for a rider. -/
theorem pooled_leg (hs : InStep s) {o : OrderRow} (ho : o ∈ s.orders) (hpool : inPool s o = true)
    {leg : DeliveryLegRow} (hleg : activeLeg s o.id = some leg) :
    leg.providerKey = inHouseProviderKey ∧ leg.status = .requested := by
  simp only [inPool, Bool.and_eq_true, decide_eq_true_eq, Bool.not_eq_true'] at hpool
  obtain ⟨⟨hstatus, -⟩, hnone⟩ := hpool
  obtain ⟨hmem, horder, hactive⟩ := activeLeg_some hleg
  constructor
  · by_contra hkey
    have helse := List.any_eq_false.mp hnone leg hmem
    simp only [isElsewhere, isActiveOf, horder, hactive, decide_true, Bool.true_and,
      decide_eq_true_eq] at helse
    exact helse hkey
  · refine requested_of_waiting hactive ?_
    rw [← (hs.paired leg hmem hactive o ho horder.symm).1, hstatus]

/-- An order that a claim's leg waits for is in the pool. -/
theorem inPool_of_leg (hs : InStep s) {o : OrderRow} (ho : o ∈ s.orders)
    (hstatus : o.status = .parcelReceivedAtOrigin)
    (hleg : ∀ leg, activeLeg s o.id = some leg → leg.providerKey = inHouseProviderKey) :
    inPool s o = true := by
  have hrider : o.riderId = none := hs.free o ho (Or.inr hstatus)
  have hnone : s.legs.any (isElsewhere o.id) = false := by
    rw [List.any_eq_false]
    intro l hl helse
    simp only [isElsewhere, Bool.and_eq_true, decide_eq_true_eq] at helse
    obtain ⟨hlo, hact⟩ := isActiveOf_iff.mp helse.1
    cases hactive : activeLeg s o.id with
    | none =>
        rw [activeLeg_none hactive l hl hlo] at hact
        cases hact
    | some leg =>
        obtain ⟨hmem, horder, hact'⟩ := activeLeg_some hactive
        obtain rfl : l = leg := hs.oneActive l hl leg hmem (hlo.trans horder.symm) hact hact'
        exact helse.2 (hleg l hactive)
  simp [inPool, hstatus, hrider, hnone]

/-- A rider may claim an order just when it is in the pool. -/
theorem claim_iff (hs : Aligned s) {o : OrderRow} (ho : o ∈ s.orders) :
    (∃ s', (assignInHouseRider d o.id riderId).run s = .ok ((), s')) ↔ inPool s o = true := by
  have hget : getOrder s o.id = some o := hs.inStep.orderIds.get_eq ho
  cases hactive : activeLeg s o.id with
  | some leg =>
      obtain ⟨hmem, horder, hact⟩ := activeLeg_some hactive
      have hleg : (activeLegOr o.id (createInHouseLeg o.id .requested none)).run s
          = .ok (leg, s) := by
        rw [activeLegOr, Tx.run_read_bind, hactive]
        rfl
      rw [assign_iff hleg]
      constructor
      · rintro ⟨hkey, hstatus, -⟩
        refine inPool_of_leg hs.inStep ho ?_ ?_
        · rw [(hs.inStep.paired leg hmem hact o ho horder.symm).1, hstatus]
          rfl
        · rintro leg' hactive'
          rw [hactive] at hactive'
          rwa [← Option.some.inj hactive']
      · intro hpool
        obtain ⟨hkey, hstatus⟩ := pooled_leg hs.inStep ho hpool hactive
        exact ⟨hkey, hstatus, apply_commits none hs.inStep hmem (claimed_stands s riderId leg)⟩
  | none =>
      let n := s.legs.countP (fun leg => leg.orderId = o.id) + 1
      let t : State := { s with legs := s.legs ++ [adopted s o.id n], nextId := s.nextId + 1 }
      have hleg : (activeLegOr o.id (createInHouseLeg o.id .requested none)).run s
          = .ok (adopted s o.id n, t) := by
        rw [activeLegOr, Tx.run_read_bind, hactive]
        rfl
      have hmem : adopted s o.id n ∈ t.legs :=
        List.mem_append_right _ (List.mem_singleton.mpr rfl)
      rw [assign_iff hleg]
      constructor
      · rintro ⟨-, -, r, s', happly⟩
        have hmoved : r = none → nextLegStatus (claimed t riderId (adopted s o.id n)).status
            .assigned ≠ none := by
          intro _ hnone
          cases hnone
        obtain ⟨p, hp, hsource⟩ := apply_source rfl (Or.inl rfl) hmoved happly
        obtain rfl : o = p := Option.some.inj (hget.symm.trans hp)
        exact inPool_of_leg hs.inStep ho hsource fun leg h => by
          rw [hactive] at h
          cases h
      · intro hpool
        simp only [inPool, Bool.and_eq_true, decide_eq_true_eq] at hpool
        have hadopt : Change d false (fun _ => none) s t :=
          Change.adopt ho hpool.1.1 hactive ⟨rfl, rfl, rfl, rfl⟩
        exact ⟨rfl, rfl, apply_commits none (hadopt.aligned hs).inStep hmem
          (claimed_stands t riderId _)⟩

/-! ## Accepting -/

theorem adjustRider_aligned (hs : Aligned s) (riderId : Nat) (f : Nat → Nat) :
    Aligned (adjustRider riderId f s) where
  inStep := adjustRider_inStep hs.inStep riderId f
  sourced := hs.sourced.mono rfl

/-- **Offered is takeable**: a rider's accept commits just when the order is in
the pool and the rider has room. -/
theorem accept_iff (hs : Aligned s) {o : OrderRow} (ho : o ∈ s.orders) :
    (∃ s', (accept d o.id riderId).run s = .ok ((), s')) ↔
      inPool s o = true ∧ HasRoom s riderId := by
  have hassign : ∀ {s'}, (accept d o.id riderId).run s = .ok ((), s') ↔ HasRoom s riderId ∧
      (assignInHouseRider d o.id riderId).run (adjustRider riderId (· + 1) s) = .ok ((), s') := by
    intro s'
    constructor
    · intro h
      obtain ⟨reserved, s₁, hreserve, hrest⟩ := Tx.run_bind_eq_ok.mp h
      obtain ⟨_, s₂, hensure, hassign⟩ := Tx.run_bind_eq_ok.mp hrest
      obtain ⟨rfl, rfl⟩ := Tx.run_ensure_eq_ok.mp hensure
      have hroom : HasRoom s riderId := reserve_iff.mp ⟨s₁, hreserve⟩
      rw [reserve_run hroom] at hreserve
      cases hreserve
      exact ⟨hroom, hassign⟩
    · rintro ⟨hroom, hassign⟩
      rw [accept, Tx.run_bind_of_ok (reserve_run hroom), Tx.ensure_true, Tx.run_pure_bind]
      exact hassign
  have hclaim : (∃ s', (assignInHouseRider d o.id riderId).run (adjustRider riderId (· + 1) s)
      = .ok ((), s')) ↔ inPool (adjustRider riderId (· + 1) s) o = true :=
    claim_iff (adjustRider_aligned hs riderId (· + 1)) ho
  constructor
  · rintro ⟨s', h⟩
    obtain ⟨hroom, hrun⟩ := hassign.mp h
    exact ⟨hclaim.mp ⟨s', hrun⟩, hroom⟩
  · rintro ⟨hpool, hroom⟩
    obtain ⟨s', hrun⟩ := hclaim.mpr hpool
    exact ⟨s', hassign.mpr ⟨hroom, hrun⟩⟩

/-- The leg an accept leaves is the rider's. -/
theorem accept_leg (hs : Aligned s) (h : (accept d orderId riderId).run s = .ok ((), s')) :
    ∃ leg ∈ s'.legs, leg.orderId = orderId ∧ leg.status = .assigned ∧
      leg.courierUserId = some riderId := by
  obtain ⟨reserved, s₁, hreserve, hrest⟩ := Tx.run_bind_eq_ok.mp h
  obtain ⟨_, s₂, hensure, hassign⟩ := Tx.run_bind_eq_ok.mp hrest
  obtain ⟨hreserved, rfl⟩ := Tx.run_ensure_eq_ok.mp hensure
  have hs₁ : InStep s₁ := by
    obtain ⟨p, -, -, ⟨hr, -⟩ | ⟨-, -, rfl⟩⟩ := reserveDeliverySlot_ok hreserve
    · rw [hr] at hreserved
      cases hreserved
    · exact adjustRider_inStep hs.inStep riderId (· + 1)
  obtain ⟨leg, s₂, hleg, hclaim⟩ := Tx.run_bind_eq_ok.mp hassign
  obtain ⟨_, s₃, hensure₁, hrest⟩ := Tx.run_bind_eq_ok.mp hclaim
  obtain ⟨-, rfl⟩ := Tx.run_ensure_eq_ok.mp hensure₁
  obtain ⟨_, s₄, hensure₂, hrest⟩ := Tx.run_bind_eq_ok.mp hrest
  obtain ⟨hstatus, rfl⟩ := Tx.run_ensure_eq_ok.mp hensure₂
  rw [Tx.run_read_bind] at hrest
  obtain ⟨r, s₅, happly, hret⟩ := Tx.run_bind_eq_ok.mp hrest
  cases hret
  have hnext : nextLegStatus leg.status .assigned = some .assigned := by
    rw [of_decide_eq_true hstatus]
    rfl
  -- the row the claim works on is the order's, in a table that is in step
  have hrow : InStep s₂ ∧ leg ∈ s₂.legs ∧ leg.orderId = orderId := by
    rcases activeLegOr_ok hleg with ⟨hactive, rfl⟩ | ⟨hnone, hcreate⟩
    · exact ⟨hs₁, (activeLeg_some hactive).1, (activeLeg_some hactive).2.1⟩
    · obtain ⟨n, rfl, hinserted⟩ := createInHouseLeg_inserted hcreate
      obtain ⟨o, ho, hsource⟩ := apply_source rfl (Or.inl rfl) (by intro _ h; cases h) happly
      rw [getOrder, hinserted.frame] at ho
      obtain ⟨homem, rfl⟩ := getOrder_mem (s := s₁) ho
      refine ⟨?_, ?_, rfl⟩
      · exact hs₁.insert homem rfl hsource (activeLeg_none hnone) hinserted rfl rfl rfl
      · rw [hinserted.legs]
        exact List.mem_append_right _ (List.mem_singleton.mpr rfl)
  obtain ⟨hs₂, hmem, horder⟩ := hrow
  rcases apply_ok happly with ⟨hnone, -, -⟩ | ⟨next, -, hnext', rfl, -, -⟩
  · exact absurd (hnext.symm.trans hnone) (by simp)
  · obtain rfl : DeliveryLegStatus.assigned = next := Option.some.inj (hnext.symm.trans hnext')
    refine ⟨_, apply_stored hs₂ hmem (claimed_stands s₂ riderId leg) happly, ?_, ?_, ?_⟩
    · rw [movedLeg_orderId, ← horder]
    · rw [movedLeg_status]
    · rw [movedLeg_courierUserId, if_neg (by decide)]

/-- Codes are for the rider of the order. -/
theorem requestCode_iff {type : HandoffCodeType} {rawCode : String} :
    (∃ s', (requestCode d orderId riderId type rawCode).run s = .ok ((), s')) ↔
      ∃ o, getOrder s orderId = some o ∧ o.riderId = some riderId := by
  rw [requestCode, Tx.run_read_bind]
  constructor
  · rintro ⟨s', h⟩
    obtain ⟨_, s₁, hensure, -⟩ := Tx.run_bind_eq_ok.mp h
    obtain ⟨o, ho, hrider⟩ := (Option.any_eq_true _ _).mp (Tx.run_ensure_eq_ok.mp hensure).1
    exact ⟨o, ho, of_decide_eq_true hrider⟩
  · rintro ⟨o, ho, hrider⟩
    rw [ho, Option.any_some, decide_eq_true hrider, Tx.ensure_true, Tx.run_pure_bind]
    exact ⟨_, rfl⟩

/-! ## Runs -/

/-- The rider has the order, alone, and nobody else is offered it or given a code. -/
structure Theirs (d : Deployment) (s : State) (orderId riderId : Nat) : Prop where
  listed : ∃ o ∈ myOrders s riderId, o.id = orderId ∧ o.status = .riderAssigned
  alone : ∀ otherId, otherId ≠ riderId → ∀ o ∈ myOrders s otherId, o.id ≠ orderId
  gone : ∀ o ∈ availableOrders s, o.id ≠ orderId
  codes : ∀ otherId type rawCode,
    (∃ s', (requestCode d orderId otherId type rawCode).run s = .ok ((), s')) ↔ otherId = riderId

theorem theirs_of_accept (hs : Aligned s) (hs' : Aligned s')
    (h : (accept d orderId riderId).run s = .ok ((), s')) : Theirs d s' orderId riderId := by
  obtain ⟨leg, hleg, horder, hstatus, hcourier⟩ := accept_leg hs h
  obtain ⟨o, ho⟩ := hs'.inStep.getOrder_of_leg hleg
  obtain ⟨homem, hoid⟩ := getOrder_mem ho
  have hactive : isActive leg.status = true := by
    rw [hstatus]
    decide
  obtain ⟨hpaired, hrider⟩ := hs'.inStep.paired leg hleg hactive o homem hoid
  rw [hstatus] at hpaired
  rw [hcourier] at hrider
  rw [horder] at ho hoid
  refine ⟨⟨o, List.mem_filter.mpr ⟨homem, decide_eq_true hrider⟩, hoid, hpaired⟩, ?_, ?_, ?_⟩
  · intro otherId hother p hp hpid
    obtain ⟨hpmem, hprider⟩ := List.mem_filter.mp hp
    obtain rfl : o = p := hs'.inStep.orderIds.eq_of_key homem hpmem (hoid.trans hpid.symm)
    exact hother (Option.some.inj ((of_decide_eq_true hprider).symm.trans hrider))
  · intro p hp hpid
    obtain ⟨hpmem, hpool⟩ := List.mem_filter.mp hp
    obtain rfl : o = p := hs'.inStep.orderIds.eq_of_key homem hpmem (hoid.trans hpid.symm)
    simp only [inPool, hpaired, Bool.and_eq_true, decide_eq_true_eq] at hpool
    exact absurd hpool.1.1 (by decide)
  · intro otherId type rawCode
    rw [requestCode_iff]
    constructor
    · rintro ⟨p, hp, hother⟩
      obtain rfl : o = p := Option.some.inj (ho.symm.trans hp)
      exact Option.some.inj (hother.symm.trans hrider)
    · rintro rfl
      exact ⟨o, ho, hrider⟩

/-- **The pool is what riders can take**, in every run: an accept commits just
when the order is on offer and the rider has room, and the order is then
theirs alone. -/
theorem pool_is_takeable (d : Deployment) {s₀ : State} (h : Initial s₀) (as : List Action)
    (riderId : Nat) :
    ∀ o ∈ (run d s₀ as).orders,
      ((∃ s', (accept d o.id riderId).run (run d s₀ as) = .ok ((), s')) ↔
        o ∈ availableOrders (run d s₀ as) ∧ HasRoom (run d s₀ as) riderId) ∧
      ((∃ s', (accept d o.id riderId).run (run d s₀ as) = .ok ((), s')) →
        Theirs d (exec d (run d s₀ as) (.accept o.id riderId)) o.id riderId) := by
  intro o ho
  have horderly := run_orderly d h as
  constructor
  · rw [accept_iff horderly.aligned ho, availableOrders, List.mem_filter]
    exact and_congr_left fun _ => ⟨fun hpool => ⟨ho, hpool⟩, And.right⟩
  · rintro ⟨s', hrun⟩
    have hexec : exec d (run d s₀ as) (.accept o.id riderId) = s' := by
      rw [exec, tx, hrun]
    have hs' := (horderly.exec (d := d) (.accept o.id riderId)).aligned
    rw [hexec] at hs' ⊢
    exact theirs_of_accept horderly.aligned hs' hrun

/-- The courier drops out and the order goes to the pool, where rider 3 takes it. -/
theorem demo_pool_is_takeable :
    let s := run demo demoState (demoBooking ++ [.webhook 10 (some demoPayment) ["LOC1"]] ++
      demoBooked ++ [.cancelLeg 12 "assign_timeout" none])
    (availableOrders s).map OrderRow.id = [11] ∧
      ((myOrders (exec demo s (.accept 11 3)) 3).map OrderRow.id = [11]) ∧
      ∀ o ∈ s.orders, ((∃ s', (accept demo o.id 3).run s = .ok ((), s')) ↔
          o ∈ availableOrders s ∧ HasRoom s 3) ∧
        ((∃ s', (accept demo o.id 3).run s = .ok ((), s')) →
          Theirs demo (exec demo s (.accept o.id 3)) o.id 3) := by
  intro s
  refine ⟨by decide +kernel, by decide +kernel, ?_⟩
  exact pool_is_takeable demo demoState_initial _ 3

end Locoomo.RiderPool
