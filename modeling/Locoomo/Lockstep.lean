import Locoomo.Soundness
import Locoomo.System

/-! Leg and order move in lockstep. The invariant `InStep` pairs the status
of an order with that of its active leg; one lemma says when moving a leg and
its order together keeps it, and every transaction is shown to be made of such
moves. -/

namespace Locoomo.Lockstep

open Locoomo.Delivery Locoomo.Database Locoomo.Routing Locoomo.Logistics Locoomo.Handoffs
  Locoomo.Payments Locoomo.System Locoomo.OrderMoves Locoomo.LegMoves Locoomo.Soundness Relational

/-! ## The invariant -/

structure InStep (s : State) : Prop extends Sound s where
  unclaimed : ∀ l ∈ s.legs, l.status = .requested → l.courierUserId = none
  paired : ∀ l ∈ s.legs, isActive l.status = true → ∀ o ∈ s.orders, o.id = l.orderId →
    o.status = pairedStatus l.status ∧ o.riderId = l.courierUserId
  covered : ∀ o ∈ s.orders, needsLeg o.status = true →
    ∃ l ∈ s.legs, l.orderId = o.id ∧ isActive l.status = true
  free : ∀ o ∈ s.orders, o.status = .awaitingDropOff ∨ o.status = .parcelReceivedAtOrigin →
    o.riderId = none

theorem pairedStatus_of_active {status : DeliveryLegStatus} (h : isActive status = true) :
    pairedStatus status = .parcelReceivedAtOrigin ∨ needsLeg (pairedStatus status) = true := by
  revert h
  cases status <;> decide

namespace InStep

variable {s s' : State}

/-- The invariant reads orders, legs and the id counter only. -/
theorem mono (hs : InStep s) (horders : s'.orders = s.orders) (hlegs : s'.legs = s.legs)
    (hnext : s.nextId ≤ s'.nextId) : InStep s' where
  toSound := hs.toSound.mono horders hlegs hnext
  unclaimed := by rw [hlegs]; exact hs.unclaimed
  paired := by rw [horders, hlegs]; exact hs.paired
  covered := by rw [horders, hlegs]; exact hs.covered
  free := by rw [horders]; exact hs.free

/-- **One move.** A leg row and the row of its order are replaced together;
the pair that results must be in step again. -/
theorem move (hs : InStep s) {row leg : DeliveryLegRow} {o o' : OrderRow}
    (hrow : row ∈ s.legs) (hactive : isActive row.status = true) (ho : o ∈ s.orders)
    (hoid : o.id = row.orderId) (hlegs : s'.legs = put DeliveryLegRow.id leg s.legs)
    (horders : s'.orders = put OrderRow.id o' s.orders) (hnext : s'.nextId = s.nextId)
    (hid : leg.id = row.id) (horderId : leg.orderId = row.orderId) (htype : leg.legType = .forward)
    (hcore : core o' = core o)
    (hpair : isActive leg.status = true →
      o'.status = pairedStatus leg.status ∧ o'.riderId = leg.courierUserId)
    (hend : isActive leg.status = false → needsLeg o'.status = false)
    (hfree : o'.status = .awaitingDropOff ∨ o'.status = .parcelReceivedAtOrigin →
      o'.riderId = none)
    (hunclaimed : leg.status = .requested → leg.courierUserId = none) : InStep s' := by
  have hoid' : o'.id = o.id := core_id hcore
  have hmemLeg : ∀ {l}, l ∈ s'.legs → l = leg ∨ (l ∈ s.legs ∧ l.id ≠ row.id) := by
    intro l hl
    rw [hlegs] at hl
    exact (mem_put.mp hl).imp And.left fun h => ⟨h.1, hid ▸ h.2⟩
  have hmemOrder : ∀ {p}, p ∈ s'.orders → p = o' ∨ (p ∈ s.orders ∧ p.id ≠ o'.id) := by
    intro p hp
    rw [horders] at hp
    exact (mem_put.mp hp).imp And.left fun h => h
  have hleg' : leg ∈ s'.legs := by
    rw [hlegs]
    exact mem_put.mpr (Or.inl ⟨rfl, row, hrow, hid.symm⟩)
  have hsound : Sound { s with orders := s'.orders } := hs.toSound.putOrder ho hoid' horders rfl rfl
  refine
    { toSound := hsound.putLeg hrow hid horderId htype (fun _ => hactive) hlegs rfl hnext
      unclaimed := ?_, paired := ?_, covered := ?_, free := ?_ }
  · intro l hl
    rcases hmemLeg hl with rfl | ⟨hl, -⟩
    · exact hunclaimed
    · exact hs.unclaimed l hl
  · intro l hl hact p hp hpid
    rcases hmemLeg hl with rfl | ⟨hl, hne⟩
    · rcases hmemOrder hp with rfl | ⟨hp, hpne⟩
      · exact hpair hact
      · exact absurd (by rw [hpid, horderId, ← hoid, hoid']) hpne
    · rcases hmemOrder hp with rfl | ⟨hp, hpne⟩
      · have := hs.others_over hrow hactive hl hne (by rw [← hpid, hoid', hoid])
        simp [this] at hact
      · exact hs.paired l hl hact p hp hpid
  · intro p hp hneeds
    rcases hmemOrder hp with rfl | ⟨hp, hpne⟩
    · cases hact : isActive leg.status with
      | true => exact ⟨leg, hleg', by rw [horderId, hoid', hoid], hact⟩
      | false => simp [hend hact] at hneeds
    · obtain ⟨l, hl, hlo, hact⟩ := hs.covered p hp hneeds
      have hlne : l.id ≠ leg.id := by
        intro heq
        have hlr : l = row := hs.legIds.eq_of_key hl hrow (heq.trans hid)
        exact hpne (by rw [← hlo, hlr, ← hoid, hoid'])
      refine ⟨l, ?_, hlo, hact⟩
      rw [hlegs]
      exact mem_put.mpr (Or.inr ⟨hl, hlne⟩)
  · intro p hp
    rcases hmemOrder hp with rfl | ⟨hp, -⟩
    · exact hfree
    · exact hs.free p hp

/-- A requested leg for an order that waits at its origin with none. -/
theorem insert (hs : InStep s) {leg : DeliveryLegRow} {o : OrderRow} (ho : o ∈ s.orders)
    (hoid : o.id = leg.orderId) (hwaiting : o.status = .parcelReceivedAtOrigin)
    (hnone : ∀ l ∈ s.legs, l.orderId = leg.orderId → isActive l.status = false)
    (hleg : Inserted s s' leg) (htype : leg.legType = .forward) (hstatus : leg.status = .requested)
    (hrider : leg.courierUserId = none) : InStep s' := by
  have horders : s'.orders = s.orders := by rw [hleg.frame]
  have hmem : ∀ {l}, l ∈ s'.legs ↔ l ∈ s.legs ∨ l = leg := by
    intro l
    rw [hleg.legs, List.mem_append, List.mem_singleton]
  refine
    { toSound := hs.toSound.insert ⟨o, ho, hoid⟩ hnone hleg htype
      unclaimed := ?_, paired := ?_, covered := ?_
      free := by rw [horders]; exact hs.free }
  · intro l hl
    rcases hmem.mp hl with hl | rfl
    · exact hs.unclaimed l hl
    · exact fun _ => hrider
  · intro l hl hact p hp hpid
    rw [horders] at hp
    rcases hmem.mp hl with hl | rfl
    · exact hs.paired l hl hact p hp hpid
    · obtain rfl : p = o := hs.orderIds.eq_of_key hp ho (hpid.trans hoid.symm)
      rw [hstatus, hrider]
      exact ⟨hwaiting, hs.free p hp (Or.inr hwaiting)⟩
  · intro p hp hneeds
    rw [horders] at hp
    obtain ⟨l, hl, hlo, hact⟩ := hs.covered p hp hneeds
    exact ⟨l, hmem.mpr (Or.inl hl), hlo, hact⟩

/-- A move of an order no leg is active for, between statuses that need none. -/
theorem moveOrder (hs : InStep s) {orderId : Nat} {o o' : OrderRow} (hm : Moved s s' orderId o o')
    (hsource : o.status ≠ .parcelReceivedAtOrigin) (hneeds : needsLeg o.status = false)
    (hneeds' : needsLeg o'.status = false) (hrider : o'.riderId = o.riderId)
    (hfree : o'.status = .awaitingDropOff ∨ o'.status = .parcelReceivedAtOrigin →
      o.status = .awaitingDropOff) : InStep s' := by
  have hlegs : s'.legs = s.legs := by rw [hm.frame]
  have hnext : s'.nextId = s.nextId := by rw [hm.frame]
  have hoid : o'.id = o.id := core_id hm.same
  have hmem : ∀ {p}, p ∈ s'.orders → p = o' ∨ (p ∈ s.orders ∧ p.id ≠ o'.id) := by
    intro p hp
    rw [hm.orders] at hp
    exact (mem_put.mp hp).imp And.left fun h => h
  have hidle : ∀ l ∈ s.legs, l.orderId = o.id → isActive l.status = false := by
    intro l hl hlo
    by_contra hact
    have hact' : isActive l.status = true := by simpa using hact
    have hpair := (hs.paired l hl hact' o hm.mem hlo.symm).1
    rcases pairedStatus_of_active hact' with h | h
    · exact hsource (hpair.trans h)
    · rw [← hpair, hneeds] at h
      cases h
  refine
    { toSound := hs.toSound.putOrder hm.mem hoid hm.orders hlegs hnext
      unclaimed := hlegs ▸ hs.unclaimed, paired := ?_, covered := ?_, free := ?_ }
  · intro l hl hact p hp hpid
    rw [hlegs] at hl
    rcases hmem hp with rfl | ⟨hp, -⟩
    · have := hidle l hl (by rw [← hpid, hoid])
      simp [this] at hact
    · exact hs.paired l hl hact p hp hpid
  · intro p hp hn
    rw [hlegs]
    rcases hmem hp with rfl | ⟨hp, -⟩
    · simp [hneeds'] at hn
    · exact hs.covered p hp hn
  · intro p hp hstatus
    rcases hmem hp with rfl | ⟨hp, -⟩
    · rw [hrider]
      exact hs.free o hm.mem (Or.inl (hfree hstatus))
    · exact hs.free p hp hstatus

/-- A freshly placed order. -/
theorem place (hs : InStep s) {o : OrderRow} (horders : s'.orders = s.orders ++ [o])
    (hlegs : s'.legs = s.legs) (hid : o.id = s.nextId) (hnext : s'.nextId = s.nextId + 1)
    (hstatus : o.status = .awaitingDropOff) (hrider : o.riderId = none) : InStep s' := by
  have hmem : ∀ {p}, p ∈ s'.orders ↔ p ∈ s.orders ∨ p = o := by
    intro p
    rw [horders, List.mem_append, List.mem_singleton]
  refine
    { toSound := hs.toSound.place horders hlegs hid hnext, unclaimed := hlegs ▸ hs.unclaimed
      paired := ?_, covered := ?_, free := ?_ }
  · intro l hl hact p hp hpid
    rw [hlegs] at hl
    rcases hmem.mp hp with hp | rfl
    · exact hs.paired l hl hact p hp hpid
    · exact absurd (hpid.symm.trans hid) (hs.orderId_ne_nextId hl)
  · intro p hp hneeds
    rw [hlegs]
    rcases hmem.mp hp with hp | rfl
    · exact hs.covered p hp hneeds
    · rw [hstatus] at hneeds
      cases hneeds
  · intro p hp hst
    rcases hmem.mp hp with hp | rfl
    · exact hs.free p hp hst
    · exact hrider

end InStep

end Locoomo.Lockstep
