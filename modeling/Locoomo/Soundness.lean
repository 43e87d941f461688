import Locoomo.LegMoves

/-! The part of the invariants that needs no agreement between a leg and its
order: ids are drawn once, legs belong to orders, and an order has one active
leg at most. It survives everything the couriers' answers can do, in whatever
order they come. -/

namespace Locoomo.Soundness

open Locoomo.Delivery Locoomo.Database Locoomo.Logistics Locoomo.OrderMoves Locoomo.LegMoves
  Relational

structure Sound (s : State) : Prop where
  orderIds : Distinct OrderRow.id s.orders
  legIds : Distinct DeliveryLegRow.id s.legs
  orderIds_lt : ∀ o ∈ s.orders, o.id < s.nextId
  legIds_lt : ∀ l ∈ s.legs, l.id < s.nextId
  legOrder : ∀ l ∈ s.legs, ∃ o ∈ s.orders, o.id = l.orderId
  forward : ∀ l ∈ s.legs, l.legType = .forward
  oneActive : ∀ l ∈ s.legs, ∀ l' ∈ s.legs, l.orderId = l'.orderId → isActive l.status = true →
    isActive l'.status = true → l = l'

/-- The entity in memory stands for the row of its id: same identity and
status, and the row's rider unless the event is about to assign one. -/
structure Stands (leg row : DeliveryLegRow) (event : DeliveryEventType) : Prop where
  id : leg.id = row.id
  orderId : leg.orderId = row.orderId
  legType : leg.legType = row.legType
  providerKey : leg.providerKey = row.providerKey
  status : leg.status = row.status
  courier : event ≠ .assigned → leg.courierUserId = row.courierUserId

/-- The entity and the row differ in details only. -/
structure Twin (leg row : DeliveryLegRow) : Prop where
  id : leg.id = row.id
  orderId : leg.orderId = row.orderId
  legType : leg.legType = row.legType
  providerKey : leg.providerKey = row.providerKey
  status : leg.status = row.status
  courier : leg.courierUserId = row.courierUserId

theorem Twin.refl (leg : DeliveryLegRow) : Twin leg leg := ⟨rfl, rfl, rfl, rfl, rfl, rfl⟩

theorem Twin.stands {leg row : DeliveryLegRow} (h : Twin leg row) (event : DeliveryEventType) :
    Stands leg row event :=
  ⟨h.id, h.orderId, h.legType, h.providerKey, h.status, fun _ => h.courier⟩

/-- The row behind a relabelled one. -/
theorem twin_of_mem {s s' : State} {p : DeliveryLegRow → Bool} {f : DeliveryLegRow → DeliveryLegRow}
    (hlegs : s'.legs = update p f s.legs) (htwin : ∀ l ∈ s.legs, p l = true → Twin (f l) l)
    {l' : DeliveryLegRow} (hl' : l' ∈ s'.legs) : ∃ l ∈ s.legs, Twin l' l := by
  rw [hlegs] at hl'
  obtain ⟨l, hl, rfl⟩ := mem_update.mp hl'
  refine ⟨l, hl, ?_⟩
  split
  · exact htwin l hl ‹_›
  · exact Twin.refl l

namespace Sound

variable {s s' : State}

theorem leg_fresh (hs : Sound s) : ∀ leg ∈ s.legs, leg.id ≠ s.nextId :=
  fun leg hleg => Nat.ne_of_lt (hs.legIds_lt leg hleg)

/-- The order of a leg, as the database looks it up. -/
theorem getOrder_of_leg (hs : Sound s) {l : DeliveryLegRow} (hl : l ∈ s.legs) :
    ∃ o, getOrder s l.orderId = some o := by
  obtain ⟨o, ho, hid⟩ := hs.legOrder l hl
  exact ⟨o, hid ▸ hs.orderIds.get_eq ho⟩

/-- Beside an active leg every other leg of its order is over. -/
theorem others_over (hs : Sound s) {row l : DeliveryLegRow} (hrow : row ∈ s.legs)
    (hactive : isActive row.status = true) (hl : l ∈ s.legs) (hne : l.id ≠ row.id)
    (hlo : l.orderId = row.orderId) : isActive l.status = false := by
  by_contra hact
  have heq := hs.oneActive l hl row hrow hlo (by simpa using hact) hactive
  exact hne (by rw [heq])

/-- An order has one active leg at most. -/
theorem oneLeg (hs : Sound s) (orderId : Nat) :
    (s.legs.filter (isActiveOf orderId)).length ≤ 1 := by
  refine filter_length_le_one hs.legIds.nodup fun a ha b hb hpa hpb => ?_
  simp only [isActiveOf, Bool.and_eq_true, decide_eq_true_eq] at hpa hpb
  exact hs.oneActive a ha b hb (hpa.1.trans hpb.1.symm) (decide_eq_true hpa.2)
    (decide_eq_true hpb.2)

/-- Only orders, legs and the id counter matter. -/
theorem mono (hs : Sound s) (horders : s'.orders = s.orders) (hlegs : s'.legs = s.legs)
    (hnext : s.nextId ≤ s'.nextId) : Sound s' where
  orderIds := horders ▸ hs.orderIds
  legIds := hlegs ▸ hs.legIds
  orderIds_lt := fun o ho => Nat.lt_of_lt_of_le (hs.orderIds_lt o (horders ▸ ho)) hnext
  legIds_lt := fun l hl => Nat.lt_of_lt_of_le (hs.legIds_lt l (hlegs ▸ hl)) hnext
  legOrder := by rw [horders, hlegs]; exact hs.legOrder
  forward := by rw [hlegs]; exact hs.forward
  oneActive := by rw [hlegs]; exact hs.oneActive

/-- An order's row is replaced. -/
theorem putOrder (hs : Sound s) {o o' : OrderRow} (ho : o ∈ s.orders) (hid : o'.id = o.id)
    (horders : s'.orders = put OrderRow.id o' s.orders) (hlegs : s'.legs = s.legs)
    (hnext : s'.nextId = s.nextId) : Sound s' where
  orderIds := by
    rw [horders]
    exact hs.orderIds.put o'
  legIds := hlegs ▸ hs.legIds
  orderIds_lt := by
    intro p hp
    rw [horders] at hp
    rw [hnext]
    rcases mem_put.mp hp with ⟨rfl, -⟩ | ⟨hp, -⟩
    · rw [hid]
      exact hs.orderIds_lt o ho
    · exact hs.orderIds_lt p hp
  legIds_lt := by
    rw [hlegs, hnext]
    exact hs.legIds_lt
  legOrder := by
    intro l hl
    rw [hlegs] at hl
    obtain ⟨q, hq, hqid⟩ := hs.legOrder l hl
    rw [horders]
    by_cases hqo : q.id = o'.id
    · exact ⟨o', mem_put.mpr (Or.inl ⟨rfl, o, ho, hid.symm⟩), hqo.symm.trans hqid⟩
    · exact ⟨q, mem_put.mpr (Or.inr ⟨hq, hqo⟩), hqid⟩
  forward := by rw [hlegs]; exact hs.forward
  oneActive := by rw [hlegs]; exact hs.oneActive

/-- A leg's row is replaced; a leg that was over stays over. -/
theorem putLeg (hs : Sound s) {row leg : DeliveryLegRow} (hrow : row ∈ s.legs)
    (hid : leg.id = row.id) (horderId : leg.orderId = row.orderId) (htype : leg.legType = .forward)
    (hactive : isActive leg.status = true → isActive row.status = true)
    (hlegs : s'.legs = put DeliveryLegRow.id leg s.legs) (horders : s'.orders = s.orders)
    (hnext : s'.nextId = s.nextId) : Sound s' := by
  have hmem : ∀ {l}, l ∈ s'.legs → l = leg ∨ (l ∈ s.legs ∧ l.id ≠ row.id) := by
    intro l hl
    rw [hlegs] at hl
    exact (mem_put.mp hl).imp And.left fun h => ⟨h.1, hid ▸ h.2⟩
  refine
    { orderIds := horders ▸ hs.orderIds, legIds := ?_
      orderIds_lt := by rw [horders, hnext]; exact hs.orderIds_lt
      legIds_lt := ?_, legOrder := ?_, forward := ?_, oneActive := ?_ }
  · rw [hlegs]
    exact hs.legIds.put leg
  · intro l hl
    rw [hnext]
    rcases hmem hl with rfl | ⟨hl, -⟩
    · rw [hid]
      exact hs.legIds_lt row hrow
    · exact hs.legIds_lt l hl
  · intro l hl
    rw [horders]
    rcases hmem hl with rfl | ⟨hl, -⟩
    · rw [horderId]
      exact hs.legOrder row hrow
    · exact hs.legOrder l hl
  · intro l hl
    rcases hmem hl with rfl | ⟨hl, -⟩
    · exact htype
    · exact hs.forward l hl
  · intro l hl l' hl' hsame hact hact'
    rcases hmem hl with rfl | ⟨hl, hne⟩
    · rcases hmem hl' with rfl | ⟨hl', hne'⟩
      · rfl
      · have := hs.others_over hrow (hactive hact) hl' hne' (by rw [← hsame, horderId])
        simp [this] at hact'
    · rcases hmem hl' with rfl | ⟨hl', -⟩
      · have := hs.others_over hrow (hactive hact') hl hne (by rw [hsame, horderId])
        simp [this] at hact
      · exact hs.oneActive l hl l' hl' hsame hact hact'

/-- A leg for an order that has none. -/
theorem insert (hs : Sound s) {leg : DeliveryLegRow} (ho : ∃ o ∈ s.orders, o.id = leg.orderId)
    (hnone : ∀ l ∈ s.legs, l.orderId = leg.orderId → isActive l.status = false)
    (hleg : Inserted s s' leg) (htype : leg.legType = .forward) : Sound s' := by
  have horders : s'.orders = s.orders := by rw [hleg.frame]
  have hmem : ∀ {l}, l ∈ s'.legs ↔ l ∈ s.legs ∨ l = leg := by
    intro l
    rw [hleg.legs, List.mem_append, List.mem_singleton]
  refine
    { orderIds := horders ▸ hs.orderIds, legIds := ?_, orderIds_lt := ?_, legIds_lt := ?_
      legOrder := ?_, forward := ?_, oneActive := ?_ }
  · rw [hleg.legs]
    exact hs.legIds.append_singleton fun l hl => hleg.id ▸ hs.leg_fresh l hl
  · intro p hp
    rw [horders] at hp
    exact hleg.nextId ▸ Nat.lt_succ_of_lt (hs.orderIds_lt p hp)
  · intro l hl
    rw [hleg.nextId]
    rcases hmem.mp hl with hl | rfl
    · exact Nat.lt_succ_of_lt (hs.legIds_lt l hl)
    · rw [hleg.id]
      exact Nat.lt_succ_self _
  · intro l hl
    rw [horders]
    rcases hmem.mp hl with hl | rfl
    · exact hs.legOrder l hl
    · exact ho
  · intro l hl
    rcases hmem.mp hl with hl | rfl
    · exact hs.forward l hl
    · exact htype
  · intro l hl l' hl' hsame hact hact'
    rcases hmem.mp hl with hl | rfl
    · rcases hmem.mp hl' with hl' | rfl
      · exact hs.oneActive l hl l' hl' hsame hact hact'
      · simp [hnone l hl hsame] at hact
    · rcases hmem.mp hl' with hl' | rfl
      · simp [hnone l' hl' hsame.symm] at hact'
      · rfl

/-- A freshly placed order. -/
theorem place (hs : Sound s) {o : OrderRow} (horders : s'.orders = s.orders ++ [o])
    (hlegs : s'.legs = s.legs) (hid : o.id = s.nextId) (hnext : s'.nextId = s.nextId + 1) :
    Sound s' := by
  have hmem : ∀ {p}, p ∈ s'.orders ↔ p ∈ s.orders ∨ p = o := by
    intro p
    rw [horders, List.mem_append, List.mem_singleton]
  refine
    { orderIds := ?_, legIds := hlegs ▸ hs.legIds, orderIds_lt := ?_, legIds_lt := ?_
      legOrder := ?_, forward := hlegs ▸ hs.forward, oneActive := hlegs ▸ hs.oneActive }
  · rw [horders]
    exact hs.orderIds.append_singleton fun p hp => hid ▸ Nat.ne_of_lt (hs.orderIds_lt p hp)
  · intro p hp
    rw [hnext]
    rcases hmem.mp hp with hp | rfl
    · exact Nat.lt_succ_of_lt (hs.orderIds_lt p hp)
    · rw [hid]
      exact Nat.lt_succ_self _
  · intro l hl
    rw [hlegs] at hl
    exact hnext ▸ Nat.lt_succ_of_lt (hs.legIds_lt l hl)
  · intro l hl
    rw [hlegs] at hl
    obtain ⟨q, hq, hqid⟩ := hs.legOrder l hl
    exact ⟨q, hmem.mpr (Or.inl hq), hqid⟩

/-- A new order belongs to no leg yet. -/
theorem orderId_ne_nextId (hs : Sound s) {l : DeliveryLegRow} (hl : l ∈ s.legs) :
    l.orderId ≠ s.nextId := by
  obtain ⟨q, hq, hqid⟩ := hs.legOrder l hl
  exact hqid ▸ Nat.ne_of_lt (hs.orderIds_lt q hq)

/-- Details of legs may be rewritten freely. -/
theorem relabel (hs : Sound s) {p : DeliveryLegRow → Bool} {f : DeliveryLegRow → DeliveryLegRow}
    (hlegs : s'.legs = update p f s.legs) (htwin : ∀ l ∈ s.legs, p l = true → Twin (f l) l)
    (horders : s'.orders = s.orders) (hnext : s'.nextId = s.nextId) : Sound s' := by
  have hids : Distinct DeliveryLegRow.id s'.legs := by
    rw [hlegs]
    exact hs.legIds.update fun l hl hp => (htwin l hl hp).id
  refine
    { orderIds := horders ▸ hs.orderIds, legIds := hids
      orderIds_lt := by rw [horders, hnext]; exact hs.orderIds_lt
      legIds_lt := ?_, legOrder := ?_, forward := ?_, oneActive := ?_ }
  · intro l' hl'
    obtain ⟨l, hl, ht⟩ := twin_of_mem hlegs htwin hl'
    rw [ht.id, hnext]
    exact hs.legIds_lt l hl
  · intro l' hl'
    obtain ⟨l, hl, ht⟩ := twin_of_mem hlegs htwin hl'
    rw [ht.orderId, horders]
    exact hs.legOrder l hl
  · intro l' hl'
    obtain ⟨l, hl, ht⟩ := twin_of_mem hlegs htwin hl'
    rw [ht.legType]
    exact hs.forward l hl
  · intro l₁ hl₁ l₂ hl₂ hsame hact₁ hact₂
    obtain ⟨k₁, hk₁, ht₁⟩ := twin_of_mem hlegs htwin hl₁
    obtain ⟨k₂, hk₂, ht₂⟩ := twin_of_mem hlegs htwin hl₂
    rw [ht₁.orderId, ht₂.orderId] at hsame
    rw [ht₁.status] at hact₁
    rw [ht₂.status] at hact₂
    have heq := hs.oneActive k₁ hk₁ k₂ hk₂ hsame hact₁ hact₂
    exact hids.eq_of_key hl₁ hl₂ (by rw [ht₁.id, ht₂.id, heq])

end Sound

end Locoomo.Soundness
