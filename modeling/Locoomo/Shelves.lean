import Locoomo.HistorySteps
import Locoomo.Lib.Slots

/-! Where a parcel lies. A parcel at a Node has a shelf number there, one that
no other parcel at the Node has, and a parcel on its way has none. -/

namespace Locoomo.Shelves

open Locoomo.Delivery Locoomo.Database Locoomo.Routing Locoomo.System Locoomo.OrderMoves
  Locoomo.Histories Relational

/-! ## The number handed out -/

def onShelf (orders : List OrderRow) (nodeId : Nat) : List OrderRow :=
  orders.filter fun o => o.shelfNodeId = some nodeId

/-- The positive numbers no parcel at the Node has. -/
def freeNumbers (orders : List OrderRow) (nodeId : Nat) : Set Nat :=
  {n | 0 < n ∧ ∀ o ∈ orders, o.shelfNodeId = some nodeId → o.shelfNumber ≠ some n}

theorem lowestFreeShelf_eq (orders : List OrderRow) (nodeId : Nat) :
    lowestFreeShelf orders nodeId
      = Slots.leastFree ((onShelf orders nodeId).map OrderRow.shelfNumber) := by
  rw [lowestFreeShelf, Slots.leastFree, List.length_map]
  congr 1
  funext n
  congr 1
  rw [Bool.eq_iff_iff, List.any_eq_true, decide_eq_true_eq, List.mem_map]
  simp only [decide_eq_true_eq, onShelf]

theorem freeNumbers_eq (orders : List OrderRow) (nodeId : Nat) :
    freeNumbers orders nodeId = Slots.free ((onShelf orders nodeId).map OrderRow.shelfNumber) := by
  ext n
  constructor
  · rintro ⟨hpos, hfree⟩
    refine ⟨hpos, fun hmem => ?_⟩
    obtain ⟨o, ho, hnumber⟩ := List.mem_map.mp hmem
    obtain ⟨ho, hnode⟩ := List.mem_filter.mp ho
    exact hfree o ho (of_decide_eq_true hnode) hnumber
  · rintro ⟨hpos, hfree⟩
    refine ⟨hpos, fun o ho hnode hnumber => hfree ?_⟩
    exact List.mem_map.mpr ⟨o, List.mem_filter.mpr ⟨ho, decide_eq_true hnode⟩, hnumber⟩

/-- **A number is always found**, the least free one, and one more than there
are parcels at most. -/
theorem lowestFreeShelf_spec (orders : List OrderRow) (nodeId : Nat) :
    ∃ n, lowestFreeShelf orders nodeId = some n ∧ IsLeast (freeNumbers orders nodeId) n ∧
      n ≤ (onShelf orders nodeId).length + 1 := by
  obtain ⟨n, hn, hleast, hle⟩ :=
    Slots.leastFree_spec ((onShelf orders nodeId).map OrderRow.shelfNumber)
  rw [List.length_map] at hle
  exact ⟨n, (lowestFreeShelf_eq orders nodeId).trans hn, by rwa [freeNumbers_eq], hle⟩

/-! ## The invariant -/

/-- The Node at which an order in this status lies on the shelf. -/
def shelfNode (o : OrderRow) : Option Nat :=
  match o.status with
  | .parcelReceivedAtOrigin | .riderAssigned | .readyForSenderCollection => some o.originNodeId
  | .readyForCollection => some o.destinationNodeId
  | _ => none

/-- Two orders under one number of one Node. -/
def Collides (o o' : OrderRow) : Prop :=
  ∃ nodeId n, o.shelfNodeId = some nodeId ∧ o.shelfNumber = some n ∧
    o'.shelfNodeId = some nodeId ∧ o'.shelfNumber = some n

structure Shelved (s : State) : Prop where
  orderIds : Distinct OrderRow.id s.orders
  orderIds_lt : ∀ o ∈ s.orders, o.id < s.nextId
  node : ∀ o ∈ s.orders, o.shelfNodeId = shelfNode o
  paired : ∀ o ∈ s.orders, o.shelfNodeId = none ↔ o.shelfNumber = none
  apart : ∀ o ∈ s.orders, ∀ o' ∈ s.orders, Collides o o' → o = o'

variable {s s' : State}

/-- Another row of the order takes its place, under a number no other has. -/
theorem Shelved.put (hs : Shelved s) {o r : OrderRow} (ho : o ∈ s.orders) (hid : r.id = o.id)
    (horders : s'.orders = put OrderRow.id r s.orders) (hnext : s'.nextId = s.nextId)
    (hnode : r.shelfNodeId = shelfNode r) (hpaired : r.shelfNodeId = none ↔ r.shelfNumber = none)
    (hapart : ∀ o' ∈ s.orders, o'.id ≠ o.id → ¬ Collides r o') : Shelved s' where
  orderIds := by rw [horders]; exact hs.orderIds.put r
  orderIds_lt := by
    intro x hx
    rw [horders] at hx
    rw [hnext]
    rcases mem_put.mp hx with ⟨rfl, -⟩ | ⟨hx, -⟩
    · rw [hid]
      exact hs.orderIds_lt o ho
    · exact hs.orderIds_lt x hx
  node := by
    intro x hx
    rw [horders] at hx
    rcases mem_put.mp hx with ⟨rfl, -⟩ | ⟨hx, -⟩
    · exact hnode
    · exact hs.node x hx
  paired := by
    intro x hx
    rw [horders] at hx
    rcases mem_put.mp hx with ⟨rfl, -⟩ | ⟨hx, -⟩
    · exact hpaired
    · exact hs.paired x hx
  apart := by
    intro x hx y hy hcollide
    rw [horders] at hx hy
    rcases mem_put.mp hx with ⟨rfl, -⟩ | ⟨hx', hxne⟩
    · rcases mem_put.mp hy with ⟨rfl, -⟩ | ⟨hy', hyne⟩
      · rfl
      · exact absurd hcollide (hapart y hy' (hid ▸ hyne))
    · rcases mem_put.mp hy with ⟨rfl, -⟩ | ⟨hy', -⟩
      · obtain ⟨nodeId, n, h₁, h₂, h₃, h₄⟩ := hcollide
        exact absurd ⟨nodeId, n, h₃, h₄, h₁, h₂⟩ (hapart x hx' (hid ▸ hxne))
      · exact hs.apart x hx' y hy' hcollide

/-! ## Every step keeps it -/

/-- The shelf follows the status along every edge. -/
theorem shelfNode_row (m : OrderMove) (orders : List OrderRow) {o : OrderRow}
    (hsource : o.status = m.source) (hnode : o.shelfNodeId = shelfNode o) :
    (m.row orders o).shelfNodeId = shelfNode (m.row orders o) := by
  rw [shelfNode, hsource] at hnode
  cases m <;> first | rfl | exact hnode

/-- The two shelf columns of the row a step writes: those of the order, none,
or the lowest free number of a Node. -/
theorem row_shelf (m : OrderMove) (orders : List OrderRow) (o : OrderRow) :
    (m.row orders o).shelfNodeId = o.shelfNodeId ∧
        (m.row orders o).shelfNumber = o.shelfNumber ∨
      (m.row orders o).shelfNodeId = none ∧ (m.row orders o).shelfNumber = none ∨
      ∃ nodeId, (m.row orders o).shelfNodeId = some nodeId ∧
        (m.row orders o).shelfNumber
          = lowestFreeShelf (put OrderRow.id (m.moved o) orders) nodeId := by
  cases hshelf : m.shelf with
  | keep => exact Or.inl (by rw [OrderMove.row, hshelf]; exact ⟨rfl, rfl⟩)
  | clear => exact Or.inr (Or.inl (by rw [OrderMove.row, hshelf]; exact ⟨rfl, rfl⟩))
  | placeAtOrigin =>
      exact Or.inr (Or.inr ⟨o.originNodeId, by rw [OrderMove.row, hshelf]; exact ⟨rfl, rfl⟩⟩)
  | placeAtDestination =>
      exact Or.inr (Or.inr ⟨o.destinationNodeId, by rw [OrderMove.row, hshelf]; exact ⟨rfl, rfl⟩⟩)

theorem Shelved.stepped (hs : Shelved s) {m : OrderMove} {o : OrderRow}
    (h : Stepped s s' m o) : Shelved s' := by
  have ho : o ∈ s.orders := (getOrder_mem h.found).1
  have hnode := shelfNode_row m s.orders h.source (hs.node o ho)
  have horders : s'.orders = Relational.put OrderRow.id (m.row s.orders o) s.orders := by
    rw [h.eq]
  have hnext : s'.nextId = s.nextId := by rw [h.eq]
  refine hs.put ho (m.row_id s.orders o) horders hnext hnode ?_ ?_
  · rcases row_shelf m s.orders o with ⟨hn, hk⟩ | ⟨hn, hk⟩ | ⟨nodeId, hn, hk⟩
    · rw [hn, hk]
      exact hs.paired o ho
    · simp [hn, hk]
    · obtain ⟨n, hlowest, -⟩ :=
        lowestFreeShelf_spec (Relational.put OrderRow.id (m.moved o) s.orders) nodeId
      simp [hn, hk, hlowest]
  · rintro o' ho' hne ⟨nodeId, n, h₁, h₂, h₃, h₄⟩
    rcases row_shelf m s.orders o with ⟨hn, hk⟩ | ⟨hn, -⟩ | ⟨nodeId', hn, hk⟩
    · rw [hn] at h₁
      rw [hk] at h₂
      exact hne (congrArg OrderRow.id (hs.apart o' ho' o ho ⟨nodeId, n, h₃, h₄, h₁, h₂⟩))
    · rw [hn] at h₁
      cases h₁
    · -- the number was free, and the other parcel was on the shelf already
      obtain rfl : nodeId' = nodeId := Option.some.inj (hn.symm.trans h₁)
      obtain ⟨k, hlowest, hleast, -⟩ :=
        lowestFreeShelf_spec (Relational.put OrderRow.id (m.moved o) s.orders) nodeId'
      obtain rfl : k = n := Option.some.inj (hlowest.symm.trans (hk.symm.trans h₂))
      exact hleast.1.2 o' (mem_put.mpr (Or.inr ⟨ho', hne⟩)) h₃ h₄

theorem Shelved.opened (hs : Shelved s) {o : OrderRow} {payload : OrderEventPayload}
    (h : Opened s s' o payload) : Shelved s' := by
  have horders : s'.orders = s.orders ++ [o] := by rw [h.eq]
  have hnext : s'.nextId = s.nextId + 1 := by rw [h.eq]
  have hfree : ∀ x, ¬ Collides o x ∧ ¬ Collides x o := by
    intro x
    constructor
    · rintro ⟨nodeId, n, hn, -⟩
      rw [h.shelfNodeId] at hn
      cases hn
    · rintro ⟨nodeId, n, -, -, hn, -⟩
      rw [h.shelfNodeId] at hn
      cases hn
  have hmem : ∀ {x}, x ∈ s'.orders → x ∈ s.orders ∨ x = o := by
    intro x hx
    rw [horders, List.mem_append, List.mem_singleton] at hx
    exact hx
  constructor
  · rw [horders]
    exact hs.orderIds.append_singleton fun x hx =>
      h.id ▸ Nat.ne_of_lt (hs.orderIds_lt x hx)
  · intro x hx
    rw [hnext]
    rcases hmem hx with hx | rfl
    · exact Nat.lt_succ_of_lt (hs.orderIds_lt x hx)
    · rw [h.id]
      exact Nat.lt_succ_self _
  · intro x hx
    rcases hmem hx with hx | rfl
    · exact hs.node x hx
    · rw [h.shelfNodeId, shelfNode, h.status]
  · intro x hx
    rcases hmem hx with hx | rfl
    · exact hs.paired x hx
    · simp [h.shelfNodeId, h.shelfNumber]
  · intro x hx y hy hcollide
    rcases hmem hx with hx | rfl
    · rcases hmem hy with hy | rfl
      · exact hs.apart x hx y hy hcollide
      · exact absurd hcollide (hfree x).2
    · exact absurd hcollide (hfree y).1

/-- **Every entry keeps the shelves.** -/
theorem Shelved.entry {asks : Bool} (hs : Shelved s) (h : Entry asks s s') : Shelved s' := by
  cases h with
  | aside h =>
      constructor
      · rw [h.orders]; exact hs.orderIds
      · rw [h.orders]; exact fun o ho => (hs.orderIds_lt o ho).trans_le h.nextId
      · rw [h.orders]; exact hs.node
      · rw [h.orders]; exact hs.paired
      · rw [h.orders]; exact hs.apart
  | opened h => exact hs.opened h
  | stepped h => exact hs.stepped h

theorem shelved_of_initial (h : Initial s) : Shelved s := by
  have hnone : ∀ {o}, o ∉ s.orders := by
    intro o
    rw [h.orders]
    exact List.not_mem_nil
  constructor
  · rw [h.orders]; exact List.nodup_nil
  · exact fun o ho => absurd ho hnone
  · exact fun o ho => absurd ho hnone
  · exact fun o ho => absurd ho hnone
  · exact fun o ho => absurd ho hnone

/-! ## Runs -/

/-- **Shelf positions are sound** in every reachable state: no two orders
share a number of a Node, both shelf columns are set or neither, they are set
exactly where the parcel is, and the next parcel finds the least free number. -/
theorem shelf_positions_sound (d : Deployment) {s₀ : State} (h : Initial s₀)
    (as : List System.Action) :
    (System.run d s₀ as).orders.Pairwise (fun o o' => ¬ Collides o o') ∧
      (∀ o ∈ (System.run d s₀ as).orders,
        (o.shelfNodeId = none ↔ o.shelfNumber = none) ∧ o.shelfNodeId = shelfNode o) ∧
      ∀ o nodeId, ∃ n, (placeOnShelf o nodeId).run (System.run d s₀ as)
          = .ok ({ o with shelfNodeId := some nodeId, shelfNumber := some n },
            putOrder (System.run d s₀ as)
              { o with shelfNodeId := some nodeId, shelfNumber := some n }) ∧
        IsLeast (freeNumbers (System.run d s₀ as).orders nodeId) n ∧
        n ≤ (onShelf (System.run d s₀ as).orders nodeId).length + 1 := by
  have hs : Shelved (System.run d s₀ as) :=
    Histories.run_keeps Shelved.entry (shelved_of_initial h) as
  refine ⟨?_, fun o ho => ⟨hs.paired o ho, hs.node o ho⟩, fun o nodeId => ?_⟩
  · refine hs.orderIds.nodup.imp_of_mem fun ho ho' hne hcollide => ?_
    exact hne (hs.apart _ ho _ ho' hcollide)
  · obtain ⟨n, hn, hleast, hle⟩ := lowestFreeShelf_spec (System.run d s₀ as).orders nodeId
    refine ⟨n, ?_, hleast, hle⟩
    rw [placeOnShelf, Tx.run_query, hn]

/-- A parcel dropped off at Node 1 lies there under number 1. -/
theorem demo_shelf_positions :
    let s := System.run demo demoState
      (demoBooking ++ [.webhook 10 (some demoPayment) ["LOC1"]] ++ demoBooked)
    s.orders.map (fun o => (o.shelfNodeId, o.shelfNumber)) = [(some 1, some 1)] ∧
      ∀ o ∈ s.orders,
        (o.shelfNodeId = none ↔ o.shelfNumber = none) ∧ o.shelfNodeId = shelfNode o :=
  ⟨by decide +kernel, (shelf_positions_sound demo demoState_initial _).2.1⟩

end Locoomo.Shelves
