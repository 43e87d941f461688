import Locoomo.Database

/-! What the operations of the order state machine do: each moves one order
along one edge, keeps the columns fixed at checkout, and succeeds whenever the
order stands at the edge's source. -/

namespace Locoomo.OrderMoves

open Locoomo.Delivery Locoomo.Database Relational

/-- The columns of an order that nothing changes once it is placed. -/
def core (o : OrderRow) : OrderRow :=
  { o with status := .awaitingDropOff, riderId := none, shelfNodeId := none, shelfNumber := none }

/-- `s'` is `s` with the row `o` of one order replaced by `o'`, and the
timeline grown. -/
structure Moved (s s' : State) (orderId : Nat) (o o' : OrderRow) : Prop where
  found : getOrder s orderId = some o
  orders : s'.orders = put OrderRow.id o' s.orders
  same : core o' = core o
  frame : s' = { s with orders := s'.orders, orderEvents := s'.orderEvents }

/-- The transaction `x` moves the order from `source` to `target`: a commit
has moved it so, and it commits when the order is at `source` and passes
`guard`. -/
structure Moves (x : Db OrderRow) (orderId : Nat) (source target : OrderStatus)
    (guard : OrderRow → Bool) (rider : Option Nat → Option Nat) : Prop where
  ok : ∀ {s o' s'}, x.run s = .ok (o', s') → ∃ o, Moved s s' orderId o o' ∧ o.status = source ∧
    guard o = true ∧ o'.status = target ∧ o'.riderId = rider o.riderId
  total : ∀ {s o}, getOrder s orderId = some o → o.status = source → guard o = true →
    ∃ o' s', x.run s = .ok (o', s')

theorem core_id {o o' : OrderRow} (h : core o' = core o) : o'.id = o.id := by
  simpa [core] using congrArg OrderRow.id h

theorem getOrder_mem {s : State} {orderId : Nat} {o : OrderRow} (h : getOrder s orderId = some o) :
    o ∈ s.orders ∧ o.id = orderId := get_some h

namespace Moved

variable {s s' s'' : State} {orderId : Nat} {o o' o'' : OrderRow}

theorem mem (h : Moved s s' orderId o o') : o ∈ s.orders := (getOrder_mem h.found).1

theorem id_eq (h : Moved s s' orderId o o') : o.id = orderId := (getOrder_mem h.found).2

theorem id_eq' (h : Moved s s' orderId o o') : o'.id = orderId :=
  (core_id h.same).trans h.id_eq

theorem found' (h : Moved s s' orderId o o') : getOrder s' orderId = some o' := by
  have hrow : ∃ y ∈ s.orders, y.id = o'.id := ⟨o, h.mem, (core_id h.same).symm⟩
  rw [getOrder, h.orders, ← h.id_eq']
  exact get_put_self hrow

theorem trans (h : Moved s s' orderId o o') (h' : Moved s' s'' orderId o' o'') :
    Moved s s'' orderId o o'' where
  found := h.found
  orders := by rw [h'.orders, h.orders, put_put (core_id h'.same)]
  same := h'.same.trans h.same
  frame := by rw [h'.frame, h.frame]

/-- A second write of the same row that only touches its shelf. -/
theorem shelve (h : Moved s s' orderId o o') (h'' : core o'' = core o') :
    Moved s (putOrder s' o'') orderId o o'' where
  found := h.found
  orders := by
    change put OrderRow.id o'' s'.orders = _
    rw [h.orders, put_put (core_id h'')]
  same := h''.trans h.same
  frame := by
    rw [h.frame]
    rfl

end Moved

/-! ## The shared shape -/

theorem moveOrder_run_ok {orderId : Nat} {source target : OrderStatus} {guard : OrderRow → Bool}
    {set : OrderRow → OrderRow} {type : OrderEventType} {payload : OrderEventPayload}
    {s s' : State} {o' : OrderRow}
    (h : (moveOrder orderId source target guard set type payload).run s = .ok (o', s')) :
    ∃ o, getOrder s orderId = some o ∧ o.status = source ∧ guard o = true ∧
      o' = { set o with status := target } ∧
      s' = { putOrder s o' with
        orderEvents := s.orderEvents ++ [⟨orderId, type, payload, s.now⟩] } := by
  obtain ⟨_, s₁, hlegal, h⟩ := Tx.run_bind_eq_ok.mp h
  obtain ⟨-, rfl⟩ := Tx.run_ensure_eq_ok.mp hlegal
  cases hrow : (getOrder s orderId).filter (fun o => decide (o.status = source) && guard o) with
  | none =>
      simp only [Tx.run_query_bind, hrow, Tx.expect_none, Tx.run_reject_bind, reduceCtorEq] at h
  | some o =>
      obtain ⟨ho, hguard⟩ := Option.filter_eq_some_iff.mp hrow
      simp only [Bool.and_eq_true, decide_eq_true_eq] at hguard
      simp only [Tx.run_query_bind, hrow, Tx.expect_some, Tx.run_pure_bind, appendEvent,
        Tx.run_write_bind, Tx.run_pure, Except.ok.injEq, Prod.mk.injEq] at h
      obtain ⟨rfl, rfl⟩ := h
      exact ⟨o, ho, hguard.1, hguard.2, rfl, rfl⟩

theorem moveOrder_moves {orderId : Nat} {source target : OrderStatus} {guard : OrderRow → Bool}
    {set : OrderRow → OrderRow} {rider : Option Nat → Option Nat} (type : OrderEventType)
    (payload : OrderEventPayload) (hlegal : target ∈ orderTransitions source)
    (hcore : ∀ o, core (set o) = core o) (hrider : ∀ o, (set o).riderId = rider o.riderId) :
    Moves (moveOrder orderId source target guard set type payload) orderId source target guard
      rider where
  ok := by
    intro s o' s' h
    obtain ⟨o, ho, hstatus, hguard, rfl, rfl⟩ := moveOrder_run_ok h
    exact ⟨o, ⟨ho, rfl, hcore o, rfl⟩, hstatus, hguard, rfl, hrider o⟩
  total := by
    intro s o ho hstatus hguard
    have hrow : (getOrder s orderId).filter (fun o => decide (o.status = source) && guard o)
        = some o := by
      rw [Option.filter_eq_some_iff]
      exact ⟨ho, by simp [hstatus, hguard]⟩
    simp only [moveOrder, assertLegalTransition, decide_eq_true hlegal, Tx.ensure_true,
      Tx.run_pure_bind, Tx.run_query_bind, hrow, Tx.expect_some, appendEvent, Tx.run_write_bind,
      Tx.run_pure]
    exact ⟨_, _, rfl⟩

/-- A move followed by one that starts where it ended. -/
theorem Moves.andThen {x y : Db OrderRow} {orderId : Nat} {source middle target : OrderStatus}
    {guard : OrderRow → Bool} (hx : Moves x orderId source middle guard id)
    (hy : Moves y orderId middle target (fun _ => true) id) :
    Moves (x >>= fun _ => y) orderId source target guard id where
  ok := by
    intro s o'' s'' h
    obtain ⟨o', s', h₁, h₂⟩ := Tx.run_bind_eq_ok.mp h
    obtain ⟨o, hm, hsource, hguard, -, hrider⟩ := hx.ok h₁
    obtain ⟨p, hm', -, -, htarget, hrider'⟩ := hy.ok h₂
    obtain rfl : p = o' := by
      have := hm'.found
      rw [hm.found'] at this
      exact (Option.some.inj this).symm
    exact ⟨o, hm.trans hm', hsource, hguard, htarget, hrider'.trans hrider⟩
  total := by
    intro s o ho hsource hguard
    obtain ⟨o', s', h₁⟩ := hx.total ho hsource hguard
    obtain ⟨p, hm, -, -, hmiddle, -⟩ := hx.ok h₁
    obtain ⟨o'', s'', h₂⟩ := hy.total hm.found' hmiddle rfl
    exact ⟨o'', s'', Tx.run_bind_eq_ok.mpr ⟨o', s', h₁, h₂⟩⟩

/-- A move followed by a write of the order's shelf columns. -/
theorem Moves.andShelve {x : Db OrderRow} {orderId : Nat} {source target : OrderStatus}
    {guard : OrderRow → Bool} {rider : Option Nat → Option Nat} {y : OrderRow → Db OrderRow}
    (shelf : State → OrderRow → OrderRow) (hx : Moves x orderId source target guard rider)
    (hy : ∀ o s, (y o).run s = .ok (shelf s o, putOrder s (shelf s o)))
    (hcore : ∀ s o, core (shelf s o) = core o) (hstatus : ∀ s o, (shelf s o).status = o.status)
    (hrider : ∀ s o, (shelf s o).riderId = o.riderId) :
    Moves (x >>= y) orderId source target guard rider where
  ok := by
    intro s o'' s'' h
    obtain ⟨o', s', h₁, h₂⟩ := Tx.run_bind_eq_ok.mp h
    obtain ⟨o, hm, hsource, hguard, htarget, hr⟩ := hx.ok h₁
    rw [hy] at h₂
    obtain ⟨rfl, rfl⟩ : shelf s' o' = o'' ∧ putOrder s' (shelf s' o') = s'' := by
      simpa using h₂
    exact ⟨o, hm.shelve (hcore s' o'), hsource, hguard, (hstatus s' o').trans htarget,
      (hrider s' o').trans hr⟩
  total := by
    intro s o ho hsource hguard
    obtain ⟨o', s', h₁⟩ := hx.total ho hsource hguard
    exact ⟨_, _, Tx.run_bind_eq_ok.mpr ⟨o', s', h₁, hy o' s'⟩⟩

/-! ## The operations -/

abbrev anyOrder : OrderRow → Bool := fun _ => true

theorem transition_moves {orderId : Nat} {source target : OrderStatus} (type : OrderEventType)
    (payload : OrderEventPayload) (hlegal : target ∈ orderTransitions source) :
    Moves (transition orderId source target type payload) orderId source target anyOrder id :=
  moveOrder_moves type payload hlegal (fun _ => rfl) (fun _ => rfl)

theorem placed_moves {x : Db OrderRow} {orderId : Nat} {source target : OrderStatus}
    {nodeId : OrderRow → Nat} (hx : Moves x orderId source target anyOrder id) :
    Moves (x >>= fun o => placeOnShelf o (nodeId o)) orderId source target anyOrder id :=
  hx.andShelve
    (fun s o => { o with
      shelfNodeId := some (nodeId o), shelfNumber := lowestFreeShelf s.orders (nodeId o) })
    (fun _ _ => rfl) (fun _ _ => rfl) (fun _ _ => rfl) (fun _ _ => rfl)

theorem cleared_moves {x : Db OrderRow} {orderId : Nat} {source target : OrderStatus}
    (hx : Moves x orderId source target anyOrder id) :
    Moves (x >>= clearShelf) orderId source target anyOrder id :=
  hx.andShelve (fun _ o => { o with shelfNodeId := none, shelfNumber := none })
    (fun _ _ => rfl) (fun _ _ => rfl) (fun _ _ => rfl) (fun _ _ => rfl)

theorem assignRider_moves (orderId riderId : Nat) :
    Moves (assignRider orderId riderId) orderId .parcelReceivedAtOrigin .riderAssigned
      (fun o => o.riderId.isNone) (fun _ => some riderId) :=
  moveOrder_moves _ _ (by decide) (fun _ => rfl) (fun _ => rfl)

theorem markCourierAssigned_moves (orderId : Nat) (providerKey : String) :
    Moves (markCourierAssigned orderId providerKey) orderId .parcelReceivedAtOrigin .riderAssigned
      anyOrder id :=
  transition_moves _ _ (by decide)

theorem markCourierReleased_moves (orderId : Nat) (payload : OrderEventPayload) :
    Moves (markCourierReleased orderId payload) orderId .riderAssigned .parcelReceivedAtOrigin
      anyOrder (fun _ => none) :=
  moveOrder_moves _ _ (by decide) (fun _ => rfl) (fun _ => rfl)

theorem markReceivedAtOrigin_moves (orderId : Nat) :
    Moves (markReceivedAtOrigin orderId) orderId .awaitingDropOff .parcelReceivedAtOrigin
      anyOrder id :=
  placed_moves (transition_moves _ _ (by decide))

theorem markPickedUpByRider_moves (orderId : Nat) :
    Moves (markPickedUpByRider orderId) orderId .riderAssigned .inTransit anyOrder id :=
  cleared_moves (transition_moves _ _ (by decide))

theorem markArrivedAtDestination_moves (orderId : Nat) :
    Moves (markArrivedAtDestination orderId) orderId .inTransit .arrivedAtDestination
      anyOrder id :=
  transition_moves _ _ (by decide)

theorem markReadyForCollection_moves (orderId : Nat) :
    Moves (markReadyForCollection orderId) orderId .arrivedAtDestination .readyForCollection
      anyOrder id :=
  placed_moves (transition_moves _ _ (by decide))

theorem markCollected_moves (orderId : Nat) (payload : OrderEventPayload) :
    Moves (markCollected orderId payload) orderId .readyForCollection .completed anyOrder id :=
  cleared_moves (transition_moves _ _ (by decide))

theorem markReturning_moves (orderId : Nat) (payload : OrderEventPayload) :
    Moves (markReturning orderId payload) orderId .inTransit .returnInTransit anyOrder id :=
  (transition_moves _ _ (by decide)).andThen (transition_moves _ _ (by decide))

theorem markReturnedToOrigin_moves (orderId : Nat) :
    Moves (markReturnedToOrigin orderId) orderId .returnInTransit .returnedToOrigin anyOrder id :=
  transition_moves _ _ (by decide)

theorem markReadyForSenderCollection_moves (orderId : Nat) :
    Moves (markReadyForSenderCollection orderId) orderId .returnedToOrigin
      .readyForSenderCollection anyOrder id :=
  placed_moves (transition_moves _ _ (by decide))

theorem markCollectedBySender_moves (orderId : Nat) (payload : OrderEventPayload) :
    Moves (markCollectedBySender orderId payload) orderId .readyForSenderCollection
      .returnCompleted anyOrder id :=
  cleared_moves (transition_moves _ _ (by decide))

end Locoomo.OrderMoves
