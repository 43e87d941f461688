import Locoomo.Books

/-! What one run of a confirming step's body does: the order moves along the
step's edge, the timeline grows by the step's one event, and the key that was
inserted before it stays. -/

namespace Locoomo.StepEffects

open Locoomo.Delivery Locoomo.Database Locoomo.Routing Locoomo.Logistics Locoomo.Handoffs
  Locoomo.System Locoomo.OrderMoves Locoomo.LegMoves Locoomo.Lockstep Locoomo.Frames
  Locoomo.Changes Relational

/-- The edge of the order state machine a step walks. -/
def edgeOf : ConfirmStep → OrderStatus × OrderStatus
  | .dropOff => (.awaitingDropOff, .parcelReceivedAtOrigin)
  | .pickup => (.riderAssigned, .inTransit)
  | .arrival => (.inTransit, .arrivedAtDestination)
  | .intake => (.arrivedAtDestination, .readyForCollection)
  | .collection => (.readyForCollection, .completed)
  | .returnIntake => (.returnedToOrigin, .readyForSenderCollection)
  | .returnCollect => (.readyForSenderCollection, .returnCompleted)

/-- The event the step appends to the order's timeline. -/
def eventOf : ConfirmStep → OrderEventType
  | .dropOff => .parcelReceivedAtOrigin
  | .pickup => .pickedUpByRider
  | .arrival => .arrivedAtDestination
  | .intake => .readyForCollection
  | .collection => .collectedByReceiver
  | .returnIntake => .readyForSenderCollection
  | .returnCollect => .collectedBySender

/-! ## Statements that leave orders, timeline and keys alone -/

structure Silent (s s' : State) : Prop where
  orders : s'.orders = s.orders
  orderEvents : s'.orderEvents = s.orderEvents
  keys : s'.keys = s.keys
  now : s'.now = s.now

theorem silent_frame : Tx.Frame Silent where
  refl _ := ⟨rfl, rfl, rfl, rfl⟩
  trans h₁ h₂ := ⟨h₂.orders.trans h₁.orders, h₂.orderEvents.trans h₁.orderEvents,
    h₂.keys.trans h₁.keys, h₂.now.trans h₁.now⟩

open Tx (Keeps)

theorem silent_of_noted {s s' : State} (h : Noted s s') : Silent s s' :=
  ⟨by rw [h.frame], by rw [h.frame], by rw [h.frame], by rw [h.frame]⟩

theorem record_silent (order : OrderRow) : Keeps Silent (record order) :=
  silent_frame.bind (silent_frame.read _) fun _ =>
    silent_frame.bind (silent_frame.expect _ _) fun _ =>
      silent_frame.bind (silent_frame.read _) fun _ =>
        silent_frame.bind (silent_frame.ensure _ _) fun _ =>
          silent_frame.write fun _ => ⟨rfl, rfl, rfl, rfl⟩

theorem releaseCapacitySlot_silent (nodeId : Nat) : Keeps Silent (releaseCapacitySlot nodeId) :=
  silent_frame.write fun _ => ⟨rfl, rfl, rfl, rfl⟩

theorem releaseCourierSlot_silent (courierUserId : Option Nat) :
    Keeps Silent (releaseCourierSlot courierUserId) := by
  cases courierUserId with
  | none => exact silent_frame.pure ()
  | some riderId => exact silent_frame.write fun _ => ⟨rfl, rfl, rfl, rfl⟩

theorem insertLeg_silent (leg : DeliveryLegRow) : Keeps Silent (insertLeg leg) :=
  silent_frame.query fun _ => ⟨rfl, rfl, rfl, rfl⟩

theorem route_silent (d : Deployment) (orderId : Nat) (legType : DeliveryLegType)
    (providerKey : Option String) : Keeps Silent (route d orderId legType providerKey) := by
  intro s choice s' h
  obtain rfl := route_state h
  exact silent_frame.refl s'

theorem bookLeg_silent (orderId : Nat) (legType : DeliveryLegType) (choice : RoutingChoice) :
    Keeps Silent (bookLeg orderId legType choice) := by
  refine silent_frame.bind (silent_frame.read _) fun _ =>
    silent_frame.bind (silent_frame.expect _ _) fun _ =>
      silent_frame.bind (insertLeg_silent _) fun leg => ?_
  split
  · exact silent_frame.bind ((enqueue_noted _).mono silent_of_noted) fun _ => silent_frame.pure _
  · exact silent_frame.bind (silent_frame.write fun _ => ⟨rfl, rfl, rfl, rfl⟩) fun _ =>
      silent_frame.pure _

theorem dispatch_silent (d : Deployment) (orderId : Nat) (legType : DeliveryLegType)
    (providerKey : Option String) : Keeps Silent (dispatch d orderId legType providerKey) := by
  refine silent_frame.bind (silent_frame.read _) fun active => ?_
  cases active with
  | some leg => exact silent_frame.pure _
  | none =>
      refine silent_frame.bind (route_silent d orderId legType providerKey) fun choice => ?_
      cases choice with
      | none => exact silent_frame.pure _
      | some choice => exact bookLeg_silent orderId legType choice

theorem activeLegOr_silent (orderId : Nat) (event : DeliveryEventType) :
    Keeps Silent (activeLegOr orderId (createHandoverLeg orderId event)) := by
  refine silent_frame.bind (silent_frame.read _) fun active => ?_
  cases active with
  | some leg => exact silent_frame.pure _
  | none =>
      exact silent_frame.bind (silent_frame.read _) fun _ =>
        silent_frame.bind (silent_frame.read _) fun _ => insertLeg_silent _

/-! ## One move, one event -/

/-- The order moved from `source` to `target`, with one event for it. -/
structure Logged (s s' : State) (orderId : Nat) (source target : OrderStatus)
    (type : OrderEventType) (o : OrderRow) : Prop where
  before : ∃ o₀, getOrder s orderId = some o₀ ∧ o₀.status = source
  current : getOrder s' orderId = some o
  status : o.status = target
  event : ∃ payload, s'.orderEvents = s.orderEvents ++ [⟨orderId, type, payload, s.now⟩]
  keys : s'.keys = s.keys

theorem Logged.after_silent {s s₁ s' : State} {orderId : Nat} {source target : OrderStatus}
    {type : OrderEventType} {o : OrderRow} (h : Logged s₁ s' orderId source target type o)
    (hs : Silent s s₁) : Logged s s' orderId source target type o := by
  obtain ⟨o₀, ho₀, hsource⟩ := h.before
  obtain ⟨payload, hevent⟩ := h.event
  refine ⟨⟨o₀, ?_, hsource⟩, h.current, h.status, ⟨payload, ?_⟩, h.keys.trans hs.keys⟩
  · rw [← ho₀, getOrder, getOrder, hs.orders]
  · rw [hevent, hs.orderEvents, hs.now]

theorem Logged.then_silent {s s₁ s' : State} {orderId : Nat} {source target : OrderStatus}
    {type : OrderEventType} {o : OrderRow} (h : Logged s s₁ orderId source target type o)
    (hs : Silent s₁ s') : Logged s s' orderId source target type o := by
  obtain ⟨payload, hevent⟩ := h.event
  refine ⟨h.before, ?_, h.status, ⟨payload, ?_⟩, hs.keys.trans h.keys⟩
  · rw [← h.current, getOrder, getOrder, hs.orders]
  · rw [hs.orderEvents, hevent]

/-- A commit of `x` is such a move. -/
def Logs (x : Db OrderRow) (orderId : Nat) (source target : OrderStatus)
    (type : OrderEventType) : Prop :=
  ∀ s o s', x.run s = .ok (o, s') → Logged s s' orderId source target type o

/-- A commit of `x` appends this event. -/
def Appends (x : Db OrderRow) (orderId : Nat) (type : OrderEventType)
    (payload : OrderEventPayload) : Prop :=
  ∀ s o s', x.run s = .ok (o, s') →
    s'.orderEvents = s.orderEvents ++ [⟨orderId, type, payload, s.now⟩]

theorem transition_appends (orderId : Nat) (source target : OrderStatus) (type : OrderEventType)
    (payload : OrderEventPayload) :
    Appends (transition orderId source target type payload) orderId type payload := by
  intro s o s' h
  obtain ⟨_, -, -, -, -, rfl⟩ := moveOrder_run_ok h
  rfl

theorem Appends.andThen {x : Db OrderRow} {y : OrderRow → Db OrderRow} {orderId : Nat}
    {type : OrderEventType} {payload : OrderEventPayload} (hx : Appends x orderId type payload)
    (hy : ∀ o, Keeps (fun s s' : State => s'.orderEvents = s.orderEvents) (y o)) :
    Appends (x >>= y) orderId type payload := by
  intro s o s' h
  obtain ⟨o', s₁, hfirst, hrest⟩ := Tx.run_bind_eq_ok.mp h
  rw [hy o' s₁ o s' hrest, hx s o' s₁ hfirst]

theorem placeOnShelf_keeps (order : OrderRow) (nodeId : Nat) :
    Keeps (fun s s' : State => s'.orderEvents = s.orderEvents) (placeOnShelf order nodeId) :=
  (Tx.Frame.of_eq State.orderEvents).query fun _ => rfl

theorem clearShelf_keeps (order : OrderRow) :
    Keeps (fun s s' : State => s'.orderEvents = s.orderEvents) (clearShelf order) :=
  (Tx.Frame.of_eq State.orderEvents).query fun _ => rfl

theorem logs_of_moves {x : Db OrderRow} {orderId : Nat} {source target : OrderStatus}
    {guard : OrderRow → Bool} {rider : Option Nat → Option Nat} {type : OrderEventType}
    {payload : OrderEventPayload} (hm : Moves x orderId source target guard rider)
    (ha : Appends x orderId type payload) : Logs x orderId source target type := by
  intro s o s' h
  obtain ⟨o₀, hmoved, hsource, -, htarget, -⟩ := hm.ok h
  refine ⟨⟨o₀, hmoved.found, hsource⟩, hmoved.found', htarget, ⟨payload, ha s o s' h⟩, ?_⟩
  rw [hmoved.frame]

theorem markReceivedAtOrigin_logs (orderId : Nat) :
    Logs (markReceivedAtOrigin orderId) orderId .awaitingDropOff .parcelReceivedAtOrigin
      .parcelReceivedAtOrigin :=
  logs_of_moves (markReceivedAtOrigin_moves orderId)
    ((transition_appends _ _ _ _ _).andThen fun _ => placeOnShelf_keeps _ _)

theorem markPickedUpByRider_logs (orderId : Nat) :
    Logs (markPickedUpByRider orderId) orderId .riderAssigned .inTransit .pickedUpByRider :=
  logs_of_moves (markPickedUpByRider_moves orderId)
    ((transition_appends _ _ _ _ _).andThen clearShelf_keeps)

theorem markArrivedAtDestination_logs (orderId : Nat) :
    Logs (markArrivedAtDestination orderId) orderId .inTransit .arrivedAtDestination
      .arrivedAtDestination :=
  logs_of_moves (markArrivedAtDestination_moves orderId) (transition_appends _ _ _ _ _)

theorem markReadyForCollection_logs (orderId : Nat) :
    Logs (markReadyForCollection orderId) orderId .arrivedAtDestination .readyForCollection
      .readyForCollection :=
  logs_of_moves (markReadyForCollection_moves orderId)
    ((transition_appends _ _ _ _ _).andThen fun _ => placeOnShelf_keeps _ _)

theorem markCollected_logs (orderId : Nat) (payload : OrderEventPayload) :
    Logs (markCollected orderId payload) orderId .readyForCollection .completed
      .collectedByReceiver :=
  logs_of_moves (markCollected_moves orderId payload)
    ((transition_appends _ _ _ _ _).andThen clearShelf_keeps)

theorem markReadyForSenderCollection_logs (orderId : Nat) :
    Logs (markReadyForSenderCollection orderId) orderId .returnedToOrigin
      .readyForSenderCollection .readyForSenderCollection :=
  logs_of_moves (markReadyForSenderCollection_moves orderId)
    ((transition_appends _ _ _ _ _).andThen fun _ => placeOnShelf_keeps _ _)

theorem markCollectedBySender_logs (orderId : Nat) (payload : OrderEventPayload) :
    Logs (markCollectedBySender orderId payload) orderId .readyForSenderCollection
      .returnCompleted .collectedBySender :=
  logs_of_moves (markCollectedBySender_moves orderId payload)
    ((transition_appends _ _ _ _ _).andThen clearShelf_keeps)

/-! ## The bodies -/

/-- A rider's handover walks the edge of its event. -/
theorem recordInHouseHandover_logs {d : Deployment} {s s' : State} (hs : InStep s)
    {orderId : Nat} {event : DeliveryEventType} {type : OrderEventType}
    (hevent : event = .pickedUp ∧ type = .pickedUpByRider ∨
      event = .delivered ∧ type = .arrivedAtDestination)
    (h : (recordInHouseHandover d orderId event).run s = .ok ((), s')) :
    ∃ o, Logged s s' orderId (orderEdge event).1 (orderEdge event).2 type o := by
  obtain ⟨leg, s₁, hleg, hrest₁⟩ := Tx.run_bind_eq_ok.mp h
  obtain ⟨_, s₂, hkey, hrest₂⟩ := Tx.run_bind_eq_ok.mp hrest₁
  obtain ⟨-, rfl⟩ := Tx.run_ensure_eq_ok.mp hkey
  obtain ⟨moved, s₃, happly, hensure⟩ := Tx.run_bind_eq_ok.mp hrest₂
  obtain ⟨hmoved, rfl⟩ := Tx.run_ensure_eq_ok.mp hensure
  have hsilent := activeLegOr_silent orderId event s leg s₁ hleg
  have hcolumns : leg.orderId = orderId ∧ leg.legType = .forward := by
    rcases activeLegOr_ok hleg with ⟨hactive, -⟩ | ⟨-, hcreate⟩
    · obtain ⟨hmem, horder, -⟩ := activeLeg_some hactive
      exact ⟨horder, hs.forward leg hmem⟩
    · cases hcreate
      exact ⟨rfl, rfl⟩
  rcases apply_ok happly with ⟨-, rfl, -⟩ | ⟨next, s₄, -, -, hlisten, hend⟩
  · cases hmoved
  · rcases hend with ⟨-, rfl⟩ | ⟨hcancelled, -⟩
    · have hput : Silent s (putLeg s₁ (movedLeg leg event next s₁.now)) :=
        silent_frame.trans hsilent ⟨rfl, rfl, rfl, rfl⟩
      have hforward : (movedLeg leg event next s₁.now).legType = .forward := by
        rw [movedLeg_legType]
        exact hcolumns.2
      have horder : (movedLeg leg event next s₁.now).orderId = orderId := by
        rw [movedLeg_orderId]
        exact hcolumns.1
      rcases hevent with ⟨rfl, rfl⟩ | ⟨rfl, rfl⟩
      · simp only [onDeliveryEvent, noticeOf, hforward, horder, ne_eq, not_true_eq_false,
          if_false] at hlisten
        obtain ⟨o, s₅, hmove, hrelease⟩ := Tx.run_bind_eq_ok.mp hlisten
        exact ⟨o, ((markPickedUpByRider_logs orderId _ o s₅ hmove).then_silent
          (releaseCapacitySlot_silent _ s₅ () _ hrelease)).after_silent hput⟩
      · simp only [onDeliveryEvent, noticeOf, hforward, horder, ne_eq, not_true_eq_false,
          if_false] at hlisten
        obtain ⟨o, s₅, hmove, hrelease⟩ := Tx.run_bind_eq_ok.mp hlisten
        exact ⟨o, ((markArrivedAtDestination_logs orderId _ o s₅ hmove).then_silent
          (releaseCourierSlot_silent _ s₅ () _ hrelease)).after_silent hput⟩
    · rcases hevent with ⟨rfl, -⟩ | ⟨rfl, -⟩
      · cases hcancelled
      · cases hcancelled

/-- **A step's body** walks the step's edge, once, and returns the order as it
then stands. -/
theorem stepBody_logs {d : Deployment} {s s' : State} (hs : Aligned s) {step : ConfirmStep}
    {orderId : Nat} {args : ConfirmArgs} {o : OrderRow}
    (h : (stepBody d step orderId args).run s = .ok (o, s')) :
    Logged s s' orderId (edgeOf step).1 (edgeOf step).2 (eventOf step) o := by
  have handover : ∀ {codeType event type}, (event = .pickedUp ∧ type = .pickedUpByRider ∨
      event = .delivered ∧ type = .arrivedAtDestination) →
      (confirmHandoff d orderId codeType event args.code).run s = .ok (o, s') →
      Logged s s' orderId (orderEdge event).1 (orderEdge event).2 type o := by
    intro codeType event type hevent h
    obtain ⟨_, s₁, hvalidate, hrest⟩ := Tx.run_bind_eq_ok.mp h
    obtain ⟨_, s₂, hhandover, hread⟩ := Tx.run_bind_eq_ok.mp hrest
    rw [Tx.run_read_bind] at hread
    obtain ⟨horder, rfl⟩ := Tx.run_expect_eq_ok.mp hread
    have hs₁ : InStep s₁ :=
      clerical_inStep hs.inStep (validate_noted _ _ _ _ s () s₁ hvalidate).clerical
    obtain ⟨o', hlogged⟩ := recordInHouseHandover_logs hs₁ hevent hhandover
    obtain rfl : o' = o := Option.some.inj (hlogged.current.symm.trans horder)
    exact hlogged.after_silent (silent_of_noted (validate_noted _ _ _ _ s () s₁ hvalidate))
  cases step with
  | dropOff =>
      obtain ⟨row, s₁, hmove, hrest⟩ := Tx.run_bind_eq_ok.mp h
      obtain ⟨_, s₂, hmail, hrest₂⟩ := Tx.run_bind_eq_ok.mp hrest
      obtain ⟨r, s₃, hdispatch, hret⟩ := Tx.run_bind_eq_ok.mp hrest₂
      cases hret
      exact (markReceivedAtOrigin_logs orderId s o s₁ hmove).then_silent
        (silent_frame.trans (silent_of_noted (enqueue_noted _ s₁ () s₂ hmail))
          (dispatch_silent _ _ _ _ s₂ r s' hdispatch))
  | pickup => exact handover (Or.inl ⟨rfl, rfl⟩) h
  | arrival => exact handover (Or.inr ⟨rfl, rfl⟩) h
  | intake =>
      obtain ⟨row, s₁, hmove, hrest⟩ := Tx.run_bind_eq_ok.mp h
      obtain ⟨_, s₂, hissue, hrest₂⟩ := Tx.run_bind_eq_ok.mp hrest
      obtain ⟨_, s₃, hmail, hret⟩ := Tx.run_bind_eq_ok.mp hrest₂
      cases hret
      exact (markReadyForCollection_logs orderId s o s₁ hmove).then_silent
        (silent_of_noted (noted_frame.trans (issue_noted _ _ _ _ _ _ s₁ () s₂ hissue)
          (enqueue_noted _ s₂ () s' hmail)))
  | collection =>
      obtain ⟨_, s₁, hvalidate, hrest⟩ := Tx.run_bind_eq_ok.mp h
      obtain ⟨row, s₂, hmove, hrest₂⟩ := Tx.run_bind_eq_ok.mp hrest
      obtain ⟨_, s₃, hrecord, hret⟩ := Tx.run_bind_eq_ok.mp hrest₂
      cases hret
      exact ((markCollected_logs orderId _ s₁ o s₂ hmove).then_silent
        (record_silent _ s₂ () s' hrecord)).after_silent
          (silent_of_noted (validate_noted _ _ _ _ s () s₁ hvalidate))
  | returnIntake =>
      obtain ⟨row, s₁, hmove, hrest⟩ := Tx.run_bind_eq_ok.mp h
      obtain ⟨_, s₂, hissue, hrest₂⟩ := Tx.run_bind_eq_ok.mp hrest
      obtain ⟨_, s₃, hmail, hret⟩ := Tx.run_bind_eq_ok.mp hrest₂
      cases hret
      exact (markReadyForSenderCollection_logs orderId s o s₁ hmove).then_silent
        (silent_of_noted (noted_frame.trans (issue_noted _ _ _ _ _ _ s₁ () s₂ hissue)
          (enqueue_noted _ s₂ () s' hmail)))
  | returnCollect =>
      obtain ⟨_, s₁, hvalidate, hrest⟩ := Tx.run_bind_eq_ok.mp h
      obtain ⟨row, s₂, hmove, hrest₂⟩ := Tx.run_bind_eq_ok.mp hrest
      obtain ⟨_, s₃, hrelease, hret⟩ := Tx.run_bind_eq_ok.mp hrest₂
      cases hret
      exact ((markCollectedBySender_logs orderId _ s₁ o s₂ hmove).then_silent
        (releaseCapacitySlot_silent _ s₂ () s' hrelease)).after_silent
          (silent_of_noted (validate_noted _ _ _ _ s () s₁ hvalidate))

end Locoomo.StepEffects
