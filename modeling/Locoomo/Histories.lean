import Locoomo.Frames
import Locoomo.Interleaved

/-! What the orders table and its timeline go through. Every transaction is a
sequence of entries: an order is placed, an order takes one step of its state
machine, or neither table is touched. A step writes all it has to write, the
event and the shelf included, so what holds of every step holds of every
history. -/

namespace Locoomo.Histories

open Locoomo.Delivery Locoomo.Database Locoomo.Routing Locoomo.Logistics Locoomo.Handoffs
  Locoomo.Payments Locoomo.System Locoomo.OrderMoves Locoomo.Frames Relational

/-! ## The steps of an order -/

/-- One `mark…` or `assign…` operation; `markReturning` is two of them. -/
inductive OrderMove
  | receivedAtOrigin
  | riderAssigned (riderId : Nat)
  | courierAssigned (providerKey : String)
  | courierReleased (payload : OrderEventPayload)
  | pickedUpByRider
  | arrivedAtDestination
  | readyForCollection
  | collected (payload : OrderEventPayload)
  | returnInitiated (payload : OrderEventPayload)
  | returnInTransit
  | returnedToOrigin
  | readyForSenderCollection
  | collectedBySender (payload : OrderEventPayload)

/-- What becomes of the order's shelf number. -/
inductive ShelfMove
  | keep | clear | placeAtOrigin | placeAtDestination

namespace OrderMove

def source : OrderMove → OrderStatus
  | receivedAtOrigin => .awaitingDropOff
  | riderAssigned _ | courierAssigned _ => .parcelReceivedAtOrigin
  | courierReleased _ | pickedUpByRider => .riderAssigned
  | arrivedAtDestination | returnInitiated _ => .inTransit
  | readyForCollection => .arrivedAtDestination
  | collected _ => .readyForCollection
  | returnInTransit => .returnInitiated
  | returnedToOrigin => .returnInTransit
  | readyForSenderCollection => .returnedToOrigin
  | collectedBySender _ => .readyForSenderCollection

def target : OrderMove → OrderStatus
  | receivedAtOrigin | courierReleased _ => .parcelReceivedAtOrigin
  | riderAssigned _ | courierAssigned _ => .riderAssigned
  | pickedUpByRider => .inTransit
  | arrivedAtDestination => .arrivedAtDestination
  | readyForCollection => .readyForCollection
  | collected _ => .completed
  | returnInitiated _ => .returnInitiated
  | returnInTransit => .returnInTransit
  | returnedToOrigin => .returnedToOrigin
  | readyForSenderCollection => .readyForSenderCollection
  | collectedBySender _ => .returnCompleted

def type : OrderMove → OrderEventType
  | receivedAtOrigin => .parcelReceivedAtOrigin
  | riderAssigned _ | courierAssigned _ => .riderAssigned
  | courierReleased _ => .courierReleased
  | pickedUpByRider => .pickedUpByRider
  | arrivedAtDestination => .arrivedAtDestination
  | readyForCollection => .readyForCollection
  | collected _ => .collectedByReceiver
  | returnInitiated _ => .returnInitiated
  | returnInTransit => .returnInTransit
  | returnedToOrigin => .returnedToOrigin
  | readyForSenderCollection => .readyForSenderCollection
  | collectedBySender _ => .collectedBySender

def payload : OrderMove → OrderEventPayload
  | riderAssigned riderId => .rider riderId
  | courierAssigned providerKey => .courier providerKey
  | courierReleased payload | collected payload | returnInitiated payload
  | collectedBySender payload => payload
  | _ => .empty

def riderAfter : OrderMove → Option Nat → Option Nat
  | riderAssigned riderId, _ => some riderId
  | courierReleased _, _ => none
  | _, riderId => riderId

def shelf : OrderMove → ShelfMove
  | receivedAtOrigin | readyForSenderCollection => .placeAtOrigin
  | readyForCollection => .placeAtDestination
  | pickedUpByRider | collected _ | collectedBySender _ => .clear
  | _ => .keep

/-- The row after the status move. -/
def moved (m : OrderMove) (o : OrderRow) : OrderRow :=
  { o with status := m.target, riderId := m.riderAfter o.riderId }

end OrderMove

/-- The row with its shelf columns written, among the orders `orders`. -/
def ShelfMove.write (orders : List OrderRow) (o : OrderRow) : ShelfMove → OrderRow
  | .keep => o
  | .clear => { o with shelfNodeId := none, shelfNumber := none }
  | .placeAtOrigin =>
      { o with
        shelfNodeId := some o.originNodeId, shelfNumber := lowestFreeShelf orders o.originNodeId }
  | .placeAtDestination =>
      { o with
        shelfNodeId := some o.destinationNodeId
        shelfNumber := lowestFreeShelf orders o.destinationNodeId }

/-- The row after the whole step; a number is looked for once the status has
been written. -/
def OrderMove.row (m : OrderMove) (orders : List OrderRow) (o : OrderRow) : OrderRow :=
  m.shelf.write (put OrderRow.id (m.moved o) orders) (m.moved o)

def OrderMove.event (m : OrderMove) (o : OrderRow) (now : Nat) : OrderEventRow :=
  ⟨o.id, m.type, m.payload, now⟩

namespace OrderMove

variable (m : OrderMove) (orders : List OrderRow) (o : OrderRow)

theorem row_id : (m.row orders o).id = o.id := by
  cases m <;> rfl

theorem row_status : (m.row orders o).status = m.target := by
  cases m <;> rfl

theorem row_riderId : (m.row orders o).riderId = m.riderAfter o.riderId := by
  cases m <;> rfl

end OrderMove

/-! ## Entries -/

def isRiderCode : HandoffCodeType → Bool
  | .riderPickup | .riderArrival => true
  | _ => false

/-- No rider's code is new. -/
def RiderCodesKept (s s' : State) : Prop :=
  ∀ c ∈ s'.codes, isRiderCode c.type = true →
    ∃ c₀ ∈ s.codes, c₀.id = c.id ∧ c₀.orderId = c.orderId ∧ c₀.type = c.type ∧
      c₀.requestedByUserId = c.requestedByUserId

/-- Orders and timelines stay as they are. `asks` says whether a rider may
have been issued a code. -/
structure Aside (asks : Bool) (s s' : State) : Prop where
  orders : s'.orders = s.orders
  orderEvents : s'.orderEvents = s.orderEvents
  nextId : s.nextId ≤ s'.nextId
  codes : asks = true ∨ RiderCodesKept s s'

/-- A new order and the first event of its timeline. -/
structure Opened (s s' : State) (o : OrderRow) (payload : OrderEventPayload) : Prop where
  id : o.id = s.nextId
  status : o.status = .awaitingDropOff
  riderId : o.riderId = none
  shelfNodeId : o.shelfNodeId = none
  shelfNumber : o.shelfNumber = none
  eq : s' = { s with
    orders := s.orders ++ [o]
    nextId := s.nextId + 1
    orderEvents := s.orderEvents ++ [⟨o.id, .orderPlaced, payload, s.now⟩] }

/-- One step of one order. -/
structure Stepped (s s' : State) (m : OrderMove) (o : OrderRow) : Prop where
  found : getOrder s o.id = some o
  source : o.status = m.source
  unclaimed : ∀ riderId, m = .riderAssigned riderId → o.riderId = none
  eq : s' = { s with
    orders := put OrderRow.id (m.row s.orders o) s.orders
    orderEvents := s.orderEvents ++ [m.event o s.now] }

inductive Entry (asks : Bool) (s s' : State) : Prop
  | aside (h : Aside asks s s')
  | opened {o : OrderRow} {payload : OrderEventPayload} (h : Opened s s' o payload)
  | stepped {m : OrderMove} {o : OrderRow} (h : Stepped s s' m o)

/-- A transaction, entry by entry. -/
abbrev History (asks : Bool) : State → State → Prop := Relation.ReflTransGen (Entry asks)

variable {d : Deployment} {asks : Bool} {s s' : State}

theorem RiderCodesKept.refl (s : State) : RiderCodesKept s s :=
  fun c hc _ => ⟨c, hc, rfl, rfl, rfl, rfl⟩

theorem RiderCodesKept.trans {s'' : State} (h : RiderCodesKept s s') (h' : RiderCodesKept s' s'') :
    RiderCodesKept s s'' := by
  intro c hc htype
  obtain ⟨c₁, hc₁, hid₁, horder₁, htype₁, hby₁⟩ := h' c hc htype
  obtain ⟨c₀, hc₀, hid₀, horder₀, htype₀, hby₀⟩ := h c₁ hc₁ (by rw [htype₁]; exact htype)
  exact ⟨c₀, hc₀, hid₀.trans hid₁, horder₀.trans horder₁, htype₀.trans htype₁, hby₀.trans hby₁⟩

theorem RiderCodesKept.of_eq (h : s'.codes = s.codes) : RiderCodesKept s s' := by
  intro c hc _
  exact ⟨c, h ▸ hc, rfl, rfl, rfl, rfl⟩

theorem aside_frame : Tx.Frame (Aside asks) where
  refl s := ⟨rfl, rfl, le_rfl, Or.inr (RiderCodesKept.refl s)⟩
  trans h₁ h₂ :=
    { orders := h₂.orders.trans h₁.orders
      orderEvents := h₂.orderEvents.trans h₁.orderEvents
      nextId := h₁.nextId.trans h₂.nextId
      codes := by
        rcases h₁.codes with hasks | hkept₁
        · exact Or.inl hasks
        · exact h₂.codes.imp_right hkept₁.trans }

theorem history_frame : Tx.Frame (History asks) where
  refl _ := .refl
  trans := Relation.ReflTransGen.trans

open Tx (Keeps)

/-- A transaction of statements that leave the orders alone is one entry. -/
theorem history_of_aside {α : Type} {x : Db α} (h : Keeps (Aside asks) x) :
    Keeps (History asks) x :=
  fun s a s' hrun => .single (.aside (h s a s' hrun))

/-! ## Statements that leave the orders alone -/

/-- A write of other tables than orders, timelines and codes. -/
theorem aside_write {f : State → State} (horders : ∀ s, (f s).orders = s.orders)
    (hevents : ∀ s, (f s).orderEvents = s.orderEvents) (hnext : ∀ s, s.nextId ≤ (f s).nextId)
    (hcodes : ∀ s, (f s).codes = s.codes) : Keeps (Aside asks) (Tx.write f : Db Unit) :=
  aside_frame.write fun s =>
    ⟨horders s, hevents s, hnext s, Or.inr (RiderCodesKept.of_eq (hcodes s))⟩

theorem aside_query {α : Type} {f : State → α × State} (horders : ∀ s, (f s).2.orders = s.orders)
    (hevents : ∀ s, (f s).2.orderEvents = s.orderEvents) (hnext : ∀ s, s.nextId ≤ (f s).2.nextId)
    (hcodes : ∀ s, (f s).2.codes = s.codes) : Keeps (Aside asks) (Tx.query f : Db α) :=
  aside_frame.query fun s =>
    ⟨horders s, hevents s, hnext s, Or.inr (RiderCodesKept.of_eq (hcodes s))⟩

theorem enqueue_aside (event : OutboxEvent) : Keeps (Aside asks) (enqueue event) :=
  aside_write (fun _ => rfl) (fun _ => rfl) (fun _ => le_rfl) fun _ => rfl

theorem saveLeg_aside (leg : DeliveryLegRow) : Keeps (Aside asks) (saveLeg leg) :=
  aside_write (fun _ => rfl) (fun _ => rfl) (fun _ => le_rfl) fun _ => rfl

theorem insertLeg_aside (leg : DeliveryLegRow) : Keeps (Aside asks) (insertLeg leg) :=
  aside_query (fun _ => rfl) (fun _ => rfl) (fun _ => Nat.le_succ _) fun _ => rfl

theorem releaseDeliverySlot_aside (riderId : Nat) :
    Keeps (Aside asks) (releaseDeliverySlot riderId) :=
  aside_write (fun _ => rfl) (fun _ => rfl) (fun _ => le_rfl) fun _ => rfl

theorem releaseCourierSlot_aside (courierUserId : Option Nat) :
    Keeps (Aside asks) (releaseCourierSlot courierUserId) := by
  cases courierUserId with
  | none => exact aside_frame.pure ()
  | some riderId => exact releaseDeliverySlot_aside riderId

theorem releaseCapacitySlot_aside (nodeId : Nat) :
    Keeps (Aside asks) (releaseCapacitySlot nodeId) :=
  aside_write (fun _ => rfl) (fun _ => rfl) (fun _ => le_rfl) fun _ => rfl

theorem holdReturnedParcel_aside (nodeId : Nat) :
    Keeps (Aside asks) (holdReturnedParcel nodeId) :=
  aside_write (fun _ => rfl) (fun _ => rfl) (fun _ => le_rfl) fun _ => rfl

theorem reserveDeliverySlot_aside (riderId : Nat) :
    Keeps (Aside asks) (reserveDeliverySlot riderId) := by
  refine aside_frame.bind (aside_frame.read _) fun _ => aside_frame.bind (aside_frame.expect _ _)
    fun _ => aside_frame.bind (aside_frame.ensure _ _) fun _ => ?_
  split
  · exact aside_frame.pure false
  · exact aside_frame.bind (aside_write (fun _ => rfl) (fun _ => rfl) (fun _ => le_rfl)
      fun _ => rfl) fun _ => aside_frame.pure true

theorem reserveCapacitySlot_aside (nodeId : Nat) :
    Keeps (Aside asks) (reserveCapacitySlot nodeId) := by
  refine aside_frame.bind (aside_frame.read _) fun _ => aside_frame.bind (aside_frame.expect _ _)
    fun _ => ?_
  split
  · exact aside_frame.pure false
  · exact aside_frame.bind (aside_write (fun _ => rfl) (fun _ => rfl) (fun _ => le_rfl)
      fun _ => rfl) fun _ => aside_frame.pure true

/-! ### Codes -/

/-- Only a request issues a rider a code. -/
theorem issue_aside (d : Deployment) (orderId : Nat) {type : HandoffCodeType}
    (requestedByUserId : Option Nat) (ttlMinutes : Nat) (rawCode : String)
    (htype : asks = true ∨ isRiderCode type = false) :
    Keeps (Aside asks) (issue d orderId type requestedByUserId ttlMinutes rawCode) := by
  refine aside_frame.bind (aside_frame.write fun s => ⟨rfl, rfl, le_rfl, Or.inr ?_⟩) fun _ =>
    aside_frame.write fun s => ⟨rfl, rfl, Nat.le_succ _, htype.imp_right fun htype => ?_⟩
  · intro c hc _
    exact ⟨c, (List.mem_filter.mp hc).1, rfl, rfl, rfl, rfl⟩
  · intro c hc hrider
    rcases List.mem_append.mp hc with hc | hc
    · exact ⟨c, hc, rfl, rfl, rfl, rfl⟩
    · rw [List.mem_singleton.mp hc, htype] at hrider
      cases hrider

/-- An update of codes that leaves what they are and for whom. -/
theorem update_codes_kept {p : HandoffCodeRow → Bool} {f : HandoffCodeRow → HandoffCodeRow}
    (hcodes : s'.codes = update p f s.codes)
    (hf : ∀ c, (f c).id = c.id ∧ (f c).orderId = c.orderId ∧ (f c).type = c.type ∧
      (f c).requestedByUserId = c.requestedByUserId) : RiderCodesKept s s' := by
  intro c hc _
  rw [hcodes] at hc
  obtain ⟨c₀, hc₀, rfl⟩ := mem_update.mp hc
  refine ⟨c₀, hc₀, ?_⟩
  split
  · obtain ⟨hid, horder, htype, hby⟩ := hf c₀
    exact ⟨hid.symm, horder.symm, htype.symm, hby.symm⟩
  · exact ⟨rfl, rfl, rfl, rfl⟩

theorem validate_aside (d : Deployment) (orderId : Nat) (type : HandoffCodeType) (code : String) :
    Keeps (Aside asks) (validate d orderId type code) :=
  aside_frame.bind (aside_frame.read _) fun _ => aside_frame.bind (aside_frame.read _) fun _ =>
    aside_frame.bind (aside_frame.expect _ _) fun _ => aside_frame.write fun _ =>
      ⟨rfl, rfl, le_rfl, Or.inr (update_codes_kept rfl fun _ => ⟨rfl, rfl, rfl, rfl⟩)⟩

theorem rollback_aside (s : State) (e : TxError) : Aside asks s (rollback s e) := by
  unfold rollback
  split
  · exact ⟨rfl, rfl, le_rfl, Or.inr (update_codes_kept rfl fun _ => ⟨rfl, rfl, rfl, rfl⟩)⟩
  · exact aside_frame.refl s

/-! ### Legs -/

theorem route_aside (d : Deployment) (orderId : Nat) (legType : DeliveryLegType)
    (providerKey : Option String) : Keeps (Aside asks) (route d orderId legType providerKey) := by
  cases providerKey with
  | some key => exact aside_frame.bind (aside_frame.read _) fun _ => aside_frame.pure _
  | none =>
      exact aside_frame.bind (aside_frame.read _) fun _ =>
        aside_frame.bind (aside_frame.expect _ _) fun _ =>
          aside_frame.bind (aside_frame.read _) fun _ =>
            aside_frame.bind (aside_frame.read _) fun _ => aside_frame.pure _

theorem bookLeg_aside (orderId : Nat) (legType : DeliveryLegType) (choice : RoutingChoice) :
    Keeps (Aside asks) (bookLeg orderId legType choice) := by
  refine aside_frame.bind (aside_frame.read _) fun _ => aside_frame.bind (aside_frame.expect _ _)
    fun _ => aside_frame.bind (insertLeg_aside _) fun leg => ?_
  split
  · exact aside_frame.bind (enqueue_aside _) fun _ => aside_frame.pure _
  · exact aside_frame.bind (saveLeg_aside _) fun _ => aside_frame.pure _

theorem dispatch_aside (d : Deployment) (orderId : Nat) (legType : DeliveryLegType)
    (providerKey : Option String) :
    Keeps (Aside asks) (Logistics.dispatch d orderId legType providerKey) := by
  refine aside_frame.bind (aside_frame.read _) fun active => ?_
  cases active with
  | some leg => exact aside_frame.pure _
  | none =>
      refine aside_frame.bind (route_aside _ _ _ _) fun choice => ?_
      cases choice with
      | none => exact aside_frame.pure _
      | some choice => exact bookLeg_aside _ _ _

theorem createInHouseLeg_aside (orderId : Nat) (status : DeliveryLegStatus)
    (courierUserId : Option Nat) :
    Keeps (Aside asks) (createInHouseLeg orderId status courierUserId) :=
  aside_frame.bind (aside_frame.read _) fun _ => insertLeg_aside _

theorem activeLegOr_aside (orderId : Nat) {create : Db DeliveryLegRow}
    (hcreate : Keeps (Aside asks) create) : Keeps (Aside asks) (activeLegOr orderId create) := by
  refine aside_frame.bind (aside_frame.read _) fun active => ?_
  cases active with
  | some leg => exact aside_frame.pure leg
  | none => exact hcreate

theorem writeAnswer_aside (d : Deployment) (leg : DeliveryLegRow) (answer : SubmitAnswer) :
    Keeps (Aside asks) (Interleaved.writeAnswer d leg answer) := by
  refine aside_frame.bind (aside_frame.expect _ _) fun provider => ?_
  split
  · exact aside_write (fun _ => rfl) (fun _ => rfl) (fun _ => le_rfl) fun _ => rfl
  · exact aside_frame.bind (aside_write (fun _ => rfl) (fun _ => rfl) (fun _ => le_rfl)
      fun _ => rfl) fun _ => aside_frame.bind (dispatch_aside _ _ _ _) fun _ =>
        aside_frame.pure ()
  · exact aside_frame.reject _

theorem submit_aside (d : Deployment) (legId : Nat) (answer : SubmitAnswer) :
    Keeps (Aside asks) (submit d legId answer) := by
  refine aside_frame.bind (aside_frame.read _) fun row => ?_
  cases row with
  | none => exact aside_frame.pure ()
  | some leg => exact writeAnswer_aside d leg answer

/-! ### Settings, bookings, earnings -/

theorem retry_aside (d : Deployment) (legId : Nat) : Keeps (Aside asks) (retry d legId) :=
  aside_frame.bind (aside_frame.read _) fun _ => aside_frame.bind (aside_frame.expect _ _) fun _ =>
    aside_frame.bind (aside_frame.ensure _ _) fun _ => enqueue_aside _

theorem updateProvider_aside (key : String) (dto : UpdateLogisticsProviderDto) :
    Keeps (Aside asks) (Logistics.updateProvider key dto) :=
  aside_frame.bind (aside_frame.read _) fun _ => aside_frame.bind (aside_frame.expect _ _) fun _ =>
    aside_frame.bind (aside_frame.ensure _ _) fun _ =>
      aside_frame.bind (aside_frame.ensure _ _) fun _ =>
        aside_frame.bind (aside_frame.read _) fun _ =>
          aside_frame.bind (aside_frame.ensure _ _) fun _ =>
            aside_write (fun _ => rfl) (fun _ => rfl) (fun _ => le_rfl) fun _ => rfl

theorem resendCode_aside (d : Deployment) (orderId : Nat) (operatorNodeIds : List Nat)
    (drawnCode : String) :
    Keeps (Aside asks) (Handoffs.resendCode d orderId operatorNodeIds drawnCode) := by
  refine aside_frame.bind (aside_frame.read _) fun row => ?_
  split
  · exact aside_frame.bind (aside_frame.ensure _ _) fun _ =>
      aside_frame.bind (issue_aside _ _ _ _ _ (Or.inr rfl)) fun _ => enqueue_aside _
  · exact aside_frame.bind (aside_frame.ensure _ _) fun _ =>
      aside_frame.bind (aside_frame.ensure _ _) fun _ =>
        aside_frame.bind (issue_aside _ _ _ _ _ (Or.inr rfl)) fun _ => enqueue_aside _

theorem record_aside (order : OrderRow) : Keeps (Aside asks) (record order) :=
  aside_frame.bind (aside_frame.read _) fun _ => aside_frame.bind (aside_frame.expect _ _) fun _ =>
    aside_frame.bind (aside_frame.read _) fun _ => aside_frame.bind (aside_frame.ensure _ _)
      fun _ => aside_write (fun _ => rfl) (fun _ => rfl) (fun _ => le_rfl) fun _ => rfl

theorem createIntent_aside (payerId : Nat) (dto : CreatePaymentIntentDto) :
    Keeps (Aside asks) (Payments.createIntent payerId dto) :=
  aside_frame.bind (aside_frame.read _) fun _ => aside_frame.bind (aside_frame.expect _ _) fun _ =>
    aside_frame.bind (reserveCapacitySlot_aside _) fun _ =>
      aside_frame.bind (aside_frame.ensure _ _) fun _ =>
        aside_query (fun _ => rfl) (fun _ => rfl) (fun _ => Nat.le_succ _) fun _ => rfl

theorem saveIntent_aside (intent : PaymentIntentRow) :
    Keeps (Aside asks) (saveIntent intent) := by
  refine aside_frame.bind (aside_frame.read _) fun row => ?_
  cases row with
  | none => exact aside_write (fun _ => rfl) (fun _ => rfl) (fun _ => le_rfl) fun _ => rfl
  | some row =>
      refine aside_frame.write fun s => ?_
      split
      · exact aside_frame.refl s
      · exact ⟨rfl, rfl, le_rfl, Or.inr (RiderCodesKept.of_eq rfl)⟩

theorem expire_aside (intentId : Nat) : Keeps (Aside asks) (expire intentId) := by
  refine aside_frame.bind (aside_frame.read _) fun fresh => ?_
  cases fresh with
  | none => exact aside_frame.pure ()
  | some intent =>
      dsimp only
      split
      · exact aside_frame.pure ()
      · exact aside_frame.bind (saveIntent_aside _) fun _ => releaseCapacitySlot_aside _

theorem withIdempotency_history {α : Type} (scope : String) (key : Nat) {fn : Db α}
    (hfn : Keeps (History asks) fn) : Keeps (History asks) (withIdempotency scope key fn) := by
  intro s r s' h
  rcases withIdempotency_ok h with ⟨-, -, rfl⟩ | ⟨-, a, -, hrun⟩
  · exact .refl
  · have hkey : Entry asks s (insertKey scope key s) :=
      .aside ⟨rfl, rfl, le_rfl, Or.inr (RiderCodesKept.of_eq rfl)⟩
    exact .head hkey (hfn _ a s' hrun)

/-! ## Steps of orders -/

/-- An order at the source of an edge, moved and its event appended, with its
shelf still to be written. -/
structure Begun (s s₁ : State) (m : OrderMove) (o : OrderRow) : Prop where
  found : getOrder s o.id = some o
  source : o.status = m.source
  unclaimed : ∀ riderId, m = .riderAssigned riderId → o.riderId = none
  eq : s₁ = { s with
    orders := put OrderRow.id (m.moved o) s.orders
    orderEvents := s.orderEvents ++ [m.event o s.now] }

/-- What `moveOrder` does for the operations of the source. -/
theorem begun_of_moveOrder {m : OrderMove} {orderId : Nat} {guard : OrderRow → Bool}
    {set : OrderRow → OrderRow} {o' : OrderRow}
    (hguard : ∀ o riderId, guard o = true → m = .riderAssigned riderId → o.riderId = none)
    (hset : ∀ o, { set o with status := m.target } = m.moved o)
    (h : (moveOrder orderId m.source m.target guard set m.type m.payload).run s = .ok (o', s')) :
    ∃ o, o.id = orderId ∧ o' = m.moved o ∧ Begun s s' m o := by
  obtain ⟨o, ho, hsource, hok, rfl, rfl⟩ := moveOrder_run_ok h
  obtain rfl : o.id = orderId := (getOrder_mem ho).2
  rw [hset]
  exact ⟨o, rfl, rfl, ho, hsource, fun riderId => hguard o riderId hok, rfl⟩

/-- A step whose shelf stays as it is. -/
theorem moveOrder_history {m : OrderMove} {orderId : Nat} {guard : OrderRow → Bool}
    {set : OrderRow → OrderRow}
    (hguard : ∀ o riderId, guard o = true → m = .riderAssigned riderId → o.riderId = none)
    (hset : ∀ o, { set o with status := m.target } = m.moved o) (hshelf : m.shelf = .keep) :
    Keeps (History asks) (moveOrder orderId m.source m.target guard set m.type m.payload) := by
  intro s o' s' h
  obtain ⟨o, -, -, hbegun⟩ := begun_of_moveOrder hguard hset h
  refine .single (.stepped (m := m) ⟨hbegun.found, hbegun.source, hbegun.unclaimed, ?_⟩)
  rw [hbegun.eq, OrderMove.row, hshelf]
  rfl

/-- A step that ends with a write of the shelf. -/
theorem shelved_history {m : OrderMove} {orderId : Nat} {y : OrderRow → Db OrderRow}
    (hset : ∀ o, { o with status := m.target } = m.moved o)
    (hguard : ∀ riderId, m ≠ .riderAssigned riderId)
    (hy : ∀ o s, (y o).run s = .ok (m.shelf.write s.orders o,
      putOrder s (m.shelf.write s.orders o)))
    (hid : ∀ orders o, (m.shelf.write orders o).id = o.id) :
    Keeps (History asks) (transition orderId m.source m.target m.type m.payload >>= y) := by
  intro s o'' s'' h
  obtain ⟨o', s', hmove, hshelf⟩ := Tx.run_bind_eq_ok.mp h
  obtain ⟨o, -, rfl, hbegun⟩ := begun_of_moveOrder (m := m)
    (fun _ riderId _ heq => absurd heq (hguard riderId)) hset hmove
  rw [hy] at hshelf
  obtain ⟨-, rfl⟩ : _ ∧ putOrder s' (m.shelf.write s'.orders (m.moved o)) = s'' := by
    simpa using hshelf
  refine .single (.stepped (m := m) ⟨hbegun.found, hbegun.source, hbegun.unclaimed, ?_⟩)
  rw [hbegun.eq, putOrder, OrderMove.row]
  congr 1
  exact put_put (hid _ _)

theorem assignRider_history (orderId riderId : Nat) :
    Keeps (History asks) (assignRider orderId riderId) :=
  moveOrder_history (m := .riderAssigned riderId)
    (fun _ _ hfree _ => by simpa using hfree) (fun _ => rfl) rfl

theorem markCourierAssigned_history (orderId : Nat) (providerKey : String) :
    Keeps (History asks) (markCourierAssigned orderId providerKey) :=
  moveOrder_history (m := .courierAssigned providerKey) (fun _ _ _ h => by cases h)
    (fun _ => rfl) rfl

theorem markCourierReleased_history (orderId : Nat) (payload : OrderEventPayload) :
    Keeps (History asks) (markCourierReleased orderId payload) :=
  moveOrder_history (m := .courierReleased payload) (fun _ _ _ h => by cases h) (fun _ => rfl) rfl

theorem markReceivedAtOrigin_history (orderId : Nat) :
    Keeps (History asks) (markReceivedAtOrigin orderId) :=
  shelved_history (m := .receivedAtOrigin) (fun _ => rfl) (fun _ h => by cases h)
    (fun _ _ => rfl) (fun _ _ => rfl)

theorem markPickedUpByRider_history (orderId : Nat) :
    Keeps (History asks) (markPickedUpByRider orderId) :=
  shelved_history (m := .pickedUpByRider) (fun _ => rfl) (fun _ h => by cases h)
    (fun _ _ => rfl) (fun _ _ => rfl)

theorem markArrivedAtDestination_history (orderId : Nat) :
    Keeps (History asks) (markArrivedAtDestination orderId) :=
  moveOrder_history (m := .arrivedAtDestination) (fun _ _ _ h => by cases h) (fun _ => rfl) rfl

theorem markReadyForCollection_history (orderId : Nat) :
    Keeps (History asks) (markReadyForCollection orderId) :=
  shelved_history (m := .readyForCollection) (fun _ => rfl) (fun _ h => by cases h)
    (fun _ _ => rfl) (fun _ _ => rfl)

theorem markCollected_history (orderId : Nat) (payload : OrderEventPayload) :
    Keeps (History asks) (markCollected orderId payload) :=
  shelved_history (m := .collected payload) (fun _ => rfl) (fun _ h => by cases h)
    (fun _ _ => rfl) (fun _ _ => rfl)

theorem markReturning_history (orderId : Nat) (payload : OrderEventPayload) :
    Keeps (History asks) (markReturning orderId payload) :=
  history_frame.bind
    (moveOrder_history (m := .returnInitiated payload) (fun _ _ _ h => by cases h)
      (fun _ => rfl) rfl)
    fun _ => moveOrder_history (m := .returnInTransit) (fun _ _ _ h => by cases h)
      (fun _ => rfl) rfl

theorem markReturnedToOrigin_history (orderId : Nat) :
    Keeps (History asks) (markReturnedToOrigin orderId) :=
  moveOrder_history (m := .returnedToOrigin) (fun _ _ _ h => by cases h) (fun _ => rfl) rfl

theorem markReadyForSenderCollection_history (orderId : Nat) :
    Keeps (History asks) (markReadyForSenderCollection orderId) :=
  shelved_history (m := .readyForSenderCollection) (fun _ => rfl) (fun _ h => by cases h)
    (fun _ _ => rfl) (fun _ _ => rfl)

theorem markCollectedBySender_history (orderId : Nat) (payload : OrderEventPayload) :
    Keeps (History asks) (markCollectedBySender orderId payload) :=
  shelved_history (m := .collectedBySender payload) (fun _ => rfl) (fun _ h => by cases h)
    (fun _ _ => rfl) (fun _ _ => rfl)

end Locoomo.Histories
