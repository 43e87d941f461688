import Locoomo.Lib.Table
import Locoomo.Lib.Tx
import Locoomo.Pricing

/-! The rows of the database, its state, and the operations that each module
of the API exports for use inside another one's transaction: the order state
machine with its timeline and shelf, the capacity counters of Nodes and
riders, and the outbox. Ids are natural numbers drawn from one counter, times
are milliseconds. -/

namespace Locoomo.Database

open Locoomo.Delivery Locoomo.Pricing Relational

/-! ## Rows -/

structure NodeRow where
  id : Nat
  capacity : Nat
  currentCount : Nat
  deriving DecidableEq, Repr

inductive RiderStatus
  | pending | active | suspended
  deriving DecidableEq, Repr

structure RiderProfileRow where
  userId : Nat
  status : RiderStatus
  currentActiveOrderCount : Nat
  deriving DecidableEq, Repr

structure UserRow where
  id : Nat
  firstName : String
  lastName : String
  phone : Option String
  deriving DecidableEq, Repr

structure LogisticsProviderRow where
  key : String
  enabled : Bool
  priority : Int
  maxAttempts : Nat
  minDistanceKm : Option ℚ≥0
  maxDistanceKm : Option ℚ≥0
  pilotNodeIds : Option (List Nat)
  assignTimeoutMinutes : Option Nat
  deriving DecidableEq

inductive PaymentIntentStatus
  | pending | paid | failed | expired
  deriving DecidableEq, Repr

structure PaymentIntentRow where
  id : Nat
  consumerId : Nat
  originNodeId : Nat
  destinationNodeId : Nat
  vehicleClass : Option VehicleClass
  feeBreakdown : FeeBreakdown
  amountKobo : Int
  status : PaymentIntentStatus
  providerReference : Option Nat
  expiresAt : Nat
  paidAt : Option Nat
  deriving DecidableEq, Repr

structure OrderRow where
  id : Nat
  trackingCode : String
  paymentIntentId : Nat
  consumerId : Nat
  originNodeId : Nat
  destinationNodeId : Nat
  riderId : Option Nat
  vehicleClass : Option VehicleClass
  amountKobo : Int
  destinationFeeKobo : Int
  status : OrderStatus
  shelfNodeId : Option Nat
  shelfNumber : Option Nat
  deriving DecidableEq, Repr

inductive OrderEventType
  | orderPlaced | riderAssigned | courierReleased | parcelReceivedAtOrigin | pickedUpByRider
  | arrivedAtDestination | readyForCollection | collectedByReceiver | returnInitiated
  | returnInTransit | returnedToOrigin | readyForSenderCollection | collectedBySender
  deriving DecidableEq, Repr

inductive OrderEventPayload
  | empty
  | placed (paymentIntentId : Nat) (amountKobo : Int)
  | rider (riderId : Nat)
  | courier (providerKey : String)
  | courierReleased (providerKey : String) (event : DeliveryEventType) (reason : Option String)
  | returning (providerKey : String) (reason : Option String)
  | collected (identityConfirmed : Bool)
  deriving DecidableEq, Repr

structure OrderEventRow where
  orderId : Nat
  type : OrderEventType
  payload : OrderEventPayload
  createdAt : Nat
  deriving DecidableEq, Repr

structure DeliveryLegRow where
  id : Nat
  orderId : Nat
  legType : DeliveryLegType
  providerKey : String
  status : DeliveryLegStatus
  attemptNumber : Nat
  externalId : Option String
  providerStatus : Option String
  providerSequence : Option Int
  vehicleClass : Option VehicleClass
  courierUserId : Option Nat
  courierName : Option String
  courierPhone : Option String
  courierVehicle : Option String
  trackingUrl : Option String
  etaMinutes : Option Nat
  quotedKobo : Option Int
  actualKobo : Option Int
  surchargeKobo : Int
  failureReason : Option String
  endedAt : Option Nat
  createdAt : Nat
  deriving DecidableEq, Repr

inductive HandoffCodeType
  | riderPickup | riderArrival | receiverCollection | senderCollection
  deriving DecidableEq, Repr

structure HandoffCodeRow where
  id : Nat
  orderId : Nat
  type : HandoffCodeType
  codeHash : String
  requestedByUserId : Option Nat
  expiresAt : Nat
  usedAt : Option Nat
  failedAttempts : Nat
  createdAt : Nat
  deriving DecidableEq, Repr

inductive RevenueSplitPartyType
  | rider | node | destinationNode | platform | courierAllocation
  deriving DecidableEq, Repr

inductive PayoutStatus
  | pending | paid | notPayable
  deriving DecidableEq, Repr

structure RevenueSplitEntryRow where
  orderId : Nat
  partyType : RevenueSplitPartyType
  partyId : Option Nat
  amountKobo : Int
  splitRuleId : Nat
  payoutStatus : PayoutStatus
  deriving DecidableEq, Repr

inductive Email
  | orderConfirmed
  | onItsWay
  | readyForCollection (code : String)
  | newCollectionCode (code : String)
  | returnStartedSender
  | returnStartedReceiver
  | senderCollectionCode (code : String)
  deriving DecidableEq, Repr

inductive OutboxEvent
  | logisticsSubmit (legId : Nat)
  | email (orderId : Nat) (email : Email)
  deriving DecidableEq, Repr

structure IdempotencyKey where
  scope : String
  key : Nat
  deriving DecidableEq, Repr

/-! ## The state -/

/-- A database state. `clampHits` is no column: it counts how often a
`GREATEST(count - 1, 0)` changed its value, and nothing reads it. -/
structure State where
  now : Nat
  nextId : Nat
  nodes : List NodeRow
  riders : List RiderProfileRow
  users : List UserRow
  providers : List LogisticsProviderRow
  pricingRules : List PricingRule
  splitRules : List RevenueSplitRule
  intents : List PaymentIntentRow
  orders : List OrderRow
  orderEvents : List OrderEventRow
  legs : List DeliveryLegRow
  codes : List HandoffCodeRow
  keys : List IdempotencyKey
  entries : List RevenueSplitEntryRow
  outbox : List OutboxEvent
  clampHits : Nat

/-- Why a transaction rolls back. `invalidHandoffCode` carries the code row
whose attempt counter the validator raises on its own connection. -/
inductive TxError
  | illegalTransitionRequested (source target : OrderStatus)
  | illegalOrderTransition (orderId : Nat) (source target : OrderStatus)
  | deliveryNotClaimable (orderId : Nat) (reason : String)
  | illegalDeliveryAction (reason : String)
  | entityNotFound (entity : String) (id : Nat)
  | logisticsProviderNotFound (key : String)
  | invalidField (field message : String)
  | riderNotActive
  | riderCapacityUnavailable (riderId : Nat)
  | nodeCapacityUnavailable (nodeId : Nat)
  | orderNotReadyForCollection (orderId : Nat)
  | invalidHandoffCode (failed : Option Nat)
  | revenueSplitNotConfigured
  | pricingNotConfigured
  | uniqueViolation (index : String)
  | transactionAborted
  | noAdapter (providerKey : String)
  | providerUnavailable
  | fault
  deriving DecidableEq, Repr

abbrev Db := Tx State TxError

def getOrder (s : State) (orderId : Nat) : Option OrderRow := get OrderRow.id orderId s.orders

def getLeg (s : State) (legId : Nat) : Option DeliveryLegRow := get DeliveryLegRow.id legId s.legs

def getIntent (s : State) (intentId : Nat) : Option PaymentIntentRow :=
  get PaymentIntentRow.id intentId s.intents

def putOrder (s : State) (order : OrderRow) : State :=
  { s with orders := put OrderRow.id order s.orders }

def putLeg (s : State) (leg : DeliveryLegRow) : State :=
  { s with legs := put DeliveryLegRow.id leg s.legs }

/-! ## The order state machine -/

/-- `Error('Illegal order transition requested')` for an edge not in the graph. -/
def assertLegalTransition (source target : OrderStatus) : Db Unit :=
  Tx.ensure (target ∈ orderTransitions source) (.illegalTransitionRequested source target)

def appendEvent (orderId : Nat) (type : OrderEventType) (payload : OrderEventPayload) : Db Unit :=
  Tx.write fun s =>
    { s with orderEvents := s.orderEvents ++ [⟨orderId, type, payload, s.now⟩] }

/-- The shape of every status move: check the edge, `UPDATE … SET status,
set WHERE id AND status = source AND guard RETURNING *`, append the event. -/
def moveOrder (orderId : Nat) (source target : OrderStatus) (guard : OrderRow → Bool)
    (set : OrderRow → OrderRow) (type : OrderEventType) (payload : OrderEventPayload) :
    Db OrderRow := do
  assertLegalTransition source target
  let row ← Tx.query fun s =>
    match (getOrder s orderId).filter fun o => decide (o.status = source) && guard o with
    | none => (none, s)
    | some order =>
        let moved := { set order with status := target }
        (some moved, putOrder s moved)
  let order ← Tx.expect row (.illegalOrderTransition orderId source target)
  appendEvent orderId type payload
  return order

def transition (orderId : Nat) (source target : OrderStatus) (type : OrderEventType)
    (payload : OrderEventPayload) : Db OrderRow :=
  moveOrder orderId source target (fun _ => true) id type payload

/-- The guard `"riderId" IS NULL` decides a race between two accepts. -/
def assignRider (orderId riderId : Nat) : Db OrderRow :=
  moveOrder orderId .parcelReceivedAtOrigin .riderAssigned (fun o => o.riderId.isNone)
    (fun o => { o with riderId := some riderId }) .riderAssigned (.rider riderId)

def markCourierAssigned (orderId : Nat) (providerKey : String) : Db OrderRow :=
  transition orderId .parcelReceivedAtOrigin .riderAssigned .riderAssigned (.courier providerKey)

def markCourierReleased (orderId : Nat) (payload : OrderEventPayload) : Db OrderRow :=
  moveOrder orderId .riderAssigned .parcelReceivedAtOrigin (fun _ => true)
    (fun o => { o with riderId := none }) .courierReleased payload

/-- The lowest shelf number in use by no parcel at the Node. -/
def lowestFreeShelf (orders : List OrderRow) (nodeId : Nat) : Option Nat :=
  let onShelf := orders.filter fun o => o.shelfNodeId = some nodeId
  (List.range' 1 (onShelf.length + 1)).find? fun n => !onShelf.any fun o => o.shelfNumber = some n

def placeOnShelf (order : OrderRow) (nodeId : Nat) : Db OrderRow :=
  Tx.query fun s =>
    let placed :=
      { order with shelfNodeId := some nodeId, shelfNumber := lowestFreeShelf s.orders nodeId }
    (placed, putOrder s placed)

def clearShelf (order : OrderRow) : Db OrderRow :=
  Tx.query fun s =>
    let cleared := { order with shelfNodeId := none, shelfNumber := none }
    (cleared, putOrder s cleared)

def markReceivedAtOrigin (orderId : Nat) : Db OrderRow := do
  let order ← transition orderId .awaitingDropOff .parcelReceivedAtOrigin .parcelReceivedAtOrigin
    .empty
  placeOnShelf order order.originNodeId

def markPickedUpByRider (orderId : Nat) : Db OrderRow := do
  let order ← transition orderId .riderAssigned .inTransit .pickedUpByRider .empty
  clearShelf order

def markArrivedAtDestination (orderId : Nat) : Db OrderRow :=
  transition orderId .inTransit .arrivedAtDestination .arrivedAtDestination .empty

def markReadyForCollection (orderId : Nat) : Db OrderRow := do
  let order ← transition orderId .arrivedAtDestination .readyForCollection .readyForCollection
    .empty
  placeOnShelf order order.destinationNodeId

def markCollected (orderId : Nat) (payload : OrderEventPayload) : Db OrderRow := do
  let order ← transition orderId .readyForCollection .completed .collectedByReceiver payload
  clearShelf order

/-- Both steps of the return at once: decided, then under way. -/
def markReturning (orderId : Nat) (payload : OrderEventPayload) : Db OrderRow := do
  let _ ← transition orderId .inTransit .returnInitiated .returnInitiated payload
  transition orderId .returnInitiated .returnInTransit .returnInTransit .empty

def markReturnedToOrigin (orderId : Nat) : Db OrderRow :=
  transition orderId .returnInTransit .returnedToOrigin .returnedToOrigin .empty

def markReadyForSenderCollection (orderId : Nat) : Db OrderRow := do
  let order ← transition orderId .returnedToOrigin .readyForSenderCollection
    .readyForSenderCollection .empty
  placeOnShelf order order.originNodeId

def markCollectedBySender (orderId : Nat) (payload : OrderEventPayload) : Db OrderRow := do
  let order ← transition orderId .readyForSenderCollection .returnCompleted .collectedBySender
    payload
  clearShelf order

/-! ## Capacity counters -/

/-- `UPDATE nodes SET "currentCount" = f "currentCount" WHERE id = nodeId`. -/
def adjustNode (nodeId : Nat) (f : Nat → Nat) (s : State) : State :=
  let bump := fun n : NodeRow => { n with currentCount := f n.currentCount }
  { s with nodes := update (fun n => n.id = nodeId) bump s.nodes }

/-- `UPDATE rider_profiles SET "currentActiveOrderCount" = f … WHERE "userId" = riderId`. -/
def adjustRider (riderId : Nat) (f : Nat → Nat) (s : State) : State :=
  let bump := fun r : RiderProfileRow =>
    { r with currentActiveOrderCount := f r.currentActiveOrderCount }
  { s with riders := update (fun r => r.userId = riderId) bump s.riders }

/-- False when the Node is full. -/
def reserveCapacitySlot (nodeId : Nat) : Db Bool := do
  let row ← Tx.read fun s => get NodeRow.id nodeId s.nodes
  let node ← Tx.expect row (.entityNotFound "Node" nodeId)
  if node.currentCount ≥ node.capacity then
    return false
  else do
    Tx.write (adjustNode nodeId (· + 1))
    return true

/-- Never refuses: the parcel is physically back. -/
def holdReturnedParcel (nodeId : Nat) : Db Unit := Tx.write (adjustNode nodeId (· + 1))

/-- `GREATEST("currentCount" - 1, 0)`. -/
def releaseCapacitySlot (nodeId : Nat) : Db Unit :=
  Tx.write fun s =>
    let clamped := s.nodes.countP fun n => n.id = nodeId ∧ n.currentCount = 0
    { adjustNode nodeId (· - 1) s with clampHits := s.clampHits + clamped }

def maxActiveOrdersPerRider : Nat := 3

def reserveDeliverySlot (riderId : Nat) : Db Bool := do
  let row ← Tx.read fun s => get RiderProfileRow.userId riderId s.riders
  let profile ← Tx.expect row (.entityNotFound "RiderProfile" riderId)
  Tx.ensure (profile.status = .active) .riderNotActive
  if profile.currentActiveOrderCount ≥ maxActiveOrdersPerRider then
    return false
  else do
    Tx.write (adjustRider riderId (· + 1))
    return true

def releaseDeliverySlot (riderId : Nat) : Db Unit := Tx.write (adjustRider riderId (· - 1))

/-! ## Outbox and idempotency keys -/

def enqueue (event : OutboxEvent) : Db Unit :=
  Tx.write fun s => { s with outbox := s.outbox ++ [event] }

/-- The key insert of `withIdempotency` and its branch: a key that exists
makes the call a duplicate, which leaves PostgreSQL nothing to commit. -/
def withIdempotency {α : Type} (scope : String) (key : Nat) (fn : Db α) : Db (Option α) := do
  let inserted ← Tx.query fun s =>
    if ⟨scope, key⟩ ∈ s.keys then (false, s)
    else (true, { s with keys := s.keys ++ [⟨scope, key⟩] })
  if inserted then do
    let result ← fn
    return some result
  else
    return none

end Locoomo.Database
