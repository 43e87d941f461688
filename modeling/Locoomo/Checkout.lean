import Locoomo.Access
import Locoomo.CourierChoice
import Locoomo.Frames
import Locoomo.Vehicles

/-! Checkout. A quote reads two Nodes, the vehicle rules, the couriers, the pricing
rule and the route, one after the other, and a booking stores what it came to;
others change all of these in between. -/

namespace Locoomo.Checkout

open Identity (UserRole)
open Edits (Coordinates)
open Vehicles (VehicleClassRule ParcelToCarry vehicleFor className)
open Locoomo.Delivery Locoomo.Pricing Locoomo.Database Locoomo.Payments Locoomo.Frames Relational

/-! ## Requests -/

/-- What travels, and where to. -/
structure Parcel where
  originNodeId : Nat
  destinationNodeId : Nat
  details : ParcelToCarry
  deriving DecidableEq

/-- A price preview, a consumer's checkout, and a Node's own dispatch, whose origin is
the Node. -/
inductive Request
  | quote (parcel : Parcel)
  | create (parcel : Parcel)
  | dispatch (parcel : Parcel)
  deriving DecidableEq

/-- `@Roles` of each route. -/
def Request.roles : Request → List UserRole
  | .quote _ => [.consumer, .nodeOperator, .nodeStaff]
  | .create _ => [.consumer]
  | .dispatch _ => [.nodeOperator, .nodeStaff]

inductive CheckoutError
  | access (e : Access.AccessError)
  | entityNotFound (entity : String) (id : Nat)
  | noDeliveryOption (reason : String)
  | db (e : TxError)
  deriving DecidableEq

/-- A Node as it was read, with its pin. -/
structure QuotedNode where
  row : Access.NodeRow
  pin : Coordinates
  deriving DecidableEq

/-- How far a call has come; each stage waits for its next read. -/
inductive Stage
  | findingOrigin
  | findingDestination (originNode : QuotedNode)
  | selectingVehicle (originNode destinationNode : QuotedNode)
  | askingCouriers (originNode destinationNode : QuotedNode) (vehicleClass : VehicleClass)
  | findingRule (originNode destinationNode : QuotedNode) (vehicleClass : VehicleClass)
  | measuring (originNode destinationNode : QuotedNode) (vehicleClass : VehicleClass)
      (rule : PricingRule)
  | quoted (feeBreakdown : FeeBreakdown)
  | booked (intent : PaymentIntentRow)
  | failed (e : CheckoutError)
  deriving DecidableEq

/-- `books` is false for a preview. -/
structure Call where
  payerId : Nat
  parcel : Parcel
  restrictToPublicNodes : Bool
  books : Bool
  stage : Stage
  deriving DecidableEq

/-- A row of `node_route_distances`, in metres. -/
structure RouteDistanceRow where
  originNodeId : Nat
  destinationNodeId : Nat
  roadDistanceMeters : Nat
  deriving DecidableEq

structure Shop where
  access : Access.World
  pins : Nat → Coordinates
  vehicleRules : List VehicleClassRule
  routes : List RouteDistanceRow
  db : State
  calls : List Call

inductive Action
  | tick (ms : Nat)
  | access (a : Access.Action)
  | system (a : System.Action)
  | move (nodeId : Nat) (pin : Coordinates)
  | saveVehicles (rules : List VehicleClassRule)
  | recordRoute (row : RouteDistanceRow)
  | dropRoutes (nodeId : Nat)
  | ask (token : Option Access.AccessToken) (request : Request)
  | advance (i : Nat)
  | book (i : Nat)

/-! ## Reads -/

/-- `NodesService.findOne` for everybody but admins. -/
def findOne (s : Shop) (nodeId : Nat) : Option QuotedNode :=
  ((get Access.NodeRow.id nodeId s.access.nodes).filter fun n => n.status = .active).map
    fun n => ⟨n, s.pins nodeId⟩

def isRoute (originNodeId destinationNodeId : Nat) (row : RouteDistanceRow) : Bool :=
  decide (row.originNodeId = originNodeId) && decide (row.destinationNodeId = destinationNodeId)

/-- `RouteDistanceService.roadDistanceKm`. -/
def roadDistanceKm (routes : List RouteDistanceRow) (parcel : Parcel) : Option ℚ≥0 :=
  (routes.find? (isRoute parcel.originNodeId parcel.destinationNodeId)).map
    fun row => row.roadDistanceMeters / 1000

/-- `RouteDistanceService.record`. -/
def record (routes : List RouteDistanceRow) (row : RouteDistanceRow) : List RouteDistanceRow :=
  (routes.filter fun r => !isRoute row.originNodeId row.destinationNodeId r) ++ [row]

/-- A Node that has moved keeps none of its distances. -/
def dropRoutes (routes : List RouteDistanceRow) (nodeId : Nat) : List RouteDistanceRow :=
  routes.filter fun r =>
    !(decide (r.originNodeId = nodeId) || decide (r.destinationNodeId = nodeId))

def serves (d : Routing.Deployment) (s : State) (originNodeId : Nat) (distanceKm : ℚ≥0)
    (vehicleClass : VehicleClass) : Bool :=
  match (CourierChoice.canServe d originNodeId distanceKm vehicleClass).run s with
  | .ok (servable, _) => servable
  | .error _ => false

/-! ## A quote -/

-- PostGIS's distance between two points
variable (d : Routing.Deployment) (straightLineKm : Coordinates → Coordinates → ℚ≥0)

/-- `DeliveryQuoteService.quote`, one read at a time. -/
def next (s : Shop) (call : Call) : Stage :=
  match call.stage with
  | .findingOrigin =>
      match findOne s call.parcel.originNodeId with
      | none => .failed (.entityNotFound "Node" call.parcel.originNodeId)
      | some originNode => .findingDestination originNode
  | .findingDestination originNode =>
      match findOne s call.parcel.destinationNodeId with
      | none => .failed (.entityNotFound "Node" call.parcel.destinationNodeId)
      | some destinationNode =>
          if call.restrictToPublicNodes && !originNode.row.isPubliclyVisible then
            .failed (.entityNotFound "Node" call.parcel.originNodeId)
          else if call.restrictToPublicNodes && !destinationNode.row.isPubliclyVisible then
            .failed (.entityNotFound "Node" call.parcel.destinationNodeId)
          else .selectingVehicle originNode destinationNode
  | .selectingVehicle originNode destinationNode =>
      match vehicleFor s.vehicleRules call.parcel.details with
      | none =>
          .failed (.noDeliveryOption "it is larger or heavier than any vehicle we can send")
      | some vehicleClass => .askingCouriers originNode destinationNode vehicleClass
  | .askingCouriers originNode destinationNode vehicleClass =>
      if serves d s.db call.parcel.originNodeId
          (straightLineKm originNode.pin destinationNode.pin) vehicleClass then
        .findingRule originNode destinationNode vehicleClass
      else
        .failed (.noDeliveryOption ("no courier carries " ++ className vehicleClass ++
          " parcels between these stations"))
  | .findingRule originNode destinationNode vehicleClass =>
      match currentRule PricingRule.effectiveFrom s.db.pricingRules s.db.now with
      | none => .failed (.db .pricingNotConfigured)
      | some rule => .measuring originNode destinationNode vehicleClass rule
  | .measuring originNode destinationNode vehicleClass rule =>
      .quoted (calculateFee rule (roadDistanceKm s.routes call.parcel)
        (straightLineKm originNode.pin destinationNode.pin) vehicleClass)
  | stage => stage

/-! ## A booking -/

/-- The transaction of `CreatePaymentIntentService.create`, the quote done. -/
def saveBooking (payerId : Nat) (parcel : Parcel) (feeBreakdown : FeeBreakdown) :
    Db PaymentIntentRow := do
  let reserved ← reserveCapacitySlot parcel.originNodeId
  Tx.ensure reserved (.nodeCapacityUnavailable parcel.originNodeId)
  Tx.query fun s =>
    let row : PaymentIntentRow :=
      { id := s.nextId
        consumerId := payerId
        originNodeId := parcel.originNodeId
        destinationNodeId := parcel.destinationNodeId
        vehicleClass := some feeBreakdown.vehicleClass
        feeBreakdown
        amountKobo := feeBreakdown.totalKobo
        status := .pending
        providerReference := none
        expiresAt := s.now + paymentIntentTtlMs
        paidAt := none }
    (row, { s with intents := s.intents ++ [row], nextId := s.nextId + 1 })

/-- A call that has passed the guards, and for a dispatch its Node. -/
def start (s : Shop) (token : Option Access.AccessToken) (request : Request) :
    Except Access.AccessError Call := do
  let caller ← Access.guard s.access token request.roles
  match request with
  | .quote parcel =>
      .ok ⟨caller, parcel, token.any fun t => t.role = .consumer, false, .findingOrigin⟩
  | .create parcel => .ok ⟨caller, parcel, true, true, .findingOrigin⟩
  | .dispatch parcel => do
      let (_, node) ← Access.getForNode s.access caller parcel.originNodeId
      if node.status = .active then .ok ⟨caller, parcel, false, true, .findingOrigin⟩
      else .error .nodeNotActive

/-- What has an action of its own here. -/
def isElsewhere : System.Action → Bool
  | .tick _ | .createIntent _ _ => true
  | _ => false

def isTick : Access.Action → Bool
  | .tick _ => true
  | _ => false

def commitBooking (s : Shop) (i : Nat) (call : Call) (feeBreakdown : FeeBreakdown) : Shop :=
  match (saveBooking call.payerId call.parcel feeBreakdown).run s.db with
  | .error e => { s with calls := s.calls.set i { call with stage := .failed (.db e) } }
  | .ok (intent, db) =>
      { s with db, calls := s.calls.set i { call with stage := .booked intent } }

def exec (p : Access.Platform) (s : Shop) : Action → Shop
  | .tick ms =>
      { s with access := Access.exec p s.access (.tick ms), db := System.exec d s.db (.tick ms) }
  | .access a => if isTick a then s else { s with access := Access.exec p s.access a }
  | .system a => if isElsewhere a then s else { s with db := System.exec d s.db a }
  | .move nodeId pin => { s with pins := Function.update s.pins nodeId pin }
  | .saveVehicles rules => { s with vehicleRules := rules }
  | .recordRoute row => { s with routes := record s.routes row }
  | .dropRoutes nodeId => { s with routes := dropRoutes s.routes nodeId }
  | .ask token request =>
      match start s token request with
      | .ok call => { s with calls := s.calls ++ [call] }
      | .error _ => s
  | .advance i =>
      match s.calls[i]? with
      | none => s
      | some call =>
          { s with calls := s.calls.set i { call with stage := next d straightLineKm s call } }
  | .book i =>
      match s.calls[i]? with
      | none => s
      | some call =>
          match call.books, call.stage with
          | true, .quoted feeBreakdown => commitBooking s i call feeBreakdown
          | _, _ => s

def run (p : Access.Platform) (s : Shop) (as : List Action) : Shop :=
  Runs.run (exec d straightLineKm p) s as

end Locoomo.Checkout
