import Locoomo.Routing

/-! Moving a parcel: dispatch of a leg to a courier, the events of a leg and
the order behind it, snapshots of remote couriers, submission, and the admin's
and reconciler's ways to end a leg. -/

namespace Locoomo.Logistics

open Locoomo.Delivery Locoomo.Database Locoomo.Routing Relational

/-! ## Legs -/

/-- The row `legs.create` builds; id and time come from the insert. -/
def newLeg (orderId : Nat) (legType : DeliveryLegType) (providerKey : String)
    (status : DeliveryLegStatus) (attemptNumber : Nat) (vehicleClass : Option VehicleClass)
    (courierUserId : Option Nat) : DeliveryLegRow where
  id := 0
  orderId := orderId
  legType := legType
  providerKey := providerKey
  status := status
  attemptNumber := attemptNumber
  externalId := none
  providerStatus := none
  providerSequence := none
  vehicleClass := vehicleClass
  courierUserId := courierUserId
  courierName := none
  courierPhone := none
  courierVehicle := none
  trackingUrl := none
  etaMinutes := none
  quotedKobo := none
  actualKobo := none
  surchargeKobo := 0
  failureReason := none
  endedAt := none
  createdAt := 0

def insertLeg (leg : DeliveryLegRow) : Db DeliveryLegRow :=
  Tx.query fun s =>
    let row := { leg with id := s.nextId, createdAt := s.now }
    (row, { s with legs := s.legs ++ [row], nextId := s.nextId + 1 })

def saveLeg (leg : DeliveryLegRow) : Db Unit := Tx.write fun s => putLeg s leg

def isActiveOf (orderId : Nat) (leg : DeliveryLegRow) : Bool :=
  decide (leg.orderId = orderId) && isActive leg.status

/-- `lockActiveLeg`: the order's leg in an active status. -/
def activeLeg (s : State) (orderId : Nat) : Option DeliveryLegRow :=
  s.legs.find? (isActiveOf orderId)

def isLegOf (orderId : Nat) (legType : DeliveryLegType) (leg : DeliveryLegRow) : Bool :=
  decide (leg.orderId = orderId) && decide (leg.legType = legType)

/-! ## Dispatch -/

structure RoutingChoice where
  provider : Adapter
  attemptNumber : Nat

/-- `LogisticsRouterService.choose`. -/
def choose (d : Deployment) (orderId : Nat) (legType : DeliveryLegType) :
    Db (Option RoutingChoice) := do
  let row ← Tx.read fun s => getOrder s orderId
  let order ← Tx.expect row (.entityNotFound "Order" orderId)
  let legs ← Tx.read fun s => s.legs.filter (isLegOf orderId legType)
  let configs ← Tx.read fun s => s.providers.map (routingConfig d)
  let context : RoutingContext :=
    { originNodeId := order.originNodeId
      distanceKm := d.distanceKm order.originNodeId order.destinationNodeId
      vehicleClass := order.vehicleClass
      attemptsByProvider := fun key => legs.countP fun leg => leg.providerKey = key }
  let chosen := chooseProvider d.keyLe configs (fun key => (registryGet d key).isSome) context
  return do
    let config ← chosen
    let provider ← registryGet d config.key
    return ⟨provider, legs.length + 1⟩

/-- Skips routing: the order goes to that provider, if it is registered. -/
def forcedChoice (d : Deployment) (orderId : Nat) (legType : DeliveryLegType)
    (providerKey : String) : Db (Option RoutingChoice) := do
  let count ← Tx.read fun s => s.legs.countP (isLegOf orderId legType)
  return do
    let provider ← registryGet d providerKey
    return ⟨provider, count + 1⟩

/-- `options.providerKey ? this.forcedChoice(…) : this.router.choose(…)`. -/
def route (d : Deployment) (orderId : Nat) (legType : DeliveryLegType)
    (providerKey : Option String) : Db (Option RoutingChoice) :=
  match providerKey with
  | some key => forcedChoice d orderId legType key
  | none => choose d orderId legType

/-- The second half of `dispatch`: record the leg and hand it to the provider,
through the outbox when that is remote. -/
def bookLeg (orderId : Nat) (legType : DeliveryLegType) (choice : RoutingChoice) :
    Db (Option DeliveryLegRow) := do
  let row ← Tx.read fun s => getOrder s orderId
  let order ← Tx.expect row (.entityNotFound "Order" orderId)
  let leg ← insertLeg (newLeg orderId legType choice.provider.key .requested
    choice.attemptNumber order.vehicleClass none)
  if choice.provider.remoteSubmission then do
    enqueue (.logisticsSubmit leg.id)
    return some leg
  else do
    -- the in-house pool's `createDelivery` answers with nulls
    let booked := { leg with externalId := none, providerStatus := none }
    saveLeg booked
    return some booked

/-- Idempotent: an order that has a leg in progress keeps it. -/
def dispatch (d : Deployment) (orderId : Nat) (legType : DeliveryLegType)
    (providerKey : Option String) : Db (Option DeliveryLegRow) := do
  let active ← Tx.read fun s => activeLeg s orderId
  match active with
  | some leg => return some leg
  | none => do
      let choice ← route d orderId legType providerKey
      match choice with
      | none => return none
      | some choice => bookLeg orderId legType choice

/-! ## The listener -/

structure DeliveryEventNotice where
  orderId : Nat
  legId : Nat
  legType : DeliveryLegType
  providerKey : String
  event : DeliveryEventType
  courierUserId : Option Nat
  reason : Option String

def enqueueReturnStarted (orderId : Nat) : Db Unit := do
  enqueue (.email orderId .returnStartedSender)
  enqueue (.email orderId .returnStartedReceiver)

/-- A Locoomo rider gives the capacity slot back; a courier holds none. -/
def releaseCourierSlot (courierUserId : Option Nat) : Db Unit :=
  match courierUserId with
  | some riderId => releaseDeliverySlot riderId
  | none => return ()

/-- `DeliveryProgressListener.onDeliveryEvent`. -/
def onDeliveryEvent (notice : DeliveryEventNotice) : Db Unit :=
  if notice.legType ≠ .forward then
    return ()
  else
    match notice.event with
    | .assigned =>
        match notice.courierUserId with
        | some riderId => do
            let _ ← assignRider notice.orderId riderId
            return ()
        | none => do
            let _ ← markCourierAssigned notice.orderId notice.providerKey
            return ()
    | .pickedUp => do
        let order ← markPickedUpByRider notice.orderId
        releaseCapacitySlot order.originNodeId
    | .delivered => do
        let _ ← markArrivedAtDestination notice.orderId
        releaseCourierSlot notice.courierUserId
    | .attemptFailed => return ()
    | .released | .cancelled => do
        let order ← Tx.read fun s => getOrder s notice.orderId
        if order.map OrderRow.status = some .riderAssigned then do
          let _ ← markCourierReleased notice.orderId
            (.courierReleased notice.providerKey notice.event notice.reason)
          return ()
        else
          return ()
    | .returning => do
        let _ ← markReturning notice.orderId (.returning notice.providerKey notice.reason)
        enqueueReturnStarted notice.orderId
    | .returned => do
        let order ← markReturnedToOrigin notice.orderId
        holdReturnedParcel order.originNodeId
        releaseCourierSlot notice.courierUserId

/-! ## Leg events -/

/-- The leg as `apply` saves it: moved to `next`, its courier forgotten on a
release, its end stamped when `next` is terminal. -/
def movedLeg (leg : DeliveryLegRow) (event : DeliveryEventType) (next : DeliveryLegStatus)
    (now : Nat) : DeliveryLegRow :=
  let leg := if event = .released then
      { leg with
        courierUserId := none, courierName := none, courierPhone := none, courierVehicle := none }
    else leg
  { leg with status := next, endedAt := if isTerminal next then some now else leg.endedAt }

def noticeOf (leg : DeliveryLegRow) (event : DeliveryEventType) : DeliveryEventNotice where
  orderId := leg.orderId
  legId := leg.id
  legType := leg.legType
  providerKey := leg.providerKey
  event := event
  courierUserId := leg.courierUserId
  reason := leg.failureReason

/-- `DeliveryEventsService.apply`: the leg as it was saved, or `none` when the
event does not apply (the source's `false`). -/
def apply (d : Deployment) (leg : DeliveryLegRow) (event : DeliveryEventType)
    (routeTo : Option String) : Db (Option DeliveryLegRow) :=
  match nextLegStatus leg.status event with
  | none => return none
  | some next => do
      let now ← Tx.read State.now
      let moved := movedLeg leg event next now
      saveLeg moved
      onDeliveryEvent (noticeOf moved event)
      if event = .cancelled then do
        let _ ← dispatch d moved.orderId moved.legType routeTo
        return some moved
      else
        return some moved

def createInHouseLeg (orderId : Nat) (status : DeliveryLegStatus) (courierUserId : Option Nat) :
    Db DeliveryLegRow := do
  let count ← Tx.read fun s => s.legs.countP fun leg => leg.orderId = orderId
  insertLeg (newLeg orderId .forward inHouseProviderKey status (count + 1) none courierUserId)

/-- The value of a `DeliveryLegStatus` in the source. -/
def statusText : DeliveryLegStatus → String
  | .requested => "requested"
  | .assigned => "assigned"
  | .pickedUp => "picked_up"
  | .delivered => "delivered"
  | .returning => "returning"
  | .returned => "returned"
  | .cancelled => "cancelled"

/-- `First L.` -/
def courierNameOf (user : UserRow) : String :=
  user.firstName ++ " " ++ String.ofList (user.lastName.toList.take 1) ++ "."

/-- `(await this.lockActiveLeg(orderId)) ?? (await …)`. -/
def activeLegOr (orderId : Nat) (create : Db DeliveryLegRow) : Db DeliveryLegRow := do
  let active ← Tx.read fun s => activeLeg s orderId
  match active with
  | some leg => return leg
  | none => create

/-- A rider claiming an order from the pool. -/
def assignInHouseRider (d : Deployment) (orderId riderUserId : Nat) : Db Unit := do
  let leg ← activeLegOr orderId (createInHouseLeg orderId .requested none)
  Tx.ensure (leg.providerKey = inHouseProviderKey)
    (.deliveryNotClaimable orderId ("it's with " ++ leg.providerKey))
  Tx.ensure (leg.status = .requested) (.deliveryNotClaimable orderId "already claimed")
  let rider ← Tx.read fun s => get UserRow.id riderUserId s.users
  let claimed :=
    { leg with
      courierUserId := some riderUserId
      courierName := rider.map courierNameOf
      courierPhone := rider.bind UserRow.phone }
  let _ ← apply d claimed .assigned none
  return ()

/-- The leg of an order with a rider from before legs existed. -/
def createHandoverLeg (orderId : Nat) (event : DeliveryEventType) : Db DeliveryLegRow := do
  let order ← Tx.read fun s => getOrder s orderId
  createInHouseLeg orderId (if event = .pickedUp then .assigned else .pickedUp)
    (order.bind OrderRow.riderId)

/-- Pickup and arrival confirmed with the rider's code at a counter. -/
def recordInHouseHandover (d : Deployment) (orderId : Nat) (event : DeliveryEventType) :
    Db Unit := do
  let leg ← activeLegOr orderId (createHandoverLeg orderId event)
  Tx.ensure (leg.providerKey = inHouseProviderKey)
    (.deliveryNotClaimable orderId ("it's with " ++ leg.providerKey ++
      ", whose courier confirms handovers in their own app"))
  let moved ← apply d leg event none
  Tx.ensure moved.isSome
    (.deliveryNotClaimable orderId ("the delivery is " ++ statusText leg.status))

/-! ## Snapshots -/

structure CourierDetails where
  name : Option String
  phone : Option String
  vehicle : Option String
  deriving DecidableEq, Repr

structure ProviderDeliverySnapshot where
  externalId : String
  status : DeliveryLegStatus
  providerStatus : String
  sequence : Option Int
  courier : Option CourierDetails
  trackingUrl : Option String
  actualKobo : Option Int
  surchargeKobo : Option Int
  failureReason : Option String
  deriving DecidableEq, Repr

def findByExternalId (s : State) (providerKey externalId : String) : Option DeliveryLegRow :=
  s.legs.find? fun leg => leg.providerKey = providerKey ∧ leg.externalId = some externalId

/-- A sequence not above the leg's; a null on either side is never stale. -/
def isStale (leg : DeliveryLegRow) (snapshot : ProviderDeliverySnapshot) : Bool :=
  match snapshot.sequence, leg.providerSequence with
  | some reported, some known => decide (reported ≤ known)
  | _, _ => false

/-- The columns a snapshot writes onto the leg before any event. -/
def withSnapshot (leg : DeliveryLegRow) (snapshot : ProviderDeliverySnapshot) : DeliveryLegRow :=
  { leg with
    providerStatus := some snapshot.providerStatus
    providerSequence := snapshot.sequence
    courierName := (snapshot.courier.bind CourierDetails.name).or leg.courierName
    courierPhone := (snapshot.courier.bind CourierDetails.phone).or leg.courierPhone
    courierVehicle := (snapshot.courier.bind CourierDetails.vehicle).or leg.courierVehicle
    trackingUrl := snapshot.trackingUrl.or leg.trackingUrl
    actualKobo := snapshot.actualKobo.or leg.actualKobo
    surchargeKobo := snapshot.surchargeKobo.getD leg.surchargeKobo
    failureReason := snapshot.failureReason.or leg.failureReason }

/-- The catch-up loop: each event on the leg as the one before left it. -/
def applyAll (d : Deployment) (leg : DeliveryLegRow) : List DeliveryEventType → Db Unit
  | [] => return ()
  | event :: events => do
      let moved ← apply d leg event none
      applyAll d (moved.getD leg) events

def syncFromSnapshot (d : Deployment) (providerKey : String)
    (snapshot : ProviderDeliverySnapshot) : Db Bool := do
  let found ← Tx.read fun s => findByExternalId s providerKey snapshot.externalId
  match found with
  | none => return false
  | some leg =>
      if isStale leg snapshot then
        return false
      else
        match eventsToReach leg.status snapshot.status with
        | [] => do
            saveLeg (withSnapshot leg snapshot)
            return true
        | steps => do
            applyAll d (withSnapshot leg snapshot) steps
            return true

/-! ## Ending a leg from our side -/

def cancelLeg (d : Deployment) (legId : Nat) (reason : String) (thenRouteTo : Option String) :
    Db Bool := do
  let row ← Tx.read fun s => getLeg s legId
  match row with
  | none => return false
  | some leg => do
      let moved ← apply d { leg with failureReason := some reason } .cancelled thenRouteTo
      return moved.isSome

/-- What the admin's fallback checks on the leg it read. -/
def fallbackChecks (leg : DeliveryLegRow) : Db Unit := do
  Tx.ensure (leg.providerKey ≠ inHouseProviderKey)
    (.illegalDeliveryAction "This delivery is already with Locoomo riders")
  Tx.ensure (leg.status = .requested ∨ leg.status = .assigned)
    (.illegalDeliveryAction ("Can't take a delivery back once it's " ++ statusText leg.status))

/-! ## Submission -/

structure CreateDeliveryResult where
  externalId : Option String
  providerStatus : Option String
  quotedKobo : Option Int
  trackingUrl : Option String
  etaMinutes : Option Nat
  deriving DecidableEq, Repr

/-- How a `createDelivery` call ends for the caller: an answer, an error marked
non-retryable with its message, or any other error (a timeout included). -/
inductive SubmitAnswer
  | booked (result : CreateDeliveryResult)
  | refused (message : String)
  | failed
  deriving DecidableEq, Repr

/-- Not null and not the empty string. -/
def hasExternalId (leg : DeliveryLegRow) : Bool := leg.externalId.any (· ≠ "")

/-- The leg `submit` goes on with: still requested and not submitted yet. -/
def submittable (s : State) (legId : Nat) : Option DeliveryLegRow :=
  (getLeg s legId).filter fun leg => leg.status = .requested ∧ hasExternalId leg = false

/-- `UPDATE delivery_legs SET … WHERE id`, without a guard on the status. -/
def recordBooking (legId : Nat) (result : CreateDeliveryResult) : Db Unit :=
  Tx.write fun s =>
    let set := fun leg : DeliveryLegRow =>
      { leg with
        externalId := result.externalId
        providerStatus := result.providerStatus
        quotedKobo := result.quotedKobo
        trackingUrl := result.trackingUrl
        etaMinutes := result.etaMinutes }
    { s with legs := update (fun leg => leg.id = legId) set s.legs }

/-- The re-route transaction of a refused submission. -/
def recordRefusal (d : Deployment) (leg : DeliveryLegRow) (message : String) : Db Unit := do
  let reason := String.ofList (message.toList.take 500)
  Tx.write fun s =>
    let set := fun row : DeliveryLegRow =>
      { row with status := .cancelled, failureReason := some reason, endedAt := some s.now }
    { s with legs := update (fun row => row.id = leg.id) set s.legs }
  let _ ← dispatch d leg.orderId leg.legType none
  return ()

/-- The answer of a local adapter is always the empty booking. -/
def answerOf (provider : Adapter) (answer : SubmitAnswer) : SubmitAnswer :=
  if provider.remoteSubmission then answer else .booked ⟨none, none, none, none, none⟩

/-- A whole `submit` with the given answer of the provider. -/
def submit (d : Deployment) (legId : Nat) (answer : SubmitAnswer) : Db Unit := do
  let row ← Tx.read fun s => submittable s legId
  match row with
  | none => return ()
  | some leg => do
      let provider ← Tx.expect (registryGet d leg.providerKey) (.noAdapter leg.providerKey)
      match answerOf provider answer with
      | .booked result => recordBooking leg.id result
      | .refused message => recordRefusal d leg message
      | .failed => Tx.reject .providerUnavailable

/-! ## The admin's endpoints -/

/-- `AdminLogisticsService.retry`. -/
def retry (d : Deployment) (legId : Nat) : Db Unit := do
  let row ← Tx.read fun s => getLeg s legId
  let leg ← Tx.expect row (.entityNotFound "Delivery" legId)
  let remote := ((registryGet d leg.providerKey).map Adapter.remoteSubmission).getD false
  Tx.ensure (decide (leg.status = .requested) && !hasExternalId leg && remote)
    (.illegalDeliveryAction ("Only a delivery that never reached its courier can be retried — " ++
      "use reconcile to refresh one the courier has"))
  enqueue (.logisticsSubmit legId)

/-- `AdminLogisticsService.fallbackToInHouse` as one step, the courier having
accepted the cancellation. -/
def fallbackToInHouse (d : Deployment) (legId : Nat) : Db Unit := do
  let row ← Tx.read fun s => getLeg s legId
  let leg ← Tx.expect row (.entityNotFound "Delivery" legId)
  fallbackChecks leg
  let moved ← cancelLeg d legId "admin_fallback" (some inHouseProviderKey)
  Tx.ensure moved (.illegalDeliveryAction
    "The delivery moved on while being cancelled — reconcile and check again")

/-- The settings an admin may send; `none` is a field not sent. -/
structure UpdateLogisticsProviderDto where
  enabled : Option Bool
  priority : Option Int
  maxAttempts : Option Nat
  assignTimeoutMinutes : Option (Option Nat)
  minDistanceKm : Option (Option ℚ≥0)
  maxDistanceKm : Option (Option ℚ≥0)
  pilotNodeIds : Option (Option (List Nat))
  deriving DecidableEq

/-- The bounds of the DTO's validators. -/
def UpdateLogisticsProviderDto.Valid (dto : UpdateLogisticsProviderDto) : Prop :=
  (∀ n, dto.maxAttempts = some n → 1 ≤ n ∧ n ≤ 10) ∧
    ∀ n, dto.assignTimeoutMinutes = some (some n) → 1 ≤ n ∧ n ≤ 1440

def updateProvider (key : String) (dto : UpdateLogisticsProviderDto) : Db Unit := do
  let row ← Tx.read fun s => get LogisticsProviderRow.key key s.providers
  let current ← Tx.expect row (.logisticsProviderNotFound key)
  Tx.ensure (!(decide (key = inHouseProviderKey) && decide (dto.enabled = some false)))
    (.illegalDeliveryAction "Locoomo riders are every order's fallback and can't be switched off")
  let minKm := dto.minDistanceKm.getD current.minDistanceKm
  let maxKm := dto.maxDistanceKm.getD current.maxDistanceKm
  Tx.ensure
    (match minKm, maxKm with
      | some min, some max => decide (min ≤ max)
      | _, _ => true)
    (.invalidField "minDistanceKm" "minDistanceKm must not exceed maxDistanceKm")
  let pilots := dto.pilotNodeIds.map fun pilots => pilots.getD []
  let sent := pilots.getD []
  let known ← Tx.read fun s => s.nodes.countP fun n => n.id ∈ sent
  Tx.ensure (known = sent.length)
    (.invalidField "pilotNodeIds" "pilotNodeIds contains unknown Nodes")
  Tx.write fun s =>
    let changed : LogisticsProviderRow :=
      { key
        enabled := dto.enabled.getD current.enabled
        priority := dto.priority.getD current.priority
        maxAttempts := dto.maxAttempts.getD current.maxAttempts
        minDistanceKm := minKm
        maxDistanceKm := maxKm
        pilotNodeIds := match pilots with
          | none => current.pilotNodeIds
          | some [] => none
          | some pilots => some pilots
        assignTimeoutMinutes := dto.assignTimeoutMinutes.getD current.assignTimeoutMinutes }
    { s with providers := put LogisticsProviderRow.key changed s.providers }

end Locoomo.Logistics
