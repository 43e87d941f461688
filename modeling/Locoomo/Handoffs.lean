import Locoomo.Logistics

/-! The counter: handoff codes, a rider's accept, and the seven confirming
steps, each one a body run once per order under its idempotency scope. -/

namespace Locoomo.Handoffs

open Locoomo.Delivery Locoomo.Pricing Locoomo.Database Locoomo.Routing Locoomo.Logistics Relational

/-! ## Handoff codes -/

def minute : Nat := 60000

def collectionCodeTtlMinutes : Nat := 60

def senderCollectionCodeTtlMinutes : Nat := 60

def handoffCodeTtlMinutes : Nat := 5

def isUnusedCode (orderId : Nat) (type : HandoffCodeType) (code : HandoffCodeRow) : Bool :=
  decide (code.orderId = orderId) && decide (code.type = type) && code.usedAt.isNone

/-- `HandoffCodeIssuerService.issue`, `rawCode` being the code it drew. -/
def issue (d : Deployment) (orderId : Nat) (type : HandoffCodeType)
    (requestedByUserId : Option Nat) (ttlMinutes : Nat) (rawCode : String) : Db Unit := do
  Tx.write fun s => { s with codes := s.codes.filter fun code => !isUnusedCode orderId type code }
  Tx.write fun s =>
    let row : HandoffCodeRow :=
      { id := s.nextId
        orderId
        type
        codeHash := d.hashToken rawCode
        requestedByUserId
        expiresAt := s.now + ttlMinutes * minute
        usedAt := none
        failedAttempts := 0
        createdAt := s.now }
    { s with codes := s.codes ++ [row], nextId := s.nextId + 1 }

def maxHandoffCodeAttempts : Nat := 5

def isValidCode (d : Deployment) (now : Nat) (code : String) (row : HandoffCodeRow) : Bool :=
  decide (now < row.expiresAt) && decide (row.failedAttempts < maxHandoffCodeAttempts)
    && decide (d.hashToken code = row.codeHash)

/-- `HandoffCodeValidatorService.validate`. A wrong code aborts with the row
whose counter goes up on a separate connection; see `rollback`. -/
def validate (d : Deployment) (orderId : Nat) (type : HandoffCodeType) (code : String) :
    Db Unit := do
  let handoffCode ← Tx.read fun s =>
    latest HandoffCodeRow.createdAt (s.codes.filter (isUnusedCode orderId type))
  let now ← Tx.read State.now
  let row ← Tx.expect (handoffCode.filter (isValidCode d now code))
    (.invalidHandoffCode (handoffCode.map HandoffCodeRow.id))
  Tx.write fun s =>
    let use := fun c : HandoffCodeRow => { c with usedAt := some s.now }
    { s with codes := update (fun c => c.id = row.id) use s.codes }

/-- `UPDATE handoff_codes SET "failedAttempts" = "failedAttempts" + 1 WHERE id`. -/
def recordFailedAttempt (s : State) (codeId : Nat) : State :=
  let bump := fun c : HandoffCodeRow => { c with failedAttempts := c.failedAttempts + 1 }
  { s with codes := update (fun c => c.id = codeId) bump s.codes }

/-- What the database holds after a transaction from `s` failed. -/
def rollback (s : State) : TxError → State
  | .invalidHandoffCode (some codeId) => recordFailedAttempt s codeId
  | _ => s

/-- `RequestHandoffCodeService.request`. The rider is checked before the transaction;
here both are one step. -/
def requestCode (d : Deployment) (orderId riderId : Nat) (type : HandoffCodeType)
    (rawCode : String) : Db Unit := do
  let order ← Tx.read fun s => getOrder s orderId
  Tx.ensure (order.any fun o => o.riderId = some riderId) (.entityNotFound "Order" orderId)
  issue d orderId type (some riderId) handoffCodeTtlMinutes rawCode

/-! ## Earnings -/

def hasEntry (entries : List RevenueSplitEntryRow) (orderId : Nat)
    (partyType : RevenueSplitPartyType) : Bool :=
  entries.any fun entry => entry.orderId = orderId ∧ entry.partyType = partyType

/-- The four rows `record` saves; the first is the rider's, or the courier
allocation when no Locoomo rider carried the parcel. -/
def splitEntries (order : OrderRow) (rule : RevenueSplitRule) : List RevenueSplitEntryRow :=
  let deliveryRevenueKobo := order.amountKobo - order.destinationFeeKobo
  let shares := calculateSplit deliveryRevenueKobo rule.riderPercent rule.nodePercent
  let carrier : RevenueSplitEntryRow :=
    match order.riderId with
    | some riderId => ⟨order.id, .rider, some riderId, shares.riderShareKobo, rule.id, .pending⟩
    | none => ⟨order.id, .courierAllocation, none, shares.riderShareKobo, rule.id, .notPayable⟩
  [carrier,
    ⟨order.id, .node, some order.originNodeId, shares.nodeShareKobo, rule.id, .pending⟩,
    ⟨order.id, .destinationNode, some order.destinationNodeId, order.destinationFeeKobo, rule.id,
      .pending⟩,
    ⟨order.id, .platform, none, shares.platformShareKobo, rule.id, .pending⟩]

/-- `RecordRevenueSplitService.record`; one entry per order and party. -/
def record (order : OrderRow) : Db Unit := do
  let current ← Tx.read fun s => currentRule RevenueSplitRule.effectiveFrom s.splitRules s.now
  let rule ← Tx.expect current .revenueSplitNotConfigured
  let entries := splitEntries order rule
  let recorded ← Tx.read State.entries
  Tx.ensure (entries.all fun entry => !hasEntry recorded order.id entry.partyType)
    (.uniqueViolation "revenue_split_entries")
  Tx.write fun s => { s with entries := s.entries ++ entries }

/-! ## Accepting an order -/

def accept (d : Deployment) (orderId riderId : Nat) : Db Unit := do
  let reserved ← reserveDeliverySlot riderId
  Tx.ensure reserved (.riderCapacityUnavailable riderId)
  assignInHouseRider d orderId riderId

/-! ## Confirming steps -/

inductive ConfirmStep
  | dropOff | pickup | arrival | intake | collection | returnIntake | returnCollect
  deriving DecidableEq, Repr

/-- The step's `IDEMPOTENCY_SCOPE`. -/
def ConfirmStep.scope : ConfirmStep → String
  | .dropOff => "handoffs.drop-off"
  | .pickup => "handoffs.confirm-handoff.rider_pickup"
  | .arrival => "handoffs.confirm-handoff.rider_arrival"
  | .intake => "handoffs.confirm-intake"
  | .collection => "handoffs.confirm-collection"
  | .returnIntake => "handoffs.return-intake"
  | .returnCollect => "handoffs.return-collect"

/-- Whether the step belongs to the origin Node's staff. -/
def ConfirmStep.atOrigin : ConfirmStep → Bool
  | .dropOff | .pickup | .returnIntake | .returnCollect => true
  | .arrival | .intake | .collection => false

/-- What a call brings along: the Nodes of the operator, the code typed in,
the identity attestation, and the code drawn when the step issues one. -/
structure ConfirmArgs where
  operatorNodeIds : List Nat
  code : String
  identityConfirmed : Bool
  drawnCode : String
  deriving DecidableEq, Repr

def confirmDropOff (d : Deployment) (orderId : Nat) : Db OrderRow := do
  let order ← markReceivedAtOrigin orderId
  enqueue (.email orderId .onItsWay)
  let _ ← dispatch d orderId .forward none
  return order

/-- `ConfirmHandoffService`: the code proves the handover, the leg moves. -/
def confirmHandoff (d : Deployment) (orderId : Nat) (type : HandoffCodeType)
    (event : DeliveryEventType) (code : String) : Db OrderRow := do
  validate d orderId type code
  recordInHouseHandover d orderId event
  let order ← Tx.read fun s => getOrder s orderId
  Tx.expect order (.entityNotFound "Order" orderId)

def confirmIntake (d : Deployment) (orderId : Nat) (drawnCode : String) : Db OrderRow := do
  let order ← markReadyForCollection orderId
  issue d orderId .receiverCollection none collectionCodeTtlMinutes drawnCode
  enqueue (.email orderId (.readyForCollection drawnCode))
  return order

def confirmCollection (d : Deployment) (orderId : Nat) (code : String) (identityConfirmed : Bool) :
    Db OrderRow := do
  validate d orderId .receiverCollection code
  let order ← markCollected orderId (.collected identityConfirmed)
  record order
  return order

def confirmReturnIntake (d : Deployment) (orderId : Nat) (drawnCode : String) : Db OrderRow := do
  let order ← markReadyForSenderCollection orderId
  issue d orderId .senderCollection none senderCollectionCodeTtlMinutes drawnCode
  enqueue (.email orderId (.senderCollectionCode drawnCode))
  return order

def confirmReturnCollection (d : Deployment) (orderId : Nat) (code : String)
    (identityConfirmed : Bool) : Db OrderRow := do
  validate d orderId .senderCollection code
  let order ← markCollectedBySender orderId (.collected identityConfirmed)
  releaseCapacitySlot order.originNodeId
  return order

/-- The function each service hands to `withIdempotency`. -/
def stepBody (d : Deployment) (step : ConfirmStep) (orderId : Nat) (args : ConfirmArgs) :
    Db OrderRow :=
  match step with
  | .dropOff => confirmDropOff d orderId
  | .pickup => confirmHandoff d orderId .riderPickup .pickedUp args.code
  | .arrival => confirmHandoff d orderId .riderArrival .delivered args.code
  | .intake => confirmIntake d orderId args.drawnCode
  | .collection => confirmCollection d orderId args.code args.identityConfirmed
  | .returnIntake => confirmReturnIntake d orderId args.drawnCode
  | .returnCollect => confirmReturnCollection d orderId args.code args.identityConfirmed

/-- `assertOriginNodeOwnership` or `assertDestinationNodeOwnership`. -/
def ownsOrder (step : ConfirmStep) (args : ConfirmArgs) (order : OrderRow) : Bool :=
  decide ((if step.atOrigin then order.originNodeId else order.destinationNodeId)
    ∈ args.operatorNodeIds)

/-- A whole `confirm` call: the order the step returned, or for a duplicate
the order as it stands. -/
def confirm (d : Deployment) (step : ConfirmStep) (orderId : Nat) (args : ConfirmArgs) :
    Db OrderRow := do
  let order ← Tx.read fun s => getOrder s orderId
  Tx.ensure (order.any (ownsOrder step args)) (.entityNotFound "Order" orderId)
  let result ← withIdempotency step.scope orderId (stepBody d step orderId args)
  match result with
  | some order => return order
  | none => do
      let row ← Tx.read fun s => getOrder s orderId
      Tx.expect row (.entityNotFound "Order" orderId)

/-- `ResendCollectionCodeService.resend`: to the receiver at the destination,
or to the sender of a returned parcel. The order is read and checked before the
transaction; here both are one step. -/
def resendCode (d : Deployment) (orderId : Nat) (operatorNodeIds : List Nat)
    (drawnCode : String) : Db Unit := do
  let row ← Tx.read fun s => getOrder s orderId
  if row.map OrderRow.status = some .readyForSenderCollection then do
    Tx.ensure (row.any fun o => decide (o.originNodeId ∈ operatorNodeIds))
      (.entityNotFound "Order" orderId)
    issue d orderId .senderCollection none senderCollectionCodeTtlMinutes drawnCode
    enqueue (.email orderId (.senderCollectionCode drawnCode))
  else do
    Tx.ensure (row.any fun o => decide (o.destinationNodeId ∈ operatorNodeIds))
      (.entityNotFound "Order" orderId)
    Tx.ensure (row.any fun o => o.status = .readyForCollection)
      (.orderNotReadyForCollection orderId)
    issue d orderId .receiverCollection none collectionCodeTtlMinutes drawnCode
    enqueue (.email orderId (.newCollectionCode drawnCode))

end Locoomo.Handoffs
