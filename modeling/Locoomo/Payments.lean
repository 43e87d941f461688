import Locoomo.Handoffs

/-! Checkout and payment: an intent that holds a slot at its origin Node, the
webhook that turns it into an order, and the poller that recovers a lost
payment or expires the intent. -/

namespace Locoomo.Payments

open Locoomo.Delivery Locoomo.Pricing Locoomo.Database Relational

/-- `PAYMENT_INTENT_TTL_MS`. -/
def paymentIntentTtlMs : Nat := 15 * 60 * 1000

/-- `PAYMENT_WEBHOOK_IDEMPOTENCY_SCOPE`. -/
def paymentWebhookScope : String := "payments.webhook"

inductive PaymentVerificationStatus
  | success | failed | pending
  deriving DecidableEq, Repr

structure PaymentVerificationResult where
  status : PaymentVerificationStatus
  amountKobo : Int
  paidAt : Option Nat
  deriving DecidableEq, Repr

/-- What the provider's `verify` comes back with; `none` is an error. -/
abbrev VerifyAnswer := Option PaymentVerificationResult

/-- The booking request once the quote has picked a vehicle and measured the
route. -/
structure CreatePaymentIntentDto where
  originNodeId : Nat
  destinationNodeId : Nat
  vehicleClass : VehicleClass
  routeKm : Option ℚ≥0
  straightLineKm : ℚ≥0

def putIntent (s : State) (intent : PaymentIntentRow) : State :=
  { s with intents := put PaymentIntentRow.id intent s.intents }

/-- Every mapped column of `saved` that differs from the re-read `row`, written
over `current`. -/
def differing (row saved current : PaymentIntentRow) : PaymentIntentRow where
  id := current.id
  consumerId := changed row.consumerId saved.consumerId current.consumerId
  originNodeId := changed row.originNodeId saved.originNodeId current.originNodeId
  destinationNodeId :=
    changed row.destinationNodeId saved.destinationNodeId current.destinationNodeId
  vehicleClass := changed row.vehicleClass saved.vehicleClass current.vehicleClass
  feeBreakdown := changed row.feeBreakdown saved.feeBreakdown current.feeBreakdown
  amountKobo := changed row.amountKobo saved.amountKobo current.amountKobo
  status := changed row.status saved.status current.status
  providerReference :=
    changed row.providerReference saved.providerReference current.providerReference
  expiresAt := changed row.expiresAt saved.expiresAt current.expiresAt
  paidAt := changed row.paidAt saved.paidAt current.paidAt
where
  changed {α : Type} [DecidableEq α] (row saved current : α) : α :=
    if saved = row then current else saved

/-- `intentRepo.save`: re-read the row, then write what differs from it. -/
def saveIntent (intent : PaymentIntentRow) : Db Unit := do
  let row ← Tx.read fun s => getIntent s intent.id
  match row with
  | none => Tx.write fun s => { s with intents := s.intents ++ [intent] }
  | some row => Tx.write fun s =>
      match getIntent s intent.id with
      | none => s
      | some current => putIntent s (differing row intent current)

/-- The booking transaction of `CreatePaymentIntentService.create`. -/
def createIntent (payerId : Nat) (dto : CreatePaymentIntentDto) : Db PaymentIntentRow := do
  let current ← Tx.read fun s => currentRule PricingRule.effectiveFrom s.pricingRules s.now
  let rule ← Tx.expect current .pricingNotConfigured
  let feeBreakdown := calculateFee rule dto.routeKm dto.straightLineKm dto.vehicleClass
  let reserved ← reserveCapacitySlot dto.originNodeId
  Tx.ensure reserved (.nodeCapacityUnavailable dto.originNodeId)
  Tx.query fun s =>
    let row : PaymentIntentRow :=
      { id := s.nextId
        consumerId := payerId
        originNodeId := dto.originNodeId
        destinationNodeId := dto.destinationNodeId
        vehicleClass := some feeBreakdown.vehicleClass
        feeBreakdown
        amountKobo := feeBreakdown.totalKobo
        status := .pending
        providerReference := none
        expiresAt := s.now + paymentIntentTtlMs
        paidAt := none }
    (row, { s with intents := s.intents ++ [row], nextId := s.nextId + 1 })

/-- The statement after it: our own id doubles as the provider's reference. -/
def setProviderReference (intentId : Nat) : Db Unit :=
  Tx.write fun s =>
    let set := fun i : PaymentIntentRow => { i with providerReference := some intentId }
    { s with intents := update (fun i => i.id = intentId) set s.intents }

/-! ## Orders from paid intents -/

def maxTrackingCodeAttempts : Nat := 5

/-- One `orderRepo.save` with a drawn code; `none` is a unique violation. -/
def insertOrder (intent : PaymentIntentRow) (trackingCode : String) : Db (Option OrderRow) :=
  Tx.query fun s =>
    if s.orders.any fun o => o.trackingCode = trackingCode ∨ o.paymentIntentId = intent.id then
      (none, s)
    else
      let row : OrderRow :=
        { id := s.nextId
          trackingCode
          paymentIntentId := intent.id
          consumerId := intent.consumerId
          originNodeId := intent.originNodeId
          destinationNodeId := intent.destinationNodeId
          riderId := none
          vehicleClass := intent.vehicleClass
          amountKobo := intent.amountKobo
          destinationFeeKobo := intent.feeBreakdown.destinationFeeKobo
          status := .awaitingDropOff
          shelfNodeId := none
          shelfNumber := none }
      (some row, { s with orders := s.orders ++ [row], nextId := s.nextId + 1 })

/-- The retry loop over the drawn codes. PostgreSQL has aborted the
transaction once an insert failed, so a later round fails too, with an error
that is no unique violation and is rethrown. -/
def saveWithTrackingCode (intent : PaymentIntentRow) : List String → Db OrderRow
  | [] => Tx.reject (.uniqueViolation "orders")
  | trackingCode :: codes => do
      let saved ← insertOrder intent trackingCode
      match saved, codes with
      | some order, _ => return order
      | none, [] => Tx.reject (.uniqueViolation "orders")
      | none, _ :: _ => Tx.reject .transactionAborted

def createFromPaidIntent (intent : PaymentIntentRow) (drawnCodes : List String) : Db OrderRow := do
  let order ← saveWithTrackingCode intent (drawnCodes.take maxTrackingCodeAttempts)
  appendEvent order.id .orderPlaced (.placed intent.id intent.amountKobo)
  return order

/-- `ConfirmPaymentIntentPaidService.confirm`. -/
def confirm (intent : PaymentIntentRow) (verification : PaymentVerificationResult)
    (drawnCodes : List String) : Db Unit := do
  let now ← Tx.read State.now
  let paid := { intent with status := .paid, paidAt := some (verification.paidAt.getD now) }
  saveIntent paid
  let order ← createFromPaidIntent paid drawnCodes
  enqueue (.email order.id .orderConfirmed)

/-- `status === 'success'` and the amount is the intent's. -/
def isFullSuccess (intent : PaymentIntentRow) (verification : PaymentVerificationResult) : Bool :=
  decide (verification.status = .success) && decide (verification.amountKobo = intent.amountKobo)

/-! ## The webhook -/

def findByReference (s : State) (reference : Nat) : Option PaymentIntentRow :=
  s.intents.find? fun intent => intent.providerReference = some reference

/-- What the webhook does under the key. -/
def webhookBody (reference : Nat) (answer : VerifyAnswer) (drawnCodes : List String) :
    Db Unit := do
  let found ← Tx.read fun s => findByReference s reference
  match found with
  | none => return ()
  | some intent =>
      if intent.status ≠ .pending then
        return ()
      else do
        let verification ← Tx.expect answer .providerUnavailable
        if isFullSuccess intent verification then
          confirm intent verification drawnCodes
        else
          return ()

/-- `HandlePaymentWebhookService.handle` for a signed `charge.success`. -/
def handleWebhook (reference : Nat) (answer : VerifyAnswer) (drawnCodes : List String) :
    Db Unit := do
  let _ ← withIdempotency paymentWebhookScope reference (webhookBody reference answer drawnCodes)
  return ()

/-! ## The expiry poller -/

/-- A row the batch query returns. -/
def isStaleIntent (now : Nat) (intent : PaymentIntentRow) : Bool :=
  decide (intent.status = .pending) && decide (intent.expiresAt ≤ now)

/-- The recovery under the key, on a fresh read of the intent. -/
def recoverBody (intentId : Nat) (verification : PaymentVerificationResult)
    (drawnCodes : List String) : Db Unit := do
  let fresh ← Tx.read fun s => getIntent s intentId
  match fresh with
  | none => return ()
  | some intent =>
      if intent.status ≠ .pending then return ()
      else confirm intent verification drawnCodes

/-- `tryRecover`: true when the intent must not be expired now. -/
def tryRecover (intent : PaymentIntentRow) (answer : VerifyAnswer) (drawnCodes : List String) :
    Db Bool :=
  match intent.providerReference with
  | none => return false
  | some reference =>
      match answer with
      | none => return true
      | some verification =>
          if isFullSuccess intent verification then do
            let _ ← withIdempotency paymentWebhookScope reference
              (recoverBody intent.id verification drawnCodes)
            return true
          else
            return false

/-- The expiry transaction. -/
def expire (intentId : Nat) : Db Unit := do
  let fresh ← Tx.read fun s => getIntent s intentId
  match fresh with
  | none => return ()
  | some intent =>
      if intent.status ≠ .pending then
        return ()
      else do
        saveIntent { intent with status := .expired }
        releaseCapacitySlot intent.originNodeId

/-- `processStaleIntent` of an intent the batch query returned. -/
def processStaleIntent (intent : PaymentIntentRow) (answer : VerifyAnswer)
    (drawnCodes : List String) : Db Unit := do
  let skipExpiry ← tryRecover intent answer drawnCodes
  if skipExpiry then return () else expire intent.id

/-- One intent's turn in `poll`. -/
def pollIntent (intentId : Nat) (answer : VerifyAnswer) (drawnCodes : List String) : Db Unit := do
  let row ← Tx.read fun s => (getIntent s intentId).filter (isStaleIntent s.now)
  match row with
  | none => return ()
  | some intent => processStaleIntent intent answer drawnCodes

end Locoomo.Payments
