import Locoomo.Lib.Runs
import Locoomo.Payments

/-! The system as a sequence of transactions, each one an atomic step: an
action runs its transaction on the database, and a failed one leaves what
`rollback` says. -/

namespace Locoomo.System

open Locoomo.Delivery Locoomo.Pricing Locoomo.Database Locoomo.Routing Locoomo.Logistics
  Locoomo.Handoffs Locoomo.Payments Relational

inductive Action
  | tick (ms : Nat)
  | createPricingRule (rule : PricingRule)
  | createSplitRule (rule : RevenueSplitRule)
  | updateProvider (key : String) (dto : UpdateLogisticsProviderDto)
  | createIntent (payerId : Nat) (dto : CreatePaymentIntentDto)
  | setProviderReference (intentId : Nat)
  | webhook (reference : Nat) (answer : VerifyAnswer) (drawnCodes : List String)
  | pollIntent (intentId : Nat) (answer : VerifyAnswer) (drawnCodes : List String)
  | confirm (step : ConfirmStep) (orderId : Nat) (args : ConfirmArgs)
  | accept (orderId riderId : Nat)
  | requestCode (orderId riderId : Nat) (type : HandoffCodeType) (rawCode : String)
  | resendCode (orderId : Nat) (operatorNodeIds : List Nat) (drawnCode : String)
  | dispatch (orderId : Nat) (providerKey : Option String)
  | submit (legId : Nat) (answer : SubmitAnswer)
  | syncFromSnapshot (providerKey : String) (snapshot : ProviderDeliverySnapshot)
  | cancelLeg (legId : Nat) (reason : String) (thenRouteTo : Option String)
  | fallbackToInHouse (legId : Nat)
  | retry (legId : Nat)
  | interrupted

/-- Every caller of `dispatch` hands it an order that waits at its origin. -/
def dispatchWaiting (d : Deployment) (orderId : Nat) (providerKey : Option String) : Db Unit := do
  let order ← Tx.read fun s => getOrder s orderId
  Tx.ensure (order.any fun o => o.status = .parcelReceivedAtOrigin)
    (.entityNotFound "Order" orderId)
  let _ ← Logistics.dispatch d orderId .forward providerKey
  return ()

/-- The transaction of an action. -/
def tx (d : Deployment) : Action → Db Unit
  | .tick ms => Tx.write fun s => { s with now := s.now + ms }
  | .createPricingRule rule => Tx.write fun s =>
      { s with
        pricingRules := s.pricingRules ++ [{ rule with id := s.nextId, effectiveFrom := s.now }]
        nextId := s.nextId + 1 }
  | .createSplitRule rule => Tx.write fun s =>
      { s with
        splitRules := s.splitRules ++ [{ rule with id := s.nextId, effectiveFrom := s.now }]
        nextId := s.nextId + 1 }
  | .updateProvider key dto => Logistics.updateProvider key dto
  | .createIntent payerId dto => do
      let _ ← Payments.createIntent payerId dto
      return ()
  | .setProviderReference intentId => Payments.setProviderReference intentId
  | .webhook reference answer drawnCodes => Payments.handleWebhook reference answer drawnCodes
  | .pollIntent intentId answer drawnCodes => Payments.pollIntent intentId answer drawnCodes
  | .confirm step orderId args => do
      let _ ← Handoffs.confirm d step orderId args
      return ()
  | .accept orderId riderId => Handoffs.accept d orderId riderId
  | .requestCode orderId riderId type rawCode => Handoffs.requestCode d orderId riderId type rawCode
  | .resendCode orderId operatorNodeIds drawnCode =>
      Handoffs.resendCode d orderId operatorNodeIds drawnCode
  | .dispatch orderId providerKey => dispatchWaiting d orderId providerKey
  | .submit legId answer => Logistics.submit d legId answer
  | .syncFromSnapshot providerKey snapshot => do
      let _ ← Logistics.syncFromSnapshot d providerKey snapshot
      return ()
  | .cancelLeg legId reason thenRouteTo => do
      let _ ← Logistics.cancelLeg d legId reason thenRouteTo
      return ()
  | .fallbackToInHouse legId => Logistics.fallbackToInHouse d legId
  | .retry legId => Logistics.retry d legId
  | .interrupted => Tx.reject .fault

/-- One step: commit, or roll back. -/
def exec (d : Deployment) (s : State) (a : Action) : State :=
  match (tx d a).run s with
  | .ok (_, s') => s'
  | .error e => rollback s e

/-- The database after a list of actions. -/
def run (d : Deployment) (s : State) (as : List Action) : State := Runs.run (exec d) s as

/-- What a step leaves: the state its transaction committed, or the rollback. -/
theorem exec_cases (d : Deployment) (s : State) (a : Action) :
    (∃ s', (tx d a).run s = .ok ((), s') ∧ exec d s a = s') ∨
      ∃ e, (tx d a).run s = .error e ∧ exec d s a = rollback s e := by
  unfold exec
  cases h : (tx d a).run s with
  | error e => exact Or.inr ⟨e, rfl, rfl⟩
  | ok r => exact Or.inl ⟨r.2, rfl, rfl⟩

/-- A database before any booking: Nodes, riders, users, providers and rules
are there, distinct and idle, and nothing else is. -/
structure Initial (s : State) : Prop where
  nodes : Distinct NodeRow.id s.nodes
  nodes_idle : ∀ n ∈ s.nodes, n.currentCount = 0
  riders : Distinct RiderProfileRow.userId s.riders
  riders_idle : ∀ r ∈ s.riders, r.currentActiveOrderCount = 0
  intents : s.intents = []
  orders : s.orders = []
  legs : s.legs = []
  codes : s.codes = []
  keys : s.keys = []
  entries : s.entries = []
  clampHits : s.clampHits = 0

/-! ## A small deployment -/

/-- One remote courier beside the in-house pool. -/
def demo : Deployment where
  remoteAdapters := [("sendii", [.motorbike, .car])]
  keyLe := fun a b => decide (a ≤ b)
  distanceKm := fun _ _ => 3
  hashToken := fun raw => raw

def demoProvider (key : String) (priority : Int) : LogisticsProviderRow where
  key := key
  enabled := true
  priority := priority
  maxAttempts := 1
  minDistanceKm := none
  maxDistanceKm := none
  pilotNodeIds := none
  assignTimeoutMinutes := none

/-- Two Nodes, a rider, both couriers and the rules. -/
def demoState : State where
  now := 0
  nextId := 10
  nodes := [⟨1, 5, 0⟩, ⟨2, 5, 0⟩]
  riders := [⟨3, .active, 0⟩]
  users := [⟨3, "Ada", "Obi", none⟩]
  providers := [demoProvider "sendii" 1, demoProvider inHouseProviderKey 2]
  pricingRules := [⟨4, 100, 10, 50, 1, [], 0⟩]
  splitRules := [⟨5, 60, 20, 20, 0, rfl⟩]
  intents := []
  orders := []
  orderEvents := []
  legs := []
  codes := []
  keys := []
  entries := []
  outbox := []
  clampHits := 0

theorem demoState_initial : Initial demoState where
  nodes := by decide
  nodes_idle := by decide
  riders := by decide
  riders_idle := by decide
  intents := rfl
  orders := rfl
  legs := rfl
  codes := rfl
  keys := rfl
  entries := rfl
  clampHits := rfl

/-- A booking from Node 1 to Node 2; its intent gets the id 10. -/
def demoBooking : List Action :=
  [.createIntent 6 ⟨1, 2, .motorbike, some 3, 2⟩, .setProviderReference 10]

/-- Its payment in full, as the provider reports it. -/
def demoPayment : PaymentVerificationResult := ⟨.success, 180, none⟩

/-- The order it pays for, with the id 11. -/
def demoPaid : State :=
  run demo demoState (demoBooking ++ [.webhook 10 (some demoPayment) ["LOC1"]])

/-- A call of the staff of both Nodes. -/
def demoArgs (code : String) : ConfirmArgs := ⟨[1, 2], code, true, "code"⟩

/-- The parcel dropped off and booked with the remote courier; its leg gets
the id 12. -/
def demoBooked : List Action :=
  [.confirm .dropOff 11 (demoArgs ""), .submit 12 (.booked ⟨some "ext", none, none, none, none⟩)]

/-- A report on that booking. -/
def demoSnapshot (status : DeliveryLegStatus) (sequence : Int) : ProviderDeliverySnapshot :=
  ⟨"ext", status, "", some sequence, none, none, none, none, none⟩

end Locoomo.System
