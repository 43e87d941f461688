import Locoomo.Carriers
import Locoomo.CounterSteps

/-! The counter screen of the Node app: which side of an order the staff are
on, the one thing to do next there, the work queues, and the code that staff
read out to an external courier. In every run the screen shows a confirming
step exactly when a call of that step moves the order, and a courier's
handover exactly when the courier is asked for a code. -/

namespace Locoomo.CounterView

open Locoomo.Delivery Locoomo.Database Locoomo.Routing Locoomo.Logistics Locoomo.Handoffs
  Locoomo.System Locoomo.OrderMoves Locoomo.Lockstep Locoomo.Changes Locoomo.StepEffects
  Locoomo.Carriers Locoomo.StepKeys Locoomo.CounterSteps Relational

open HandoverCodes (handoverType)

/-! ## The screen -/

inductive NodeRole
  | origin | destination
  deriving DecidableEq, Repr

inductive NextAction
  | confirmDropOff | awaitCourier | handToRider | handToCourier | awaitArrival
  | receiveFromRider | receiveFromCourier | intake | handToReceiver | returnIntake
  | handToSender | none
  deriving DecidableEq, Repr

/-- The statuses in which the parcel's business is at the origin Node. -/
def ORIGIN_PHASE : List OrderStatus :=
  [.awaitingDropOff, .parcelReceivedAtOrigin, .riderAssigned, .returnInitiated, .returnInTransit,
    .returnedToOrigin, .readyForSenderCollection]

def nodeRoleFor (order : OrderRow) (myNodeIds : List Nat) : NodeRole :=
  let atOrigin := decide (order.originNodeId ∈ myNodeIds)
  let atDestination := decide (order.destinationNodeId ∈ myNodeIds)
  if atOrigin && atDestination then
    if order.status ∈ ORIGIN_PHASE then .origin else .destination
  else if atOrigin then .origin
  else .destination

def ORIGIN_ACTIONS : OrderStatus → Option NextAction
  | .awaitingDropOff => some .confirmDropOff
  | .parcelReceivedAtOrigin => some .awaitCourier
  | .riderAssigned => some .handToRider
  | .returnInitiated => some .awaitArrival
  | .returnInTransit => some .receiveFromRider
  | .returnedToOrigin => some .returnIntake
  | .readyForSenderCollection => some .handToSender
  | _ => none

def DESTINATION_ACTIONS : OrderStatus → Option NextAction
  | .riderAssigned => some .awaitArrival
  | .inTransit => some .receiveFromRider
  | .arrivedAtDestination => some .intake
  | .readyForCollection => some .handToReceiver
  | _ => none

/-- How the current courier proves a handover: a rider's code is entered by
staff, an external courier's is read out to them. -/
inductive HandoverMode
  | enterRiderCode | giveCodeToCourier
  deriving DecidableEq, Repr

def COURIER_VARIANTS : NextAction → Option NextAction
  | .handToRider => some .handToCourier
  | .receiveFromRider => some .receiveFromCourier
  | _ => none

def nextActionFor (status : OrderStatus) (role : NodeRole) (handover : HandoverMode) :
    NextAction :=
  let actions := if role = .origin then ORIGIN_ACTIONS else DESTINATION_ACTIONS
  let action := (actions status).getD .none
  if handover = .giveCodeToCourier then (COURIER_VARIANTS action).getD action else action

/-- `capabilities.handover` of the adapters: the in-house pool's riders show a
Locoomo code, a remote courier is given its own. -/
inductive HandoverCapability
  | locoomoCode | providerCode
  deriving DecidableEq, Repr

def handoverCapability (adapter : Adapter) : HandoverCapability :=
  if adapter.remoteSubmission then .providerCode else .locoomoCode

/-- The leg behind `DeliveryQueryService.viewsFor`: the active one, else the
most recent. -/
def currentLeg (s : State) (orderId : Nat) : Option DeliveryLegRow :=
  (activeLeg s orderId).or
    (latest DeliveryLegRow.createdAt (s.legs.filter fun leg => leg.orderId = orderId))

/-- The `handover` of the delivery view. -/
def handoverMode (d : Deployment) (leg : DeliveryLegRow) : HandoverMode :=
  if (registryGet d leg.providerKey).map handoverCapability = some .providerCode then
    .giveCodeToCourier
  else .enterRiderCode

/-- `dto.nextAction` of a scanned or listed order; without a delivery the mode
is the default. -/
def nextAction (d : Deployment) (s : State) (order : OrderRow) (myNodeIds : List Nat) :
    NextAction :=
  nextActionFor order.status (nodeRoleFor order myNodeIds)
    (((currentLeg s order.id).map (handoverMode d)).getD .enterRiderCode)

/-- The shelf number, where the shelf is at one of the staff's Nodes. -/
def shelfNumberFor (order : OrderRow) (myNodeIds : List Nat) : Option Nat :=
  if order.shelfNodeId.any (· ∈ myNodeIds) then order.shelfNumber else none

/-! ## The queues -/

inductive NodeQueue
  | toReceive | toDispatch | incoming | toCollect
  deriving DecidableEq, Repr

def QUEUE_FILTERS (queue : NodeQueue) (nodeIds : List Nat) (o : OrderRow) : Bool :=
  match queue with
  | .toReceive => decide (o.originNodeId ∈ nodeIds) && decide (o.status = .awaitingDropOff)
  | .toDispatch =>
      decide (o.originNodeId ∈ nodeIds) &&
        decide (o.status ∈ [OrderStatus.parcelReceivedAtOrigin, .riderAssigned])
  | .incoming =>
      (decide (o.destinationNodeId ∈ nodeIds) &&
        decide (o.status ∈ [OrderStatus.riderAssigned, .inTransit])) ||
      (decide (o.originNodeId ∈ nodeIds) &&
        decide (o.status ∈ [OrderStatus.returnInitiated, .returnInTransit]))
  | .toCollect =>
      (decide (o.destinationNodeId ∈ nodeIds) &&
        decide (o.status ∈ [OrderStatus.arrivedAtDestination, .readyForCollection])) ||
      (decide (o.originNodeId ∈ nodeIds) &&
        decide (o.status ∈ [OrderStatus.returnedToOrigin, .readyForSenderCollection]))

def ALL_ORDERS_FILTER (nodeIds : List Nat) (o : OrderRow) : Bool :=
  decide (o.originNodeId ∈ nodeIds) || decide (o.destinationNodeId ∈ nodeIds)

/-- What `ListMyNodeOrdersService.list` pages through. -/
def listMyNodeOrders (s : State) (nodeIds : List Nat) (queue : Option NodeQueue) :
    List OrderRow :=
  s.orders.filter fun o => match queue with
    | some queue => QUEUE_FILTERS queue nodeIds o
    | none => ALL_ORDERS_FILTER nodeIds o

/-! ## The endpoint of an action -/

/-- The confirming step that staff call for an action. -/
def stepOf : NextAction → Option ConfirmStep
  | .confirmDropOff => some .dropOff
  | .handToRider => some .pickup
  | .receiveFromRider => some .arrival
  | .intake => some .intake
  | .handToReceiver => some .collection
  | .returnIntake => some .returnIntake
  | .handToSender => some .returnCollect
  | _ => none

/-- The queue in which staff find the orders of a step. -/
def queueOf : ConfirmStep → NodeQueue
  | .dropOff => .toReceive
  | .pickup => .toDispatch
  | .arrival => .incoming
  | .intake | .collection | .returnIntake | .returnCollect => .toCollect

def roleOf (step : ConfirmStep) : NodeRole := if step.atOrigin then .origin else .destination

variable {d : Deployment} {ids : String → Prop} {s : State} {o : OrderRow} {myNodeIds : List Nat}

/-! ## What the screen shows -/

/-- Where a step starts, the staff's side is the step's just when the order is
theirs to confirm. -/
theorem nodeRoleFor_of_source {step : ConfirmStep} {args : ConfirmArgs}
    (hmine : o.originNodeId ∈ args.operatorNodeIds ∨ o.destinationNodeId ∈ args.operatorNodeIds)
    (hsource : o.status = (edgeOf step).1) :
    nodeRoleFor o args.operatorNodeIds = roleOf step ↔ ownsOrder step args o = true := by
  have hphase : decide (o.status ∈ ORIGIN_PHASE) = step.atOrigin := by
    rw [hsource]
    cases step <;> decide
  by_cases horigin : o.originNodeId ∈ args.operatorNodeIds
  · by_cases hdestination : o.destinationNodeId ∈ args.operatorNodeIds
    · have hsides : (o.status ∈ ORIGIN_PHASE) = (step.atOrigin = true) := by
        rw [← hphase, decide_eq_true_eq]
      cases hstep : step.atOrigin <;>
        simp [nodeRoleFor, ownsOrder, roleOf, horigin, hdestination, hsides, hstep]
    · cases hstep : step.atOrigin <;>
        simp [nodeRoleFor, ownsOrder, roleOf, horigin, hdestination, hstep]
  · have hdestination := hmine.resolve_left horigin
    cases hstep : step.atOrigin <;>
      simp [nodeRoleFor, ownsOrder, roleOf, horigin, hdestination, hstep]

/-- The table of actions, read from the step: its status, its side, and for a
rider's handover a rider's code. -/
theorem stepOf_nextActionFor {status : OrderStatus} {role : NodeRole} {handover : HandoverMode}
    (hreturn : status = .returnInTransit → handover = .giveCodeToCourier) (step : ConfirmStep) :
    stepOf (nextActionFor status role handover) = some step ↔
      status = (edgeOf step).1 ∧ role = roleOf step ∧
        ((handoverType step).isSome = true → handover = .enterRiderCode) := by
  revert hreturn
  cases status <;> cases role <;> cases handover <;> cases step <;> decide

/-- In a sound state the active leg is the current one. -/
theorem currentLeg_of_active {leg : DeliveryLegRow} (h : activeLeg s o.id = some leg) :
    currentLeg s o.id = some leg := by
  rw [currentLeg, h]
  rfl

/-- Staff read codes out to the couriers that are not the in-house pool. -/
theorem handoverMode_eq {leg : DeliveryLegRow} (h : Carried d ids leg) :
    handoverMode d leg = .enterRiderCode ↔ leg.providerKey = inHouseProviderKey := by
  obtain ⟨adapter, hadapter⟩ := Option.isSome_iff_exists.mp h.registered
  rw [handoverMode, hadapter, Option.map_some, handoverCapability, registryGet_remote hadapter]
  by_cases hkey : leg.providerKey = inHouseProviderKey <;> simp [hkey]

/-- An order under way has its leg on the screen. -/
theorem activeLeg_of_needs (hs : InStep s) (ho : o ∈ s.orders) (hneeds : needsLeg o.status = true) :
    ∃ leg, activeLeg s o.id = some leg ∧ leg ∈ s.legs ∧ o.status = pairedStatus leg.status := by
  obtain ⟨l, hl, hlo, hact⟩ := hs.covered o ho hneeds
  cases hactive : activeLeg s o.id with
  | none =>
      rw [activeLeg_none hactive l hl hlo] at hact
      cases hact
  | some leg =>
      obtain ⟨hmem, horder, hact'⟩ := activeLeg_some hactive
      exact ⟨leg, rfl, hmem, (hs.paired leg hmem hact' o ho horder.symm).1⟩

/-- The mode the screen works with. -/
def shownMode (d : Deployment) (s : State) (orderId : Nat) : HandoverMode :=
  ((currentLeg s orderId).map (handoverMode d)).getD .enterRiderCode

theorem shownMode_of_active {leg : DeliveryLegRow} (h : activeLeg s o.id = some leg) :
    shownMode d s o.id = handoverMode d leg := by
  rw [shownMode, currentLeg_of_active h]
  rfl

/-- A returning parcel comes back with an external courier. -/
theorem shownMode_returning (hs : InStep s) (hc : ∀ l ∈ s.legs, Carried d ids l)
    (ho : o ∈ s.orders) (hstatus : o.status = .returnInTransit) :
    shownMode d s o.id = .giveCodeToCourier := by
  obtain ⟨leg, hactive, hmem, hpaired⟩ := activeLeg_of_needs hs ho (by rw [hstatus]; rfl)
  have hreturning : leg.status = .returning := by
    rw [hstatus] at hpaired
    revert hpaired
    cases leg.status <;> decide
  rw [shownMode_of_active hactive]
  cases hmode : handoverMode d leg with
  | giveCodeToCourier => rfl
  | enterRiderCode =>
      have hkey := (handoverMode_eq (hc leg hmem)).mp hmode
      exact absurd hreturning ((hc leg hmem).inHouse hkey).2.1

/-- Where a rider's handover starts, a rider has the parcel just when the screen
asks for a rider's code. -/
theorem ridden_iff (hs : InStep s) (hc : ∀ l ∈ s.legs, Carried d ids l) (ho : o ∈ s.orders)
    {step : ConfirmStep} (hsource : o.status = (edgeOf step).1) :
    Ridden s step o.id ↔
      ((handoverType step).isSome = true → shownMode d s o.id = .enterRiderCode) := by
  unfold Ridden
  by_cases hstep : (handoverType step).isSome = true
  · have hneeds : needsLeg o.status = true := by
      rw [hsource]
      revert hstep
      cases step <;> decide
    obtain ⟨leg, hactive, hmem, -⟩ := activeLeg_of_needs hs ho hneeds
    rw [shownMode_of_active hactive, handoverMode_eq (hc leg hmem)]
    refine forall_congr' fun _ => ⟨?_, fun hkey => ⟨leg, hactive, hkey⟩⟩
    rintro ⟨leg', hactive', hkey⟩
    obtain rfl : leg = leg' := Option.some.inj (hactive.symm.trans hactive')
    exact hkey
  · simp [hstep]

/-- The screen shows a step just when the order waits for it at the staff's side. -/
theorem stepOf_nextAction (hs : InStep s) (hc : ∀ l ∈ s.legs, Carried d ids l) (ho : o ∈ s.orders)
    {step : ConfirmStep} {args : ConfirmArgs}
    (hmine : o.originNodeId ∈ args.operatorNodeIds ∨ o.destinationNodeId ∈ args.operatorNodeIds) :
    stepOf (nextAction d s o args.operatorNodeIds) = some step ↔
      ownsOrder step args o = true ∧ o.status = (edgeOf step).1 ∧ Ridden s step o.id := by
  rw [show nextAction d s o args.operatorNodeIds = nextActionFor o.status
    (nodeRoleFor o args.operatorNodeIds) (shownMode d s o.id) from rfl,
    stepOf_nextActionFor (shownMode_returning hs hc ho) step]
  constructor
  · rintro ⟨hsource, hrole, hmode⟩
    exact ⟨(nodeRoleFor_of_source hmine hsource).mp hrole, hsource,
      (ridden_iff hs hc ho hsource).mpr hmode⟩
  · rintro ⟨howns, hsource, hridden⟩
    exact ⟨hsource, (nodeRoleFor_of_source hmine hsource).mpr howns,
      (ridden_iff hs hc ho hsource).mp hridden⟩

theorem listed_of_owned {step : ConfirmStep} {args : ConfirmArgs} (ho : o ∈ s.orders)
    (howns : ownsOrder step args o = true) (hsource : o.status = (edgeOf step).1) :
    o ∈ listMyNodeOrders s args.operatorNodeIds (some (queueOf step)) := by
  refine List.mem_filter.mpr ⟨ho, ?_⟩
  cases step <;>
    simp_all [QUEUE_FILTERS, queueOf, ownsOrder, ConfirmStep.atOrigin, edgeOf]

/-! ## Runs -/

theorem issues_any (a : Action) : Issues (fun _ => True) a := by
  unfold Issues
  split
  · exact fun _ _ => trivial
  · trivial

/-- **The screen shows what works.** In every run, for the staff of either Node
of an order, the action shown is that of a confirming step exactly when a call
of the step moves the order, given the code it asks for and a rule to share the
earnings by; the order is then in the step's queue, and a call that does not
move it changes no order and no timeline. -/
theorem counter_shows_what_works (d : Deployment) {s₀ : State} (h : Initial s₀) (as : List Action)
    (step : ConfirmStep) (args : ConfirmArgs) :
    ∀ o ∈ (run d s₀ as).orders,
      (o.originNodeId ∈ args.operatorNodeIds ∨ o.destinationNodeId ∈ args.operatorNodeIds) →
      (Advances d (run d s₀ as) step o.id args ↔
        stepOf (nextAction d (run d s₀ as) o args.operatorNodeIds) = some step ∧
          Proven d (run d s₀ as) step o.id args.code ∧ Shared (run d s₀ as) step) ∧
      (Advances d (run d s₀ as) step o.id args →
        o ∈ listMyNodeOrders (run d s₀ as) args.operatorNodeIds (some (queueOf step))) ∧
      (¬ Advances d (run d s₀ as) step o.id args →
        (exec d (run d s₀ as) (.confirm step o.id args)).orders = (run d s₀ as).orders ∧
        (exec d (run d s₀ as) (.confirm step o.id args)).orderEvents
          = (run d s₀ as).orderEvents) := by
  intro o ho hmine
  have horderly := run_orderly d h as
  have hs := horderly.aligned.inStep
  have hc : ∀ l ∈ (run d s₀ as).legs, Carried d (fun _ => True) l :=
    run_carried d (Books.aligned_of_initial h) (by simp [h.legs]) as fun a _ => issues_any a
  have hget : getOrder (run d s₀ as) o.id = some o := hs.orderIds.get_eq ho
  have hshown : stepOf (nextAction d (run d s₀ as) o args.operatorNodeIds) = some step ↔
      ownsOrder step args o = true ∧ o.status = (edgeOf step).1 ∧
        Ridden (run d s₀ as) step o.id := stepOf_nextAction hs hc ho hmine
  have hadvances : Advances d (run d s₀ as) step o.id args ↔
      ∃ p, getOrder (run d s₀ as) o.id = some p ∧ ownsOrder step args p = true ∧
        p.status = (edgeOf step).1 ∧ Ridden (run d s₀ as) step o.id ∧
        Proven d (run d s₀ as) step o.id args.code ∧ Shared (run d s₀ as) step :=
    advances_iff horderly
  refine ⟨?_, ?_, unmoved horderly⟩
  · rw [hadvances, hshown]
    constructor
    · rintro ⟨p, hp, howns, hsource, hridden, hproven, hshared⟩
      obtain rfl : o = p := Option.some.inj (hget.symm.trans hp)
      exact ⟨⟨howns, hsource, hridden⟩, hproven, hshared⟩
    · rintro ⟨⟨howns, hsource, hridden⟩, hproven, hshared⟩
      exact ⟨o, hget, howns, hsource, hridden, hproven, hshared⟩
  · intro hmoves
    obtain ⟨p, hp, howns, hsource, -⟩ := hadvances.mp hmoves
    obtain rfl : o = p := Option.some.inj (hget.symm.trans hp)
    exact listed_of_owned ho howns hsource

/-- The courier drops out, a rider takes the parcel and asks for a code. -/
def demoClaimed : List Action :=
  demoBooking ++ [.webhook 10 (some demoPayment) ["LOC1"]] ++ demoBooked ++
    [.cancelLeg 12 "assign_timeout" none, .accept 11 3, .requestCode 11 3 .riderPickup "code"]

/-- The screen asks for the rider's code, and the code hands the parcel over. -/
theorem demo_counter_shows_what_works :
    let s := run demo demoState demoClaimed
    s.orders.map (fun o => nextAction demo s o [1, 2]) = [.handToRider] ∧
      (exec demo s (.confirm .pickup 11 (demoArgs "code"))).orders.map OrderRow.status
        = [.inTransit] ∧
      ∀ o ∈ s.orders, (Advances demo s .pickup o.id (demoArgs "code") ↔
          stepOf (nextAction demo s o [1, 2]) = some .pickup ∧
            Proven demo s .pickup o.id "code" ∧ Shared s .pickup) ∧
        (Advances demo s .pickup o.id (demoArgs "code") →
          o ∈ listMyNodeOrders s [1, 2] (some .toDispatch)) ∧
        (¬ Advances demo s .pickup o.id (demoArgs "code") →
          (exec demo s (.confirm .pickup o.id (demoArgs "code"))).orders = s.orders ∧
          (exec demo s (.confirm .pickup o.id (demoArgs "code"))).orderEvents = s.orderEvents) := by
  intro s
  have hmine : ∀ o ∈ s.orders, o.originNodeId ∈ [1, 2] ∨ o.destinationNodeId ∈ [1, 2] := by
    decide +kernel
  refine ⟨by decide +kernel, by decide +kernel, fun o ho => ?_⟩
  exact counter_shows_what_works demo demoState_initial demoClaimed .pickup (demoArgs "code") o ho
    (hmine o ho)

end Locoomo.CounterView
