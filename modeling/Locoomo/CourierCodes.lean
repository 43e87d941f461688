import Locoomo.CounterView

/-! The code that staff read out to an external courier. It is asked for live,
of the courier that has the parcel of this order now, and only while the
counter's screen shows that handover; staff of other Nodes get no further than
a missing order. -/

namespace Locoomo.CourierCodes

open Locoomo.Delivery Locoomo.Database Locoomo.Routing Locoomo.Logistics Locoomo.System
  Locoomo.OrderMoves Locoomo.Lockstep Locoomo.Carriers Locoomo.StepKeys Locoomo.CounterView
  Relational

/-! ## Codes of couriers -/

structure HandoverCodes where
  pickupCode : Option String
  deliveryCode : Option String
  deriving DecidableEq, Repr

inductive CourierHandoverKind
  | pickup | delivery | returnDelivery
  deriving DecidableEq, Repr

inductive HandoverError
  | entityNotFound (orderId : Nat)
  | courierHandoverNotAvailable (orderId : Nat) (reason : String)
  | logisticsProviderUnavailable (providerKey operation message : String)
  deriving DecidableEq, Repr

/-- The couriers: what `getHandoverCodes` of a provider answers for an external
id, or the message of its `LogisticsProviderError`; and the provider's label. -/
structure Couriers where
  getHandoverCodes : String → String → Except String HandoverCodes
  label : String → String

structure CourierHandoverInfo where
  providerLabel : String
  courier : CourierDetails
  codes : HandoverCodes
  deriving DecidableEq, Repr

structure CourierHandoverResponseDto where
  kind : CourierHandoverKind
  code : String
  courier : CourierDetails
  providerLabel : String
  shelfNumber : Option Nat
  trackingCode : String
  deriving DecidableEq, Repr

def isUnderWay (orderId : Nat) (leg : DeliveryLegRow) : Bool :=
  decide (leg.orderId = orderId) &&
    decide (leg.status ∈ [DeliveryLegStatus.assigned, .pickedUp, .returning])

/-- The external id the courier is asked for: none unless the leg's courier
gives codes of its own. Null and the empty string are no id. -/
def askedId (d : Deployment) (leg : DeliveryLegRow) : Option String :=
  if (registryGet d leg.providerKey).map handoverCapability = some .providerCode then
    leg.externalId.filter (· ≠ "")
  else none

/-- `CourierHandoverService.handoverFor`. -/
def handoverFor (d : Deployment) (s : State) (couriers : Couriers) (orderId : Nat) :
    Except HandoverError (Option CourierHandoverInfo) :=
  match s.legs.find? (isUnderWay orderId) with
  | none => .ok none
  | some leg =>
      match askedId d leg with
      | none => .ok none
      | some externalId =>
          match couriers.getHandoverCodes leg.providerKey externalId with
          | .error message =>
              .error (.logisticsProviderUnavailable leg.providerKey "getHandoverCodes" message)
          | .ok codes =>
              .ok (some ⟨couriers.label leg.providerKey,
                ⟨leg.courierName, leg.courierPhone, leg.courierVehicle⟩, codes⟩)

def roleText : NodeRole → String
  | .origin => "origin"
  | .destination => "destination"

def orderStatusText : OrderStatus → String
  | .awaitingDropOff => "awaiting_drop_off"
  | .parcelReceivedAtOrigin => "parcel_received_at_origin"
  | .riderAssigned => "rider_assigned"
  | .inTransit => "in_transit"
  | .arrivedAtDestination => "arrived_at_destination"
  | .readyForCollection => "ready_for_collection"
  | .completed => "completed"
  | .returnInitiated => "return_initiated"
  | .returnInTransit => "return_in_transit"
  | .returnedToOrigin => "returned_to_origin"
  | .readyForSenderCollection => "ready_for_sender_collection"
  | .returnCompleted => "return_completed"
  | .cancelled => "cancelled"
  | .disputed => "disputed"

def handoverKind (role : NodeRole) (status : OrderStatus) : Option CourierHandoverKind :=
  if role = .origin ∧ status = .riderAssigned then some .pickup
  else if role = .destination ∧ status = .inTransit then some .delivery
  else if role = .origin ∧ status = .returnInTransit then some .returnDelivery
  else none

/-- A returning courier hands back with the code it would have used at the
destination. An empty code is none. -/
def codeFor (kind : CourierHandoverKind) (codes : HandoverCodes) : Option String :=
  (if kind = .pickup then codes.pickupCode else codes.deliveryCode).filter (· ≠ "")

/-- What staff are told once the courier, if there is one to ask, has answered. -/
def answerFor (order : OrderRow) (myNodeIds : List Nat) (kind : CourierHandoverKind) :
    Option CourierHandoverInfo → Except HandoverError CourierHandoverResponseDto
  | none =>
      .error (.courierHandoverNotAvailable order.id "this delivery uses Locoomo rider codes")
  | some handover =>
      match codeFor kind handover.codes with
      | none =>
          .error (.courierHandoverNotAvailable order.id "the courier has no code for this step yet")
      | some code =>
          .ok ⟨kind, code, handover.courier, handover.providerLabel,
            shelfNumberFor order myNodeIds, order.trackingCode⟩

/-- `CourierHandoverQueryService.forNode`. -/
def forNode (d : Deployment) (s : State) (couriers : Couriers) (orderId : Nat)
    (myNodeIds : List Nat) : Except HandoverError CourierHandoverResponseDto :=
  match (getOrder s orderId).filter (ALL_ORDERS_FILTER myNodeIds) with
  | none => .error (.entityNotFound orderId)
  | some order =>
      let role := nodeRoleFor order myNodeIds
      match handoverKind role order.status with
      | none =>
          .error (.courierHandoverNotAvailable orderId ("nothing to hand over at the " ++
            roleText role ++ " while " ++ orderStatusText order.status))
      | some kind => (handoverFor d s couriers orderId).bind (answerFor order myNodeIds kind)

/-! ## What the screen shows -/

def isCourierAction : NextAction → Bool
  | .handToCourier | .receiveFromCourier => true
  | _ => false

variable {d : Deployment} {s : State} {o : OrderRow} {myNodeIds : List Nat}

theorem isCourierAction_nextActionFor (status : OrderStatus) (role : NodeRole)
    (mode : HandoverMode) : isCourierAction (nextActionFor status role mode) =
      (decide (mode = .giveCodeToCourier) && (handoverKind role status).isSome) := by
  cases status <;> cases role <;> cases mode <;> decide

theorem needsLeg_of_kind {role : NodeRole} {status : OrderStatus} {kind : CourierHandoverKind}
    (h : handoverKind role status = some kind) : needsLeg status = true := by
  revert h
  cases role <;> cases status <;> cases kind <;> decide

theorem underWay_of_needs {status : DeliveryLegStatus} (h : needsLeg (pairedStatus status) = true) :
    status ∈ [DeliveryLegStatus.assigned, .pickedUp, .returning] := by
  revert h
  cases status <;> decide

/-- The leg the endpoint finds is the active one. -/
theorem find_underWay (hs : InStep s) {leg : DeliveryLegRow} (hactive : activeLeg s o.id = some leg)
    (hneeds : needsLeg (pairedStatus leg.status) = true) :
    s.legs.find? (isUnderWay o.id) = some leg := by
  obtain ⟨hmem, horder, hact⟩ := activeLeg_some hactive
  have hleg : isUnderWay o.id leg = true := by
    rw [isUnderWay, decide_eq_true horder, decide_eq_true (underWay_of_needs hneeds)]
    rfl
  cases hfound : s.legs.find? (isUnderWay o.id) with
  | none =>
      have := List.find?_eq_none.mp hfound leg hmem
      exact absurd hleg this
  | some other =>
      have hother := List.find?_some hfound
      simp only [isUnderWay, Bool.and_eq_true, decide_eq_true_eq] at hother
      have hotherActive : isActive other.status = true := by
        have hstatus := hother.2
        revert hstatus
        cases other.status <;> decide
      exact congrArg some (hs.oneActive other (List.mem_of_find?_eq_some hfound) leg hmem
        (hother.1.trans horder.symm) hotherActive hact)

/-- The id a leg's courier is asked by: a taken leg of a remote courier has one,
a leg of the in-house pool has none. -/
theorem askedId_eq {leg : DeliveryLegRow} (hc : Carried d (· ≠ "") leg) :
    askedId d leg = if handoverMode d leg = .giveCodeToCourier then leg.externalId else none := by
  have hfilter : leg.externalId.filter (fun e => decide (e ≠ "")) = leg.externalId := by
    cases hext : leg.externalId with
    | none => rfl
    | some externalId =>
        rw [Option.filter_some, if_pos (decide_eq_true (hc.issued externalId hext))]
  unfold askedId handoverMode
  split
  · rw [hfilter]
    rfl
  · rfl

/-- What the endpoint answers when the courier of `leg` is asked by this id. -/
def asked (couriers : Couriers) (o : OrderRow) (leg : DeliveryLegRow) (externalId : String)
    (kind : CourierHandoverKind) (myNodeIds : List Nat) :
    Except HandoverError CourierHandoverResponseDto :=
  match couriers.getHandoverCodes leg.providerKey externalId with
  | .error message =>
      .error (.logisticsProviderUnavailable leg.providerKey "getHandoverCodes" message)
  | .ok codes =>
      answerFor o myNodeIds kind (some ⟨couriers.label leg.providerKey,
        ⟨leg.courierName, leg.courierPhone, leg.courierVehicle⟩, codes⟩)

/-- An order of the staff's Nodes, at a handover: the answer is the courier's
where the parcel is with an external courier, and a refusal where it is with
a rider. -/
theorem forNode_of_kind (hs : InStep s) (hc : ∀ l ∈ s.legs, Carried d (· ≠ "") l)
    (ho : o ∈ s.orders) (hmine : ALL_ORDERS_FILTER myNodeIds o = true) {kind : CourierHandoverKind}
    (hkind : handoverKind (nodeRoleFor o myNodeIds) o.status = some kind) :
    (shownMode d s o.id = .giveCodeToCourier ∧
      ∃ leg externalId, activeLeg s o.id = some leg ∧ leg.externalId = some externalId ∧
        leg.providerKey ≠ inHouseProviderKey ∧
        ∀ couriers, forNode d s couriers o.id myNodeIds
          = asked couriers o leg externalId kind myNodeIds) ∨
    (shownMode d s o.id = .enterRiderCode ∧ ∀ couriers, forNode d s couriers o.id myNodeIds
      = .error (.courierHandoverNotAvailable o.id "this delivery uses Locoomo rider codes")) := by
  have hneeds := needsLeg_of_kind hkind
  obtain ⟨leg, hactive, hmem, hpaired⟩ := activeLeg_of_needs hs ho hneeds
  rw [hpaired] at hneeds
  have hfound := find_underWay hs hactive hneeds
  have hcarried := hc leg hmem
  have hget : getOrder s o.id = some o := hs.orderIds.get_eq ho
  have horder : (getOrder s o.id).filter (ALL_ORDERS_FILTER myNodeIds) = some o := by
    rw [hget, Option.filter_some, if_pos hmine]
  have hforNode : ∀ couriers, forNode d s couriers o.id myNodeIds
      = (handoverFor d s couriers o.id).bind (answerFor o myNodeIds kind) := by
    intro couriers
    simp only [forNode, horder, hkind]
  rw [shownMode_of_active hactive]
  cases hmode : handoverMode d leg with
  | enterRiderCode =>
      refine Or.inr ⟨rfl, fun couriers => ?_⟩
      have hnone : askedId d leg = none := by
        rw [askedId_eq hcarried, hmode]
        rfl
      rw [hforNode, handoverFor, hfound]
      simp only [hnone]
      rfl
  | giveCodeToCourier =>
      have hremote : leg.providerKey ≠ inHouseProviderKey := fun hkey => by
        rw [(handoverMode_eq hcarried).mpr hkey] at hmode
        cases hmode
      have hunder := underWay_of_needs hneeds
      obtain ⟨externalId, hext⟩ : ∃ externalId, leg.externalId = some externalId := by
        rcases hcarried.remote hremote with hidle | hidle | hsome
        · rw [hidle] at hunder
          exact absurd hunder (by decide)
        · rw [hidle] at hunder
          exact absurd hunder (by decide)
        · exact Option.isSome_iff_exists.mp hsome
      have hasked : askedId d leg = some externalId := by
        rw [askedId_eq hcarried, hmode, hext]
        rfl
      refine Or.inl ⟨rfl, leg, externalId, hactive, hext, hremote, fun couriers => ?_⟩
      rw [hforNode, handoverFor, hfound]
      simp only [hasked, asked]
      cases couriers.getHandoverCodes leg.providerKey externalId with
      | error message => rfl
      | ok codes => rfl

/-- The endpoint answers what the courier of the order's active leg says. -/
def AsksCourier (d : Deployment) (s : State) (o : OrderRow) (myNodeIds : List Nat) : Prop :=
  ∃ leg externalId kind, activeLeg s o.id = some leg ∧ leg.providerKey ≠ inHouseProviderKey ∧
    leg.externalId = some externalId ∧
    handoverKind (nodeRoleFor o myNodeIds) o.status = some kind ∧
    ∀ couriers, forNode d s couriers o.id myNodeIds = asked couriers o leg externalId kind myNodeIds

/-- The endpoint refuses, whatever any courier would say. -/
def RefusesUnasked (d : Deployment) (s : State) (o : OrderRow) (myNodeIds : List Nat) : Prop :=
  ∃ reason, ∀ couriers, forNode d s couriers o.id myNodeIds
    = .error (.courierHandoverNotAvailable o.id reason)

/-- **Codes are asked for where the screen shows it.** In every run where
couriers give their deliveries ids that are not empty: while the screen of one
of the order's Nodes shows a courier's handover, the endpoint answers what the
courier with the order's active leg says to that leg's id; at any other time it
refuses without asking anybody, and to other staff there is no such order. -/
theorem courier_is_asked (d : Deployment) {s₀ : State} (h : Initial s₀) (as : List Action)
    (hissues : ∀ a ∈ as, Issues (· ≠ "") a) (myNodeIds : List Nat) :
    ∀ o ∈ (run d s₀ as).orders,
      (ALL_ORDERS_FILTER myNodeIds o = false → ∀ couriers,
        forNode d (run d s₀ as) couriers o.id myNodeIds = .error (.entityNotFound o.id)) ∧
      (ALL_ORDERS_FILTER myNodeIds o = true →
        (isCourierAction (nextAction d (run d s₀ as) o myNodeIds) = true →
          AsksCourier d (run d s₀ as) o myNodeIds) ∧
        (isCourierAction (nextAction d (run d s₀ as) o myNodeIds) = false →
          RefusesUnasked d (run d s₀ as) o myNodeIds)) := by
  intro o ho
  have hs := (run_orderly d h as).aligned.inStep
  have hc : ∀ l ∈ (run d s₀ as).legs, Carried d (· ≠ "") l :=
    run_carried d (Books.aligned_of_initial h) (by simp [h.legs]) as hissues
  have hget : getOrder (run d s₀ as) o.id = some o := hs.orderIds.get_eq ho
  have hshown : isCourierAction (nextAction d (run d s₀ as) o myNodeIds) =
      (decide (shownMode d (run d s₀ as) o.id = .giveCodeToCourier) &&
        (handoverKind (nodeRoleFor o myNodeIds) o.status).isSome) :=
    isCourierAction_nextActionFor _ _ _
  refine ⟨fun hother couriers => ?_, fun hmine => ?_⟩
  · simp [forNode, hget, Option.filter_some, hother]
  · rw [hshown]
    cases hkind : handoverKind (nodeRoleFor o myNodeIds) o.status with
    | none =>
        refine ⟨fun hshows => ?_, fun _ => ?_⟩
        · rw [Option.isSome_none, Bool.and_false] at hshows
          cases hshows
        · refine ⟨"nothing to hand over at the " ++ roleText (nodeRoleFor o myNodeIds) ++
            " while " ++ orderStatusText o.status, fun couriers => ?_⟩
          simp only [forNode, hget, Option.filter_some, hmine, if_true, hkind]
    | some kind =>
        rcases forNode_of_kind hs hc ho hmine hkind with
          ⟨hmode, leg, externalId, hactive, hext, hremote, hanswer⟩ | ⟨hmode, hanswer⟩
        · rw [hmode]
          exact ⟨fun _ => ⟨leg, externalId, kind, hactive, hremote, hext, hkind, hanswer⟩,
            fun hshows => by cases hshows⟩
        · rw [hmode]
          exact ⟨fun hshows => (by cases hshows), fun _ => ⟨_, hanswer⟩⟩

/-- The courier's pickup code, while the courier is on its way to the origin. -/
theorem demo_courier_is_asked :
    let as := demoBooking ++ [.webhook 10 (some demoPayment) ["LOC1"]] ++ demoBooked ++
      [.syncFromSnapshot "sendii" (demoSnapshot .assigned 1)]
    let s := run demo demoState as
    s.orders.map (fun o => nextAction demo s o [1]) = [.handToCourier] ∧
      (forNode demo s ⟨fun _ _ => .ok ⟨some "4821", none⟩, fun key => key⟩ 11 [1]).toOption.map
        CourierHandoverResponseDto.code = some "4821" ∧
      ∀ o ∈ s.orders, AsksCourier demo s o [1] := by
  intro as s
  have hissues : ∀ a ∈ as, Issues (· ≠ "") a := by
    simp [as, demoBooking, demoBooked, Issues]
  have hmine : ∀ o ∈ s.orders, ALL_ORDERS_FILTER [1] o = true := by decide +kernel
  have hshows : ∀ o ∈ s.orders, isCourierAction (nextAction demo s o [1]) = true := by
    decide +kernel
  refine ⟨by decide +kernel, by decide +kernel, fun o ho => ?_⟩
  exact ((courier_is_asked demo demoState_initial as hissues [1] o ho).2 (hmine o ho)).1
    (hshows o ho)

end Locoomo.CourierCodes
