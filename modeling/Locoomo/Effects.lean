import Locoomo.Transactions

/-! What a change means for bookings, parcels and counters. An order moves,
and with it exactly the counters that stand for it: the slot at its origin
Node, the slot of its rider, and its earnings. -/

namespace Locoomo.Effects

open Locoomo.Delivery Locoomo.Pricing Locoomo.Database Locoomo.Routing Locoomo.Logistics
  Locoomo.Handoffs Locoomo.Payments Locoomo.OrderMoves Locoomo.LegMoves Locoomo.Lockstep
  Locoomo.Frames Locoomo.Changes Relational

/-! ## What an order holds -/

/-- The statuses the Node audit joins paid intents on. -/
def holdsSlot : OrderStatus → Bool
  | .awaitingDropOff | .parcelReceivedAtOrigin | .riderAssigned | .returnedToOrigin
  | .readyForSenderCollection => true
  | _ => false

/-- The statuses the rider audit counts. -/
def isOpen (status : OrderStatus) : Bool := status ∈ [.riderAssigned, .inTransit]

/-- The rider whose slot an order takes. -/
def openFor (o : OrderRow) : Option Nat := if isOpen o.status then o.riderId else none

/-- The Node counter after an order moved from `before` to `after`. -/
def nodeAfter (before after : OrderStatus) (nodeId : Nat) (s : State) : State :=
  match holdsSlot before, holdsSlot after with
  | true, false => releaseNode nodeId s
  | false, true => adjustNode nodeId (· + 1) s
  | _, _ => s

theorem nodeAfter_of_eq {before after : OrderStatus} (h : holdsSlot before = holdsSlot after)
    (nodeId : Nat) (s : State) : nodeAfter before after nodeId s = s := by
  unfold nodeAfter
  rw [h]
  cases holdsSlot after <;> rfl

theorem nodeAfter_nodes (before after : OrderStatus) (nodeId : Nat) (s : State) :
    (nodeAfter before after nodeId s).nodes =
      match holdsSlot before, holdsSlot after with
      | true, false => (releaseNode nodeId s).nodes
      | false, true => (adjustNode nodeId (· + 1) s).nodes
      | _, _ => s.nodes := by
  unfold nodeAfter
  cases holdsSlot before <;> cases holdsSlot after <;> rfl

theorem nodeAfter_clampHits (before after : OrderStatus) (nodeId : Nat) (s : State) :
    (nodeAfter before after nodeId s).clampHits =
      match holdsSlot before, holdsSlot after with
      | true, false => (releaseNode nodeId s).clampHits
      | _, _ => s.clampHits := by
  unfold nodeAfter
  cases holdsSlot before <;> cases holdsSlot after <;> rfl

/-! ## The effects -/

/-- Nothing that is counted has changed. -/
structure Still (s s' : State) : Prop where
  intents : s'.intents = s.intents
  orders : s'.orders = s.orders
  nodes : s'.nodes = s.nodes
  riders : s'.riders = s.riders
  entries : s'.entries = s.entries
  clampHits : s'.clampHits = s.clampHits
  nextId : s.nextId ≤ s'.nextId

/-- The rider's counter beside the move of an order. A `leak` forgets it. -/
inductive RiderMove (recalls : Bool) (s s' : State) (o o' : OrderRow) : Prop
  | keep (h : openFor o' = openFor o) (hriders : s'.riders = s.riders)
  | take {riderId : Nat} {p : RiderProfileRow} (hp : p ∈ s.riders) (hpid : p.userId = riderId)
      (hroom : p.currentActiveOrderCount < maxActiveOrdersPerRider) (h : openFor o = none)
      (h' : openFor o' = some riderId)
      (hriders : s'.riders = (adjustRider riderId (· + 1) s).riders)
  | give {riderId : Nat} (h : openFor o = some riderId) (h' : openFor o' = none)
      (hriders : s'.riders = (adjustRider riderId (· - 1) s).riders)
  | leak {riderId : Nat} (hrecalls : recalls = true) (h : openFor o = some riderId)
      (h' : openFor o' = none) (hriders : s'.riders = s.riders)

/-- Earnings are recorded by the move that completes an order, and by no other. -/
inductive EntryMove (s s' : State) (o o' : OrderRow) : Prop
  | keep (h : o'.status ≠ .completed) (hentries : s'.entries = s.entries)
  | record {rule : RevenueSplitRule} (h : o'.status = .completed)
      (hentries : s'.entries = s.entries ++ splitEntries o' rule)

/-- One order moves, its Node's counter and its earnings with it. -/
structure Shift (s s' : State) (o o' : OrderRow) : Prop where
  mem : o ∈ s.orders
  same : core o' = core o
  orders : s'.orders = put OrderRow.id o' s.orders
  intents : s'.intents = s.intents
  nextId : s.nextId ≤ s'.nextId
  unfinished : o.status ≠ .completed
  nodes : s'.nodes = (nodeAfter o.status o'.status o.originNodeId s).nodes
  clampHits : s'.clampHits = (nodeAfter o.status o'.status o.originNodeId s).clampHits
  entries : EntryMove s s' o o'

/-- And its rider's. -/
structure OrderMove (recalls : Bool) (s s' : State) (o o' : OrderRow) : Prop
    extends Shift s s' o o' where
  rider : RiderMove recalls s s' o o'

inductive Effect (recalls : Bool) (answers : Answers) (s s' : State) : Prop
  | still (h : Still s s')
  | book {intent : PaymentIntentRow} (h : Booked s s' intent)
  | refer (intentId : Nat) (h : (setProviderReference intentId).run s = .ok ((), s'))
  | pay {intent : PaymentIntentRow} {verification : PaymentVerificationResult} {order : OrderRow}
      (hanswer : answers intent = some verification) (hpayable : Payable s intent verification)
      (h : Confirmed s s' intent verification order)
  | expire {intent : PaymentIntentRow} (hmem : intent ∈ s.intents)
      (hpending : intent.status = .pending)
      (h : s' = releaseNode intent.originNodeId (putIntent s { intent with status := .expired }))
  | move {o o' : OrderRow} (h : OrderMove recalls s s' o o')

/-! ## Every change has one -/

variable {d : Deployment} {recalls : Bool} {answers : Answers} {s s' s₁ : State}

theorem still_of_clerical (h : Clerical s s') : Still s s' :=
  ⟨h.intents, h.orders, h.nodes, h.riders, h.entries, h.clampHits, h.nextId⟩

/-- Changes of the legs alone. -/
theorem still_of_legs
    (h : s' = { s with legs := s'.legs, nextId := s'.nextId, outbox := s'.outbox })
    (hnext : s.nextId ≤ s'.nextId) : Still s s' :=
  ⟨by rw [h], by rw [h], by rw [h], by rw [h], by rw [h], by rw [h], hnext⟩

theorem Still.trans {s₂ : State} (h : Still s s₁) (h' : Still s₁ s₂) : Still s s₂ :=
  ⟨h'.intents.trans h.intents, h'.orders.trans h.orders, h'.nodes.trans h.nodes,
    h'.riders.trans h.riders, h'.entries.trans h.entries, h'.clampHits.trans h.clampHits,
    h.nextId.trans h'.nextId⟩

theorem dispatch_still {orderId : Nat} {routeTo : Option String} {r : Option DeliveryLegRow}
    (hs : InStep s) (h : (Logistics.dispatch d orderId .forward routeTo).run s = .ok (r, s')) :
    Still s s' := by
  refine still_of_legs (dispatch_frame hs h) ?_
  rcases dispatch_ok hs.leg_fresh h with ⟨_, -, -, rfl⟩ | ⟨-, ⟨-, -, rfl⟩ | hnew⟩
  · exact le_rfl
  · exact le_rfl
  · obtain ⟨_, _, _, -, -, -, -, hinserted⟩ := hnew
    rw [hinserted.nextId]
    exact Nat.le_succ _

/-- Work after a move that counts for nothing. -/
theorem OrderMove.andStill {o o' : OrderRow} (h : OrderMove recalls s s₁ o o') (h' : Still s₁ s') :
    OrderMove recalls s s' o o' where
  mem := h.mem
  same := h.same
  orders := h'.orders.trans h.orders
  intents := h'.intents.trans h.intents
  nextId := h.nextId.trans h'.nextId
  unfinished := h.unfinished
  nodes := h'.nodes.trans h.nodes
  clampHits := h'.clampHits.trans h.clampHits
  rider := by
    cases h.rider with
    | keep hopen hr => exact .keep hopen (h'.riders.trans hr)
    | take hp hpid hroom hopen hopen' hr =>
        exact .take hp hpid hroom hopen hopen' (h'.riders.trans hr)
    | give hopen hopen' hr => exact .give hopen hopen' (h'.riders.trans hr)
    | leak hrecalls hopen hopen' hr => exact .leak hrecalls hopen hopen' (h'.riders.trans hr)
  entries := by
    cases h.entries with
    | keep hne he => exact .keep hne (h'.entries.trans he)
    | record heq he => exact .record heq (h'.entries.trans he)

theorem originNodeId_of_core {o o' : OrderRow} (h : core o' = core o) :
    o'.originNodeId = o.originNodeId := by
  simpa [core] using congrArg OrderRow.originNodeId h

/-- A move at a counter that changes neither the order's rider nor its slot. -/
theorem edge_move {o o' : OrderRow} {source target : OrderStatus}
    (h : Edge s s₁ o o' source target) (hslot : holdsSlot source = holdsSlot target)
    (hclosed : isOpen source = false) (hclosed' : isOpen target = false)
    (hunfinished : source ≠ .completed) (htarget : target ≠ .completed) :
    OrderMove recalls s s₁ o o' where
  mem := h.moved.mem
  same := h.moved.same
  orders := h.moved.orders
  intents := by rw [h.moved.frame]
  nextId := by rw [h.moved.frame]
  unfinished := by rwa [h.source]
  nodes := by
    rw [h.source, h.target, nodeAfter_of_eq hslot, h.moved.frame]
  clampHits := by
    rw [h.source, h.target, nodeAfter_of_eq hslot, h.moved.frame]
  rider := .keep (by simp [openFor, h.source, h.target, hclosed, hclosed']) (by rw [h.moved.frame])
  entries := .keep (by rwa [h.target]) (by rw [h.moved.frame])

/-- Collection moves the order and records its earnings. -/
theorem collect_move {o o' : OrderRow} {rule : RevenueSplitRule}
    (h : Edge s s₁ o o' .readyForCollection .completed) (hrest : Recorded s₁ s' o' rule) :
    OrderMove recalls s s' o o' where
  mem := h.moved.mem
  same := h.moved.same
  orders := by rw [hrest.eq, h.moved.orders]
  intents := by rw [hrest.eq, h.moved.frame]
  nextId := by rw [hrest.eq, h.moved.frame]
  unfinished := by rw [h.source]; decide
  nodes := by
    have hslot : holdsSlot .readyForCollection = holdsSlot .completed := rfl
    rw [h.source, h.target, nodeAfter_of_eq hslot, hrest.eq, h.moved.frame]
  clampHits := by
    have hslot : holdsSlot .readyForCollection = holdsSlot .completed := rfl
    rw [h.source, h.target, nodeAfter_of_eq hslot, hrest.eq, h.moved.frame]
  rider := .keep (by simp [openFor, h.source, h.target, isOpen]) (by rw [hrest.eq, h.moved.frame])
  entries := .record h.target (by rw [hrest.eq, h.moved.frame])

/-- The sender's collection of a returned parcel frees its slot. -/
theorem returnCollect_move {o o' : OrderRow}
    (h : Edge s s₁ o o' .readyForSenderCollection .returnCompleted)
    (hrest : s' = releaseNode o'.originNodeId s₁) : OrderMove recalls s s' o o' where
  mem := h.moved.mem
  same := h.moved.same
  orders := by rw [hrest]; exact h.moved.orders
  intents := by rw [hrest, h.moved.frame]; rfl
  nextId := by rw [hrest, h.moved.frame]; rfl
  unfinished := by rw [h.source]; decide
  nodes := by
    rw [h.source, h.target, nodeAfter_nodes, hrest, originNodeId_of_core h.moved.same,
      h.moved.frame]
    rfl
  clampHits := by
    rw [h.source, h.target, nodeAfter_clampHits, hrest, originNodeId_of_core h.moved.same,
      h.moved.frame]
    rfl
  rider := .keep (by simp [openFor, h.source, h.target, isOpen]) (by rw [hrest, h.moved.frame]; rfl)
  entries := .keep (by rw [h.target]; decide) (by rw [hrest, h.moved.frame]; rfl)

/-- The status of the order on either side of a leg event. -/
theorem emitted_statuses {row leg : DeliveryLegRow} {event : DeliveryEventType}
    {next : DeliveryLegStatus} {o o' : OrderRow} (h : Emitted s s₁ row leg event next o o') :
    o.status = pairedStatus row.status ∧ o'.status = pairedStatus next ∧
      nextLegStatus row.status event = some next := by
  refine ⟨h.advanced.before.1, ?_, ?_⟩
  · rw [h.advanced.status, movedLeg_status]
  · rw [← h.stands.status]
    exact h.applies

/-- The Node counter moves with the order, whatever the event. -/
theorem nodeAfter_of_event {row : DeliveryLegRow} {next : DeliveryLegStatus}
    (notice : DeliveryEventNotice) (o' : OrderRow)
    (hnext : nextLegStatus row.status notice.event = some next) (t : State) :
    (sideEffect notice o' t).nodes
        = (nodeAfter (pairedStatus row.status) (pairedStatus next) o'.originNodeId t).nodes ∧
      (sideEffect notice o' t).clampHits
        = (nodeAfter (pairedStatus row.status) (pairedStatus next) o'.originNodeId
            t).clampHits := by
  obtain ⟨orderId, legId, legType, providerKey, event, courierUserId, reason⟩ := notice
  generalize row.status = status at hnext ⊢
  obtain ⟨hsource, htarget⟩ := nextLegStatus_eq_some.mp hnext
  subst htarget
  cases event <;> cases status <;> first
    | (cases courierUserId <;> exact ⟨rfl, rfl⟩)
    | (simp [transitions] at hsource)

/-- Which rider's slot an order takes, on either side of an event. -/
theorem emitted_openFor {row leg : DeliveryLegRow} {event : DeliveryEventType}
    {next : DeliveryLegStatus} {o o' : OrderRow} (h : Emitted s s₁ row leg event next o o') :
    openFor o = (if isOpen (pairedStatus row.status) then row.courierUserId else none) ∧
      openFor o' = (if isOpen (pairedStatus next) then
        (movedLeg leg event next s.now).courierUserId else none) := by
  obtain ⟨hbefore, hafter, -⟩ := emitted_statuses h
  constructor
  · rw [openFor, hbefore, h.advanced.before.2]
  · rw [openFor, hafter]
    cases hopen : isOpen (pairedStatus next) with
    | false => rfl
    | true =>
        have hactive : isActive (movedLeg leg event next s.now).status = true := by
          rw [movedLeg_status]
          revert hopen
          cases next <;> decide
        simp only [if_true]
        exact h.advanced.rider hactive

/-- The rider's counter beside an event of a leg whose entity is the row. -/
theorem emitted_riderMove {row leg : DeliveryLegRow} {event : DeliveryEventType}
    {next : DeliveryLegStatus} {o o' : OrderRow} (h : Emitted s s₁ row leg event next o o')
    (hcourier : leg.courierUserId = row.courierUserId)
    (hcarrier : row.courierUserId = none ∨ event = .pickedUp ∨ event = .delivered ∨
      event = .cancelled ∧ recalls = true) : RiderMove recalls s s₁ o o' := by
  obtain ⟨hopen, hopen'⟩ := emitted_openFor h
  have hriders : s₁.riders
      = (sideEffect (noticeOf (movedLeg leg event next s.now) event) o' s).riders := by
    rw [h.advanced.frame]
    cases event with
    | delivered | returned =>
        simp only [sideEffect, noticeOf, releaseRider]
        split <;> rfl
    | _ => rfl
  rw [movedLeg_courierUserId, hcourier] at hopen'
  have hnotice : (noticeOf (movedLeg leg event next s.now) event).courierUserId
      = if event = .released then none else row.courierUserId := by
    rw [← hcourier]
    exact movedLeg_courierUserId leg event next s.now
  obtain ⟨hsource, htarget⟩ := nextLegStatus_eq_some.mp (emitted_statuses h).2.2
  cases hrider : row.courierUserId with
  | none =>
      refine .keep ?_ ?_
      · rw [hopen, hopen', hrider, ite_self, ite_self, ite_self]
      · rw [hriders]
        rw [hrider, ite_self] at hnotice
        cases event <;> first | rfl | (simp only [sideEffect, hnotice, releaseRider]; rfl)
  | some riderId =>
      rw [hrider] at hopen hopen' hnotice
      rcases hcarrier with hnone | rfl | rfl | ⟨rfl, hrecalls⟩
      · rw [hnone] at hrider
        cases hrider
      · simp only [transitions, List.mem_singleton] at hsource
        rw [hsource] at hopen
        rw [htarget] at hopen'
        exact .keep (hopen'.trans hopen.symm) hriders
      · simp only [transitions, List.mem_singleton] at hsource
        rw [hsource] at hopen
        rw [htarget] at hopen'
        refine .give hopen hopen' ?_
        rw [hriders, sideEffect, show (noticeOf _ DeliveryEventType.delivered).event
          = .delivered from rfl, hnotice]
        rfl
      · rw [htarget] at hopen'
        simp only [transitions, List.mem_cons, List.not_mem_nil, or_false] at hsource
        rcases hsource with hsource | hsource
        · rw [hsource] at hopen
          exact .keep (hopen'.trans hopen.symm) hriders
        · rw [hsource] at hopen
          exact .leak hrecalls hopen hopen' hriders

theorem sideEffect_entries (notice : DeliveryEventNotice) (o : OrderRow) (t : State) :
    (sideEffect notice o t).entries = t.entries ∧ (sideEffect notice o t).intents = t.intents := by
  obtain ⟨orderId, legId, legType, providerKey, event, courierUserId, reason⟩ := notice
  cases event <;> cases courierUserId <;> exact ⟨rfl, rfl⟩

theorem pairedStatus_ne_completed (status : DeliveryLegStatus) :
    pairedStatus status ≠ .completed := by
  cases status <;> decide

/-- **A leg event moves one order**, its Node's counter with it. -/
theorem emitted_shift {row leg : DeliveryLegRow} {event : DeliveryEventType}
    {next : DeliveryLegStatus} {o o' : OrderRow} (h : Emitted s s₁ row leg event next o o') :
    Shift s s₁ o o' := by
  obtain ⟨hbefore, hafter, hnext⟩ := emitted_statuses h
  have horigin := originNodeId_of_core h.advanced.same
  obtain ⟨hnodes, hclamp⟩ := nodeAfter_of_event
    (noticeOf (movedLeg leg event next s.now) event) o' hnext
    { s with legs := s₁.legs, orders := s₁.orders, orderEvents := s₁.orderEvents }
  rw [← h.advanced.frame] at hnodes hclamp
  refine
    { mem := (getOrder_mem h.advanced.order).1, same := h.advanced.same
      orders := h.advanced.orders, intents := ?_, nextId := h.advanced.nextId.ge
      unfinished := ?_, nodes := ?_, clampHits := ?_, entries := .keep ?_ ?_ }
  · rw [h.advanced.frame, (sideEffect_entries _ _ _).2]
  · rw [hbefore]
    exact pairedStatus_ne_completed row.status
  · rw [hbefore, hafter, hnodes, horigin, nodeAfter_nodes, nodeAfter_nodes]
    rfl
  · rw [hbefore, hafter, hclamp, horigin, nodeAfter_clampHits, nodeAfter_clampHits]
    rfl
  · rw [hafter]
    exact pairedStatus_ne_completed next
  · rw [h.advanced.frame, (sideEffect_entries _ _ _).1]

/-- A shift does not look at riders. -/
theorem Shift.ofAdjustRider {o o' : OrderRow} {riderId : Nat} {f : Nat → Nat}
    (h : Shift (adjustRider riderId f s) s' o o') : Shift s s' o o' where
  mem := h.mem
  same := h.same
  orders := h.orders
  intents := h.intents
  nextId := h.nextId
  unfinished := h.unfinished
  nodes := by rw [h.nodes, nodeAfter_nodes, nodeAfter_nodes]; rfl
  clampHits := by rw [h.clampHits, nodeAfter_clampHits, nodeAfter_clampHits]; rfl
  entries := by
    cases h.entries with
    | keep hne he => exact .keep hne he
    | record heq he => exact .record heq he

/-- A rider's claim: the slot reserved first is the one the order takes. -/
theorem claim_move {riderId : Nat} {p : RiderProfileRow} {row leg : DeliveryLegRow}
    {o o' : OrderRow} (hp : p ∈ s.riders) (hpid : p.userId = riderId)
    (hroom : p.currentActiveOrderCount < maxActiveOrdersPerRider)
    (hcourier : leg.courierUserId = some riderId)
    (h : Emitted (adjustRider riderId (· + 1) s) s' row leg .assigned .assigned o o') :
    OrderMove recalls s s' o o' := by
  obtain ⟨hopen, hopen'⟩ := emitted_openFor h
  have hsource : row.status = .requested := by
    simpa [transitions] using (nextLegStatus_eq_some.mp (emitted_statuses h).2.2).1
  rw [hsource] at hopen
  rw [movedLeg_courierUserId, hcourier] at hopen'
  refine ⟨(emitted_shift h).ofAdjustRider, .take hp hpid hroom hopen hopen' ?_⟩
  rw [h.advanced.frame]
  rfl

/-- **Every change has an effect.** -/
theorem effect_of_change (hs : InStep s) (h : Change d recalls answers s s') :
    Effect recalls answers s s' := by
  cases h with
  | clerical h => exact .still (still_of_clerical h)
  | key k h =>
      exact .still ⟨by rw [h], by rw [h], by rw [h], by rw [h], by rw [h], by rw [h], by rw [h]⟩
  | book h => exact .book h
  | refer intentId h => exact .refer intentId h
  | pay hanswer hpayable h => exact .pay hanswer hpayable h
  | expire hmem hpending h => exact .expire hmem hpending h
  | intake h hrest =>
      exact .move ((edge_move h rfl rfl rfl (by decide) (by decide)).andStill
        (still_of_clerical hrest))
  | returnIntake h hrest =>
      exact .move ((edge_move h rfl rfl rfl (by decide) (by decide)).andStill
        (still_of_clerical hrest))
  | collect h hrest => exact .move (collect_move h hrest)
  | returnCollect h hrest => exact .move (returnCollect_move h hrest)
  | dropOff h hmail hrest =>
      have hs₂ := clerical_inStep (h.inStep hs (by decide) rfl rfl (by decide)) hmail
      exact .move ((edge_move h rfl rfl rfl (by decide) (by decide)).andStill
        ((still_of_clerical hmail).trans (dispatch_still hs₂ hrest)))
  | dispatch ho hwaiting h => exact .still (dispatch_still hs h)
  | adopt ho hwaiting hnone h =>
      exact .still (still_of_legs h.frame (by rw [h.nextId]; exact Nat.le_succ _))
  | claim hp hpid hroom hinHouse hcourier h => exact .move (claim_move hp hpid hroom hcourier h)
  | event hcourier hcarrier hevent h =>
      refine .move ⟨emitted_shift h, emitted_riderMove h hcourier ?_⟩
      exact hcarrier.imp_right fun hc => hc.imp_right Or.inl
  | @cancel row leg o o' s₁ routeTo r hrecall h hrest =>
      have hcourier := h.stands.courier (by decide)
      have hcarrier : row.courierUserId = none ∨ DeliveryEventType.cancelled = .pickedUp ∨
          DeliveryEventType.cancelled = .delivered ∨
          DeliveryEventType.cancelled = .cancelled ∧ recalls = true := by
        cases hr : recalls with
        | false => exact Or.inl (hrecall hr)
        | true => exact Or.inr (Or.inr (Or.inr ⟨rfl, rfl⟩))
      have hmove : OrderMove recalls s s₁ o o' :=
        ⟨emitted_shift h, emitted_riderMove h hcourier hcarrier⟩
      exact .move (hmove.andStill (dispatch_still (h.inStep hs) hrest))
  | relabel h htwin hinHouse => exact .still (still_of_legs (by rw [h]) (by rw [h]))
  | @refuse row reason r hrow hrequested h =>
      have hstill : Still s (putLeg s (refused s row reason)) :=
        still_of_legs rfl le_rfl
      exact .still (hstill.trans
        (dispatch_still (refused_inStep reason hs hrow hrequested).1 h))

end Locoomo.Effects
