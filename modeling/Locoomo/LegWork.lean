import Mathlib.Data.List.Induction
import Locoomo.Frames

/-! What work on delivery legs and on payments leaves alone: the handoff codes,
the clock, which parcels wait at a counter for the person who collects them, and
the emails that bring that person a code. A leg's events walk the other edges of
the order only, and a new order waits for nobody. -/

namespace Locoomo.LegWork

open Locoomo.Delivery Locoomo.Database Locoomo.Routing Locoomo.Logistics Locoomo.Handoffs
  Locoomo.Payments Locoomo.System Locoomo.OrderMoves Locoomo.LegMoves Locoomo.Frames Relational

open Tx (Keeps)

/-- The parcel lies at a Node for its receiver, or for its sender. -/
def awaitsCollector : OrderStatus → Bool
  | .readyForCollection | .readyForSenderCollection => true
  | _ => false

/-- The order's status, while its parcel lies at a Node to be collected. -/
def waiting (s : State) (orderId : Nat) : Option OrderStatus :=
  ((getOrder s orderId).map OrderRow.status).filter awaitsCollector

/-- An email that brings a collector a code. -/
def isCodeMail : OutboxEvent → Bool
  | .email _ (.readyForCollection _) | .email _ (.newCollectionCode _)
  | .email _ (.senderCollectionCode _) => true
  | _ => false

/-- No code is written and none is sent. -/
structure Unwritten (s s' : State) : Prop where
  now : s'.now = s.now
  nextId : s.nextId ≤ s'.nextId
  codes : s'.codes = s.codes
  mails : s'.outbox.filter isCodeMail = s.outbox.filter isCodeMail

/-- Nor does a parcel begin or end to wait for its collector. -/
structure Aloof (s s' : State) : Prop extends Unwritten s s' where
  waiting : ∀ orderId, waiting s' orderId = waiting s orderId

structure Apart (s s' : State) : Prop extends Aloof s s' where
  keys : s'.keys = s.keys

variable {d : Deployment} {s s' : State}

theorem unwritten_frame : Tx.Frame Unwritten where
  refl _ := ⟨rfl, le_rfl, rfl, rfl⟩
  trans h₁ h₂ := ⟨h₂.now.trans h₁.now, h₁.nextId.trans h₂.nextId, h₂.codes.trans h₁.codes,
    h₂.mails.trans h₁.mails⟩

theorem aloof_frame : Tx.Frame Aloof where
  refl s := ⟨unwritten_frame.refl s, fun _ => rfl⟩
  trans h₁ h₂ := ⟨unwritten_frame.trans h₁.toUnwritten h₂.toUnwritten,
    fun orderId => (h₂.waiting orderId).trans (h₁.waiting orderId)⟩

theorem apart_frame : Tx.Frame Apart where
  refl s := ⟨aloof_frame.refl s, rfl⟩
  trans h₁ h₂ := ⟨aloof_frame.trans h₁.toAloof h₂.toAloof, h₂.keys.trans h₁.keys⟩

/-- A write of Nodes, riders, legs or other emails. -/
theorem Apart.write (horders : s'.orders = s.orders) (hkeys : s'.keys = s.keys)
    (hcodes : s'.codes = s.codes) (hnow : s'.now = s.now) (hnext : s.nextId ≤ s'.nextId)
    (hmails : s'.outbox.filter isCodeMail = s.outbox.filter isCodeMail) : Apart s s' where
  now := hnow
  nextId := hnext
  codes := hcodes
  mails := hmails
  waiting orderId := by rw [LegWork.waiting, LegWork.waiting, getOrder, horders, getOrder]
  keys := hkeys

/-- A write of a parcel that waits for nobody, before or after. -/
theorem waiting_put {o o' : OrderRow} (ho : getOrder s o.id = some o) (hid : o'.id = o.id)
    (hbefore : awaitsCollector o.status = false) (hafter : awaitsCollector o'.status = false)
    (horders : s'.orders = put OrderRow.id o' s.orders) (orderId : Nat) :
    waiting s' orderId = waiting s orderId := by
  by_cases heq : orderId = o.id
  · subst heq
    have hput : getOrder s' o.id = some o' := by
      rw [getOrder, horders, ← hid]
      exact get_put_self ⟨o, (getOrder_mem ho).1, hid.symm⟩
    rw [waiting, waiting, hput, ho]
    simp [Option.filter_some, hbefore, hafter]
  · have hkept : getOrder s' orderId = getOrder s orderId := by
      rw [getOrder, horders]
      exact get_put_of_ne fun h => heq (by rw [h, hid])
    rw [waiting, hkept, waiting]

/-- A new order waits for nobody. -/
theorem waiting_append {o : OrderRow} (hstatus : awaitsCollector o.status = false)
    (horders : s'.orders = s.orders ++ [o]) (orderId : Nat) :
    waiting s' orderId = waiting s orderId := by
  have happend : getOrder s' orderId = (getOrder s orderId).or (get OrderRow.id orderId [o]) := by
    rw [getOrder, horders]
    exact List.find?_append
  rw [waiting, waiting, happend]
  cases getOrder s orderId with
  | some p => rfl
  | none =>
      simp only [Option.none_or, Option.map_none, Option.filter_none, Option.filter_eq_none_iff,
        Option.map_eq_some_iff]
      rintro status ⟨p, hp, rfl⟩
      obtain rfl := List.mem_singleton.mp (get_some hp).1
      rw [hstatus]
      exact Bool.false_ne_true

/-! ## Dispatch -/

theorem enqueue_apart {event : OutboxEvent} (h : isCodeMail event = false) :
    Keeps Apart (enqueue event) :=
  apart_frame.write fun s => .write rfl rfl rfl rfl le_rfl (by simp [h])

theorem insertLeg_apart (leg : DeliveryLegRow) : Keeps Apart (insertLeg leg) :=
  apart_frame.query fun _ => .write rfl rfl rfl rfl (Nat.le_succ _) rfl

theorem saveLeg_apart (leg : DeliveryLegRow) : Keeps Apart (saveLeg leg) :=
  apart_frame.write fun _ => .write rfl rfl rfl rfl le_rfl rfl

theorem route_apart (orderId : Nat) (legType : DeliveryLegType) (providerKey : Option String) :
    Keeps Apart (route d orderId legType providerKey) := by
  intro s choice s' h
  obtain rfl := route_state h
  exact apart_frame.refl s'

theorem dispatch_apart (orderId : Nat) (legType : DeliveryLegType)
    (providerKey : Option String) : Keeps Apart (dispatch d orderId legType providerKey) := by
  refine apart_frame.bind (apart_frame.read _) fun active => ?_
  cases active with
  | some leg => exact apart_frame.pure _
  | none =>
      refine apart_frame.bind (route_apart _ _ _) fun choice => ?_
      cases choice with
      | none => exact apart_frame.pure none
      | some choice =>
          refine apart_frame.bind (apart_frame.read _) fun row =>
            apart_frame.bind (apart_frame.expect _ _) fun order =>
              apart_frame.bind (insertLeg_apart _) fun leg => ?_
          split
          · exact apart_frame.bind (enqueue_apart rfl) fun _ => apart_frame.pure _
          · exact apart_frame.bind (saveLeg_apart _) fun _ => apart_frame.pure _

/-! ## Events -/

theorem orderEdge_elsewhere (event : DeliveryEventType) :
    awaitsCollector (orderEdge event).1 = false ∧ awaitsCollector (orderEdge event).2 = false := by
  cases event <;> exact ⟨rfl, rfl⟩

theorem moved_unwritten {orderId : Nat} {o o' : OrderRow} (h : Moved s s' orderId o o') :
    Unwritten s s' := by
  rw [h.frame]
  exact ⟨rfl, le_rfl, rfl, rfl⟩

theorem sideEffect_apart (notice : DeliveryEventNotice) (o : OrderRow) (s : State) :
    Apart s (sideEffect notice o s) := by
  obtain ⟨orderId, legId, legType, providerKey, event, courierUserId, reason⟩ := notice
  cases event <;> cases courierUserId <;>
    exact .write rfl rfl rfl rfl le_rfl (by simp [sideEffect, isCodeMail, releaseNode, releaseRider,
      adjustNode, adjustRider])

theorem onDeliveryEvent_apart (notice : DeliveryEventNotice) :
    Keeps Apart (onDeliveryEvent notice) := by
  intro s u s' h
  by_cases hf : notice.legType = .forward
  · rcases onDeliveryEvent_ok hf h with ⟨rfl, -⟩ | ⟨o, o', s₁, hm, hsource, -, htarget, -, rfl, -⟩
    · exact apart_frame.refl s'
    · have hoid : o.id = notice.orderId := (getOrder_mem hm.found).2
      have hedge := orderEdge_elsewhere notice.event
      rw [← hsource, ← htarget] at hedge
      refine apart_frame.trans ?_ (sideEffect_apart notice o' s₁)
      exact
        { moved_unwritten hm with
          waiting := waiting_put (by rw [hoid]; exact hm.found) (core_id hm.same) hedge.1 hedge.2
            hm.orders
          keys := by rw [hm.frame] }
  · rw [onDeliveryEvent, if_pos hf] at h
    cases h
    exact apart_frame.refl s

theorem apply_apart (leg : DeliveryLegRow) (event : DeliveryEventType) (routeTo : Option String) :
    Keeps Apart (apply d leg event routeTo) := by
  unfold apply
  split
  · exact apart_frame.pure none
  · refine apart_frame.bind (apart_frame.read _) fun now =>
      apart_frame.bind (saveLeg_apart _) fun _ =>
        apart_frame.bind (onDeliveryEvent_apart _) fun _ => ?_
    split
    · exact apart_frame.bind (dispatch_apart _ _ _) fun _ => apart_frame.pure _
    · exact apart_frame.pure _

theorem applyAll_apart (events : List DeliveryEventType) (leg : DeliveryLegRow) :
    Keeps Apart (applyAll d leg events) := by
  induction events generalizing leg with
  | nil => exact apart_frame.pure ()
  | cons event events ih =>
      exact apart_frame.bind (apply_apart leg event none) fun moved => ih (moved.getD leg)

/-! ## Couriers and riders -/

theorem syncFromSnapshot_apart (providerKey : String) (snapshot : ProviderDeliverySnapshot) :
    Keeps Apart (syncFromSnapshot d providerKey snapshot) := by
  intro s r s' h
  rcases syncFromSnapshot_ok h with rfl | ⟨leg, -, -, rfl | ⟨-, hall⟩⟩
  · exact apart_frame.refl s'
  · exact .write rfl rfl rfl rfl le_rfl rfl
  · exact applyAll_apart _ _ s () s' hall

theorem cancelLeg_apart (legId : Nat) (reason : String) (thenRouteTo : Option String) :
    Keeps Apart (cancelLeg d legId reason thenRouteTo) := by
  intro s r s' h
  rcases cancelLeg_ok h with rfl | ⟨leg, moved, -, happly⟩
  · exact apart_frame.refl s'
  · exact apply_apart _ _ _ s moved s' happly

theorem activeLegOr_apart (orderId : Nat) {create : Db DeliveryLegRow}
    (hcreate : Keeps Apart create) : Keeps Apart (activeLegOr orderId create) := by
  refine apart_frame.bind (apart_frame.read _) fun active => ?_
  cases active with
  | some leg => exact apart_frame.pure leg
  | none => exact hcreate

theorem createInHouseLeg_apart (orderId : Nat) (status : DeliveryLegStatus)
    (courierUserId : Option Nat) : Keeps Apart (createInHouseLeg orderId status courierUserId) :=
  apart_frame.bind (apart_frame.read _) fun _ => insertLeg_apart _

theorem accept_apart (orderId riderId : Nat) : Keeps Apart (accept d orderId riderId) := by
  have hreserve : Keeps Apart (reserveDeliverySlot riderId) := by
    intro s r s' h
    obtain ⟨p, -, -, ⟨-, rfl⟩ | ⟨-, -, rfl⟩⟩ := reserveDeliverySlot_ok h
    · exact apart_frame.refl s'
    · exact .write rfl rfl rfl rfl le_rfl rfl
  exact apart_frame.bind hreserve fun _ => apart_frame.bind (apart_frame.ensure _ _) fun _ =>
    apart_frame.bind (activeLegOr_apart _ (createInHouseLeg_apart _ _ _)) fun _ =>
      apart_frame.bind (apart_frame.ensure _ _) fun _ =>
        apart_frame.bind (apart_frame.ensure _ _) fun _ =>
          apart_frame.bind (apart_frame.read _) fun _ =>
            apart_frame.bind (apply_apart _ _ _) fun _ => apart_frame.pure ()

/-- A rider's handover moves the order, but to no collector. -/
theorem recordInHouseHandover_apart (orderId : Nat) (event : DeliveryEventType) :
    Keeps Apart (recordInHouseHandover d orderId event) :=
  apart_frame.bind (activeLegOr_apart _ (apart_frame.bind (apart_frame.read _) fun _ =>
    createInHouseLeg_apart _ _ _)) fun _ => apart_frame.bind (apart_frame.ensure _ _) fun _ =>
      apart_frame.bind (apply_apart _ _ _) fun _ => apart_frame.ensure _ _

theorem submit_apart (legId : Nat) (answer : SubmitAnswer) :
    Keeps Apart (submit d legId answer) := by
  refine apart_frame.bind (apart_frame.read _) fun row => ?_
  cases row with
  | none => exact apart_frame.pure ()
  | some leg =>
      refine apart_frame.bind (apart_frame.expect _ _) fun provider => ?_
      split
      · exact apart_frame.write fun _ => .write rfl rfl rfl rfl le_rfl rfl
      · exact apart_frame.bind
          (apart_frame.write fun _ => .write rfl rfl rfl rfl le_rfl rfl) fun _ =>
          apart_frame.bind (dispatch_apart _ _ _) fun _ => apart_frame.pure ()
      · exact apart_frame.reject _

/-- The actions that work on legs only. -/
def isLegWork : Action → Bool
  | .accept _ _ | .dispatch _ _ | .submit _ _ | .syncFromSnapshot _ _ | .cancelLeg _ _ _
  | .fallbackToInHouse _ => true
  | _ => false

theorem tx_apart {a : Action} (h : isLegWork a = true) : Keeps Apart (tx d a) := by
  cases a with
  | accept orderId riderId => exact accept_apart orderId riderId
  | dispatch orderId providerKey =>
      exact apart_frame.bind (apart_frame.read _) fun _ =>
        apart_frame.bind (apart_frame.ensure _ _) fun _ =>
          apart_frame.bind (dispatch_apart _ _ _) fun _ => apart_frame.pure ()
  | submit legId answer => exact submit_apart legId answer
  | syncFromSnapshot providerKey snapshot =>
      exact apart_frame.bind (syncFromSnapshot_apart _ _) fun _ => apart_frame.pure ()
  | cancelLeg legId reason thenRouteTo =>
      exact apart_frame.bind (cancelLeg_apart _ _ _) fun _ => apart_frame.pure ()
  | fallbackToInHouse legId =>
      exact apart_frame.bind (apart_frame.read _) fun _ =>
        apart_frame.bind (apart_frame.expect _ _) fun _ =>
          apart_frame.bind (apart_frame.bind (apart_frame.ensure _ _) fun _ =>
            apart_frame.ensure _ _) fun _ =>
              apart_frame.bind (cancelLeg_apart _ _ _) fun _ => apart_frame.ensure _ _
  | _ => cases h

/-! ## Payments -/

/-- A write of intents, Nodes or keys. -/
theorem Aloof.write (horders : s'.orders = s.orders) (hcodes : s'.codes = s.codes)
    (hnow : s'.now = s.now) (hnext : s.nextId ≤ s'.nextId) (houtbox : s'.outbox = s.outbox) :
    Aloof s s' where
  now := hnow
  nextId := hnext
  codes := hcodes
  mails := by rw [houtbox]
  waiting orderId := by rw [LegWork.waiting, LegWork.waiting, getOrder, horders, getOrder]

theorem withIdempotency_aloof {α : Type} {fn : Db α} (h : Keeps Aloof fn) (scope : String)
    (key : Nat) : Keeps Aloof (withIdempotency scope key fn) := by
  intro s r s' hrun
  rcases withIdempotency_ok hrun with ⟨-, -, rfl⟩ | ⟨-, a, -, hfn⟩
  · exact aloof_frame.refl s'
  · have hkey : Aloof s (insertKey scope key s) := .write rfl rfl rfl le_rfl rfl
    exact aloof_frame.trans hkey (h _ a s' hfn)

theorem saveIntent_aloof (intent : PaymentIntentRow) : Keeps Aloof (saveIntent intent) := by
  refine aloof_frame.bind (aloof_frame.read _) fun row => ?_
  cases row with
  | none => exact aloof_frame.write fun _ => .write rfl rfl rfl le_rfl rfl
  | some row =>
      refine aloof_frame.write fun s => ?_
      cases getIntent s intent.id with
      | none => exact aloof_frame.refl s
      | some current => exact .write rfl rfl rfl le_rfl rfl

theorem createFromPaidIntent_aloof (intent : PaymentIntentRow) (drawnCodes : List String) :
    Keeps Aloof (createFromPaidIntent intent drawnCodes) := by
  intro s o s' h
  obtain ⟨hplaced, rfl⟩ := createFromPaidIntent_ok h
  have hstatus : awaitsCollector o.status = false := by
    rw [hplaced.status]
    rfl
  exact ⟨⟨rfl, Nat.le_succ _, rfl, rfl⟩, waiting_append hstatus rfl⟩

theorem confirmPaid_aloof (intent : PaymentIntentRow) (verification : PaymentVerificationResult)
    (drawnCodes : List String) : Keeps Aloof (Payments.confirm intent verification drawnCodes) :=
  aloof_frame.bind (aloof_frame.read _) fun _ => aloof_frame.bind (saveIntent_aloof _) fun _ =>
    aloof_frame.bind (createFromPaidIntent_aloof _ _) fun _ =>
      (enqueue_apart rfl).mono Apart.toAloof

theorem handleWebhook_aloof (reference : Nat) (answer : VerifyAnswer) (drawnCodes : List String) :
    Keeps Aloof (handleWebhook reference answer drawnCodes) := by
  refine aloof_frame.bind (withIdempotency_aloof
    (aloof_frame.bind (aloof_frame.read _) fun found => ?_) _ _) fun _ => aloof_frame.pure ()
  cases found with
  | none => exact aloof_frame.pure ()
  | some intent =>
      exact .ite (aloof_frame.pure ()) (aloof_frame.bind (aloof_frame.expect _ _) fun _ =>
        .ite (confirmPaid_aloof _ _ _) (aloof_frame.pure ()))

theorem recoverBody_aloof (intentId : Nat) (verification : PaymentVerificationResult)
    (drawnCodes : List String) : Keeps Aloof (recoverBody intentId verification drawnCodes) := by
  refine aloof_frame.bind (aloof_frame.read _) fun fresh => ?_
  cases fresh with
  | none => exact aloof_frame.pure ()
  | some intent => exact .ite (aloof_frame.pure ()) (confirmPaid_aloof _ _ _)

theorem tryRecover_aloof (intent : PaymentIntentRow) (answer : VerifyAnswer)
    (drawnCodes : List String) : Keeps Aloof (tryRecover intent answer drawnCodes) := by
  unfold tryRecover
  cases intent.providerReference with
  | none => exact aloof_frame.pure false
  | some reference =>
      cases answer with
      | none => exact aloof_frame.pure true
      | some verification =>
          exact .ite (aloof_frame.bind (withIdempotency_aloof (recoverBody_aloof _ _ _) _ _)
            fun _ => aloof_frame.pure true) (aloof_frame.pure false)

theorem expire_aloof (intentId : Nat) : Keeps Aloof (expire intentId) := by
  refine aloof_frame.bind (aloof_frame.read _) fun fresh => ?_
  cases fresh with
  | none => exact aloof_frame.pure ()
  | some intent =>
      exact .ite (aloof_frame.pure ()) (aloof_frame.bind (saveIntent_aloof _) fun _ =>
        aloof_frame.write fun _ => .write rfl rfl rfl le_rfl rfl)

theorem pollIntent_aloof (intentId : Nat) (answer : VerifyAnswer) (drawnCodes : List String) :
    Keeps Aloof (pollIntent intentId answer drawnCodes) := by
  refine aloof_frame.bind (aloof_frame.read _) fun row => ?_
  cases row with
  | none => exact aloof_frame.pure ()
  | some intent =>
      exact aloof_frame.bind (tryRecover_aloof _ _ _) fun _ =>
        .ite (aloof_frame.pure ()) (expire_aloof _)

theorem createIntent_aloof (payerId : Nat) (dto : CreatePaymentIntentDto) :
    Keeps Aloof (Payments.createIntent payerId dto) := by
  intro s intent s' h
  rw [(createIntent_ok h).eq]
  exact .write rfl rfl rfl (Nat.le_succ _) rfl

/-! ## Actions -/

/-- Neither the clock nor a code is touched. -/
def isAloof : Action → Bool
  | .tick _ | .confirm _ _ _ | .requestCode _ _ _ _ | .resendCode _ _ _ => false
  | _ => true

theorem tx_aloof {a : Action} (h : isAloof a = true) : Keeps Aloof (tx d a) := by
  cases hlegs : isLegWork a with
  | true => exact (tx_apart hlegs).mono Apart.toAloof
  | false =>
      have F := aloof_frame
      cases a with
      | createIntent payerId dto => exact F.bind (createIntent_aloof _ _) fun _ => F.pure ()
      | setProviderReference intentId =>
          exact F.write fun _ => .write rfl rfl rfl le_rfl rfl
      | webhook reference answer drawnCodes => exact handleWebhook_aloof _ _ _
      | pollIntent intentId answer drawnCodes => exact pollIntent_aloof _ _ _
      | createPricingRule rule => exact F.write fun _ => .write rfl rfl rfl (Nat.le_succ _) rfl
      | createSplitRule rule => exact F.write fun _ => .write rfl rfl rfl (Nat.le_succ _) rfl
      | updateProvider key dto =>
          exact F.bind (F.read _) fun _ => F.bind (F.expect _ _) fun _ =>
            F.bind (F.ensure _ _) fun _ => F.bind (F.ensure _ _) fun _ =>
              F.bind (F.read _) fun _ => F.bind (F.ensure _ _) fun _ =>
                F.write fun _ => .write rfl rfl rfl le_rfl rfl
      | retry legId =>
          exact F.bind (F.read _) fun _ => F.bind (F.expect _ _) fun _ =>
            F.bind (F.ensure _ _) fun _ => (enqueue_apart rfl).mono Apart.toAloof
      | interrupted => exact F.reject _
      | tick _ | confirm _ _ _ | requestCode _ _ _ _ | resendCode _ _ _ => cases h
      | _ => cases hlegs

end Locoomo.LegWork
