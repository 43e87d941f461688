import Locoomo.Frames

/-! Which failures leave a trace. A transaction that fails is rolled back, but
for the attempt counter of a handoff code that was given wrong; only the
confirming steps that ask for a code compare one. -/

namespace Locoomo.Refusals

open Locoomo.Delivery Locoomo.Database Locoomo.Routing Locoomo.Logistics Locoomo.Handoffs
  Locoomo.Payments Locoomo.System Locoomo.Frames Relational

open Tx (AbortsIn)

/-- The error raises no attempt counter. -/
def Harmless : TxError → Prop
  | .invalidHandoffCode (some _) => False
  | _ => True

theorem Harmless.rollback {e : TxError} (h : Harmless e) (s : State) : rollback s e = s := by
  unfold Handoffs.rollback
  split
  · exact absurd h id
  · rfl

variable {d : Deployment} {s : State}

/-! ## Orders -/

theorem moveOrder_harmless (orderId : Nat) (source target : OrderStatus)
    (guard : OrderRow → Bool) (set : OrderRow → OrderRow) (type : OrderEventType)
    (payload : OrderEventPayload) :
    AbortsIn Harmless (moveOrder orderId source target guard set type payload) :=
  .bind (.ensure _ trivial) fun _ => .bind (.query _) fun _ => .bind (.expect _ trivial) fun _ =>
    .bind (.write _) fun _ => .pure _

theorem transition_harmless (orderId : Nat) (source target : OrderStatus) (type : OrderEventType)
    (payload : OrderEventPayload) :
    AbortsIn Harmless (transition orderId source target type payload) :=
  moveOrder_harmless _ _ _ _ _ _ _

/-- A transition and the shelf that goes with it. -/
theorem transition_query_harmless (orderId : Nat) (source target : OrderStatus)
    (type : OrderEventType) (payload : OrderEventPayload)
    (f : OrderRow → State → OrderRow × State) :
    AbortsIn Harmless (transition orderId source target type payload >>= fun o => Tx.query (f o)) :=
  .bind (transition_harmless _ _ _ _ _) fun _ => .query _

/-! ## Counters -/

theorem reserveCapacitySlot_harmless (nodeId : Nat) :
    AbortsIn Harmless (reserveCapacitySlot nodeId) :=
  .bind (.read _) fun _ => .bind (.expect _ trivial) fun _ =>
    .ite (.pure _) (.bind (.write _) fun _ => .pure _)

theorem reserveDeliverySlot_harmless (riderId : Nat) :
    AbortsIn Harmless (reserveDeliverySlot riderId) :=
  .bind (.read _) fun _ => .bind (.expect _ trivial) fun _ => .bind (.ensure _ trivial) fun _ =>
    .ite (.pure _) (.bind (.write _) fun _ => .pure _)

theorem releaseCourierSlot_harmless (courierUserId : Option Nat) :
    AbortsIn Harmless (releaseCourierSlot courierUserId) := by
  cases courierUserId with
  | none => exact .pure ()
  | some riderId => exact .write _

theorem withIdempotency_harmless {α : Type} {fn : Db α} (h : AbortsIn Harmless fn)
    (scope : String) (key : Nat) : AbortsIn Harmless (withIdempotency scope key fn) :=
  .bind (.query _) fun _ => .ite (.bind h fun _ => .pure _) (.pure _)

/-! ## Legs -/

theorem route_harmless (orderId : Nat) (legType : DeliveryLegType) (providerKey : Option String) :
    AbortsIn Harmless (route d orderId legType providerKey) := by
  cases providerKey with
  | some key => exact .bind (.read _) fun _ => .pure _
  | none =>
      exact .bind (.read _) fun _ => .bind (.expect _ trivial) fun _ => .bind (.read _) fun _ =>
        .bind (.read _) fun _ => .pure _

theorem dispatch_harmless (orderId : Nat) (legType : DeliveryLegType)
    (providerKey : Option String) :
    AbortsIn Harmless (dispatch d orderId legType providerKey) := by
  refine .bind (.read _) fun active => ?_
  cases active with
  | some leg => exact .pure _
  | none =>
      refine .bind (route_harmless _ _ _) fun choice => ?_
      cases choice with
      | none => exact .pure none
      | some choice =>
          exact .bind (.read _) fun _ => .bind (.expect _ trivial) fun _ =>
            .bind (.query _) fun _ =>
              .ite (.bind (.write _) fun _ => .pure _) (.bind (.write _) fun _ => .pure _)

theorem onDeliveryEvent_harmless (notice : DeliveryEventNotice) :
    AbortsIn Harmless (onDeliveryEvent notice) := by
  refine .ite (.pure ()) ?_
  cases notice.event with
  | assigned =>
      cases notice.courierUserId with
      | some riderId => exact .bind (moveOrder_harmless _ _ _ _ _ _ _) fun _ => .pure ()
      | none => exact .bind (transition_harmless _ _ _ _ _) fun _ => .pure ()
  | pickedUp => exact .bind (transition_query_harmless _ _ _ _ _ _) fun _ => .write _
  | delivered =>
      exact .bind (transition_harmless _ _ _ _ _) fun _ => releaseCourierSlot_harmless _
  | attemptFailed => exact .pure ()
  | released | cancelled =>
      exact .bind (.read _) fun _ =>
        .ite (.bind (moveOrder_harmless _ _ _ _ _ _ _) fun _ => .pure ()) (.pure ())
  | returning =>
      exact .bind (.bind (transition_harmless _ _ _ _ _) fun _ => transition_harmless _ _ _ _ _)
        fun _ => .bind (.write _) fun _ => .write _
  | returned =>
      exact .bind (transition_harmless _ _ _ _ _) fun _ => .bind (.write _) fun _ =>
        releaseCourierSlot_harmless _

theorem apply_harmless (leg : DeliveryLegRow) (event : DeliveryEventType)
    (routeTo : Option String) : AbortsIn Harmless (apply d leg event routeTo) := by
  unfold apply
  cases nextLegStatus leg.status event with
  | none => exact .pure none
  | some next =>
      exact .bind (.read _) fun _ => .bind (.write _) fun _ =>
        .bind (onDeliveryEvent_harmless _) fun _ =>
          .ite (.bind (dispatch_harmless _ _ _) fun _ => .pure _) (.pure _)

theorem applyAll_harmless (leg : DeliveryLegRow) (events : List DeliveryEventType) :
    AbortsIn Harmless (applyAll d leg events) := by
  induction events generalizing leg with
  | nil => exact .pure ()
  | cons event events ih => exact .bind (apply_harmless _ _ _) fun moved => ih (moved.getD leg)

theorem syncFromSnapshot_harmless (providerKey : String) (snapshot : ProviderDeliverySnapshot) :
    AbortsIn Harmless (syncFromSnapshot d providerKey snapshot) := by
  refine .bind (.read _) fun found => ?_
  cases found with
  | none => exact .pure false
  | some leg =>
      refine .ite (.pure false) ?_
      cases eventsToReach leg.status snapshot.status with
      | nil => exact .bind (.write _) fun _ => .pure true
      | cons event events => exact .bind (applyAll_harmless _ _) fun _ => .pure true

theorem cancelLeg_harmless (legId : Nat) (reason : String) (thenRouteTo : Option String) :
    AbortsIn Harmless (cancelLeg d legId reason thenRouteTo) := by
  refine .bind (.read _) fun row => ?_
  cases row with
  | none => exact .pure false
  | some leg => exact .bind (apply_harmless _ _ _) fun _ => .pure _

theorem activeLegOr_harmless (orderId : Nat) {create : Db DeliveryLegRow}
    (hcreate : AbortsIn Harmless create) : AbortsIn Harmless (activeLegOr orderId create) := by
  refine .bind (.read _) fun active => ?_
  cases active with
  | some leg => exact .pure leg
  | none => exact hcreate

theorem createInHouseLeg_harmless (orderId : Nat) (status : DeliveryLegStatus)
    (courierUserId : Option Nat) :
    AbortsIn Harmless (createInHouseLeg orderId status courierUserId) :=
  .bind (.read _) fun _ => .query _

theorem accept_harmless (orderId riderId : Nat) :
    AbortsIn Harmless (accept d orderId riderId) :=
  .bind (reserveDeliverySlot_harmless _) fun _ => .bind (.ensure _ trivial) fun _ =>
    .bind (activeLegOr_harmless _ (createInHouseLeg_harmless _ _ _)) fun _ =>
      .bind (.ensure _ trivial) fun _ => .bind (.ensure _ trivial) fun _ => .bind (.read _) fun _ =>
        .bind (apply_harmless _ _ _) fun _ => .pure ()

theorem recordInHouseHandover_harmless (orderId : Nat) (event : DeliveryEventType) :
    AbortsIn Harmless (recordInHouseHandover d orderId event) :=
  .bind (activeLegOr_harmless _ (.bind (.read _) fun _ => createInHouseLeg_harmless _ _ _))
    fun _ => .bind (.ensure _ trivial) fun _ => .bind (apply_harmless _ _ _) fun _ =>
      .ensure _ trivial

theorem submit_harmless (legId : Nat) (answer : SubmitAnswer) :
    AbortsIn Harmless (submit d legId answer) := by
  refine .bind (.read _) fun row => ?_
  cases row with
  | none => exact .pure ()
  | some leg =>
      refine .bind (.expect _ trivial) fun provider => ?_
      cases answerOf provider answer with
      | booked result => exact .write _
      | refused message =>
          exact .bind (.write _) fun _ => .bind (dispatch_harmless _ _ _) fun _ => .pure ()
      | failed => exact .reject trivial

/-! ## Payments -/

theorem saveIntent_harmless (intent : PaymentIntentRow) :
    AbortsIn Harmless (saveIntent intent) := by
  refine .bind (.read _) fun row => ?_
  cases row with
  | none => exact .write _
  | some row => exact .write _

theorem saveWithTrackingCode_harmless (intent : PaymentIntentRow) (codes : List String) :
    AbortsIn Harmless (saveWithTrackingCode intent codes) := by
  cases codes with
  | nil => exact .reject trivial
  | cons code codes =>
      refine .bind (.query _) fun saved => ?_
      cases saved with
      | some order => exact .pure order
      | none => cases codes <;> exact .reject trivial

theorem confirmPaid_harmless (intent : PaymentIntentRow)
    (verification : PaymentVerificationResult) (drawnCodes : List String) :
    AbortsIn Harmless (Payments.confirm intent verification drawnCodes) :=
  .bind (.read _) fun _ => .bind (saveIntent_harmless _) fun _ =>
    .bind (.bind (saveWithTrackingCode_harmless _ _) fun _ => .bind (.write _) fun _ => .pure _)
      fun _ => .write _

theorem handleWebhook_harmless (reference : Nat) (answer : VerifyAnswer)
    (drawnCodes : List String) : AbortsIn Harmless (handleWebhook reference answer drawnCodes) := by
  refine .bind (withIdempotency_harmless (.bind (.read _) fun found => ?_) _ _) fun _ => .pure ()
  cases found with
  | none => exact .pure ()
  | some intent =>
      exact .ite (.pure ()) (.bind (.expect _ trivial) fun _ =>
        .ite (confirmPaid_harmless _ _ _) (.pure ()))

theorem recoverBody_harmless (intentId : Nat) (verification : PaymentVerificationResult)
    (drawnCodes : List String) :
    AbortsIn Harmless (recoverBody intentId verification drawnCodes) := by
  refine .bind (.read _) fun fresh => ?_
  cases fresh with
  | none => exact .pure ()
  | some intent => exact .ite (.pure ()) (confirmPaid_harmless _ _ _)

theorem tryRecover_harmless (intent : PaymentIntentRow) (answer : VerifyAnswer)
    (drawnCodes : List String) : AbortsIn Harmless (tryRecover intent answer drawnCodes) := by
  unfold tryRecover
  cases intent.providerReference with
  | none => exact .pure false
  | some reference =>
      cases answer with
      | none => exact .pure true
      | some verification =>
          exact .ite (.bind (withIdempotency_harmless (recoverBody_harmless _ _ _) _ _)
            fun _ => .pure true) (.pure false)

theorem expire_harmless (intentId : Nat) : AbortsIn Harmless (expire intentId) := by
  refine .bind (.read _) fun fresh => ?_
  cases fresh with
  | none => exact .pure ()
  | some intent =>
      exact .ite (.pure ()) (.bind (saveIntent_harmless _) fun _ => .write _)

theorem pollIntent_harmless (intentId : Nat) (answer : VerifyAnswer) (drawnCodes : List String) :
    AbortsIn Harmless (pollIntent intentId answer drawnCodes) := by
  refine .bind (.read _) fun row => ?_
  cases row with
  | none => exact .pure ()
  | some intent =>
      exact .bind (tryRecover_harmless _ _ _) fun _ => .ite (.pure ()) (expire_harmless _)

/-! ## The counter -/

theorem issue_harmless (orderId : Nat) (type : HandoffCodeType)
    (requestedByUserId : Option Nat) (ttlMinutes : Nat) (rawCode : String) :
    AbortsIn Harmless (issue d orderId type requestedByUserId ttlMinutes rawCode) :=
  .bind (.write _) fun _ => .write _

theorem record_harmless (order : OrderRow) : AbortsIn Harmless (record order) :=
  .bind (.read _) fun _ => .bind (.expect _ trivial) fun _ => .bind (.read _) fun _ =>
    .bind (.ensure _ trivial) fun _ => .write _

theorem resendCode_harmless (orderId : Nat) (operatorNodeIds : List Nat) (drawnCode : String) :
    AbortsIn Harmless (resendCode d orderId operatorNodeIds drawnCode) :=
  .bind (.read _) fun _ =>
    .ite (.bind (.ensure _ trivial) fun _ => .bind (issue_harmless _ _ _ _ _) fun _ => .write _)
      (.bind (.ensure _ trivial) fun _ => .bind (.ensure _ trivial) fun _ =>
        .bind (issue_harmless _ _ _ _ _) fun _ => .write _)

/-- **Only confirming steps** raise a counter. -/
theorem tx_harmless {a : Action} (h : ∀ step orderId args, a ≠ .confirm step orderId args) :
    AbortsIn Harmless (tx d a) := by
  cases a with
  | tick ms => exact .write _
  | createPricingRule rule => exact .write _
  | createSplitRule rule => exact .write _
  | updateProvider key dto =>
      exact .bind (.read _) fun _ => .bind (.expect _ trivial) fun _ =>
        .bind (.ensure _ trivial) fun _ => .bind (.ensure _ trivial) fun _ =>
          .bind (.read _) fun _ => .bind (.ensure _ trivial) fun _ => .write _
  | createIntent payerId dto =>
      exact .bind (.bind (.read _) fun _ => .bind (.expect _ trivial) fun _ =>
        .bind (reserveCapacitySlot_harmless _) fun _ => .bind (.ensure _ trivial) fun _ =>
          .query _) fun _ => .pure ()
  | setProviderReference intentId => exact .write _
  | webhook reference answer drawnCodes => exact handleWebhook_harmless _ _ _
  | pollIntent intentId answer drawnCodes => exact pollIntent_harmless _ _ _
  | confirm step orderId args => exact absurd rfl (h step orderId args)
  | accept orderId riderId => exact accept_harmless _ _
  | requestCode orderId riderId type rawCode =>
      exact .bind (.read _) fun _ => .bind (.ensure _ trivial) fun _ => issue_harmless _ _ _ _ _
  | resendCode orderId operatorNodeIds drawnCode => exact resendCode_harmless _ _ _
  | dispatch orderId providerKey =>
      exact .bind (.read _) fun _ => .bind (.ensure _ trivial) fun _ =>
        .bind (dispatch_harmless _ _ _) fun _ => .pure ()
  | submit legId answer => exact submit_harmless _ _
  | syncFromSnapshot providerKey snapshot =>
      exact .bind (syncFromSnapshot_harmless _ _) fun _ => .pure ()
  | cancelLeg legId reason thenRouteTo =>
      exact .bind (cancelLeg_harmless _ _ _) fun _ => .pure ()
  | fallbackToInHouse legId =>
      exact .bind (.read _) fun _ => .bind (.expect _ trivial) fun _ =>
        .bind (.bind (.ensure _ trivial) fun _ => .ensure _ trivial) fun _ =>
          .bind (cancelLeg_harmless _ _ _) fun _ => .ensure _ trivial
  | retry legId =>
      exact .bind (.read _) fun _ => .bind (.expect _ trivial) fun _ =>
        .bind (.ensure _ trivial) fun _ => .write _
  | interrupted => exact .reject trivial

end Locoomo.Refusals
