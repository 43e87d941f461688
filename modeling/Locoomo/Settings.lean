import Locoomo.LegWork

/-! What only the clock and the admins change: the rules for prices and shares,
and the settings of the couriers. No other transaction touches any of them. -/

namespace Locoomo.Settings

open Locoomo.Delivery Locoomo.Pricing Locoomo.Database Locoomo.Routing Locoomo.Logistics
  Locoomo.Handoffs Locoomo.Payments Locoomo.System Locoomo.LegMoves Locoomo.Frames Relational

open Tx (Keeps)

/-- The clock, the settings of the couriers and both kinds of rules. -/
def settings (s : State) :
    Nat × List LogisticsProviderRow × List PricingRule × List RevenueSplitRule :=
  (s.now, s.providers, s.pricingRules, s.splitRules)

abbrev Untouched (s s' : State) : Prop := settings s' = settings s

theorem untouched_frame : Tx.Frame Untouched := Tx.Frame.of_eq settings

variable {d : Deployment}

/-! ## Orders and capacity -/

theorem moveOrder_untouched (orderId : Nat) (source target : OrderStatus)
    (guard : OrderRow → Bool) (set : OrderRow → OrderRow) (type : OrderEventType)
    (payload : OrderEventPayload) :
    Keeps Untouched (moveOrder orderId source target guard set type payload) := by
  have F := untouched_frame
  refine F.bind (F.ensure _ _) fun _ => F.bind (F.query fun s => ?_) fun row =>
    F.bind (F.expect _ _) fun _ => F.bind (F.write fun _ => rfl) fun _ => F.pure _
  dsimp only
  split <;> rfl

theorem placeOnShelf_untouched (order : OrderRow) (nodeId : Nat) :
    Keeps Untouched (placeOnShelf order nodeId) :=
  untouched_frame.query fun _ => rfl

theorem clearShelf_untouched (order : OrderRow) : Keeps Untouched (clearShelf order) :=
  untouched_frame.query fun _ => rfl

theorem releaseCapacitySlot_untouched (nodeId : Nat) :
    Keeps Untouched (releaseCapacitySlot nodeId) :=
  untouched_frame.write fun _ => rfl

theorem enqueue_untouched (event : OutboxEvent) : Keeps Untouched (enqueue event) :=
  untouched_frame.write fun _ => rfl

theorem withIdempotency_untouched {α : Type} {fn : Db α} (h : Keeps Untouched fn)
    (scope : String) (key : Nat) : Keeps Untouched (withIdempotency scope key fn) := by
  intro s r s' hrun
  rcases withIdempotency_ok hrun with ⟨-, -, rfl⟩ | ⟨-, a, -, hfn⟩
  · rfl
  · exact h (insertKey scope key s) a s' hfn

/-! ## Legs -/

theorem dispatch_untouched (orderId : Nat) (legType : DeliveryLegType)
    (providerKey : Option String) : Keeps Untouched (dispatch d orderId legType providerKey) := by
  have F := untouched_frame
  refine F.bind (F.read _) fun active => ?_
  cases active with
  | some leg => exact F.pure _
  | none =>
      have hroute : Keeps Untouched (route d orderId legType providerKey) := by
        intro s choice s' h
        rw [route_state h]
      refine F.bind hroute fun choice => ?_
      cases choice with
      | none => exact F.pure none
      | some choice =>
          refine F.bind (F.read _) fun row => F.bind (F.expect _ _) fun order =>
            F.bind (F.query fun _ => rfl) fun leg => .ite ?_ ?_
          · exact F.bind (enqueue_untouched _) fun _ => F.pure _
          · exact F.bind (F.write fun _ => rfl) fun _ => F.pure _

theorem onDeliveryEvent_untouched (notice : DeliveryEventNotice) :
    Keeps Untouched (onDeliveryEvent notice) := by
  have F := untouched_frame
  have move := fun {source target : OrderStatus} {guard : OrderRow → Bool}
      {set : OrderRow → OrderRow} {type : OrderEventType} {payload : OrderEventPayload} =>
    moveOrder_untouched notice.orderId source target guard set type payload
  have courierSlot : Keeps Untouched (releaseCourierSlot notice.courierUserId) := by
    unfold releaseCourierSlot
    cases notice.courierUserId with
    | none => exact F.pure ()
    | some riderId => exact F.write fun _ => rfl
  unfold onDeliveryEvent
  refine .ite (F.pure ()) ?_
  cases notice.event with
  | assigned =>
      cases notice.courierUserId with
      | some riderId => exact F.bind move fun _ => F.pure ()
      | none => exact F.bind move fun _ => F.pure ()
  | pickedUp =>
      exact F.bind (F.bind move fun order => clearShelf_untouched order) fun _ =>
        releaseCapacitySlot_untouched _
  | delivered => exact F.bind move fun _ => courierSlot
  | attemptFailed => exact F.pure ()
  | released | cancelled =>
      exact F.bind (F.read _) fun _ => .ite (F.bind move fun _ => F.pure ()) (F.pure ())
  | returning =>
      exact F.bind (F.bind move fun _ => move) fun _ =>
        F.bind (enqueue_untouched _) fun _ => enqueue_untouched _
  | returned =>
      exact F.bind move fun _ => F.bind (F.write fun _ => rfl) fun _ => courierSlot

theorem apply_untouched (leg : DeliveryLegRow) (event : DeliveryEventType)
    (routeTo : Option String) : Keeps Untouched (apply d leg event routeTo) := by
  have F := untouched_frame
  unfold apply
  split
  · exact F.pure none
  · exact F.bind (F.read _) fun now => F.bind (F.write fun _ => rfl) fun _ =>
      F.bind (onDeliveryEvent_untouched _) fun _ =>
        .ite (F.bind (dispatch_untouched _ _ _) fun _ => F.pure _) (F.pure _)

theorem applyAll_untouched (events : List DeliveryEventType) (leg : DeliveryLegRow) :
    Keeps Untouched (applyAll d leg events) := by
  have F := untouched_frame
  induction events generalizing leg with
  | nil => exact F.pure ()
  | cons event events ih =>
      exact F.bind (apply_untouched leg event none) fun moved => ih (moved.getD leg)

theorem syncFromSnapshot_untouched (providerKey : String) (snapshot : ProviderDeliverySnapshot) :
    Keeps Untouched (syncFromSnapshot d providerKey snapshot) := by
  intro s r s' h
  rcases syncFromSnapshot_ok h with rfl | ⟨leg, -, -, rfl | ⟨-, hall⟩⟩
  · rfl
  · rfl
  · exact applyAll_untouched _ _ s () s' hall

theorem cancelLeg_untouched (legId : Nat) (reason : String) (thenRouteTo : Option String) :
    Keeps Untouched (cancelLeg d legId reason thenRouteTo) := by
  intro s r s' h
  rcases cancelLeg_ok h with rfl | ⟨leg, moved, -, happly⟩
  · rfl
  · exact apply_untouched _ _ _ s moved s' happly

theorem activeLegOr_untouched (orderId : Nat) (create : Db DeliveryLegRow)
    (h : Keeps Untouched create) : Keeps Untouched (activeLegOr orderId create) := by
  refine untouched_frame.bind (untouched_frame.read _) fun active => ?_
  cases active with
  | some leg => exact untouched_frame.pure leg
  | none => exact h

theorem createInHouseLeg_untouched (orderId : Nat) (status : DeliveryLegStatus)
    (courierUserId : Option Nat) :
    Keeps Untouched (createInHouseLeg orderId status courierUserId) :=
  untouched_frame.bind (untouched_frame.read _) fun _ => untouched_frame.query fun _ => rfl

theorem accept_untouched (orderId riderId : Nat) :
    Keeps Untouched (accept d orderId riderId) := by
  have F := untouched_frame
  have hreserve : Keeps Untouched (reserveDeliverySlot riderId) := by
    intro s r s' h
    obtain ⟨p, -, -, ⟨-, rfl⟩ | ⟨-, -, rfl⟩⟩ := reserveDeliverySlot_ok h <;> rfl
  exact F.bind hreserve fun _ => F.bind (F.ensure _ _) fun _ =>
    F.bind (activeLegOr_untouched _ _ (createInHouseLeg_untouched _ _ _)) fun _ =>
      F.bind (F.ensure _ _) fun _ => F.bind (F.ensure _ _) fun _ => F.bind (F.read _) fun _ =>
        F.bind (apply_untouched _ _ _) fun _ => F.pure ()

theorem submit_untouched (legId : Nat) (answer : SubmitAnswer) :
    Keeps Untouched (submit d legId answer) := by
  have F := untouched_frame
  refine F.bind (F.read _) fun row => ?_
  cases row with
  | none => exact F.pure ()
  | some leg =>
      refine F.bind (F.expect _ _) fun provider => ?_
      split
      · exact F.write fun _ => rfl
      · exact F.bind (F.write fun _ => rfl) fun _ =>
          F.bind (dispatch_untouched _ _ _) fun _ => F.pure ()
      · exact F.reject _

/-! ## The counter -/

theorem issue_untouched (orderId : Nat) (type : HandoffCodeType) (requestedBy : Option Nat)
    (ttlMinutes : Nat) (rawCode : String) :
    Keeps Untouched (issue d orderId type requestedBy ttlMinutes rawCode) :=
  untouched_frame.bind (untouched_frame.write fun _ => rfl) fun _ =>
    untouched_frame.write fun _ => rfl

theorem validate_untouched (orderId : Nat) (type : HandoffCodeType) (code : String) :
    Keeps Untouched (validate d orderId type code) := by
  have F := untouched_frame
  exact F.bind (F.read _) fun _ => F.bind (F.read _) fun _ => F.bind (F.expect _ _) fun _ =>
    F.write fun _ => rfl

theorem record_untouched (order : OrderRow) : Keeps Untouched (record order) := by
  have F := untouched_frame
  exact F.bind (F.read _) fun _ => F.bind (F.expect _ _) fun _ => F.bind (F.read _) fun _ =>
    F.bind (F.ensure _ _) fun _ => F.write fun _ => rfl

theorem stepBody_untouched (step : ConfirmStep) (orderId : Nat) (args : ConfirmArgs) :
    Keeps Untouched (stepBody d step orderId args) := by
  have F := untouched_frame
  have move := fun {source target : OrderStatus} {guard : OrderRow → Bool}
      {set : OrderRow → OrderRow} {type : OrderEventType} {payload : OrderEventPayload} =>
    moveOrder_untouched orderId source target guard set type payload
  have handoff : ∀ type event,
      Keeps Untouched (confirmHandoff d orderId type event args.code) := fun type event =>
    F.bind (validate_untouched _ _ _) fun _ =>
      F.bind (F.bind (activeLegOr_untouched _ _ (F.bind (F.read _) fun _ =>
        createInHouseLeg_untouched _ _ _)) fun _ => F.bind (F.ensure _ _) fun _ =>
          F.bind (apply_untouched _ _ _) fun _ => F.ensure _ _) fun _ =>
        F.bind (F.read _) fun _ => F.expect _ _
  cases step with
  | dropOff =>
      exact F.bind (F.bind move fun _ => placeOnShelf_untouched _ _) fun _ =>
        F.bind (enqueue_untouched _) fun _ => F.bind (dispatch_untouched _ _ _) fun _ => F.pure _
  | pickup => exact handoff _ _
  | arrival => exact handoff _ _
  | intake | returnIntake =>
      exact F.bind (F.bind move fun _ => placeOnShelf_untouched _ _) fun _ =>
        F.bind (issue_untouched _ _ _ _ _) fun _ => F.bind (enqueue_untouched _) fun _ => F.pure _
  | collection =>
      exact F.bind (validate_untouched _ _ _) fun _ =>
        F.bind (F.bind move fun _ => clearShelf_untouched _) fun _ =>
          F.bind (record_untouched _) fun _ => F.pure _
  | returnCollect =>
      exact F.bind (validate_untouched _ _ _) fun _ =>
        F.bind (F.bind move fun _ => clearShelf_untouched _) fun _ =>
          F.bind (releaseCapacitySlot_untouched _) fun _ => F.pure _

theorem confirm_untouched (step : ConfirmStep) (orderId : Nat) (args : ConfirmArgs) :
    Keeps Untouched (Handoffs.confirm d step orderId args) := by
  intro s o s' h
  rcases confirm_ok h with ⟨-, -, rfl⟩ | ⟨-, hbody⟩
  · rfl
  · exact stepBody_untouched step orderId args (insertKey step.scope orderId s) o s' hbody

/-! ## Payments -/

theorem saveIntent_untouched (intent : PaymentIntentRow) :
    Keeps Untouched (saveIntent intent) := by
  have F := untouched_frame
  refine F.bind (F.read _) fun row => ?_
  cases row with
  | none => exact F.write fun _ => rfl
  | some row =>
      refine F.write fun s => ?_
      cases getIntent s intent.id <;> rfl

theorem confirmPaid_untouched (intent : PaymentIntentRow)
    (verification : PaymentVerificationResult) (drawnCodes : List String) :
    Keeps Untouched (Payments.confirm intent verification drawnCodes) := by
  have F := untouched_frame
  have hcreate : ∀ intent, Keeps Untouched (createFromPaidIntent intent drawnCodes) := by
    intro intent s o s' h
    obtain ⟨-, rfl⟩ := createFromPaidIntent_ok h
    rfl
  exact F.bind (F.read _) fun _ => F.bind (saveIntent_untouched _) fun _ =>
    F.bind (hcreate _) fun _ => enqueue_untouched _

theorem handleWebhook_untouched (reference : Nat) (answer : VerifyAnswer)
    (drawnCodes : List String) : Keeps Untouched (handleWebhook reference answer drawnCodes) := by
  have F := untouched_frame
  refine F.bind (withIdempotency_untouched (F.bind (F.read _) fun found => ?_) _ _) fun _ =>
    F.pure ()
  cases found with
  | none => exact F.pure ()
  | some intent =>
      exact .ite (F.pure ()) (F.bind (F.expect _ _) fun _ =>
        .ite (confirmPaid_untouched _ _ _) (F.pure ()))

theorem tryRecover_untouched (intent : PaymentIntentRow) (answer : VerifyAnswer)
    (drawnCodes : List String) : Keeps Untouched (tryRecover intent answer drawnCodes) := by
  have F := untouched_frame
  unfold tryRecover
  cases intent.providerReference with
  | none => exact F.pure false
  | some reference =>
      cases answer with
      | none => exact F.pure true
      | some verification =>
          refine .ite (F.bind (withIdempotency_untouched ?_ _ _) fun _ => F.pure true)
            (F.pure false)
          refine F.bind (F.read _) fun fresh => ?_
          cases fresh with
          | none => exact F.pure ()
          | some intent => exact .ite (F.pure ()) (confirmPaid_untouched _ _ _)

theorem pollIntent_untouched (intentId : Nat) (answer : VerifyAnswer)
    (drawnCodes : List String) : Keeps Untouched (pollIntent intentId answer drawnCodes) := by
  have F := untouched_frame
  have hexpire : ∀ id, Keeps Untouched (expire id) := by
    intro id
    refine F.bind (F.read _) fun fresh => ?_
    cases fresh with
    | none => exact F.pure ()
    | some intent =>
        exact .ite (F.pure ()) (F.bind (saveIntent_untouched _) fun _ =>
          releaseCapacitySlot_untouched _)
  refine F.bind (F.read _) fun row => ?_
  cases row with
  | none => exact F.pure ()
  | some intent =>
      exact F.bind (tryRecover_untouched _ _ _) fun _ => .ite (F.pure ()) (hexpire _)

/-! ## Actions -/

/-- The clock, and what admins do. -/
def isSetting : System.Action → Bool
  | .tick _ | .createPricingRule _ | .createSplitRule _ | .updateProvider _ _ => true
  | _ => false

theorem tx_untouched {a : System.Action} (h : isSetting a = false) :
    Keeps Untouched (tx d a) := by
  have F := untouched_frame
  cases a with
  | tick _ | createPricingRule _ | createSplitRule _ | updateProvider _ _ => cases h
  | createIntent payerId dto =>
      refine F.bind (fun s intent s' hrun => ?_) fun _ => F.pure ()
      rw [(createIntent_ok hrun).eq]
      rfl
  | setProviderReference intentId => exact F.write fun _ => rfl
  | webhook reference answer drawnCodes => exact handleWebhook_untouched _ _ _
  | pollIntent intentId answer drawnCodes => exact pollIntent_untouched _ _ _
  | confirm step orderId args => exact F.bind (confirm_untouched _ _ _) fun _ => F.pure ()
  | accept orderId riderId => exact accept_untouched _ _
  | requestCode orderId riderId type rawCode =>
      exact (requestCode_noted _ _ _ _ _).mono fun h => by rw [h.frame]; rfl
  | resendCode orderId operatorNodeIds drawnCode =>
      exact (resendCode_noted _ _ _ _).mono fun h => by rw [h.frame]; rfl
  | dispatch orderId providerKey =>
      exact F.bind (F.read _) fun _ => F.bind (F.ensure _ _) fun _ =>
        F.bind (dispatch_untouched _ _ _) fun _ => F.pure ()
  | submit legId answer => exact submit_untouched _ _
  | syncFromSnapshot providerKey snapshot =>
      exact F.bind (syncFromSnapshot_untouched _ _) fun _ => F.pure ()
  | cancelLeg legId reason thenRouteTo =>
      exact F.bind (cancelLeg_untouched _ _ _) fun _ => F.pure ()
  | fallbackToInHouse legId =>
      exact F.bind (F.read _) fun _ => F.bind (F.expect _ _) fun _ =>
        F.bind (F.bind (F.ensure _ _) fun _ => F.ensure _ _) fun _ =>
          F.bind (cancelLeg_untouched _ _ _) fun _ => F.ensure _ _
  | retry legId => exact (retry_noted d legId).mono fun h => by rw [h.frame]; rfl
  | interrupted => exact F.reject _

/-- **Settings** stay as they are but for the clock and the admins. -/
theorem exec_untouched {a : System.Action} (h : isSetting a = false) (s : State) :
    settings (System.exec d s a) = settings s := by
  rcases exec_cases d s a with ⟨s', hrun, he⟩ | ⟨e, -, he⟩
  · rw [he]
    exact tx_untouched h s () s' hrun
  · rw [he]
    unfold rollback
    split <;> rfl

end Locoomo.Settings
