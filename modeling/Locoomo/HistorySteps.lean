import Locoomo.Histories

/-! The transactions of the system as histories of the orders table: the
events of a leg, the steps at a counter, the payments that place an order. -/

namespace Locoomo.Histories

open Locoomo.Delivery Locoomo.Database Locoomo.Routing Locoomo.Logistics Locoomo.Handoffs
  Locoomo.Payments Locoomo.System Locoomo.Frames Relational

open Tx (Keeps)

variable {asks : Bool} {s s' : State}

/-! ## Leg events -/

theorem onDeliveryEvent_history (notice : DeliveryEventNotice) :
    Keeps (History asks) (onDeliveryEvent notice) := by
  obtain ⟨orderId, legId, legType, providerKey, event, courierUserId, reason⟩ := notice
  have release : ∀ event, Keeps (History asks) (do
      let order ← Tx.read fun s => getOrder s orderId
      if order.map OrderRow.status = some .riderAssigned then do
        let _ ← markCourierReleased orderId (.courierReleased providerKey event reason)
        return ()
      else
        return () : Db Unit) := by
    intro event
    refine history_frame.bind (history_frame.read _) fun order => ?_
    split
    · exact history_frame.bind (markCourierReleased_history _ _) fun _ => history_frame.pure ()
    · exact history_frame.pure ()
  unfold onDeliveryEvent
  split
  · exact history_frame.pure ()
  · cases event with
    | assigned =>
        cases courierUserId with
        | some riderId =>
            exact history_frame.bind (assignRider_history _ _) fun _ => history_frame.pure ()
        | none =>
            exact history_frame.bind (markCourierAssigned_history _ _) fun _ =>
              history_frame.pure ()
    | pickedUp =>
        exact history_frame.bind (markPickedUpByRider_history _) fun _ =>
          history_of_aside (releaseCapacitySlot_aside _)
    | delivered =>
        exact history_frame.bind (markArrivedAtDestination_history _) fun _ =>
          history_of_aside (releaseCourierSlot_aside _)
    | attemptFailed => exact history_frame.pure ()
    | released => exact release .released
    | cancelled => exact release .cancelled
    | returning =>
        exact history_frame.bind (markReturning_history _ _) fun _ =>
          history_of_aside (aside_frame.bind (enqueue_aside _) fun _ => enqueue_aside _)
    | returned =>
        exact history_frame.bind (markReturnedToOrigin_history _) fun _ =>
          history_of_aside (aside_frame.bind (holdReturnedParcel_aside _) fun _ =>
            releaseCourierSlot_aside _)

theorem apply_history (d : Deployment) (leg : DeliveryLegRow) (event : DeliveryEventType)
    (routeTo : Option String) : Keeps (History asks) (apply d leg event routeTo) := by
  unfold apply
  split
  · exact history_frame.pure none
  · refine history_frame.bind (history_frame.read _) fun now =>
      history_frame.bind (history_of_aside (saveLeg_aside _)) fun _ =>
        history_frame.bind (onDeliveryEvent_history _) fun _ => ?_
    split
    · exact history_frame.bind (history_of_aside (dispatch_aside _ _ _ _)) fun _ =>
        history_frame.pure _
    · exact history_frame.pure _

theorem applyAll_history (d : Deployment) (events : List DeliveryEventType)
    (leg : DeliveryLegRow) : Keeps (History asks) (applyAll d leg events) := by
  induction events generalizing leg with
  | nil => exact history_frame.pure ()
  | cons event events ih =>
      exact history_frame.bind (apply_history d leg event none) fun moved => ih (moved.getD leg)

theorem syncFromSnapshot_history (d : Deployment) (providerKey : String)
    (snapshot : ProviderDeliverySnapshot) :
    Keeps (History asks) (Logistics.syncFromSnapshot d providerKey snapshot) := by
  refine history_frame.bind (history_frame.read _) fun found => ?_
  cases found with
  | none => exact history_frame.pure false
  | some leg =>
      dsimp only
      split
      · exact history_frame.pure false
      · split
        · exact history_frame.bind (history_of_aside (saveLeg_aside _)) fun _ =>
            history_frame.pure true
        · exact history_frame.bind (applyAll_history _ _ _) fun _ => history_frame.pure true

theorem cancelLeg_history (d : Deployment) (legId : Nat) (reason : String)
    (thenRouteTo : Option String) :
    Keeps (History asks) (Logistics.cancelLeg d legId reason thenRouteTo) := by
  refine history_frame.bind (history_frame.read _) fun row => ?_
  cases row with
  | none => exact history_frame.pure false
  | some leg => exact history_frame.bind (apply_history _ _ _ _) fun _ => history_frame.pure _

theorem fallbackToInHouse_history (d : Deployment) (legId : Nat) :
    Keeps (History asks) (Logistics.fallbackToInHouse d legId) :=
  history_frame.bind (history_frame.read _) fun _ =>
    history_frame.bind (history_frame.expect _ _) fun _ =>
      history_frame.bind (history_frame.bind (history_frame.ensure _ _) fun _ =>
        history_frame.ensure _ _) fun _ =>
        history_frame.bind (cancelLeg_history _ _ _ _) fun _ => history_frame.ensure _ _

/-! ## Steps at a counter -/

theorem accept_history (d : Deployment) (orderId riderId : Nat) :
    Keeps (History asks) (Handoffs.accept d orderId riderId) :=
  history_frame.bind (history_of_aside (reserveDeliverySlot_aside _)) fun _ =>
    history_frame.bind (history_frame.ensure _ _) fun _ =>
      history_frame.bind (history_of_aside
        (activeLegOr_aside _ (createInHouseLeg_aside _ _ _))) fun _ =>
        history_frame.bind (history_frame.ensure _ _) fun _ =>
          history_frame.bind (history_frame.ensure _ _) fun _ =>
            history_frame.bind (history_frame.read _) fun _ =>
              history_frame.bind (apply_history _ _ _ _) fun _ => history_frame.pure ()

theorem recordInHouseHandover_history (d : Deployment) (orderId : Nat)
    (event : DeliveryEventType) :
    Keeps (History asks) (recordInHouseHandover d orderId event) :=
  history_frame.bind (history_of_aside (activeLegOr_aside _
      (aside_frame.bind (aside_frame.read _) fun _ => createInHouseLeg_aside _ _ _))) fun _ =>
    history_frame.bind (history_frame.ensure _ _) fun _ =>
      history_frame.bind (apply_history _ _ _ _) fun _ => history_frame.ensure _ _

theorem confirmHandoff_history (d : Deployment) (orderId : Nat) (type : HandoffCodeType)
    (event : DeliveryEventType) (code : String) :
    Keeps (History asks) (confirmHandoff d orderId type event code) :=
  history_frame.bind (history_of_aside (validate_aside _ _ _ _)) fun _ =>
    history_frame.bind (recordInHouseHandover_history _ _ _) fun _ =>
      history_frame.bind (history_frame.read _) fun _ => history_frame.expect _ _

/-- **A confirming step**; the codes it issues are for customers. -/
theorem stepBody_history (d : Deployment) (step : ConfirmStep) (orderId : Nat)
    (args : ConfirmArgs) : Keeps (History asks) (stepBody d step orderId args) := by
  cases step with
  | dropOff =>
      exact history_frame.bind (markReceivedAtOrigin_history _) fun _ =>
        history_frame.bind (history_of_aside (enqueue_aside _)) fun _ =>
          history_frame.bind (history_of_aside (dispatch_aside _ _ _ _)) fun _ =>
            history_frame.pure _
  | pickup => exact confirmHandoff_history _ _ _ _ _
  | arrival => exact confirmHandoff_history _ _ _ _ _
  | intake =>
      exact history_frame.bind (markReadyForCollection_history _) fun _ =>
        history_frame.bind (history_of_aside (issue_aside _ _ _ _ _ (Or.inr rfl))) fun _ =>
          history_frame.bind (history_of_aside (enqueue_aside _)) fun _ => history_frame.pure _
  | collection =>
      exact history_frame.bind (history_of_aside (validate_aside _ _ _ _)) fun _ =>
        history_frame.bind (markCollected_history _ _) fun _ =>
          history_frame.bind (history_of_aside (record_aside _)) fun _ => history_frame.pure _
  | returnIntake =>
      exact history_frame.bind (markReadyForSenderCollection_history _) fun _ =>
        history_frame.bind (history_of_aside (issue_aside _ _ _ _ _ (Or.inr rfl))) fun _ =>
          history_frame.bind (history_of_aside (enqueue_aside _)) fun _ => history_frame.pure _
  | returnCollect =>
      exact history_frame.bind (history_of_aside (validate_aside _ _ _ _)) fun _ =>
        history_frame.bind (markCollectedBySender_history _ _) fun _ =>
          history_frame.bind (history_of_aside (releaseCapacitySlot_aside _)) fun _ =>
            history_frame.pure _

theorem confirm_history (d : Deployment) (step : ConfirmStep) (orderId : Nat)
    (args : ConfirmArgs) : Keeps (History asks) (Handoffs.confirm d step orderId args) := by
  refine history_frame.bind (history_frame.read _) fun _ =>
    history_frame.bind (history_frame.ensure _ _) fun _ =>
      history_frame.bind (withIdempotency_history _ _ (stepBody_history _ _ _ _)) fun result => ?_
  cases result with
  | some order => exact history_frame.pure order
  | none => exact history_frame.bind (history_frame.read _) fun _ => history_frame.expect _ _

/-! ## Payments -/

theorem saveWithTrackingCode_unshelved {intent : PaymentIntentRow} {codes : List String}
    {order : OrderRow} (h : (saveWithTrackingCode intent codes).run s = .ok (order, s')) :
    order.shelfNodeId = none ∧ order.shelfNumber = none := by
  cases codes with
  | nil => cases h
  | cons code codes =>
      obtain ⟨saved, s₁, hinsert, h⟩ := Tx.run_bind_eq_ok.mp h
      rw [insertOrder, Tx.run_query] at hinsert
      split at hinsert
      · cases hinsert
        cases codes <;> cases h
      · cases hinsert
        cases codes <;> cases h <;> exact ⟨rfl, rfl⟩

/-- A paid intent places one order. -/
theorem createFromPaidIntent_history (intent : PaymentIntentRow) (drawnCodes : List String) :
    Keeps (History asks) (createFromPaidIntent intent drawnCodes) := by
  intro s order s' h
  obtain ⟨row, s₁, hsave, hevent⟩ := Tx.run_bind_eq_ok.mp h
  obtain ⟨hnode, hnumber⟩ := saveWithTrackingCode_unshelved hsave
  cases hevent
  obtain ⟨hplaced, heq⟩ := createFromPaidIntent_ok h
  exact .single (.opened
    { id := hplaced.id, status := hplaced.status, riderId := hplaced.riderId
      shelfNodeId := hnode, shelfNumber := hnumber, eq := heq })

theorem confirmPaid_history (intent : PaymentIntentRow)
    (verification : PaymentVerificationResult) (drawnCodes : List String) :
    Keeps (History asks) (Payments.confirm intent verification drawnCodes) :=
  history_frame.bind (history_frame.read _) fun _ =>
    history_frame.bind (history_of_aside (saveIntent_aside _)) fun _ =>
      history_frame.bind (createFromPaidIntent_history _ _) fun _ =>
        history_of_aside (enqueue_aside _)

theorem handleWebhook_history (reference : Nat) (answer : VerifyAnswer)
    (drawnCodes : List String) :
    Keeps (History asks) (handleWebhook reference answer drawnCodes) := by
  refine history_frame.bind (withIdempotency_history _ _ ?_) fun _ => history_frame.pure ()
  refine history_frame.bind (history_frame.read _) fun found => ?_
  cases found with
  | none => exact history_frame.pure ()
  | some intent =>
      dsimp only
      split
      · exact history_frame.pure ()
      · refine history_frame.bind (history_frame.expect _ _) fun _ => ?_
        split
        · exact confirmPaid_history _ _ _
        · exact history_frame.pure ()

theorem tryRecover_history (intent : PaymentIntentRow) (answer : VerifyAnswer)
    (drawnCodes : List String) :
    Keeps (History asks) (tryRecover intent answer drawnCodes) := by
  unfold tryRecover
  split
  · exact history_frame.pure false
  · split
    · exact history_frame.pure true
    · split
      · refine history_frame.bind (withIdempotency_history _ _ ?_) fun _ => history_frame.pure true
        refine history_frame.bind (history_frame.read _) fun fresh => ?_
        cases fresh with
        | none => exact history_frame.pure ()
        | some intent =>
            dsimp only
            split
            · exact history_frame.pure ()
            · exact confirmPaid_history _ _ _
      · exact history_frame.pure false

theorem pollIntent_history (intentId : Nat) (answer : VerifyAnswer) (drawnCodes : List String) :
    Keeps (History asks) (pollIntent intentId answer drawnCodes) := by
  refine history_frame.bind (history_frame.read _) fun row => ?_
  cases row with
  | none => exact history_frame.pure ()
  | some intent =>
      refine history_frame.bind (tryRecover_history _ _ _) fun skipExpiry => ?_
      split
      · exact history_frame.pure ()
      · exact history_of_aside (expire_aside _)

/-! ## Whole transactions -/

/-- The actions that may issue a rider a code. -/
def isRequest : Action → Bool
  | .requestCode _ _ _ _ => true
  | _ => false

/-- **Every transaction is a history of the orders table.** -/
theorem tx_history (d : Deployment) (a : Action) : Keeps (History (isRequest a)) (tx d a) := by
  have write : ∀ {asks} {f : State → State}, (∀ s, (f s).orders = s.orders) →
      (∀ s, (f s).orderEvents = s.orderEvents) → (∀ s, s.nextId ≤ (f s).nextId) →
      (∀ s, (f s).codes = s.codes) → Keeps (History asks) (Tx.write f : Db Unit) :=
    fun horders hevents hnext hcodes =>
      history_of_aside (aside_write horders hevents hnext hcodes)
  cases a with
  | tick ms => exact write (fun _ => rfl) (fun _ => rfl) (fun _ => le_rfl) fun _ => rfl
  | createPricingRule rule =>
      exact write (fun _ => rfl) (fun _ => rfl) (fun _ => Nat.le_succ _) fun _ => rfl
  | createSplitRule rule =>
      exact write (fun _ => rfl) (fun _ => rfl) (fun _ => Nat.le_succ _) fun _ => rfl
  | updateProvider key dto => exact history_of_aside (updateProvider_aside key dto)
  | createIntent payerId dto =>
      exact history_frame.bind (history_of_aside (createIntent_aside _ _)) fun _ =>
        history_frame.pure ()
  | setProviderReference intentId =>
      exact write (fun _ => rfl) (fun _ => rfl) (fun _ => le_rfl) fun _ => rfl
  | webhook reference answer drawnCodes => exact handleWebhook_history _ _ _
  | pollIntent intentId answer drawnCodes => exact pollIntent_history _ _ _
  | confirm step orderId args =>
      exact history_frame.bind (confirm_history _ _ _ _) fun _ => history_frame.pure ()
  | accept orderId riderId => exact accept_history _ _ _
  | requestCode orderId riderId type rawCode =>
      exact history_of_aside (aside_frame.bind (aside_frame.read _) fun _ =>
        aside_frame.bind (aside_frame.ensure _ _) fun _ => issue_aside _ _ _ _ _ (Or.inl rfl))
  | resendCode orderId operatorNodeIds drawnCode =>
      exact history_of_aside (resendCode_aside _ _ _ _)
  | dispatch orderId providerKey =>
      exact history_of_aside (aside_frame.bind (aside_frame.read _) fun _ =>
        aside_frame.bind (aside_frame.ensure _ _) fun _ =>
          aside_frame.bind (dispatch_aside _ _ _ _) fun _ => aside_frame.pure ())
  | submit legId answer => exact history_of_aside (submit_aside _ _ _)
  | syncFromSnapshot providerKey snapshot =>
      exact history_frame.bind (syncFromSnapshot_history _ _ _) fun _ => history_frame.pure ()
  | cancelLeg legId reason thenRouteTo =>
      exact history_frame.bind (cancelLeg_history _ _ _ _) fun _ => history_frame.pure ()
  | fallbackToInHouse legId => exact fallbackToInHouse_history _ _
  | retry legId => exact history_of_aside (retry_aside _ _)
  | interrupted => exact history_frame.reject _

theorem commit_history {x : Db Unit} (hx : Keeps (History asks) x) (s : State) :
    History asks s (Interleaved.commit x s) := by
  rcases Interleaved.commit_cases x s with ⟨s', h, he⟩ | ⟨e, -, he⟩
  · rw [he]
    exact hx s () s' h
  · rw [he]
    exact .single (.aside (rollback_aside s e))

/-- **Every step is a history of the orders table.** -/
theorem exec_history (d : Deployment) (s : State) (a : Action) :
    History (isRequest a) s (exec d s a) := commit_history (tx_history d a) s

def isRequestIn : Interleaved.Action → Bool
  | .atomic a => isRequest a
  | _ => false

/-- **Every step of the interleaved system** is a history of the orders table. -/
theorem interleaved_history (d : Deployment) (w : Interleaved.Work) (a : Interleaved.Action) :
    History (isRequestIn a) w.db (Interleaved.exec d w a).db := by
  have still : ∀ {asks}, History asks w.db w.db := .refl
  cases a with
  | atomic a =>
      simp only [Interleaved.exec]
      split
      · exact still
      · exact exec_history d w.db a
  | writeSubmit i =>
      simp only [Interleaved.exec]
      split
      · exact commit_history (history_of_aside (writeAnswer_aside _ _ _)) w.db
      · exact still
  | cancelLocally i =>
      simp only [Interleaved.exec]
      split
      · exact still
      · split
        · exact commit_history (history_frame.bind (cancelLeg_history _ _ _ _) fun _ =>
            history_frame.pure ()) w.db
        · exact still
  | readSubmit legId => simp only [Interleaved.exec]; split <;> exact still
  | answerSubmit i answer => simp only [Interleaved.exec]; split <;> exact still
  | readOverdue => exact still
  | readFallback legId => simp only [Interleaved.exec]; split <;> exact still
  | cancelAtProvider i accepted =>
      simp only [Interleaved.exec]
      split
      · exact still
      · split <;> exact still

/-- What every entry keeps, a history keeps. -/
theorem History.keeps {P : State → Prop} (hentry : ∀ {s s'}, P s → Entry asks s s' → P s')
    (h : History asks s s') (hp : P s) : P s' := by
  induction h with
  | refl => exact hp
  | tail _ hlast ih => exact hentry ih hlast

/-- **The rule for runs**: what every entry keeps holds in every reachable state. -/
theorem run_keeps {P : State → Prop} (hentry : ∀ {asks s s'}, P s → Entry asks s s' → P s')
    (hp : P s) (as : List Action) : P (System.run d s as) :=
  Runs.run_invariant (fun s a h => (exec_history d s a).keeps hentry h) hp as

end Locoomo.Histories
