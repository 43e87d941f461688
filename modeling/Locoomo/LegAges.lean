import Locoomo.TurnSteps

/-! How old a leg is. A transaction never changes when a leg was created, and a
leg that is before pickup afterwards is new or was before pickup already. -/

namespace Locoomo.LegAges

open Locoomo.Delivery Locoomo.Database Locoomo.Routing Locoomo.Logistics Locoomo.Handoffs
  Locoomo.Payments Locoomo.System Locoomo.LegMoves Locoomo.Frames Locoomo.Changes
  Locoomo.Transactions Locoomo.Turns Relational

/-! ## Ages -/

/-- A courier has been asked, or is on the way. -/
def isBeforePickup : DeliveryLegStatus → Bool
  | .requested | .assigned => true
  | _ => false

/-- The row of a leg some time later. -/
structure Older (l l' : DeliveryLegRow) : Prop where
  id : l'.id = l.id
  createdAt : l'.createdAt = l.createdAt
  beforePickup : isBeforePickup l'.status = true → isBeforePickup l.status = true

/-- A row that was not there before. -/
structure Newborn (s s' : State) (l : DeliveryLegRow) : Prop where
  id : s.nextId ≤ l.id
  id_lt : l.id < s'.nextId
  createdAt : l.createdAt = s.now

structure Aged (s s' : State) : Prop where
  now : s'.now = s.now
  nextId : s.nextId ≤ s'.nextId
  legs : ∀ l' ∈ s'.legs, (∃ l ∈ s.legs, Older l l') ∨ Newborn s s' l'

/-- Ids are drawn from the counter. -/
def Below (s : State) : Prop := ∀ l ∈ s.legs, l.id < s.nextId

/-- The entity in memory is a row of the table, in its status. -/
def Based (s : State) (leg : DeliveryLegRow) : Prop :=
  ∃ row ∈ s.legs, row.id = leg.id ∧ row.createdAt = leg.createdAt ∧ row.status = leg.status

variable {d : Deployment} {s s₁ s' : State}

theorem Older.refl (l : DeliveryLegRow) : Older l l := ⟨rfl, rfl, fun h => h⟩

theorem Older.trans {l l' l'' : DeliveryLegRow} (h : Older l l') (h' : Older l' l'') :
    Older l l'' where
  id := h'.id.trans h.id
  createdAt := h'.createdAt.trans h.createdAt
  beforePickup := fun hb => h.beforePickup (h'.beforePickup hb)

theorem aged_refl (s : State) : Aged s s :=
  ⟨rfl, le_rfl, fun l hl => Or.inl ⟨l, hl, Older.refl l⟩⟩

theorem Aged.trans (h : Aged s s₁) (h' : Aged s₁ s') : Aged s s' where
  now := h'.now.trans h.now
  nextId := h.nextId.trans h'.nextId
  legs := by
    intro l'' hl''
    rcases h'.legs l'' hl'' with ⟨l', hl', holder⟩ | hnew
    · rcases h.legs l' hl' with ⟨l, hl, holder'⟩ | hnew'
      · exact Or.inl ⟨l, hl, holder'.trans holder⟩
      · refine Or.inr ⟨?_, ?_, ?_⟩
        · rw [holder.id]
          exact hnew'.id
        · rw [holder.id]
          exact hnew'.id_lt.trans_le h'.nextId
        · rw [holder.createdAt]
          exact hnew'.createdAt
    · exact Or.inr ⟨h.nextId.trans hnew.id, hnew.id_lt, hnew.createdAt.trans h.now⟩

theorem Aged.below (h : Aged s s') (hb : Below s) : Below s' := by
  intro l' hl'
  rcases h.legs l' hl' with ⟨l, hl, holder⟩ | hnew
  · rw [holder.id]
    exact (hb l hl).trans_le h.nextId
  · exact hnew.id_lt

/-- A transaction from a table whose ids were drawn. -/
def Ages (s s' : State) : Prop := Below s → Aged s s'

theorem ages_frame : Tx.Frame Ages where
  refl s := fun _ => aged_refl s
  trans h h' := fun hb => (h hb).trans (h' ((h hb).below hb))

/-! ## Statements about other tables -/

structure Still (s s' : State) : Prop where
  legs : s'.legs = s.legs
  now : s'.now = s.now
  nextId : s.nextId ≤ s'.nextId

theorem still_frame : Tx.Frame Still where
  refl _ := ⟨rfl, rfl, le_rfl⟩
  trans h h' := ⟨h'.legs.trans h.legs, h'.now.trans h.now, h.nextId.trans h'.nextId⟩

theorem Still.aged (h : Still s s') : Aged s s' where
  now := h.now
  nextId := h.nextId
  legs := fun l hl => Or.inl ⟨l, h.legs ▸ hl, Older.refl l⟩

theorem ages_of_still {α : Type} {x : Db α} (h : Tx.Keeps Still x) : Tx.Keeps Ages x :=
  h.mono fun hstill _ => hstill.aged

theorem still_of_noted (h : Noted s s') : Still s s' :=
  ⟨by rw [h.frame], by rw [h.frame], h.nextId⟩

theorem updateProvider_still (key : String) (dto : UpdateLogisticsProviderDto) :
    Tx.Keeps Still (updateProvider key dto) :=
  still_frame.bind (still_frame.read _) fun _ =>
    still_frame.bind (still_frame.expect _ _) fun _ =>
      still_frame.bind (still_frame.ensure _ _) fun _ =>
        still_frame.bind (still_frame.ensure _ _) fun _ =>
          still_frame.bind (still_frame.read _) fun _ =>
            still_frame.bind (still_frame.ensure _ _) fun _ =>
              still_frame.write fun _ => ⟨rfl, rfl, le_rfl⟩

theorem record_still (order : OrderRow) : Tx.Keeps Still (record order) := by
  intro s _ s' h
  obtain ⟨rule, -, hrecorded⟩ := record_ok h
  rw [hrecorded.eq]
  exact ⟨rfl, rfl, le_rfl⟩

theorem still_of_moved {orderId : Nat} {o o' : OrderRow}
    (h : OrderMoves.Moved s s' orderId o o') : Still s s' := by
  rw [h.frame]
  exact ⟨rfl, rfl, le_rfl⟩

theorem sideEffect_still (notice : DeliveryEventNotice) (o : OrderRow) (s : State) :
    Still s (sideEffect notice o s) := by
  obtain ⟨orderId, legId, legType, providerKey, event, courierUserId, reason⟩ := notice
  cases event <;> cases courierUserId <;> exact ⟨rfl, rfl, le_rfl⟩

theorem onDeliveryEvent_still (notice : DeliveryEventNotice) :
    Tx.Keeps Still (onDeliveryEvent notice) := by
  intro s _ s' h
  by_cases hf : notice.legType = .forward
  · rcases onDeliveryEvent_ok hf h with ⟨rfl, -⟩ | ⟨o, o', s₁, hmoved, -, -, -, -, rfl, -⟩
    · exact still_frame.refl s'
    · exact still_frame.trans (still_of_moved hmoved) (sideEffect_still notice o' s₁)
  · rw [onDeliveryEvent, if_pos hf] at h
    cases h
    exact still_frame.refl s

theorem createIntent_still (payerId : Nat) (dto : CreatePaymentIntentDto) :
    Tx.Keeps Still (Payments.createIntent payerId dto) := by
  intro s intent s' h
  rw [(createIntent_ok h).eq]
  exact ⟨rfl, rfl, Nat.le_succ _⟩

theorem insertKey_still (scope : String) (key : Nat) (s : State) :
    Still s (insertKey scope key s) := ⟨rfl, rfl, le_rfl⟩

theorem Confirmed.still {intent : PaymentIntentRow} {verification : PaymentVerificationResult}
    {order : OrderRow} (h : Confirmed s s' intent verification order) : Still s s' :=
  ⟨by rw [h.frame], by rw [h.frame], by rw [h.nextId]; exact Nat.le_succ _⟩

theorem still_of_payment {asked : PaymentIntentRow → Prop} {answer : VerifyAnswer}
    (h : PaymentEffect asked answer s s') : Still s s' := by
  cases h with
  | idle => exact still_frame.refl s
  | keyed reference => exact insertKey_still paymentWebhookScope reference s
  | paid reference hasked hanswer hpayable h =>
      exact still_frame.trans (insertKey_still paymentWebhookScope reference s) (Confirmed.still h)
  | expired hmem hpending => exact ⟨rfl, rfl, le_rfl⟩

/-! ## Dispatch -/

theorem Inserted.aged {leg : DeliveryLegRow} (h : Inserted s s' leg)
    (hcreated : leg.createdAt = s.now) : Aged s s' where
  now := by rw [h.frame]
  nextId := h.nextId ▸ Nat.le_succ _
  legs := by
    intro l hl
    rw [h.legs, List.mem_append, List.mem_singleton] at hl
    rcases hl with hl | rfl
    · exact Or.inl ⟨l, hl, Older.refl l⟩
    · exact Or.inr ⟨h.id.ge, by rw [h.id, h.nextId]; exact Nat.lt_succ_self _, hcreated⟩

/-- **A dispatch** leaves the rows that were there, and inserts one at most. -/
theorem dispatch_aged (hb : Below s) {orderId : Nat} {legType : DeliveryLegType}
    {routeTo : Option String} {r : Option DeliveryLegRow}
    (h : (Logistics.dispatch d orderId legType routeTo).run s = .ok (r, s')) :
    Aged s s' ∧ ∀ l ∈ s.legs, l ∈ s'.legs := by
  have hfresh : ∀ leg ∈ s.legs, leg.id ≠ s.nextId := fun leg hleg => Nat.ne_of_lt (hb leg hleg)
  rcases dispatch_ok hfresh h with ⟨_, -, -, rfl⟩ | ⟨-, ⟨-, -, rfl⟩ | hnew⟩
  · exact ⟨aged_refl s', fun _ hl => hl⟩
  · exact ⟨aged_refl s', fun _ hl => hl⟩
  · obtain ⟨choice, o, leg, -, -, hleg, -, hinserted⟩ := hnew
    refine ⟨Inserted.aged hinserted (by rw [hleg.eq]), fun l hl => ?_⟩
    rw [hinserted.legs]
    exact List.mem_append_left _ hl

/-! ## Leg events -/

theorem beforePickup_of_next {current next : DeliveryLegStatus} {event : DeliveryEventType}
    (h : nextLegStatus current event = some next) (hnext : isBeforePickup next = true) :
    isBeforePickup current = true := by
  revert h hnext
  cases event <;> cases current <;> cases next <;> decide

@[simp] theorem movedLeg_createdAt (leg : DeliveryLegRow) (event : DeliveryEventType)
    (next : DeliveryLegStatus) (now : Nat) : (movedLeg leg event next now).createdAt
      = leg.createdAt := by
  unfold movedLeg
  split <;> rfl

/-- A row takes the place of one that it is a later state of. -/
theorem aged_of_put {row leg : DeliveryLegRow} (hrow : row ∈ s.legs) (h : Older row leg) :
    Aged s (putLeg s leg) := by
  refine ⟨rfl, le_rfl, fun l hl => ?_⟩
  rcases mem_put.mp hl with ⟨rfl, -⟩ | ⟨hl, -⟩
  · exact Or.inl ⟨row, hrow, h⟩
  · exact Or.inl ⟨l, hl, Older.refl l⟩

/-- **An event** moves its leg, which stays as old as it was. -/
theorem apply_aged (hb : Below s) {leg : DeliveryLegRow} {event : DeliveryEventType}
    {routeTo : Option String} {r : Option DeliveryLegRow} (hleg : Based s leg)
    (h : (apply d leg event routeTo).run s = .ok (r, s')) :
    Aged s s' ∧ Based s' (r.getD leg) := by
  rcases apply_ok h with ⟨-, rfl, rfl⟩ | ⟨next, s₁, hnext, rfl, hlisten, hend⟩
  · exact ⟨aged_refl s', hleg⟩
  · obtain ⟨row, hrow, hid, hcreated, hstatus⟩ := hleg
    let moved := movedLeg leg event next s.now
    have holder : Older row moved := by
      refine ⟨?_, ?_, fun hbefore => ?_⟩
      · rw [Lockstep.movedLeg_id, hid]
      · rw [movedLeg_createdAt, hcreated]
      · rw [Lockstep.movedLeg_status] at hbefore
        rw [hstatus]
        exact beforePickup_of_next hnext hbefore
    have hput : Aged s (putLeg s moved) := aged_of_put hrow holder
    have hmoved : moved ∈ (putLeg s moved).legs :=
      mem_put.mpr (Or.inl ⟨rfl, row, hrow, holder.id.symm⟩)
    have hstill := onDeliveryEvent_still _ _ () s₁ hlisten
    have haged : Aged s s₁ := hput.trans hstill.aged
    rw [← hstill.legs] at hmoved
    rcases hend with ⟨-, rfl⟩ | ⟨-, r', hdispatch⟩
    · exact ⟨haged, moved, hmoved, rfl, rfl, rfl⟩
    · obtain ⟨hdispatched, hstay⟩ := dispatch_aged (haged.below hb) hdispatch
      exact ⟨haged.trans hdispatched, moved, hstay moved hmoved, rfl, rfl, rfl⟩

theorem applyAll_aged {events : List DeliveryEventType} {leg : DeliveryLegRow} (hb : Below s)
    (hleg : Based s leg) (h : (applyAll d leg events).run s = .ok ((), s')) : Aged s s' := by
  induction events generalizing s leg with
  | nil =>
      cases h
      exact aged_refl _
  | cons event events ih =>
      obtain ⟨moved, s₁, happly, hrest⟩ := Tx.run_bind_eq_ok.mp h
      obtain ⟨haged, hbased⟩ := apply_aged hb hleg happly
      exact haged.trans (ih (haged.below hb) hbased hrest)

theorem syncFromSnapshot_ages (d : Deployment) (providerKey : String)
    (snapshot : ProviderDeliverySnapshot) :
    Tx.Keeps Ages (syncFromSnapshot d providerKey snapshot) := by
  intro s r s' h hb
  rcases syncFromSnapshot_ok h with rfl | ⟨leg, hfound, -, hrest⟩
  · exact aged_refl s'
  · have hleg : leg ∈ s.legs := (Lockstep.findByExternalId_mem hfound).1
    rcases hrest with rfl | ⟨-, hall⟩
    · exact aged_of_put hleg ⟨rfl, rfl, fun hbefore => hbefore⟩
    · have hbased : Based s (withSnapshot leg snapshot) := ⟨leg, hleg, rfl, rfl, rfl⟩
      exact applyAll_aged hb hbased hall

theorem cancelLeg_ages (d : Deployment) (legId : Nat) (reason : String)
    (routeTo : Option String) :
    Tx.Keeps Ages (Logistics.cancelLeg d legId reason routeTo) := by
  intro s r s' h hb
  rcases cancelLeg_ok h with rfl | ⟨leg, moved, hleg, happly⟩
  · exact aged_refl s'
  · have hbased : Based s { leg with failureReason := some reason } :=
      ⟨leg, (get_some hleg).1, rfl, rfl, rfl⟩
    exact (apply_aged hb hbased happly).1

/-! ## Submissions -/

theorem aged_of_update {p : DeliveryLegRow → Bool} {f : DeliveryLegRow → DeliveryLegRow}
    (hf : ∀ leg, Older leg (f leg)) : Aged s { s with legs := update p f s.legs } := by
  refine ⟨rfl, le_rfl, fun l hl => ?_⟩
  obtain ⟨row, hrow, rfl⟩ := mem_update.mp hl
  refine Or.inl ⟨row, hrow, ?_⟩
  split
  · exact hf row
  · exact Older.refl row

theorem writeAnswer_ages (d : Deployment) (leg : DeliveryLegRow) (answer : SubmitAnswer) :
    Tx.Keeps Ages (Interleaved.writeAnswer d leg answer) := by
  refine ages_frame.bind (ages_frame.expect _ _) fun provider => ?_
  split
  · exact ages_frame.write fun s _ => aged_of_update fun _ => ⟨rfl, rfl, fun h => h⟩
  · refine ages_frame.bind (ages_frame.write fun s _ => aged_of_update fun _ =>
      ⟨rfl, rfl, fun h => by cases h⟩) fun _ => ?_
    exact ages_frame.bind (fun s r s' h hb => (dispatch_aged hb h).1) fun _ => ages_frame.pure ()
  · exact ages_frame.reject _

theorem submit_ages (d : Deployment) (legId : Nat) (answer : SubmitAnswer) :
    Tx.Keeps Ages (submit d legId answer) := by
  intro s r s' h
  rcases Interleaved.submit_ok h with rfl | ⟨leg, -, hwrite⟩
  · exact ages_frame.refl s'
  · exact writeAnswer_ages d leg answer s r s' hwrite

/-! ## Riders and counters -/

/-- An event at a counter on the active leg, or on one made up for it. -/
theorem activeLegOr_aged (hb : Below s) {orderId : Nat} {create : Db DeliveryLegRow}
    {event : DeliveryEventType} {leg entity : DeliveryLegRow} {r : Option DeliveryLegRow}
    (hcreate : create.run s = .ok (leg, s₁) → ∃ status courierUserId,
      (createInHouseLeg orderId status courierUserId).run s = .ok (leg, s₁))
    (hleg : (activeLegOr orderId create).run s = .ok (leg, s₁))
    (hentity : leg.id = entity.id ∧ leg.createdAt = entity.createdAt ∧
      leg.status = entity.status)
    (happly : (apply d entity event none).run s₁ = .ok (r, s')) : Aged s s' := by
  have hmain : Aged s s₁ ∧ leg ∈ s₁.legs := by
    rcases activeLegOr_ok hleg with ⟨hfound, rfl⟩ | ⟨-, hinsert⟩
    · exact ⟨aged_refl s₁, (Lockstep.activeLeg_some hfound).1⟩
    · obtain ⟨status, courierUserId, hinsert⟩ := hcreate hinsert
      obtain ⟨n, hrow, hinserted⟩ := createInHouseLeg_inserted hinsert
      refine ⟨Inserted.aged hinserted (by rw [hrow]), ?_⟩
      rw [hinserted.legs]
      exact List.mem_append_right _ (List.mem_singleton.mpr rfl)
  obtain ⟨haged, hmem⟩ := hmain
  exact haged.trans (apply_aged (haged.below hb) ⟨leg, hmem, hentity⟩ happly).1

theorem reserveDeliverySlot_still (riderId : Nat) :
    Tx.Keeps Still (reserveDeliverySlot riderId) := by
  intro s r s' h
  obtain ⟨p, -, -, ⟨-, rfl⟩ | ⟨-, -, rfl⟩⟩ := reserveDeliverySlot_ok h
  · exact still_frame.refl s'
  · exact ⟨rfl, rfl, le_rfl⟩

theorem accept_ages (d : Deployment) (orderId riderId : Nat) :
    Tx.Keeps Ages (accept d orderId riderId) := by
  refine ages_frame.bind (ages_of_still (reserveDeliverySlot_still riderId)) fun _ =>
    ages_frame.bind (ages_frame.ensure _ _) fun _ => ?_
  intro s _ s' h hb
  obtain ⟨leg, s₁, hleg, hrest⟩ := Tx.run_bind_eq_ok.mp h
  obtain ⟨_, s₂, hensure, hrest⟩ := Tx.run_bind_eq_ok.mp hrest
  obtain ⟨-, rfl⟩ := Tx.run_ensure_eq_ok.mp hensure
  obtain ⟨_, s₃, hensure, hrest⟩ := Tx.run_bind_eq_ok.mp hrest
  obtain ⟨-, rfl⟩ := Tx.run_ensure_eq_ok.mp hensure
  rw [Tx.run_read_bind] at hrest
  obtain ⟨r, s₄, happly, hret⟩ := Tx.run_bind_eq_ok.mp hrest
  cases hret
  refine activeLegOr_aged hb (fun hcreate => ⟨_, _, hcreate⟩) hleg ?_ happly
  exact ⟨rfl, rfl, rfl⟩

theorem recordInHouseHandover_ages (d : Deployment) (orderId : Nat) (event : DeliveryEventType) :
    Tx.Keeps Ages (recordInHouseHandover d orderId event) := by
  intro s _ s' h hb
  obtain ⟨leg, s₁, hleg, hrest⟩ := Tx.run_bind_eq_ok.mp h
  obtain ⟨_, s₂, hensure, hrest⟩ := Tx.run_bind_eq_ok.mp hrest
  obtain ⟨-, rfl⟩ := Tx.run_ensure_eq_ok.mp hensure
  obtain ⟨moved, s₃, happly, hensure⟩ := Tx.run_bind_eq_ok.mp hrest
  obtain ⟨-, rfl⟩ := Tx.run_ensure_eq_ok.mp hensure
  refine activeLegOr_aged hb (fun hcreate => ?_) hleg ⟨rfl, rfl, rfl⟩ happly
  rw [createHandoverLeg, Tx.run_read_bind] at hcreate
  exact ⟨_, _, hcreate⟩

theorem stepBody_ages (d : Deployment) (step : ConfirmStep) (orderId : Nat) (args : ConfirmArgs) :
    Tx.Keeps Ages (stepBody d step orderId args) := by
  intro s o s' h hb
  cases stepBody_ok h with
  | handover hvalidate hevent hhandover =>
      have haged := (still_of_noted (validate_noted _ _ _ _ _ _ _ hvalidate)).aged
      exact haged.trans (recordInHouseHandover_ages _ _ _ _ _ _ hhandover (haged.below hb))
  | dropOff hedge hmail hdispatch =>
      have haged := (still_frame.trans (still_of_moved hedge.moved)
        (still_of_noted (enqueue_noted _ _ _ _ hmail))).aged
      exact haged.trans (dispatch_aged (haged.below hb) hdispatch).1
  | intake hedge hissue hmail | returnIntake hedge hissue hmail =>
      exact (still_frame.trans (still_of_moved hedge.moved)
        (still_of_noted (noted_frame.trans (issue_noted _ _ _ _ _ _ _ _ _ hissue)
          (enqueue_noted _ _ _ _ hmail)))).aged
  | collect hvalidate hedge hrecord =>
      exact (still_frame.trans (still_of_noted (validate_noted _ _ _ _ _ _ _ hvalidate))
        (still_frame.trans (still_of_moved hedge.moved) (record_still _ _ _ _ hrecord))).aged
  | returnCollect hvalidate hedge hrelease =>
      have hreleased : ∀ nodeId t, Still t (releaseNode nodeId t) := fun _ _ => ⟨rfl, rfl, le_rfl⟩
      rw [hrelease]
      exact (still_frame.trans (still_of_noted (validate_noted _ _ _ _ _ _ _ hvalidate))
        (still_frame.trans (still_of_moved hedge.moved) (hreleased _ _))).aged

theorem confirm_ages (d : Deployment) (step : ConfirmStep) (orderId : Nat) (args : ConfirmArgs) :
    Tx.Keeps Ages (Handoffs.confirm d step orderId args) := by
  intro s o s' h hb
  rcases confirm_ok h with ⟨-, -, rfl⟩ | ⟨-, hbody⟩
  · exact aged_refl s'
  · have haged := (insertKey_still step.scope orderId s).aged
    exact haged.trans (stepBody_ages _ _ _ _ _ _ _ hbody (haged.below hb))

/-! ## Steps -/

/-- Time passes, and nothing else happens. -/
structure Ticked (s s' : State) : Prop where
  now : s.now ≤ s'.now
  legs : s'.legs = s.legs
  nextId : s'.nextId = s.nextId

/-- **Every transaction** but the clock's own. -/
theorem tx_ages (d : Deployment) {a : System.Action} (h : ∀ ms, a ≠ .tick ms) :
    Tx.Keeps Ages (tx d a) := by
  have whole : ∀ {α : Type} {x : Db α}, Tx.Keeps Ages x →
      Tx.Keeps Ages (x >>= fun _ => pure ()) :=
    fun hx => ages_frame.bind hx fun _ => ages_frame.pure ()
  cases a with
  | tick ms => exact absurd rfl (h ms)
  | createPricingRule rule =>
      exact ages_of_still (still_frame.write fun _ => ⟨rfl, rfl, Nat.le_succ _⟩)
  | createSplitRule rule =>
      exact ages_of_still (still_frame.write fun _ => ⟨rfl, rfl, Nat.le_succ _⟩)
  | updateProvider key dto => exact ages_of_still (updateProvider_still key dto)
  | createIntent payerId dto => exact whole (ages_of_still (createIntent_still payerId dto))
  | setProviderReference intentId =>
      exact ages_of_still (still_frame.write fun _ => ⟨rfl, rfl, le_rfl⟩)
  | webhook reference answer drawnCodes =>
      exact ages_of_still fun _ _ _ h => still_of_payment (handleWebhook_effect h)
  | pollIntent intentId answer drawnCodes =>
      exact ages_of_still fun _ _ _ h => still_of_payment (pollIntent_effect h)
  | confirm step orderId args => exact whole (confirm_ages d step orderId args)
  | accept orderId riderId => exact accept_ages d orderId riderId
  | requestCode orderId riderId type rawCode =>
      exact ages_of_still ((requestCode_noted _ _ _ _ _).mono still_of_noted)
  | resendCode orderId operatorNodeIds drawnCode =>
      exact ages_of_still ((resendCode_noted _ _ _ _).mono still_of_noted)
  | dispatch orderId providerKey =>
      exact ages_frame.bind (ages_frame.read _) fun _ =>
        ages_frame.bind (ages_frame.ensure _ _) fun _ =>
          whole fun s r s' h hb => (dispatch_aged hb h).1
  | submit legId answer => exact submit_ages d legId answer
  | syncFromSnapshot providerKey snapshot => exact whole (syncFromSnapshot_ages d _ snapshot)
  | cancelLeg legId reason thenRouteTo => exact whole (cancelLeg_ages d legId reason _)
  | fallbackToInHouse legId =>
      exact ages_frame.bind (ages_frame.read _) fun _ =>
        ages_frame.bind (ages_frame.expect _ _) fun _ =>
          ages_frame.bind
            (ages_frame.bind (ages_frame.ensure _ _) fun _ => ages_frame.ensure _ _) fun _ =>
            ages_frame.bind (cancelLeg_ages d legId _ _) fun _ => ages_frame.ensure _ _
  | retry legId => exact ages_of_still ((retry_noted d legId).mono still_of_noted)
  | interrupted => exact ages_frame.reject _

theorem rollback_still (s : State) (e : TxError) : Still s (rollback s e) := by
  unfold rollback
  split
  · exact ⟨rfl, rfl, le_rfl⟩
  · exact still_frame.refl s

theorem commit_ages {x : Db Unit} (hx : Tx.Keeps Ages x) (s : State) :
    Ages s (Interleaved.commit x s) := by
  rcases Interleaved.commit_cases x s with ⟨s', h, heq⟩ | ⟨e, -, heq⟩
  · rw [heq]
    exact hx s () s' h
  · rw [heq]
    exact fun _ => (rollback_still s e).aged

/-- **What a step does to the ages of legs.** -/
theorem step_aged {w : Interleaved.Work} (hb : Below w.db) (a : Interleaved.Action) :
    Ticked w.db (Interleaved.exec d w a).db ∨ Aged w.db (Interleaved.exec d w a).db := by
  have still : Aged w.db w.db := aged_refl w.db
  cases a with
  | atomic a =>
      simp only [Interleaved.exec]
      split
      · exact Or.inr still
      · by_cases htick : ∃ ms, a = .tick ms
        · obtain ⟨ms, rfl⟩ := htick
          exact Or.inl ⟨Nat.le_add_right _ _, rfl, rfl⟩
        · have hages := tx_ages d fun ms h => htick ⟨ms, h⟩
          exact Or.inr (commit_ages hages w.db hb)
  | writeSubmit i =>
      simp only [Interleaved.exec]
      split
      · exact Or.inr (commit_ages (writeAnswer_ages d _ _) w.db hb)
      · exact Or.inr still
  | cancelLocally i =>
      simp only [Interleaved.exec]
      split
      · exact Or.inr still
      · next ending hending =>
          split
          · have hages : Tx.Keeps Ages (Interleaved.endLeg d ending) :=
              ages_frame.bind (cancelLeg_ages d _ _ _) fun _ => ages_frame.pure ()
            exact Or.inr (commit_ages hages w.db hb)
          · exact Or.inr still
  | readOverdue => exact Or.inr still
  | cancelAtProvider i accepted =>
      simp only [Interleaved.exec]
      split
      · exact Or.inr still
      · split
        all_goals exact Or.inr still
  | readSubmit legId | answerSubmit i answer | readFallback legId =>
      simp only [Interleaved.exec]
      split
      all_goals exact Or.inr still

end Locoomo.LegAges
