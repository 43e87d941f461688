import Mathlib.Data.List.Induction
import Locoomo.LockstepRuns

/-! The courier on the row of a leg, over every run. Each leg belongs to a
courier this process has an adapter for; a leg of the in-house pool is known to
no remote courier and never comes back; a leg that a remote courier has taken
carries that courier's id for it. -/

namespace Locoomo.Carriers

open Locoomo.Delivery Locoomo.Database Locoomo.Routing Locoomo.Logistics Locoomo.Handoffs
  Locoomo.Payments Locoomo.System Locoomo.OrderMoves Locoomo.LegMoves Locoomo.Lockstep
  Locoomo.Frames Locoomo.Changes Locoomo.Transactions Locoomo.Interleaved Relational

open Tx (Keeps)

/-- What holds of the row of every leg, when couriers give their deliveries
the ids `ids`. -/
structure Carried (d : Deployment) (ids : String → Prop) (l : DeliveryLegRow) : Prop where
  registered : (registryGet d l.providerKey).isSome = true
  inHouse : l.providerKey = inHouseProviderKey →
    l.externalId = none ∧ l.status ≠ .returning ∧ l.status ≠ .returned
  remote : l.providerKey ≠ inHouseProviderKey →
    l.status = .requested ∨ l.status = .cancelled ∨ l.externalId.isSome = true
  issued : ∀ externalId, l.externalId = some externalId → ids externalId

/-- A transaction keeps it of every row. -/
def Kept (d : Deployment) (ids : String → Prop) (s s' : State) : Prop :=
  (∀ l ∈ s.legs, Carried d ids l) → ∀ l ∈ s'.legs, Carried d ids l

variable {d : Deployment} {ids : String → Prop} {s s' : State}

theorem kept_frame : Tx.Frame (Kept d ids) where
  refl _ := fun h => h
  trans h₁ h₂ := fun h => h₂ (h₁ h)

theorem kept_of_legs (h : s'.legs = s.legs) : Kept d ids s s' := by
  intro hs
  rw [h]
  exact hs

/-- A transaction that leaves the legs alone keeps it. -/
theorem kept_of_frame {α : Type} {x : Db α}
    (h : Keeps (fun s s' : State => s'.legs = s.legs) x) : Keeps (Kept d ids) x :=
  h.mono kept_of_legs

/-! ## Rows -/

/-- A leg nobody has taken, or whose courier is gone. -/
theorem Carried.idle {l : DeliveryLegRow} (hkey : (registryGet d l.providerKey).isSome = true)
    (hstatus : l.status = .requested ∨ l.status = .cancelled)
    (hext : l.providerKey = inHouseProviderKey → l.externalId = none)
    (hids : ∀ externalId, l.externalId = some externalId → ids externalId) : Carried d ids l where
  registered := hkey
  inHouse h := by
    refine ⟨hext h, ?_⟩
    rcases hstatus with h | h
    · rw [h]; decide
    · rw [h]; decide
  remote _ := hstatus.imp_right Or.inl
  issued := hids

/-- An in-house leg, but for its return. -/
theorem Carried.ours {l : DeliveryLegRow} (hkey : l.providerKey = inHouseProviderKey)
    (hext : l.externalId = none) (hstatus : l.status ≠ .returning ∧ l.status ≠ .returned) :
    Carried d ids l where
  registered := by rw [hkey, registryGet_inHouse]; rfl
  inHouse _ := ⟨hext, hstatus⟩
  remote h := absurd hkey h
  issued _ h := by
    rw [hext] at h
    cases h

/-- A leg a remote courier knows, in whatever status. -/
structure Known (d : Deployment) (ids : String → Prop) (l : DeliveryLegRow) : Prop where
  registered : (registryGet d l.providerKey).isSome = true
  remote : l.providerKey ≠ inHouseProviderKey
  externalId : l.externalId.isSome = true
  issued : ∀ externalId, l.externalId = some externalId → ids externalId

theorem Known.carried {l : DeliveryLegRow} (h : Known d ids l) : Carried d ids l where
  registered := h.registered
  inHouse hkey := absurd hkey h.remote
  remote _ := Or.inr (Or.inr h.externalId)
  issued := h.issued

theorem Known.moved {l : DeliveryLegRow} (h : Known d ids l) (event : DeliveryEventType)
    (next : DeliveryLegStatus) (now : Nat) : Known d ids (movedLeg l event next now) where
  registered := by rw [movedLeg_providerKey]; exact h.registered
  remote := by rw [movedLeg_providerKey]; exact h.remote
  externalId := by rw [movedLeg_externalId]; exact h.externalId
  issued := by rw [movedLeg_externalId]; exact h.issued

/-! ## Writes of legs -/

theorem saveLeg_kept {leg : DeliveryLegRow} (h : Carried d ids leg) :
    Keeps (Kept d ids) (saveLeg leg) := by
  refine kept_frame.write fun s hs l hl => ?_
  rcases mem_put.mp hl with ⟨rfl, -⟩ | ⟨hl, -⟩
  · exact h
  · exact hs l hl

theorem insertLeg_kept {leg : DeliveryLegRow}
    (h : ∀ id createdAt, Carried d ids { leg with id := id, createdAt := createdAt }) :
    Keeps (Kept d ids) (insertLeg leg) := by
  refine kept_frame.query fun s hs l hl => ?_
  rcases List.mem_append.mp hl with hl | hl
  · exact hs l hl
  · rw [List.mem_singleton.mp hl]
    exact h _ _

/-- Whom the router chooses, or an admin names, has an adapter. -/
theorem route_registered {orderId : Nat} {legType : DeliveryLegType} {providerKey : Option String}
    {choice : RoutingChoice}
    (h : (route d orderId legType providerKey).run s = .ok (some choice, s')) :
    registryGet d choice.provider.key = some choice.provider := by
  have hkey : ∀ {key provider n}, registryGet d key = some provider →
      (⟨provider, n⟩ : RoutingChoice) = choice →
      registryGet d choice.provider.key = some choice.provider := by
    rintro key provider n hget rfl
    rw [registryGet_key hget]
    exact hget
  cases providerKey with
  | some key =>
      simp only [route, forcedChoice, Tx.run_read_bind, Tx.run_pure, Except.ok.injEq,
        Prod.mk.injEq] at h
      obtain ⟨provider, hget, hchoice⟩ := Option.bind_eq_some_iff.mp h.1
      exact hkey hget (Option.some.inj hchoice)
  | none =>
      simp only [route, choose, Tx.run_read_bind] at h
      obtain ⟨order, s₁, -, h⟩ := Tx.run_bind_eq_ok.mp h
      simp only [Tx.run_read_bind, Tx.run_pure, Except.ok.injEq, Prod.mk.injEq] at h
      obtain ⟨config, -, hrest⟩ := Option.bind_eq_some_iff.mp h.1
      obtain ⟨provider, hget, hchoice⟩ := Option.bind_eq_some_iff.mp hrest
      exact hkey hget (Option.some.inj hchoice)

theorem dispatch_kept (orderId : Nat) (legType : DeliveryLegType) (providerKey : Option String) :
    Keeps (Kept d ids) (dispatch d orderId legType providerKey) := by
  refine kept_frame.bind (kept_frame.read _) fun active => ?_
  cases active with
  | some leg => exact kept_frame.pure _
  | none =>
      intro s r s' h
      obtain ⟨choice, s₁, hroute, hbook⟩ := Tx.run_bind_eq_ok.mp h
      cases choice with
      | none =>
          cases hbook
          exact kept_of_legs (by rw [route_state hroute])
      | some choice =>
          have hget := route_registered hroute
          obtain rfl := route_state hroute
          change (bookLeg orderId legType choice).run s₁ = .ok (r, s') at hbook
          have hnew : ∀ vehicleClass id createdAt, Carried d ids
              { newLeg orderId legType choice.provider.key .requested choice.attemptNumber
                  vehicleClass none with id := id, createdAt := createdAt } :=
            fun _ _ _ => .idle (by rw [newLeg, hget]; rfl) (Or.inl rfl) (fun _ => rfl)
              fun _ h => by cases h
          have hbooked : ∀ leg : DeliveryLegRow, leg.providerKey = choice.provider.key →
              leg.status = .requested → Carried d ids
                { leg with externalId := none, providerStatus := none } :=
            fun leg hkey hstatus =>
              .idle (by rw [hkey, hget]; rfl) (Or.inl hstatus) (fun _ => rfl)
                fun _ h => by cases h
          rw [bookLeg, Tx.run_read_bind] at hbook
          obtain ⟨order, s₂, hexpect, hinsert⟩ := Tx.run_bind_eq_ok.mp hbook
          obtain ⟨-, rfl⟩ := Tx.run_expect_eq_ok.mp hexpect
          obtain ⟨leg, s₃, hleg, hrest⟩ := Tx.run_bind_eq_ok.mp hinsert
          have hkept := insertLeg_kept (hnew order.vehicleClass) _ leg s₃ hleg
          cases hleg
          refine kept_frame.trans hkept ?_
          split at hrest
          · refine kept_frame.bind (kept_frame.write fun _ => ?_) (fun _ => kept_frame.pure _)
              _ r s' hrest
            exact kept_of_legs rfl
          · exact kept_frame.bind (saveLeg_kept (hbooked _ rfl rfl)) (fun _ => kept_frame.pure _) _
              r s' hrest

/-! ## Leg events -/

theorem onDeliveryEvent_legs (notice : DeliveryEventNotice) :
    Keeps (fun s s' : State => s'.legs = s.legs) (onDeliveryEvent notice) := by
  intro s u s' h
  by_cases hf : notice.legType = .forward
  · rcases onDeliveryEvent_ok hf h with ⟨rfl, -⟩ | ⟨o, o', s₁, hm, -, -, -, -, rfl, -⟩
    · rfl
    · rw [sideEffect_legs, hm.frame]
  · rw [onDeliveryEvent, if_pos hf] at h
    cases h
    rfl

/-- An event keeps it as soon as the moved row has it. -/
theorem apply_kept {leg : DeliveryLegRow} {event : DeliveryEventType}
    (hmoved : ∀ next now, nextLegStatus leg.status event = some next →
      Carried d ids (movedLeg leg event next now)) (routeTo : Option String) :
    Keeps (Kept d ids) (apply d leg event routeTo) := by
  unfold apply
  split
  · exact kept_frame.pure none
  · next next hnext =>
      refine kept_frame.bind (kept_frame.read _) fun now =>
        kept_frame.bind (saveLeg_kept (hmoved next now hnext)) fun _ =>
          kept_frame.bind (kept_of_frame (onDeliveryEvent_legs _)) fun _ => ?_
      split
      · exact kept_frame.bind (dispatch_kept _ _ _) fun _ => kept_frame.pure _
      · exact kept_frame.pure _

/-- A catch-up of a leg its courier knows. -/
theorem applyAll_kept {leg : DeliveryLegRow} (hleg : Known d ids leg)
    (events : List DeliveryEventType) : Keeps (Kept d ids) (applyAll d leg events) := by
  induction events generalizing leg with
  | nil => exact kept_frame.pure ()
  | cons event events ih =>
      intro s u s' h
      obtain ⟨r, s₁, happly, hrest⟩ := Tx.run_bind_eq_ok.mp h
      have hfirst := apply_kept (fun next now _ => (hleg.moved event next now).carried) none s r s₁
        happly
      refine kept_frame.trans hfirst ?_
      rcases apply_ok happly with ⟨-, rfl, -⟩ | ⟨next, -, -, rfl, -, -⟩
      · exact ih hleg s₁ u s' hrest
      · exact ih (hleg.moved event next s.now) s₁ u s' hrest

theorem syncFromSnapshot_kept (providerKey : String) (snapshot : ProviderDeliverySnapshot) :
    Keeps (Kept d ids) (syncFromSnapshot d providerKey snapshot) := by
  intro s r s' h hs
  rcases syncFromSnapshot_ok h with rfl | ⟨leg, hfound, -, hrest⟩
  · exact hs
  · obtain ⟨hleg, -, hext⟩ := findByExternalId_mem hfound
    have hcarried := hs leg hleg
    -- a leg found by a courier's id is not of the in-house pool
    have hknown : Known d ids (withSnapshot leg snapshot) :=
      { registered := hcarried.registered
        remote := fun hkey => by
          rw [(hcarried.inHouse hkey).1] at hext
          cases hext
        externalId := by
          change leg.externalId.isSome = true
          rw [hext]
          rfl
        issued := hcarried.issued }
    rcases hrest with rfl | ⟨-, hall⟩
    · exact saveLeg_kept hknown.carried s () _ rfl hs
    · exact applyAll_kept hknown _ s () s' hall hs

theorem cancelLeg_kept (legId : Nat) (reason : String) (thenRouteTo : Option String) :
    Keeps (Kept d ids) (cancelLeg d legId reason thenRouteTo) := by
  intro s r s' h hs
  rcases cancelLeg_ok h with rfl | ⟨leg, moved, hleg, happly⟩
  · exact hs
  · have hcarried := hs leg (get_some hleg).1
    refine apply_kept (fun next now hnext => ?_) thenRouteTo s moved s' happly hs
    have hcancelled : next = .cancelled := (nextLegStatus_eq_some.mp hnext).2
    refine .idle ?_ (Or.inr ?_) (fun hkey => ?_) ?_
    · rw [movedLeg_providerKey]
      exact hcarried.registered
    · rw [movedLeg_status, hcancelled]
    · rw [movedLeg_externalId]
      rw [movedLeg_providerKey] at hkey
      exact (hcarried.inHouse hkey).1
    · rw [movedLeg_externalId]
      exact hcarried.issued

/-! ## The in-house pool -/

/-- The leg a step of the pool works on is known to no remote courier. -/
theorem activeLegOr_unnamed {orderId : Nat} {create : Db DeliveryLegRow} {leg : DeliveryLegRow}
    (hs : ∀ l ∈ s.legs, Carried d ids l)
    (hcreate : create.run s = .ok (leg, s') →
      leg.externalId = none ∧ ∀ l ∈ s'.legs, Carried d ids l)
    (h : (activeLegOr orderId create).run s = .ok (leg, s'))
    (hkey : leg.providerKey = inHouseProviderKey) :
    leg.externalId = none ∧ ∀ l ∈ s'.legs, Carried d ids l := by
  rcases activeLegOr_ok h with ⟨hactive, rfl⟩ | ⟨-, hcreated⟩
  · exact ⟨((hs leg (activeLeg_some hactive).1).inHouse hkey).1, hs⟩
  · exact hcreate hcreated

theorem createInHouseLeg_carried {orderId : Nat} {status : DeliveryLegStatus}
    {courierUserId : Option Nat} {leg : DeliveryLegRow} (hs : ∀ l ∈ s.legs, Carried d ids l)
    (hstatus : status ≠ .returning ∧ status ≠ .returned)
    (h : (createInHouseLeg orderId status courierUserId).run s = .ok (leg, s')) :
    leg.externalId = none ∧ ∀ l ∈ s'.legs, Carried d ids l := by
  obtain ⟨n, rfl, hinserted⟩ := createInHouseLeg_inserted h
  refine ⟨rfl, fun l hl => ?_⟩
  rw [hinserted.legs, List.mem_append, List.mem_singleton] at hl
  rcases hl with hl | rfl
  · exact hs l hl
  · exact .ours rfl rfl hstatus

/-- An event of the pool moves its leg forwards, or takes it back. -/
theorem moved_ours {leg : DeliveryLegRow} {event : DeliveryEventType}
    (hevent : event = .assigned ∨ event = .pickedUp ∨ event = .delivered)
    (hkey : leg.providerKey = inHouseProviderKey) (hext : leg.externalId = none)
    (next : DeliveryLegStatus) (now : Nat) (hnext : nextLegStatus leg.status event = some next) :
    Carried d ids (movedLeg leg event next now) := by
  have htarget := (nextLegStatus_eq_some.mp hnext).2
  refine .ours ?_ ?_ ?_
  · rw [movedLeg_providerKey, hkey]
  · rw [movedLeg_externalId, hext]
  · rw [movedLeg_status, htarget]
    rcases hevent with rfl | rfl | rfl <;> decide

theorem accept_kept (orderId riderId : Nat) : Keeps (Kept d ids) (accept d orderId riderId) := by
  have hreserve : Keeps (fun s s' : State => s'.legs = s.legs) (reserveDeliverySlot riderId) := by
    intro s r s' h
    obtain ⟨p, -, -, ⟨-, rfl⟩ | ⟨-, -, rfl⟩⟩ := reserveDeliverySlot_ok h <;> rfl
  refine kept_frame.bind (kept_of_frame hreserve) fun _ =>
    kept_frame.bind (kept_frame.ensure _ _) fun _ => ?_
  intro s u s' h hs
  obtain ⟨leg, s₁, hleg, hrest₁⟩ := Tx.run_bind_eq_ok.mp h
  obtain ⟨_, s₂, hensure, hrest₂⟩ := Tx.run_bind_eq_ok.mp hrest₁
  obtain ⟨hkey, rfl⟩ := Tx.run_ensure_eq_ok.mp hensure
  have hkey := of_decide_eq_true hkey
  obtain ⟨hext, hs₁⟩ := activeLegOr_unnamed hs
    (createInHouseLeg_carried hs (by decide)) hleg hkey
  refine kept_frame.bind (kept_frame.ensure _ _) (fun _ => kept_frame.bind (kept_frame.read _)
    fun _ => kept_frame.bind (apply_kept (moved_ours (Or.inl rfl) ?_ ?_) none) fun _ =>
      kept_frame.pure _) s₁ u s' hrest₂ hs₁
  · exact hkey
  · exact hext

theorem recordInHouseHandover_kept (orderId : Nat) {event : DeliveryEventType}
    (hevent : event = .pickedUp ∨ event = .delivered) :
    Keeps (Kept d ids) (recordInHouseHandover d orderId event) := by
  intro s u s' h hs
  obtain ⟨leg, s₁, hleg, hrest₁⟩ := Tx.run_bind_eq_ok.mp h
  obtain ⟨_, s₂, hensure, hrest₂⟩ := Tx.run_bind_eq_ok.mp hrest₁
  obtain ⟨hkey, rfl⟩ := Tx.run_ensure_eq_ok.mp hensure
  have hkey := of_decide_eq_true hkey
  obtain ⟨hext, hs₁⟩ := activeLegOr_unnamed hs (fun hcreate => by
    simp only [createHandoverLeg, Tx.run_read_bind] at hcreate
    refine createInHouseLeg_carried hs ?_ hcreate
    split <;> decide) hleg hkey
  exact kept_frame.bind (apply_kept (moved_ours (Or.inr hevent) hkey hext) none)
    (fun _ => kept_frame.ensure _ _) s₁ u s' hrest₂ hs₁

/-! ## Whole transactions -/

theorem stepBody_kept (step : ConfirmStep) (orderId : Nat) (args : ConfirmArgs) :
    Keeps (Kept d ids) (stepBody d step orderId args) := by
  intro s o s' h
  cases stepBody_ok h with
  | handover hvalidate hevent hhandover =>
      have hcodes := (validate_noted _ _ _ _ s () _ hvalidate).clerical
      exact kept_frame.trans (kept_of_legs hcodes.legs)
        (recordInHouseHandover_kept orderId hevent _ () s' hhandover)
  | dropOff hedge hmail hdispatch =>
      have hclerical := (enqueue_noted _ _ () _ hmail).clerical
      exact kept_frame.trans (kept_of_legs (hclerical.legs.trans hedge.legs))
        (dispatch_kept _ _ _ _ _ s' hdispatch)
  | intake hedge hissue hmail | returnIntake hedge hissue hmail =>
      have hclerical := (noted_frame.trans (issue_noted _ _ _ _ _ _ _ () _ hissue)
        (enqueue_noted _ _ () s' hmail)).clerical
      exact kept_of_legs (hclerical.legs.trans hedge.legs)
  | collect hvalidate hedge hrecord =>
      have hcodes := (validate_noted _ _ _ _ s () _ hvalidate).clerical
      obtain ⟨rule, -, hrecorded⟩ := record_ok hrecord
      refine kept_of_legs ?_
      rw [hrecorded.eq]
      exact hedge.legs.trans hcodes.legs
  | returnCollect hvalidate hedge hrelease =>
      have hcodes := (validate_noted _ _ _ _ s () _ hvalidate).clerical
      refine kept_of_legs ?_
      rw [hrelease]
      exact hedge.legs.trans hcodes.legs

theorem payment_legs {asked : PaymentIntentRow → Prop} {answer : VerifyAnswer}
    (h : PaymentEffect asked answer s s') : s'.legs = s.legs := by
  cases h with
  | idle => rfl
  | keyed reference => rfl
  | paid reference _ _ hpayable hconfirmed => rw [hconfirmed.frame]; rfl
  | expired hmem hpending => rfl

/-- The ids that couriers give in the course of an action are of `ids`. -/
def Issues (ids : String → Prop) : System.Action → Prop
  | .submit _ (.booked result) => ∀ externalId, result.externalId = some externalId → ids externalId
  | _ => True

theorem issued_of_answer {legId : Nat} {provider : Adapter} {answer : SubmitAnswer}
    {result : CreateDeliveryResult} (h : Issues ids (.submit legId answer))
    (hanswer : answerOf provider answer = .booked result) :
    ∀ externalId, result.externalId = some externalId → ids externalId := by
  unfold answerOf at hanswer
  split at hanswer
  · rw [hanswer] at h
    exact h
  · cases hanswer
    intro _ h
    cases h

theorem submit_kept (hs : Aligned s) {legId : Nat} {answer : SubmitAnswer}
    (hissues : Issues ids (.submit legId answer))
    (h : (submit d legId answer).run s = .ok ((), s')) : Kept d ids s s' := by
  intro hcarried
  rcases submit_ok h with rfl | ⟨leg, hsub, hwrite⟩
  · exact hcarried
  obtain ⟨hleg, hid, hrequested, -⟩ := submittable_some hsub
  obtain ⟨provider, s₁, hexpect, hrest⟩ := Tx.run_bind_eq_ok.mp hwrite
  obtain ⟨hprovider, rfl⟩ := Tx.run_expect_eq_ok.mp hexpect
  have hself : ∀ l ∈ s.legs, decide (l.id = leg.id) = true → l = leg := fun l hl hlid =>
    hs.inStep.legIds.eq_of_key hl hleg (of_decide_eq_true hlid)
  have hkey : (registryGet d leg.providerKey).isSome = true := by
    rw [hprovider]
    rfl
  cases hanswer : answerOf provider answer with
  | booked result =>
      rw [hanswer] at hrest
      cases hrest
      intro l hl
      obtain ⟨l₀, hl₀, rfl⟩ := mem_update.mp hl
      split
      · next hlid =>
          obtain rfl := hself l₀ hl₀ hlid
          refine .idle hkey (Or.inl hrequested) (fun hinHouse => answerOf_inHouse ?_ hanswer) ?_
          · rw [registryGet_remote hprovider]
            exact decide_eq_false fun hne => hne hinHouse
          · exact issued_of_answer hissues hanswer
      · exact hcarried l₀ hl₀
  | refused message =>
      rw [hanswer] at hrest
      change (recordRefusal d leg message).run s = .ok ((), s') at hrest
      rw [recordRefusal, Tx.run_write_bind] at hrest
      refine kept_frame.bind (dispatch_kept _ _ _) (fun _ => kept_frame.pure ()) _ () s' hrest ?_
      intro l hl
      obtain ⟨l₀, hl₀, rfl⟩ := mem_update.mp hl
      split
      · next hlid =>
          obtain rfl := hself l₀ hl₀ hlid
          exact .idle hkey (Or.inr rfl) (fun hinHouse => ((hcarried l₀ hl₀).inHouse hinHouse).1)
            (hcarried l₀ hl₀).issued
      · exact hcarried l₀ hl₀
  | failed =>
      rw [hanswer] at hrest
      cases hrest

theorem tx_kept (hs : Aligned s) {a : System.Action} (hissues : Issues ids a)
    (h : (tx d a).run s = .ok ((), s')) : Kept d ids s s' := by
  cases hclerical : isClerical a with
  | true => exact kept_of_legs (tx_clerical d hclerical s () s' h).legs
  | false =>
      cases a with
      | createIntent payerId dto =>
          obtain ⟨intent, s₁, hcreate, hret⟩ := Tx.run_bind_eq_ok.mp h
          cases hret
          exact kept_of_legs (by rw [(createIntent_ok hcreate).eq]; rfl)
      | setProviderReference intentId =>
          cases h
          exact kept_of_legs rfl
      | webhook reference answer drawnCodes =>
          exact kept_of_legs (payment_legs (handleWebhook_effect h))
      | pollIntent intentId answer drawnCodes =>
          exact kept_of_legs (payment_legs (pollIntent_effect h))
      | confirm step orderId args =>
          obtain ⟨o, s₁, hconfirm, hret⟩ := Tx.run_bind_eq_ok.mp h
          cases hret
          rcases confirm_ok hconfirm with ⟨-, -, rfl⟩ | ⟨-, hbody⟩
          · exact kept_frame.refl _
          · have hkey : Kept d ids s (insertKey step.scope orderId s) := kept_of_legs rfl
            exact kept_frame.trans hkey (stepBody_kept step orderId args _ o _ hbody)
      | accept orderId riderId => exact accept_kept orderId riderId s () s' h
      | dispatch orderId providerKey =>
          exact kept_frame.bind (kept_frame.read _) (fun _ =>
            kept_frame.bind (kept_frame.ensure _ _) fun _ =>
              kept_frame.bind (dispatch_kept _ _ _) fun _ => kept_frame.pure ()) s () s' h
      | submit legId answer => exact submit_kept hs hissues h
      | syncFromSnapshot providerKey snapshot =>
          exact kept_frame.bind (syncFromSnapshot_kept _ _) (fun _ => kept_frame.pure ()) s () s' h
      | cancelLeg legId reason thenRouteTo =>
          exact kept_frame.bind (cancelLeg_kept _ _ _) (fun _ => kept_frame.pure ()) s () s' h
      | fallbackToInHouse legId =>
          exact kept_frame.bind (kept_frame.read _) (fun _ =>
            kept_frame.bind (kept_frame.expect _ _) fun _ =>
              kept_frame.bind (kept_frame.bind (kept_frame.ensure _ _) fun _ =>
                kept_frame.ensure _ _) fun _ =>
                kept_frame.bind (cancelLeg_kept _ _ _) fun _ => kept_frame.ensure _ _) s () s' h
      | _ => cases hclerical

theorem exec_kept (hs : Aligned s) {a : System.Action} (hissues : Issues ids a) :
    Kept d ids s (System.exec d s a) := by
  rcases exec_cases d s a with ⟨s', h, he⟩ | ⟨e, -, he⟩
  · rw [he]
    exact tx_kept hs hissues h
  · rw [he]
    exact kept_of_legs (rollback_clerical s e).legs

/-- **Every leg is somebody's**, in every run: the pool's legs go forwards only,
and a leg a remote courier has taken is known there by an id. -/
theorem run_carried (d : Deployment) {s₀ : State} (h : Aligned s₀)
    (hlegs : ∀ l ∈ s₀.legs, Carried d ids l) (as : List System.Action)
    (hissues : ∀ a ∈ as, Issues ids a) : ∀ l ∈ (System.run d s₀ as).legs, Carried d ids l := by
  induction as using List.reverseRecOn with
  | nil => exact hlegs
  | append_singleton as a ih =>
      have hprev : ∀ b ∈ as, Issues ids b := fun b hb => hissues b (List.mem_append_left _ hb)
      rw [System.run, Runs.run_snoc]
      exact exec_kept (run_aligned d h as)
        (hissues a (List.mem_append_right _ (List.mem_singleton.mpr rfl))) (ih hprev)

end Locoomo.Carriers
