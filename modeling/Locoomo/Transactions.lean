import Locoomo.Changes
import Locoomo.Interleaved

/-! Every transaction of the system, taken apart into changes; and the rules
this gives for invariants of whole runs. -/

namespace Locoomo.Transactions

open Locoomo.Delivery Locoomo.Pricing Locoomo.Database Locoomo.Routing Locoomo.Logistics
  Locoomo.Handoffs Locoomo.Payments Locoomo.System Locoomo.OrderMoves Locoomo.LegMoves
  Locoomo.Soundness Locoomo.Lockstep Locoomo.Frames Locoomo.Changes Relational

open Interleaved (submit_ok)

variable {d : Deployment} {recalls : Bool} {answers : Answers} {s s' : State}

/-! ## Leg events -/

/-- A committed event is one change: of the leg alone, or of the leg, its
order and the order's next leg when it was cancelled. -/
theorem apply_change (hs : InStep s) {row leg : DeliveryLegRow} {event : DeliveryEventType}
    {routeTo : Option String} {r : Option DeliveryLegRow} (hrow : row ∈ s.legs)
    (hstands : Stands leg row event) (hext : leg.externalId = row.externalId)
    (hcourier : leg.courierUserId = row.courierUserId)
    (hcarrier : row.courierUserId = none ∨ event = .pickedUp ∨ event = .delivered ∨
      event = .cancelled ∧ recalls = true)
    (h : (apply d leg event routeTo).run s = .ok (r, s')) :
    (nextLegStatus leg.status event = none ∧ r = none ∧ s' = s) ∨
      ∃ next, nextLegStatus leg.status event = some next ∧
        r = some (movedLeg leg event next s.now) ∧ Change d recalls answers s s' := by
  rcases apply_advanced hs hrow hstands h with hnone | ⟨next, s₁, o, o', hnext, hr, hadv, hrest⟩
  · exact Or.inl hnone
  · have hemitted : Emitted s s₁ row leg event next o o' := ⟨hrow, hstands, hext, hnext, hadv⟩
    refine Or.inr ⟨next, hnext, hr, ?_⟩
    rcases hrest with ⟨hevent, rfl⟩ | ⟨rfl, r', hdispatch⟩
    · refine Change.event hcourier ?_ hevent hemitted
      rcases hcarrier with h | h | h | ⟨h, -⟩
      · exact Or.inl h
      · exact Or.inr (Or.inl h)
      · exact Or.inr (Or.inr h)
      · exact absurd h hevent
    · obtain rfl : next = .cancelled := (nextLegStatus_eq_some.mp hnext).2
      rw [hstands.orderId, hstands.legType, hs.forward row hrow] at hdispatch
      refine Change.cancel (fun hrecalls => ?_) hemitted hdispatch
      rcases hcarrier with h | h | h | ⟨-, h⟩
      · exact h
      · cases h
      · cases h
      · rw [hrecalls] at h
        cases h

/-- The catch-up of a leg no Locoomo rider carries. -/
theorem applyAll_changes {events : List DeliveryEventType} {row leg : DeliveryLegRow}
    (hs : Aligned s) (hrow : row ∈ s.legs) (htwin : Twin leg row)
    (hext : leg.externalId = row.externalId) (hremote : row.courierUserId = none)
    (h : (applyAll d leg events).run s = .ok ((), s')) : ChangeSeq d recalls answers s s' := by
  induction events generalizing s leg row with
  | nil =>
      cases h
      exact .refl
  | cons event events ih =>
      obtain ⟨r, s₁, happly, hrest⟩ := Tx.run_bind_eq_ok.mp h
      rcases apply_change hs.inStep hrow (htwin.stands event) hext htwin.courier (Or.inl hremote)
        happly with ⟨-, rfl, rfl⟩ | ⟨next, -, rfl, hchange⟩
      · exact ih hs hrow htwin hext hremote hrest
      · refine .head hchange ?_
        refine ih (hchange.aligned hs) (apply_stored hs.inStep hrow (htwin.stands event) happly)
          (Twin.refl _) rfl ?_ hrest
        rw [movedLeg_courierUserId, htwin.courier, hremote, ite_self]

theorem saveLeg_change {row leg : DeliveryLegRow} (hs : InStep s) (hrow : row ∈ s.legs)
    (htwin : Twin leg row) (hext : leg.externalId = row.externalId) :
    Change d recalls answers s (putLeg s leg) := by
  have hself : ∀ l ∈ s.legs, decide (l.id = leg.id) = true → l = row := by
    intro l hl hkey
    exact hs.legIds.eq_of_key hl hrow ((of_decide_eq_true hkey).trans htwin.id)
  refine Change.relabel rfl (fun l hl hkey => ?_) (fun l hl hkey _ => ?_)
  · rw [hself l hl hkey]
    exact htwin
  · rw [hself l hl hkey]
    exact hext

theorem syncFromSnapshot_changes (hs : Aligned s) {providerKey : String}
    {snapshot : ProviderDeliverySnapshot} {r : Bool}
    (h : (syncFromSnapshot d providerKey snapshot).run s = .ok (r, s')) :
    ChangeSeq d recalls answers s s' := by
  rcases syncFromSnapshot_ok h with rfl | ⟨leg, hfound, -, hrest⟩
  · exact .refl
  · obtain ⟨hleg, -, hext⟩ := findByExternalId_mem hfound
    -- a leg known to a courier is not in-house, so no Locoomo rider has it
    have hremote : leg.courierUserId = none := by
      cases hcourier : leg.courierUserId with
      | none => rfl
      | some riderId =>
          have hkey := hs.sourced.courier leg hleg riderId hcourier
          rw [hs.sourced.inHouse leg hleg hkey] at hext
          cases hext
    rcases hrest with rfl | ⟨-, hall⟩
    · exact .single (saveLeg_change hs.inStep hleg (withSnapshot_twin leg snapshot) rfl)
    · exact applyAll_changes hs hleg (withSnapshot_twin leg snapshot) rfl hremote hall

/-- The reconciler or an admin takes back a leg a Locoomo rider has claimed. -/
def recalled (s : State) (legId : Nat) : Bool :=
  (getLeg s legId).any fun leg =>
    leg.courierUserId.isSome && (nextLegStatus leg.status .cancelled).isSome

theorem cancelLeg_changes (hs : Aligned s) {legId : Nat} {reason : String}
    {routeTo : Option String} {r : Bool} (hrecalls : recalled s legId = true → recalls = true)
    (h : (cancelLeg d legId reason routeTo).run s = .ok (r, s')) :
    ChangeSeq d recalls answers s s' := by
  rcases cancelLeg_ok h with rfl | ⟨leg, moved, hleg, happly⟩
  · exact .refl
  · have hrow := (get_some hleg).1
    have hstands : Stands { leg with failureReason := some reason } leg .cancelled :=
      ⟨rfl, rfl, rfl, rfl, rfl, fun _ => rfl⟩
    cases hnext : nextLegStatus leg.status .cancelled with
    | none =>
        rcases apply_ok happly with ⟨-, -, rfl⟩ | ⟨_, _, hnext', -, -⟩
        · exact .refl
        · rw [hnext] at hnext'
          cases hnext'
    | some next =>
        have hcarrier : leg.courierUserId = none ∨ DeliveryEventType.cancelled = .pickedUp ∨
            DeliveryEventType.cancelled = .delivered ∨
            DeliveryEventType.cancelled = .cancelled ∧ recalls = true := by
          cases hcourier : leg.courierUserId with
          | none => exact Or.inl rfl
          | some riderId =>
              have hrecalled : recalled s legId = true := by
                simp [recalled, hleg, hcourier, hnext]
              exact Or.inr (Or.inr (Or.inr ⟨rfl, hrecalls hrecalled⟩))
        rcases apply_change hs.inStep hrow hstands rfl rfl hcarrier happly with
          ⟨-, -, rfl⟩ | ⟨_, -, -, hchange⟩
        · exact .refl
        · exact .single hchange

/-- The admin's fallback only takes back legs of remote couriers. -/
theorem fallbackToInHouse_changes (hs : Aligned s) {legId : Nat}
    (h : (fallbackToInHouse d legId).run s = .ok ((), s')) : ChangeSeq d recalls answers s s' := by
  rw [fallbackToInHouse, Tx.run_read_bind] at h
  obtain ⟨leg, s₁, hexpect, hrest⟩ := Tx.run_bind_eq_ok.mp h
  obtain ⟨hleg, rfl⟩ := Tx.run_expect_eq_ok.mp hexpect
  obtain ⟨_, s₂, hchecks, hbody⟩ := Tx.run_bind_eq_ok.mp hrest
  obtain ⟨_, s₃, hkey, hstatus⟩ := Tx.run_bind_eq_ok.mp hchecks
  obtain ⟨hremote, rfl⟩ := Tx.run_ensure_eq_ok.mp hkey
  obtain ⟨-, rfl⟩ := Tx.run_ensure_eq_ok.mp hstatus
  obtain ⟨moved, s₄, hcancel, hret⟩ := Tx.run_bind_eq_ok.mp hbody
  obtain ⟨-, rfl⟩ := Tx.run_ensure_eq_ok.mp hret
  refine cancelLeg_changes hs (fun hrecalled => ?_) hcancel
  simp only [recalled, hleg, Option.any_some, Bool.and_eq_true] at hrecalled
  obtain ⟨riderId, hcourier⟩ := Option.isSome_iff_exists.mp hrecalled.1
  exact absurd (hs.sourced.courier leg (get_some hleg).1 riderId hcourier)
    (of_decide_eq_true hremote)

/-! ## Submission -/

theorem submittable_some {legId : Nat} {leg : DeliveryLegRow} (h : submittable s legId = some leg) :
    leg ∈ s.legs ∧ leg.id = legId ∧ leg.status = .requested ∧ hasExternalId leg = false := by
  obtain ⟨hget, hp⟩ := Option.filter_eq_some_iff.mp h
  obtain ⟨hmem, hid⟩ := get_some hget
  exact ⟨hmem, hid, of_decide_eq_true hp⟩

theorem answerOf_inHouse {provider : Adapter} {answer : SubmitAnswer}
    {result : CreateDeliveryResult}
    (hlocal : provider.remoteSubmission = false) (h : answerOf provider answer = .booked result) :
    result.externalId = none := by
  rw [answerOf, hlocal] at h
  cases h
  rfl

/-- The outcome of a booking, whatever has happened to the leg meanwhile. -/
theorem recordBooking_change (hb : Sourced s) {legId : Nat} {result : CreateDeliveryResult}
    (hinHouse : ∀ l ∈ s.legs, l.id = legId → l.providerKey = inHouseProviderKey →
      result.externalId = none)
    (h : (recordBooking legId result).run s = .ok ((), s')) : Change d recalls answers s s' := by
  cases h
  refine Change.relabel rfl (fun l _ _ => ⟨rfl, rfl, rfl, rfl, rfl, rfl⟩) fun l hl hid hkey => ?_
  rw [hb.inHouse l hl hkey]
  exact hinHouse l hl (of_decide_eq_true hid) hkey

theorem recordRefusal_change (hs : InStep s) {row : DeliveryLegRow} {message : String}
    (hrow : row ∈ s.legs) (hrequested : row.status = .requested)
    (h : (recordRefusal d row message).run s = .ok ((), s')) : Change d recalls answers s s' := by
  rw [recordRefusal, Tx.run_write_bind] at h
  obtain ⟨r, s₁, hdispatch, hret⟩ := Tx.run_bind_eq_ok.mp h
  cases hret
  let reason := String.ofList (message.toList.take 500)
  have hset : update (fun l => l.id = row.id) (fun l => refused s l reason) s.legs
      = put DeliveryLegRow.id (refused s row reason) s.legs :=
    update_key_eq_put hs.legIds hrow rfl
  change (Logistics.dispatch d row.orderId row.legType none).run
    { s with legs := update (fun l => l.id = row.id) (fun l => refused s l reason) s.legs }
      = .ok (r, s') at hdispatch
  rw [hs.forward row hrow, hset] at hdispatch
  exact Change.refuse hrow hrequested hdispatch

theorem submit_changes (hs : Aligned s) {legId : Nat} {answer : SubmitAnswer}
    (h : (submit d legId answer).run s = .ok ((), s')) : ChangeSeq d recalls answers s s' := by
  rcases submit_ok h with rfl | ⟨leg, hsub, hwrite⟩
  · exact .refl
  · obtain ⟨hleg, hid, hrequested, -⟩ := submittable_some hsub
    obtain ⟨provider, s₁, hexpect, hrest⟩ := Tx.run_bind_eq_ok.mp hwrite
    obtain ⟨hprovider, rfl⟩ := Tx.run_expect_eq_ok.mp hexpect
    cases hanswer : answerOf provider answer with
    | booked result =>
        rw [hanswer] at hrest
        refine .single (recordBooking_change hs.sourced (fun l hl hlid hkey => ?_) hrest)
        obtain rfl := hs.inStep.legIds.eq_of_key hl hleg hlid
        refine answerOf_inHouse ?_ hanswer
        rw [registryGet_remote hprovider, hkey]
        decide
    | refused message =>
        rw [hanswer] at hrest
        exact .single (recordRefusal_change hs.inStep hleg hrequested hrest)
    | failed =>
        rw [hanswer] at hrest
        cases hrest

/-! ## Riders -/

theorem createInHouseLeg_inserted {orderId : Nat} {status : DeliveryLegStatus}
    {courierUserId : Option Nat} {leg : DeliveryLegRow}
    (h : (createInHouseLeg orderId status courierUserId).run s = .ok (leg, s')) :
    ∃ n, leg = { newLeg orderId .forward inHouseProviderKey status n none courierUserId with
        id := s.nextId, createdAt := s.now } ∧ Inserted s s' leg := by
  cases h
  exact ⟨_, rfl, rfl, rfl, rfl, rfl⟩

/-- An event the listener followed found its order where the event starts. -/
theorem apply_source {leg : DeliveryLegRow} {event : DeliveryEventType} {routeTo : Option String}
    {r : Option DeliveryLegRow} (hforward : leg.legType = .forward)
    (hmoves : event = .assigned ∨ event = .pickedUp ∨ event = .delivered)
    (hr : r = none → nextLegStatus leg.status event ≠ none)
    (h : (apply d leg event routeTo).run s = .ok (r, s')) :
    ∃ o, getOrder s leg.orderId = some o ∧ o.status = (orderEdge event).1 := by
  rcases apply_ok h with ⟨hnone, hrn, -⟩ | ⟨next, s₁, -, -, hlisten, -⟩
  · exact absurd hnone (hr hrn)
  · have hf : (noticeOf (movedLeg leg event next s.now) event).legType = .forward := by
      rw [← hforward]
      exact movedLeg_legType leg event next s.now
    rcases onDeliveryEvent_ok hf hlisten with ⟨-, hq⟩ | ⟨o, o', s₂, hm, hsource, -⟩
    · rcases hmoves with rfl | rfl | rfl
      all_goals
        rcases hq with h | ⟨h | h, -⟩ <;> cases h
    · refine ⟨o, ?_, hsource⟩
      have := hm.found
      rwa [show (noticeOf (movedLeg leg event next s.now) event).orderId = leg.orderId from
        movedLeg_orderId leg event next s.now] at this

/-- Reserving a slot touches the rider's row only. -/
theorem adjustRider_inStep (hs : InStep s) (riderId : Nat) (f : Nat → Nat) :
    InStep (adjustRider riderId f s) := hs.mono rfl rfl le_rfl

/-- A rider's accept: with a leg of the pool, or one made for the order. -/
theorem accept_changes (hs : Aligned s) {orderId riderId : Nat}
    (h : (accept d orderId riderId).run s = .ok ((), s')) : ChangeSeq d recalls answers s s' := by
  obtain ⟨reserved, s₁, hreserve, hrest⟩ := Tx.run_bind_eq_ok.mp h
  obtain ⟨_, s₂, hensure, hassign⟩ := Tx.run_bind_eq_ok.mp hrest
  obtain ⟨hreserved, rfl⟩ := Tx.run_ensure_eq_ok.mp hensure
  obtain ⟨p, hp, hpid, hslot⟩ := reserveDeliverySlot_ok hreserve
  rcases hslot with ⟨hr, -⟩ | ⟨-, hroom, rfl⟩
  · rw [hr] at hreserved
    cases hreserved
  obtain ⟨row, s₂, hrow, hclaim₁⟩ := Tx.run_bind_eq_ok.mp hassign
  obtain ⟨_, s₃, hensure₁, hclaim₂⟩ := Tx.run_bind_eq_ok.mp hclaim₁
  obtain ⟨hkey', rfl⟩ := Tx.run_ensure_eq_ok.mp hensure₁
  obtain ⟨_, s₄, hensure₂, hclaim₃⟩ := Tx.run_bind_eq_ok.mp hclaim₂
  obtain ⟨hrequested', rfl⟩ := Tx.run_ensure_eq_ok.mp hensure₂
  rw [Tx.run_read_bind] at hclaim₃
  obtain ⟨r, s₅, happly, hret⟩ := Tx.run_bind_eq_ok.mp hclaim₃
  cases hret
  have hkey := of_decide_eq_true hkey'
  have hrequested := of_decide_eq_true hrequested'
  -- the claim of a row of the table
  have hmain : ∀ {t : State}, Aligned t → p ∈ t.riders → s₂ = adjustRider riderId (· + 1) t →
      row ∈ t.legs → Change d recalls answers t s' := by
    rintro t ht hpt rfl hmem
    have hnext : nextLegStatus row.status .assigned = some .assigned := by
      rw [hrequested]
      rfl
    have hstands : Stands
        { row with
          courierUserId := some riderId
          courierName := (get UserRow.id riderId t.users).map courierNameOf
          courierPhone := (get UserRow.id riderId t.users).bind UserRow.phone } row .assigned :=
      ⟨rfl, rfl, rfl, rfl, rfl, fun h => absurd rfl h⟩
    rcases apply_advanced (adjustRider_inStep ht.inStep riderId (· + 1)) hmem hstands happly with
      ⟨hnone, -, -⟩ | ⟨next, s₁, o, o', hnext', -, hadv, hend⟩
    · rw [hnext] at hnone
      cases hnone
    · obtain rfl : DeliveryLegStatus.assigned = next := Option.some.inj (hnext.symm.trans hnext')
      rcases hend with ⟨-, rfl⟩ | ⟨he, -⟩
      · exact Change.claim hpt hpid hroom hkey rfl ⟨hmem, hstands, rfl, hnext, hadv⟩
      · cases he
  rcases activeLegOr_ok hrow with ⟨hactive, rfl⟩ | ⟨hactive, hrow⟩
  · exact .single (hmain hs hp rfl (activeLeg_some hactive).1)
  · obtain ⟨n, rfl, hinserted⟩ := createInHouseLeg_inserted hrow
    let t : State := { s with legs := s.legs ++ [adopted s orderId n], nextId := s.nextId + 1 }
    obtain rfl : adjustRider riderId (· + 1) t = s₂ := by
      cases hrow
      rfl
    obtain ⟨o, ho, hsource⟩ := apply_source rfl (Or.inl rfl) (by intro _ h; cases h) happly
    obtain ⟨homem, rfl⟩ := getOrder_mem (s := s) ho
    have hadopt : Change d recalls answers s t :=
      Change.adopt homem hsource hactive ⟨rfl, rfl, rfl, rfl⟩
    refine .head hadopt (.single (hmain (hadopt.aligned hs) hp rfl ?_))
    exact List.mem_append_right _ (List.mem_singleton.mpr rfl)

/-- A handover at a counter moves the active leg; an order under way always
has one. -/
theorem recordInHouseHandover_change (hs : Aligned s) {orderId : Nat} {event : DeliveryEventType}
    (hevent : event = .pickedUp ∨ event = .delivered)
    (h : (recordInHouseHandover d orderId event).run s = .ok ((), s')) :
    Change d recalls answers s s' := by
  obtain ⟨leg, s₁, hleg, hrest₁⟩ := Tx.run_bind_eq_ok.mp h
  obtain ⟨_, s₂, hkey, hrest₂⟩ := Tx.run_bind_eq_ok.mp hrest₁
  obtain ⟨-, rfl⟩ := Tx.run_ensure_eq_ok.mp hkey
  obtain ⟨moved, s₃, happly, hensure⟩ := Tx.run_bind_eq_ok.mp hrest₂
  obtain ⟨hmoved, rfl⟩ := Tx.run_ensure_eq_ok.mp hensure
  rcases activeLegOr_ok hleg with ⟨hactive, rfl⟩ | ⟨hactive, hcreate⟩
  · have hrow := (activeLeg_some hactive).1
    have hcarrier : leg.courierUserId = none ∨ event = .pickedUp ∨ event = .delivered ∨
        event = .cancelled ∧ recalls = true :=
      Or.inr (hevent.imp_right Or.inl)
    rcases apply_change hs.inStep hrow ((Twin.refl _).stands event) rfl rfl hcarrier happly with
      ⟨-, rfl, -⟩ | ⟨_, -, -, hchange⟩
    · cases hmoved
    · exact hchange
  · -- without an active leg the order is not under way, so the event cannot commit
    simp only [createHandoverLeg, Tx.run_read_bind] at hcreate
    obtain ⟨n, rfl, hinserted⟩ := createInHouseLeg_inserted hcreate
    obtain ⟨o, ho, hsource⟩ := apply_source rfl (Or.inr hevent)
      (by rintro rfl; cases hmoved) happly
    rw [getOrder, hinserted.frame, ← getOrder] at ho
    obtain ⟨homem, hoid⟩ := getOrder_mem ho
    have hneeds : needsLeg o.status = true := by
      rw [hsource]
      rcases hevent with rfl | rfl <;> rfl
    obtain ⟨l, hl, hlo, hact⟩ := hs.inStep.covered o homem hneeds
    rw [activeLeg_none hactive l hl (hlo.trans hoid)] at hact
    cases hact

/-! ## Counters -/

theorem edge_of_moves {x : Db OrderRow} {orderId : Nat} {source target : OrderStatus}
    {guard : OrderRow → Bool} (hx : Moves x orderId source target guard id) {o' : OrderRow}
    (h : x.run s = .ok (o', s')) : ∃ o, o.id = orderId ∧ Edge s s' o o' source target := by
  obtain ⟨o, hm, hsource, -, htarget, hrider⟩ := hx.ok h
  exact ⟨o, hm.id_eq, hm.id_eq.symm ▸ hm, hsource, htarget, hrider⟩

/-- What the body of a step did, call by call. A code is checked first where the
step asks for one; but for the rider's handovers an order then walks an edge. -/
inductive BodyRun (d : Deployment) (orderId : Nat) (s s' : State) : Prop
  | handover {s₁ : State} {type : HandoffCodeType} {code : String} {event : DeliveryEventType}
      (hvalidate : (validate d orderId type code).run s = .ok ((), s₁))
      (hevent : event = .pickedUp ∨ event = .delivered)
      (h : (recordInHouseHandover d orderId event).run s₁ = .ok ((), s'))
  | dropOff {s₁ s₂ : State} {o o' : OrderRow} {event : OutboxEvent} {r : Option DeliveryLegRow}
      (hedge : Edge s s₁ o o' .awaitingDropOff .parcelReceivedAtOrigin)
      (hmail : (enqueue event).run s₁ = .ok ((), s₂))
      (hdispatch : (dispatch d o.id .forward none).run s₂ = .ok (r, s'))
  | intake {s₁ s₂ : State} {o o' : OrderRow} {type : HandoffCodeType} {ttlMinutes : Nat}
      {code : String} {event : OutboxEvent}
      (hedge : Edge s s₁ o o' .arrivedAtDestination .readyForCollection)
      (hissue : (issue d orderId type none ttlMinutes code).run s₁ = .ok ((), s₂))
      (hmail : (enqueue event).run s₂ = .ok ((), s'))
  | returnIntake {s₁ s₂ : State} {o o' : OrderRow} {type : HandoffCodeType} {ttlMinutes : Nat}
      {code : String} {event : OutboxEvent}
      (hedge : Edge s s₁ o o' .returnedToOrigin .readyForSenderCollection)
      (hissue : (issue d orderId type none ttlMinutes code).run s₁ = .ok ((), s₂))
      (hmail : (enqueue event).run s₂ = .ok ((), s'))
  | collect {s₁ s₂ : State} {o o' : OrderRow} {type : HandoffCodeType} {code : String}
      (hvalidate : (validate d orderId type code).run s = .ok ((), s₁))
      (hedge : Edge s₁ s₂ o o' .readyForCollection .completed)
      (hrecord : (record o').run s₂ = .ok ((), s'))
  | returnCollect {s₁ s₂ : State} {o o' : OrderRow} {type : HandoffCodeType} {code : String}
      (hvalidate : (validate d orderId type code).run s = .ok ((), s₁))
      (hedge : Edge s₁ s₂ o o' .readyForSenderCollection .returnCompleted)
      (hrelease : s' = releaseNode o'.originNodeId s₂)

theorem stepBody_ok {step : ConfirmStep} {orderId : Nat} {args : ConfirmArgs} {o' : OrderRow}
    (h : (stepBody d step orderId args).run s = .ok (o', s')) : BodyRun d orderId s s' := by
  have handover : ∀ {type event}, event = .pickedUp ∨ event = .delivered →
      (confirmHandoff d orderId type event args.code).run s = .ok (o', s') →
      BodyRun d orderId s s' := by
    intro type event hevent h
    obtain ⟨_, s₁, hvalidate, hrest⟩ := Tx.run_bind_eq_ok.mp h
    obtain ⟨_, s₂, hhandover, hread⟩ := Tx.run_bind_eq_ok.mp hrest
    rw [Tx.run_read_bind] at hread
    obtain ⟨-, rfl⟩ := Tx.run_expect_eq_ok.mp hread
    exact .handover hvalidate hevent hhandover
  cases step with
  | dropOff =>
      obtain ⟨row, s₁, hmove, hrest⟩ := Tx.run_bind_eq_ok.mp h
      obtain ⟨o, hoid, hedge⟩ := edge_of_moves (markReceivedAtOrigin_moves orderId) hmove
      obtain ⟨_, s₂, hmail, hrest⟩ := Tx.run_bind_eq_ok.mp hrest
      obtain ⟨r, s₃, hdispatch, hret⟩ := Tx.run_bind_eq_ok.mp hrest
      cases hret
      rw [← hoid] at hdispatch
      exact .dropOff hedge hmail hdispatch
  | pickup => exact handover (Or.inl rfl) h
  | arrival => exact handover (Or.inr rfl) h
  | intake =>
      obtain ⟨row, s₁, hmove, hrest⟩ := Tx.run_bind_eq_ok.mp h
      obtain ⟨o, -, hedge⟩ := edge_of_moves (markReadyForCollection_moves orderId) hmove
      obtain ⟨_, s₂, hissue, hrest⟩ := Tx.run_bind_eq_ok.mp hrest
      obtain ⟨_, s₃, hmail, hret⟩ := Tx.run_bind_eq_ok.mp hrest
      cases hret
      exact .intake hedge hissue hmail
  | collection =>
      obtain ⟨_, s₁, hvalidate, hrest⟩ := Tx.run_bind_eq_ok.mp h
      obtain ⟨row, s₂, hmove, hrest⟩ := Tx.run_bind_eq_ok.mp hrest
      obtain ⟨o, -, hedge⟩ := edge_of_moves (markCollected_moves orderId _) hmove
      obtain ⟨_, s₃, hrecord, hret⟩ := Tx.run_bind_eq_ok.mp hrest
      cases hret
      exact .collect hvalidate hedge hrecord
  | returnIntake =>
      obtain ⟨row, s₁, hmove, hrest⟩ := Tx.run_bind_eq_ok.mp h
      obtain ⟨o, -, hedge⟩ := edge_of_moves (markReadyForSenderCollection_moves orderId) hmove
      obtain ⟨_, s₂, hissue, hrest⟩ := Tx.run_bind_eq_ok.mp hrest
      obtain ⟨_, s₃, hmail, hret⟩ := Tx.run_bind_eq_ok.mp hrest
      cases hret
      exact .returnIntake hedge hissue hmail
  | returnCollect =>
      obtain ⟨_, s₁, hvalidate, hrest⟩ := Tx.run_bind_eq_ok.mp h
      obtain ⟨row, s₂, hmove, hrest⟩ := Tx.run_bind_eq_ok.mp hrest
      obtain ⟨o, -, hedge⟩ := edge_of_moves (markCollectedBySender_moves orderId _) hmove
      obtain ⟨_, s₃, hrelease, hret⟩ := Tx.run_bind_eq_ok.mp hrest
      cases hret
      cases hrelease
      exact .returnCollect hvalidate hedge rfl

/-- **A confirming step**, under its fresh key. -/
theorem stepBody_changes (hs : Aligned s) {step : ConfirmStep} {orderId : Nat} {args : ConfirmArgs}
    {o' : OrderRow} (h : (stepBody d step orderId args).run s = .ok (o', s')) :
    ChangeSeq d recalls answers s s' := by
  have hcode : ∀ {type code s₁}, (validate d orderId type code).run s = .ok ((), s₁) →
      Change d recalls answers s s₁ :=
    fun hvalidate => Change.clerical (validate_noted _ _ _ _ s () _ hvalidate).clerical
  cases stepBody_ok h with
  | handover hvalidate hevent hhandover =>
      exact .head (hcode hvalidate)
        (.single (recordInHouseHandover_change ((hcode hvalidate).aligned hs) hevent hhandover))
  | dropOff hedge hmail hdispatch =>
      exact .single (Change.dropOff hedge (enqueue_noted _ _ () _ hmail).clerical hdispatch)
  | intake hedge hissue hmail =>
      exact .single (Change.intake hedge (noted_frame.trans
        (issue_noted _ _ _ _ _ _ _ () _ hissue) (enqueue_noted _ _ () s' hmail)).clerical)
  | returnIntake hedge hissue hmail =>
      exact .single (Change.returnIntake hedge (noted_frame.trans
        (issue_noted _ _ _ _ _ _ _ () _ hissue) (enqueue_noted _ _ () s' hmail)).clerical)
  | collect hvalidate hedge hrecord =>
      obtain ⟨rule, -, hrecorded⟩ := record_ok hrecord
      exact .head (hcode hvalidate) (.single (Change.collect hedge hrecorded))
  | returnCollect hvalidate hedge hrelease =>
      exact .head (hcode hvalidate) (.single (Change.returnCollect hedge hrelease))

theorem insertKey_change (scope : String) (key : Nat) :
    Change d recalls answers s (insertKey scope key s) := Change.key ⟨scope, key⟩ rfl

theorem confirm_changes (hs : Aligned s) {step : ConfirmStep} {orderId : Nat} {args : ConfirmArgs}
    {o : OrderRow} (h : (Handoffs.confirm d step orderId args).run s = .ok (o, s')) :
    ChangeSeq d recalls answers s s' := by
  rcases confirm_ok h with ⟨-, -, rfl⟩ | ⟨-, hbody⟩
  · exact .refl
  · have hkey : Change d recalls answers s (insertKey step.scope orderId s) := insertKey_change _ _
    exact .head hkey (stepBody_changes (hkey.aligned hs) hbody)

/-! ## Payments -/

theorem payment_changes {asked : PaymentIntentRow → Prop} {answer : VerifyAnswer}
    (hanswers : ∀ i, asked i → answers i = answer) (h : PaymentEffect asked answer s s') :
    ChangeSeq d recalls answers s s' := by
  cases h with
  | idle => exact .refl
  | keyed reference => exact .single (insertKey_change paymentWebhookScope reference)
  | @paid intent verification order _ reference hasked hanswer hpayable h =>
      have hpay : answers intent = some verification := (hanswers intent hasked).trans hanswer
      exact .head (insertKey_change paymentWebhookScope reference)
        (.single (Change.pay hpay ⟨hpayable.stored, hpayable.pending, hpayable.full⟩ h))
  | expired hmem hpending => exact .single (Change.expire hmem hpending rfl)

/-! ## Steps and runs -/

/-- The actions that take back a leg a Locoomo rider has claimed. -/
def recalling (s : State) : Action → Bool
  | .cancelLeg legId _ _ => recalled s legId
  | _ => false

/-- What the provider says in the course of an action. -/
def answered : Action → Answers
  | .webhook reference answer _ => fun i =>
      if i.providerReference = some reference then answer else none
  | .pollIntent intentId answer _ => fun i => if i.id = intentId then answer else none
  | _ => fun _ => none

theorem tx_changes (hs : Aligned s) {a : Action} (hrecalls : recalling s a = true → recalls = true)
    (h : (tx d a).run s = .ok ((), s')) : ChangeSeq d recalls (answered a) s s' := by
  cases hclerical : isClerical a with
  | true => exact .single (Change.clerical (tx_clerical d hclerical s () s' h))
  | false =>
      cases a with
      | createIntent payerId dto =>
          obtain ⟨intent, s₁, hcreate, hret⟩ := Tx.run_bind_eq_ok.mp h
          cases hret
          exact .single (Change.book (createIntent_ok hcreate))
      | setProviderReference intentId => exact .single (Change.refer intentId h)
      | webhook reference answer drawnCodes =>
          exact payment_changes (fun i hi => if_pos hi) (handleWebhook_effect h)
      | pollIntent intentId answer drawnCodes =>
          exact payment_changes (fun i hi => if_pos hi) (pollIntent_effect h)
      | confirm step orderId args =>
          obtain ⟨o, s₁, hconfirm, hret⟩ := Tx.run_bind_eq_ok.mp h
          cases hret
          exact confirm_changes hs hconfirm
      | accept orderId riderId => exact accept_changes hs h
      | dispatch orderId providerKey =>
          rw [tx, dispatchWaiting, Tx.run_read_bind] at h
          obtain ⟨_, s₁, hensure, hrest⟩ := Tx.run_bind_eq_ok.mp h
          obtain ⟨hwaiting, rfl⟩ := Tx.run_ensure_eq_ok.mp hensure
          obtain ⟨r, s₂, hdispatch, hret⟩ := Tx.run_bind_eq_ok.mp hrest
          cases hret
          obtain ⟨o, ho, hstatus⟩ := (Option.any_eq_true _ _).mp hwaiting
          obtain rfl : o.id = orderId := (getOrder_mem ho).2
          exact .single (Change.dispatch ho (of_decide_eq_true hstatus) hdispatch)
      | submit legId answer => exact submit_changes hs h
      | syncFromSnapshot providerKey snapshot =>
          obtain ⟨r, s₁, hsync, hret⟩ := Tx.run_bind_eq_ok.mp h
          cases hret
          exact syncFromSnapshot_changes hs hsync
      | cancelLeg legId reason thenRouteTo =>
          obtain ⟨r, s₁, hcancel, hret⟩ := Tx.run_bind_eq_ok.mp h
          cases hret
          exact cancelLeg_changes hs hrecalls hcancel
      | fallbackToInHouse legId => exact fallbackToInHouse_changes hs h
      | _ => cases hclerical

/-- **A step is a sequence of changes.** -/
theorem exec_changes (hs : Aligned s) (a : Action) :
    ChangeSeq d (recalling s a) (answered a) s (exec d s a) := by
  rcases exec_cases d s a with ⟨s', h, he⟩ | ⟨e, -, he⟩
  · rw [he]
    exact tx_changes hs (fun h => h) h
  · rw [he]
    exact .single (Change.clerical (rollback_clerical s e))

theorem exec_changes_recalling (hs : Aligned s) (a : Action) :
    ChangeSeq d true (answered a) s (exec d s a) := by
  rcases exec_cases d s a with ⟨s', h, he⟩ | ⟨e, -, he⟩
  · rw [he]
    exact tx_changes hs (fun _ => rfl) h
  · rw [he]
    exact .single (Change.clerical (rollback_clerical s e))

/-- An invariant of every change is an invariant of every step. -/
theorem exec_keeps {P : State → Prop}
    (hchange : ∀ {answers s s'}, Aligned s → P s → Change d true answers s s' → P s')
    (hs : Aligned s) (hp : P s) (a : Action) : Aligned (exec d s a) ∧ P (exec d s a) :=
  ChangeSeq.keeps hchange (exec_changes_recalling hs a) hs hp

/-- **The rule for runs**: what every change keeps holds in every reachable state. -/
theorem run_keeps {P : State → Prop}
    (hchange : ∀ {answers s s'}, Aligned s → P s → Change d true answers s s' → P s')
    (hs : Aligned s) (hp : P s)
    (as : List Action) : Aligned (run d s as) ∧ P (run d s as) :=
  Runs.run_invariant (P := fun s => Aligned s ∧ P s)
    (fun _ a h => exec_keeps hchange h.1 h.2 a) ⟨hs, hp⟩ as

end Locoomo.Transactions
