import Locoomo.Books
import Locoomo.Turns

/-! The transactions of the system, turn by turn; and the steps of interleaved
submissions and cancellations, whose rows in memory stay rows of the table. -/

namespace Locoomo.Turns

open Locoomo.Delivery Locoomo.Database Locoomo.Routing Locoomo.Logistics Locoomo.Handoffs
  Locoomo.Payments Locoomo.System Locoomo.OrderMoves Locoomo.LegMoves Locoomo.Soundness
  Locoomo.Lockstep Locoomo.Frames Locoomo.Changes Locoomo.Transactions Locoomo.Interleaved
  Relational

variable {d : Deployment} {target : Option Nat} {s s₁ s' : State}

/-! ## Leg events, turn by turn -/

@[simp] theorem sideEffect_providers (notice : DeliveryEventNotice) (o : OrderRow) (s : State) :
    (sideEffect notice o s).providers = s.providers := by
  obtain ⟨orderId, legId, legType, providerKey, event, courierUserId, reason⟩ := notice
  cases event <;> cases courierUserId <;> rfl

/-- A quiet listener belongs to a leg that goes on, or to a cancelled one. -/
theorem active_of_quiet {current next : DeliveryLegStatus} {notice : DeliveryEventNotice}
    (hnext : nextLegStatus current notice.event = some next) (h : Quiet s notice) :
    isActive next = true ∨ notice.event = .cancelled := by
  have hevent : notice.event = .attemptFailed ∨ notice.event = .released ∨
      notice.event = .cancelled := h.imp_right And.left
  revert hnext hevent
  generalize notice.event = event
  cases event <;> cases current <;> cases next <;> decide

theorem apply_fired (hs : Sound s) {row leg : DeliveryLegRow} {event : DeliveryEventType}
    {routeTo : Option String} {r : Option DeliveryLegRow} (hrow : row ∈ s.legs)
    (hstands : Stands leg row event) (hext : leg.externalId = row.externalId)
    (h : (apply d leg event routeTo).run s = .ok (r, s')) :
    (nextLegStatus row.status event = none ∧ r = none ∧ s' = s) ∨
      ∃ next s₁, nextLegStatus row.status event = some next ∧
        r = some (movedLeg leg event next s.now) ∧ Fired s s₁ row leg event next ∧
        (event ≠ .cancelled ∧ s' = s₁ ∨
          event = .cancelled ∧ ∃ r', (Logistics.dispatch d row.orderId .forward routeTo).run s₁
            = .ok (r', s')) := by
  have hforward : leg.legType = .forward := hstands.legType.trans (hs.forward row hrow)
  have happlies := apply_ok h
  rw [hstands.status, hstands.orderId, hforward] at happlies
  rcases happlies with hnone | ⟨next, s₁, hnext, hr, hlisten, hrest⟩
  · exact Or.inl hnone
  · refine Or.inr ⟨next, s₁, hnext, hr, ?_, hrest⟩
    let notice := noticeOf (movedLeg leg event next s.now) event
    have horder : notice.orderId = row.orderId :=
      (movedLeg_orderId leg event next s.now).trans hstands.orderId
    have hf : notice.legType = .forward := (movedLeg_legType leg event next s.now).trans hforward
    rcases onDeliveryEvent_ok hf hlisten with ⟨rfl, hq⟩ | hmove
    · exact
        { row_mem := hrow, stands := hstands, externalId := hext, applies := hnext, legs := rfl
          providers := rfl, nextId := rfl, order := Or.inl ⟨rfl, active_of_quiet hnext hq⟩ }
    · obtain ⟨o, o', s₂, hm, hsource, -, htarget, -, rfl, -⟩ := hmove
      have hwalked : Walked s (sideEffect notice o' s₂) o o' (orderEdge event).1
          (orderEdge event).2 :=
        ⟨hm.mem, by rw [sideEffect_orders, hm.orders]; rfl, hm.same, hsource, htarget⟩
      exact
        { row_mem := hrow, stands := hstands, externalId := hext, applies := hnext
          legs := by rw [sideEffect_legs, hm.frame]; rfl
          providers := by rw [sideEffect_providers, hm.frame]; rfl
          nextId := by rw [sideEffect_nextId, hm.frame]; rfl
          order := Or.inr ⟨o, o', hm.id_eq.trans horder, hwalked⟩ }

/-- The moved row is in the table it was moved in. -/
theorem Fired.stored {row leg : DeliveryLegRow} {event : DeliveryEventType}
    {next : DeliveryLegStatus} (h : Fired s s₁ row leg event next) :
    movedLeg leg event next s.now ∈ s₁.legs := by
  have hid : row.id = (movedLeg leg event next s.now).id := by
    rw [movedLeg_id, h.stands.id]
  rw [h.legs]
  exact mem_put.mpr (Or.inl ⟨rfl, row, h.row_mem, hid⟩)

/-- A committed event is one turn, and its leg stays where it is. -/
theorem apply_turn (hs : Sound s) {row leg : DeliveryLegRow} {event : DeliveryEventType}
    {routeTo : Option String} {r : Option DeliveryLegRow} (hroute : IsOpenRoute routeTo)
    (hrow : row ∈ s.legs) (hstands : Stands leg row event) (hext : leg.externalId = row.externalId)
    (hend : ∀ next, nextLegStatus row.status event = some next → isActive next = false →
      event ≠ .cancelled ∧ row.providerKey = inHouseProviderKey ∨ target = some row.id)
    (h : (apply d leg event routeTo).run s = .ok (r, s')) :
    (nextLegStatus row.status event = none ∧ r = none ∧ s' = s) ∨
      ∃ next, nextLegStatus row.status event = some next ∧
        r = some (movedLeg leg event next s.now) ∧ Turn d target s s' ∧
        movedLeg leg event next s.now ∈ s'.legs := by
  rcases apply_fired hs hrow hstands hext h with hnone | ⟨next, s₁, hnext, hr, hfired, hrest⟩
  · exact Or.inl hnone
  · refine Or.inr ⟨next, hnext, hr, ?_⟩
    rcases hrest with ⟨hevent, rfl⟩ | ⟨rfl, r', hdispatch⟩
    · exact ⟨.event hfired hevent fun hover => (hend next hnext hover).imp_left And.right,
        hfired.stored⟩
    · obtain rfl : next = .cancelled := (nextLegStatus_eq_some.mp hnext).2
      have htarget : target = some row.id := by
        rcases hend .cancelled hnext rfl with ⟨hne, -⟩ | htarget
        · exact absurd rfl hne
        · exact htarget
      refine ⟨.cancel hfired htarget hroute hdispatch, ?_⟩
      rcases dispatch_cases (hfired.sound hs) hdispatch with rfl | ⟨leg', hbooking⟩
      · exact hfired.stored
      · rw [hbooking.inserted.legs]
        exact List.mem_append_left _ hfired.stored

/-- The catch-up of a leg ends it only when the reported status is an end. -/
theorem applyAll_turns {events : List DeliveryEventType} {goal : DeliveryLegStatus}
    {row leg : DeliveryLegRow} (hs : Sound s) (hrow : row ∈ s.legs) (htwin : Twin leg row)
    (hext : leg.externalId = row.externalId) (hgoal : follow row.status events = some goal)
    (hend : isActive goal = false → target = some row.id)
    (h : (applyAll d leg events).run s = .ok ((), s')) : TurnSeq d target s s' := by
  induction events generalizing s leg row with
  | nil =>
      cases h
      exact .refl
  | cons event events ih =>
      obtain ⟨r, s₁, happly, hrest⟩ := Tx.run_bind_eq_ok.mp h
      rw [follow, Option.bind_eq_some_iff] at hgoal
      obtain ⟨next, hnext, hgoal⟩ := hgoal
      have hlast : isActive next = false → target = some row.id := by
        intro hover
        cases events with
        | nil =>
            obtain rfl : next = goal := by simpa [follow] using hgoal
            exact hend hover
        | cons event' events =>
            rw [follow, Option.bind_eq_some_iff] at hgoal
            obtain ⟨_, hnext', -⟩ := hgoal
            rw [isActive_of_next hnext'] at hover
            cases hover
      have hnext_end : ∀ next', nextLegStatus row.status event = some next' →
          isActive next' = false →
          event ≠ .cancelled ∧ row.providerKey = inHouseProviderKey ∨ target = some row.id := by
        intro next' hnext' hover
        obtain rfl : next = next' := Option.some.inj (hnext.symm.trans hnext')
        exact Or.inr (hlast hover)
      rcases apply_turn hs (Or.inl rfl) hrow (htwin.stands event) hext hnext_end happly with
        ⟨hnone, -, -⟩ | ⟨next', hnext', rfl, hturn, hstored⟩
      · rw [hnext] at hnone
        cases hnone
      · obtain rfl : next = next' := Option.some.inj (hnext.symm.trans hnext')
        refine .head hturn (ih (hturn.sound hs) hstored (Twin.refl _) rfl ?_ ?_ hrest)
        · rw [movedLeg_status]
          exact hgoal
        · rw [movedLeg_id, htwin.id]
          exact hend

/-- The leg a snapshot ends: one of ours, by a fresh report of an end that lies
ahead of it. -/
def endedBySnapshot (s : State) (providerKey : String) (snapshot : ProviderDeliverySnapshot) :
    Option Nat :=
  if isActive snapshot.status then none
  else
    ((findByExternalId s providerKey snapshot.externalId).filter fun leg =>
      !isStale leg snapshot && eventsToReach leg.status snapshot.status ≠ []).map
      DeliveryLegRow.id

theorem endedBySnapshot_some {providerKey : String} {snapshot : ProviderDeliverySnapshot}
    {legId : Nat} (h : endedBySnapshot s providerKey snapshot = some legId) :
    isActive snapshot.status = false ∧ ∃ leg ∈ s.legs, leg.id = legId ∧
      leg.providerKey = providerKey ∧ leg.externalId = some snapshot.externalId := by
  unfold endedBySnapshot at h
  split at h
  · cases h
  · next hover =>
      obtain ⟨leg, hleg, rfl⟩ := Option.map_eq_some_iff.mp h
      obtain ⟨hmem, hkey, hext⟩ := findByExternalId_mem (Option.filter_eq_some_iff.mp hleg).1
      exact ⟨by simpa using hover, leg, hmem, rfl, hkey, hext⟩

theorem syncFromSnapshot_turns (hs : Sound s) {providerKey : String}
    {snapshot : ProviderDeliverySnapshot} {r : Bool}
    (h : (syncFromSnapshot d providerKey snapshot).run s = .ok (r, s')) :
    TurnSeq d (endedBySnapshot s providerKey snapshot) s s' := by
  rcases syncFromSnapshot_ok h with rfl | ⟨leg, hfound, hfresh, hrest⟩
  · exact .refl
  · obtain ⟨hleg, -, -⟩ := findByExternalId_mem hfound
    rcases hrest with rfl | ⟨hsteps, hall⟩
    · refine .single (.relabel rfl (fun l hl hkey => ?_) fun l hl hkey _ => ?_)
      · obtain rfl := hs.legIds.eq_of_key hl hleg (of_decide_eq_true hkey)
        exact withSnapshot_twin l snapshot
      · obtain rfl := hs.legIds.eq_of_key hl hleg (of_decide_eq_true hkey)
        exact Or.inl rfl
    · refine applyAll_turns hs hleg (withSnapshot_twin leg snapshot) rfl
        (follow_eventsToReach hsteps) (fun hover => ?_) hall
      rw [endedBySnapshot, hfound, hover, Option.filter_some_pos]
      · rfl
      · simpa [hfresh] using hsteps

/-- The leg `cancelLeg` ends, unless it is past that. -/
def cancelledLeg (s : State) (legId : Nat) : Option Nat :=
  ((getLeg s legId).filter fun leg => (nextLegStatus leg.status .cancelled).isSome).map
    DeliveryLegRow.id

theorem cancelledLeg_some {legId endedId : Nat} (h : cancelledLeg s legId = some endedId) :
    endedId = legId := by
  obtain ⟨leg, hleg, rfl⟩ := Option.map_eq_some_iff.mp h
  exact (get_some (Option.filter_eq_some_iff.mp hleg).1).2

theorem cancelLeg_turns (hs : Sound s) {legId : Nat} {reason : String} {routeTo : Option String}
    {r : Bool} (hroute : IsOpenRoute routeTo)
    (h : (Logistics.cancelLeg d legId reason routeTo).run s = .ok (r, s')) :
    TurnSeq d (cancelledLeg s legId) s s' := by
  rcases cancelLeg_ok h with rfl | ⟨leg, moved, hleg, happly⟩
  · exact .refl
  · obtain ⟨hrow, rfl⟩ := get_some hleg
    have hstands : Stands { leg with failureReason := some reason } leg .cancelled :=
      ⟨rfl, rfl, rfl, rfl, rfl, fun _ => rfl⟩
    have hend : ∀ next, nextLegStatus leg.status .cancelled = some next →
        isActive next = false → DeliveryEventType.cancelled ≠ .cancelled ∧
          leg.providerKey = inHouseProviderKey ∨ cancelledLeg s leg.id = some leg.id := by
      intro next hnext _
      right
      rw [cancelledLeg, hleg, Option.filter_some_pos]
      · rfl
      · rw [hnext]
        rfl
    rcases apply_turn hs hroute hrow hstands rfl hend happly with
      ⟨-, -, rfl⟩ | ⟨_, -, -, hturn, -⟩
    · exact .refl
    · exact .single hturn

/-! ## Submissions -/

/-- The leg a written answer ends: that of a refusal by a remote courier. -/
def refusedLeg (d : Deployment) (leg : DeliveryLegRow) (answer : SubmitAnswer) : Option Nat :=
  (registryGet d leg.providerKey).bind fun provider =>
    match answerOf provider answer with
    | .refused _ => some leg.id
    | _ => none

/-- Only a remote courier can refuse. -/
theorem refusedLeg_some {leg : DeliveryLegRow} {answer : SubmitAnswer} {legId : Nat}
    (h : refusedLeg d leg answer = some legId) :
    legId = leg.id ∧ leg.providerKey ≠ inHouseProviderKey := by
  obtain ⟨provider, hprovider, hanswer⟩ := Option.bind_eq_some_iff.mp h
  cases hrefused : answerOf provider answer with
  | booked result =>
      rw [hrefused] at hanswer
      cases hanswer
  | failed =>
      rw [hrefused] at hanswer
      cases hanswer
  | refused message =>
      rw [hrefused] at hanswer
      refine ⟨(Option.some.inj hanswer).symm, ?_⟩
      have hremote : provider.remoteSubmission = true := by
        by_contra hlocal
        rw [answerOf, if_neg hlocal] at hrefused
        cases hrefused
      rw [registryGet_remote hprovider] at hremote
      exact of_decide_eq_true hremote

/-- A row read earlier is the row of its id still, in the columns that no
transaction changes. -/
structure Captured (s : State) (leg row : DeliveryLegRow) : Prop where
  row_mem : row ∈ s.legs
  id : row.id = leg.id
  orderId : row.orderId = leg.orderId
  providerKey : row.providerKey = leg.providerKey
  forward : leg.legType = .forward

/-- The outcome of a submission, whatever has happened to the leg meanwhile. -/
theorem writeAnswer_turns (hs : Sound s) {leg row : DeliveryLegRow} {answer : SubmitAnswer}
    (hrow : Captured s leg row) (h : (writeAnswer d leg answer).run s = .ok ((), s')) :
    TurnSeq d (refusedLeg d leg answer) s s' := by
  obtain ⟨provider, s₁, hexpect, hrest⟩ := Tx.run_bind_eq_ok.mp h
  obtain ⟨hprovider, rfl⟩ := Tx.run_expect_eq_ok.mp hexpect
  cases hanswer : answerOf provider answer with
  | booked result =>
      rw [hanswer] at hrest
      cases hrest
      refine .single (.relabel rfl (fun l _ _ => ⟨rfl, rfl, rfl, rfl, rfl, rfl⟩) ?_)
      intro l hl hid hkey
      obtain rfl := hs.legIds.eq_of_key hl hrow.row_mem ((of_decide_eq_true hid).trans hrow.id.symm)
      refine Or.inr (answerOf_inHouse ?_ hanswer)
      rw [registryGet_remote hprovider, ← hrow.providerKey, hkey]
      decide
  | refused message =>
      rw [hanswer] at hrest
      change (recordRefusal d leg message).run s = _ at hrest
      rw [recordRefusal, Tx.run_write_bind] at hrest
      obtain ⟨r, s₂, hdispatch, hret⟩ := Tx.run_bind_eq_ok.mp hrest
      cases hret
      let reason := String.ofList (message.toList.take 500)
      have hset : update (fun l => l.id = row.id) (fun l => refused s l reason) s.legs
          = put DeliveryLegRow.id (refused s row reason) s.legs :=
        update_key_eq_put hs.legIds hrow.row_mem rfl
      change (Logistics.dispatch d leg.orderId leg.legType none).run
        { s with legs := update (fun l => l.id = leg.id) (fun l => refused s l reason) s.legs }
          = .ok (r, s') at hdispatch
      rw [hrow.forward, ← hrow.orderId, ← hrow.id, hset] at hdispatch
      have htarget : refusedLeg d leg answer = some row.id := by
        rw [refusedLeg, hprovider, Option.bind_some, hanswer, hrow.id]
      exact .single (.refuse hrow.row_mem htarget hdispatch)
  | failed =>
      rw [hanswer] at hrest
      cases hrest

theorem submit_turns (hs : Sound s) {legId : Nat} {answer : SubmitAnswer}
    (h : (submit d legId answer).run s = .ok ((), s')) :
    TurnSeq d ((submittable s legId).bind fun leg => refusedLeg d leg answer) s s' := by
  rcases submit_ok h with rfl | ⟨leg, hsub, hwrite⟩
  · exact .refl
  · obtain ⟨hleg, -, -, -⟩ := submittable_some hsub
    rw [hsub]
    exact writeAnswer_turns hs ⟨hleg, rfl, rfl, rfl, hs.forward leg hleg⟩ hwrite

/-! ## Riders and counters -/

theorem calm_frame : Tx.Frame Calm where
  refl _ := ⟨rfl, rfl, rfl, le_rfl⟩
  trans h₁ h₂ := ⟨h₂.legs.trans h₁.legs, h₂.orders.trans h₁.orders,
    h₂.providers.trans h₁.providers, h₁.nextId.trans h₂.nextId⟩

open Tx (Keeps)

theorem calm_of_noted (h : Noted s s') : Calm s s' :=
  ⟨by rw [h.frame], by rw [h.frame], by rw [h.frame], h.nextId⟩

theorem record_calm (order : OrderRow) : Keeps Calm (record order) := by
  intro s _ s' h
  obtain ⟨rule, -, hrecorded⟩ := record_ok h
  rw [hrecorded.eq]
  exact ⟨rfl, rfl, rfl, le_rfl⟩

/-- A leg made up at a counter, for an order that turns out to exist. -/
theorem adopt_turn {orderId : Nat} {status : DeliveryLegStatus} {courierUserId : Option Nat}
    {leg : DeliveryLegRow} (hactive : isActive status = true) (hnone : activeLeg s orderId = none)
    (h : (createInHouseLeg orderId status courierUserId).run s = .ok (leg, s₁))
    (horder : ∃ o, getOrder s₁ leg.orderId = some o) : Turn d target s s₁ := by
  obtain ⟨n, rfl, hinserted⟩ := createInHouseLeg_inserted h
  obtain ⟨o, ho⟩ := horder
  rw [getOrder, hinserted.frame, ← getOrder] at ho
  obtain ⟨homem, hoid⟩ := getOrder_mem ho
  exact .adopt ⟨o, homem, hoid⟩ hnone rfl rfl rfl hactive hinserted

/-- An event at a counter on the active leg, or on one made up for it. -/
theorem activeLegOr_turns (hs : Sound s) {orderId : Nat} {create : Db DeliveryLegRow}
    {event : DeliveryEventType} {leg entity : DeliveryLegRow} {r : Option DeliveryLegRow}
    (hcreate : create.run s = .ok (leg, s₁) → ∃ status courierUserId, isActive status = true ∧
      (createInHouseLeg orderId status courierUserId).run s = .ok (leg, s₁))
    (hevent : event = .assigned ∨ event = .pickedUp ∨ event = .delivered)
    (hstands : Stands entity leg event) (hext : entity.externalId = leg.externalId)
    (hmoved : r = none → nextLegStatus leg.status event ≠ none)
    (hleg : (activeLegOr orderId create).run s = .ok (leg, s₁))
    (hkey : leg.providerKey = inHouseProviderKey)
    (happly : (apply d entity event none).run s₁ = .ok (r, s')) : TurnSeq d target s s' := by
  have hmain : ∀ {t}, Sound t → leg ∈ t.legs →
      (apply d entity event none).run t = .ok (r, s') → TurnSeq d target t s' := by
    intro t ht hmem h
    have hne : event ≠ .cancelled := by
      rcases hevent with rfl | rfl | rfl
      all_goals decide
    rcases apply_turn ht (Or.inl rfl) hmem hstands hext (fun _ _ _ => Or.inl ⟨hne, hkey⟩) h with
      ⟨-, -, rfl⟩ | ⟨_, -, -, hturn, -⟩
    · exact .refl
    · exact .single hturn
  rcases activeLegOr_ok hleg with ⟨hfound, rfl⟩ | ⟨hfound, hleg⟩
  · exact hmain hs (activeLeg_some hfound).1 happly
  · obtain ⟨status, courierUserId, hactive, hinsert⟩ := hcreate hleg
    obtain ⟨n, hrow, hinserted⟩ := createInHouseLeg_inserted hinsert
    have hforward : entity.legType = .forward := by
      rw [hstands.legType, hrow]
      rfl
    rw [← hstands.status] at hmoved
    obtain ⟨o, ho, -⟩ := apply_source hforward hevent hmoved happly
    rw [hstands.orderId] at ho
    have hadopt : Turn d target s s₁ := adopt_turn hactive hfound hinsert ⟨o, ho⟩
    refine .head hadopt (hmain (hadopt.sound hs) ?_ happly)
    rw [hinserted.legs]
    exact List.mem_append_right _ (List.mem_singleton.mpr rfl)

theorem accept_turns (hs : Sound s) {orderId riderId : Nat}
    (h : (accept d orderId riderId).run s = .ok ((), s')) : TurnSeq d target s s' := by
  obtain ⟨reserved, s₁, hreserve, hrest⟩ := Tx.run_bind_eq_ok.mp h
  obtain ⟨_, s₂, hensure, hassign⟩ := Tx.run_bind_eq_ok.mp hrest
  obtain ⟨-, rfl⟩ := Tx.run_ensure_eq_ok.mp hensure
  have hcalm : Calm s s₁ := by
    obtain ⟨p, -, -, ⟨-, rfl⟩ | ⟨-, -, rfl⟩⟩ := reserveDeliverySlot_ok hreserve
    · exact calm_frame.refl s₁
    · exact ⟨rfl, rfl, rfl, le_rfl⟩
  obtain ⟨leg, s₃, hleg, hclaim₁⟩ := Tx.run_bind_eq_ok.mp hassign
  obtain ⟨_, s₄, hensure₁, hclaim₂⟩ := Tx.run_bind_eq_ok.mp hclaim₁
  obtain ⟨hkey, rfl⟩ := Tx.run_ensure_eq_ok.mp hensure₁
  obtain ⟨_, s₅, hensure₂, hclaim₃⟩ := Tx.run_bind_eq_ok.mp hclaim₂
  obtain ⟨hrequested, rfl⟩ := Tx.run_ensure_eq_ok.mp hensure₂
  rw [Tx.run_read_bind] at hclaim₃
  obtain ⟨r, s₆, happly, hret⟩ := Tx.run_bind_eq_ok.mp hclaim₃
  cases hret
  have hnext : nextLegStatus leg.status .assigned ≠ none := by
    rw [of_decide_eq_true hrequested]
    decide
  have hcreate : (createInHouseLeg orderId .requested none).run s₁ = .ok (leg, s₃) →
      ∃ status courierUserId, isActive status = true ∧
        (createInHouseLeg orderId status courierUserId).run s₁ = .ok (leg, s₃) :=
    fun h => ⟨.requested, none, rfl, h⟩
  refine .head (.calm hcalm) (activeLegOr_turns (hcalm.sound hs) hcreate (Or.inl rfl) ?_ ?_
    (fun _ => hnext) hleg (of_decide_eq_true hkey) happly)
  · exact ⟨rfl, rfl, rfl, rfl, rfl, fun hne => absurd rfl hne⟩
  · rfl

theorem recordInHouseHandover_turns (hs : Sound s) {orderId : Nat} {event : DeliveryEventType}
    (hevent : event = .pickedUp ∨ event = .delivered)
    (h : (recordInHouseHandover d orderId event).run s = .ok ((), s')) : TurnSeq d target s s' := by
  obtain ⟨leg, s₁, hleg, hrest₁⟩ := Tx.run_bind_eq_ok.mp h
  obtain ⟨_, s₂, hensure₁, hrest₂⟩ := Tx.run_bind_eq_ok.mp hrest₁
  obtain ⟨hkey, rfl⟩ := Tx.run_ensure_eq_ok.mp hensure₁
  obtain ⟨moved, s₃, happly, hensure₂⟩ := Tx.run_bind_eq_ok.mp hrest₂
  obtain ⟨hmoved, rfl⟩ := Tx.run_ensure_eq_ok.mp hensure₂
  have hcreate : (createHandoverLeg orderId event).run s = .ok (leg, s₁) →
      ∃ status courierUserId, isActive status = true ∧
        (createInHouseLeg orderId status courierUserId).run s = .ok (leg, s₁) := by
    intro h
    rw [createHandoverLeg, Tx.run_read_bind] at h
    refine ⟨_, _, ?_, h⟩
    split
    · rfl
    · rfl
  refine activeLegOr_turns hs hcreate (Or.inr hevent) ((Twin.refl leg).stands event) rfl ?_ hleg
    (of_decide_eq_true hkey) happly
  rintro rfl
  cases hmoved

/-- The order at a counter. -/
theorem walked_of_edge {o o' : OrderRow} {source goal : OrderStatus}
    (h : Edge s s₁ o o' source goal) :
    Walked s s₁ o o' source goal ∧
      s₁ = { s with orders := s₁.orders, orderEvents := s₁.orderEvents } :=
  ⟨⟨h.moved.mem, h.moved.orders, h.moved.same, h.source, h.target⟩, h.moved.frame⟩

theorem walk_turn {o o' : OrderRow} {source goal : OrderStatus} (h : Edge s s₁ o o' source goal)
    (hlate : isEarly goal = false) (hrest : Calm s₁ s') : Turn d target s s' := by
  obtain ⟨hwalked, hframe⟩ := walked_of_edge h
  exact .walk hwalked hframe hlate hrest

/-- **A confirming step, turn by turn.** It ends no leg of a remote courier. -/
theorem stepBody_turns (hs : Sound s) {step : ConfirmStep} {orderId : Nat} {args : ConfirmArgs}
    {o' : OrderRow} (h : (stepBody d step orderId args).run s = .ok (o', s')) :
    TurnSeq d target s s' := by
  have hcode : ∀ {type code s₁}, (validate d orderId type code).run s = .ok ((), s₁) → Calm s s₁ :=
    fun hvalidate => calm_of_noted (validate_noted _ _ _ _ s () _ hvalidate)
  cases stepBody_ok h with
  | handover hvalidate hevent hhandover =>
      have hcalm := hcode hvalidate
      exact .head (.calm hcalm) (recordInHouseHandover_turns (hcalm.sound hs) hevent hhandover)
  | dropOff hedge hmail hdispatch =>
      obtain ⟨hwalked, hframe⟩ := walked_of_edge hedge
      exact .single (.arrive hwalked hframe (calm_of_noted (enqueue_noted _ _ () _ hmail))
        hdispatch)
  | intake hedge hissue hmail =>
      exact .single (walk_turn hedge rfl (calm_of_noted (noted_frame.trans
        (issue_noted _ _ _ _ _ _ _ () _ hissue) (enqueue_noted _ _ () s' hmail))))
  | returnIntake hedge hissue hmail =>
      exact .single (walk_turn hedge rfl (calm_of_noted (noted_frame.trans
        (issue_noted _ _ _ _ _ _ _ () _ hissue) (enqueue_noted _ _ () s' hmail))))
  | collect hvalidate hedge hrecord =>
      exact .head (.calm (hcode hvalidate))
        (.single (walk_turn hedge rfl (record_calm _ _ () s' hrecord)))
  | returnCollect hvalidate hedge hrelease =>
      subst hrelease
      exact .head (.calm (hcode hvalidate)) (.single (walk_turn hedge rfl ⟨rfl, rfl, rfl, le_rfl⟩))

theorem insertKey_calm (scope : String) (key : Nat) (s : State) :
    Calm s (insertKey scope key s) := ⟨rfl, rfl, rfl, le_rfl⟩

theorem confirm_turns (hs : Sound s) {step : ConfirmStep} {orderId : Nat} {args : ConfirmArgs}
    {o : OrderRow} (h : (Handoffs.confirm d step orderId args).run s = .ok (o, s')) :
    TurnSeq d target s s' := by
  rcases confirm_ok h with ⟨-, -, rfl⟩ | ⟨-, hbody⟩
  · exact .refl
  · have hcalm := insertKey_calm step.scope orderId s
    exact .head (.calm hcalm) (stepBody_turns (hcalm.sound hs) hbody)

/-! ## Payments -/

theorem confirmed_turn {intent : PaymentIntentRow} {verification : PaymentVerificationResult}
    {order : OrderRow} (h : Confirmed s s' intent verification order) : Turn d target s s' :=
  .place h.orders (by rw [h.frame]) (by rw [h.frame]) h.placed.id h.nextId h.placed.status

theorem payment_turns {asked : PaymentIntentRow → Prop} {answer : VerifyAnswer}
    (h : PaymentEffect asked answer s s') : TurnSeq d target s s' := by
  cases h with
  | idle => exact .refl
  | keyed reference => exact .single (.calm (insertKey_calm paymentWebhookScope reference s))
  | paid reference hasked hanswer hpayable h =>
      exact .head (.calm (insertKey_calm paymentWebhookScope reference s))
        (.single (confirmed_turn h))
  | expired hmem hpending => exact .single (.calm ⟨rfl, rfl, rfl, le_rfl⟩)

/-! ## Steps -/

/-- The leg of a remote courier that an action may end. -/
def endedBy (d : Deployment) (s : State) : System.Action → Option Nat
  | .submit legId answer => (submittable s legId).bind fun leg => refusedLeg d leg answer
  | .syncFromSnapshot providerKey snapshot => endedBySnapshot s providerKey snapshot
  | _ => none

theorem tx_turns (hs : Sound s) {a : System.Action} (hsplit : isSplit a = false)
    (hclerical : isClerical a = false) (h : (tx d a).run s = .ok ((), s')) :
    TurnSeq d (endedBy d s a) s s' := by
  cases a with
  | createIntent payerId dto =>
      obtain ⟨intent, s₁, hcreate, hret⟩ := Tx.run_bind_eq_ok.mp h
      cases hret
      have hbooked := createIntent_ok hcreate
      refine .single (.calm ?_)
      rw [hbooked.eq]
      exact ⟨rfl, rfl, rfl, Nat.le_succ _⟩
  | setProviderReference intentId =>
      cases h
      exact .single (.calm ⟨rfl, rfl, rfl, le_rfl⟩)
  | webhook reference answer drawnCodes => exact payment_turns (handleWebhook_effect h)
  | pollIntent intentId answer drawnCodes => exact payment_turns (pollIntent_effect h)
  | confirm step orderId args =>
      obtain ⟨o, s₁, hconfirm, hret⟩ := Tx.run_bind_eq_ok.mp h
      cases hret
      exact confirm_turns hs hconfirm
  | accept orderId riderId => exact accept_turns hs h
  | dispatch orderId providerKey =>
      rw [tx, dispatchWaiting, Tx.run_read_bind] at h
      obtain ⟨_, s₁, hensure, hrest⟩ := Tx.run_bind_eq_ok.mp h
      obtain ⟨-, rfl⟩ := Tx.run_ensure_eq_ok.mp hensure
      obtain ⟨r, s₂, hdispatch, hret⟩ := Tx.run_bind_eq_ok.mp hrest
      cases hret
      exact .single (.dispatch hdispatch)
  | submit legId answer => exact submit_turns hs h
  | syncFromSnapshot providerKey snapshot =>
      obtain ⟨r, s₁, hsync, hret⟩ := Tx.run_bind_eq_ok.mp h
      cases hret
      exact syncFromSnapshot_turns hs hsync
  | cancelLeg legId reason thenRouteTo => cases hsplit
  | fallbackToInHouse legId => cases hsplit
  | _ => cases hclerical

/-- **A step** does clerical work, or is a sequence of turns. -/
theorem exec_turns (hs : Sound s) {a : System.Action} (hsplit : isSplit a = false) :
    Clerical s (System.exec d s a) ∨ TurnSeq d (endedBy d s a) s (System.exec d s a) := by
  rcases exec_cases d s a with ⟨s', h, he⟩ | ⟨e, -, he⟩
  · rw [he]
    cases hclerical : isClerical a with
    | true => exact Or.inl (tx_clerical d hclerical s () s' h)
    | false => exact Or.inr (tx_turns hs hsplit hclerical h)
  · rw [he]
    exact Or.inl (rollback_clerical s e)

/-! ## Interleaved steps -/

theorem Captured.keep {leg row : DeliveryLegRow} (h : Captured s leg row)
    (hkeeping : Keeping target s s') : ∃ row', Captured s' leg row' := by
  obtain ⟨row', hrow', hkept⟩ := hkeeping row h.row_mem
  exact ⟨row', hrow', hkept.id.trans h.id, hkept.orderId.trans h.orderId,
    hkept.providerKey.trans h.providerKey, h.forward⟩

/-- The tables are sound, and every leg in memory was read from them. -/
structure Traced (w : Work) : Prop where
  sound : Sound w.db
  submissions : ∀ sub ∈ w.submissions, ∃ row, Captured w.db sub.leg row
  endings : ∀ ending ∈ w.endings, ∃ row, Captured w.db ending.leg row

/-- The leg of a remote courier that a step may end. -/
def endedIn (d : Deployment) (w : Work) : Interleaved.Action → Option Nat
  | .atomic a => if isSplit a then none else endedBy d w.db a
  | .writeSubmit i =>
      match w.submissions[i]? with
      | some ⟨leg, some answer⟩ => refusedLeg d leg answer
      | _ => none
  | .cancelLocally i =>
      (w.endings[i]?.filter Ending.cleared).bind fun ending => cancelledLeg w.db ending.leg.id
  | _ => none

/-- **What a step does to the database**: clerical work, or turns. -/
theorem step_turns {w : Work} (hw : Traced w) (a : Interleaved.Action) :
    Clerical w.db (Interleaved.exec d w a).db ∨
      TurnSeq d (endedIn d w a) w.db (Interleaved.exec d w a).db := by
  cases a with
  | atomic a =>
      cases hsplit : isSplit a with
      | true =>
          simp only [Interleaved.exec, hsplit, if_true]
          exact Or.inl (clerical_frame.refl _)
      | false =>
          simp only [Interleaved.exec, endedIn, hsplit, Bool.false_eq_true, if_false]
          exact exec_turns hw.sound hsplit
  | readSubmit legId =>
      simp only [Interleaved.exec]
      split
      all_goals exact Or.inl (clerical_frame.refl _)
  | answerSubmit i answer =>
      simp only [Interleaved.exec]
      split
      all_goals exact Or.inl (clerical_frame.refl _)
  | writeSubmit i =>
      simp only [Interleaved.exec]
      split
      · next leg answer hsub =>
          obtain ⟨row, hrow⟩ := hw.submissions _ (List.mem_of_getElem? hsub)
          have hended : endedIn d w (.writeSubmit i) = refusedLeg d leg answer := by
            simp only [endedIn, hsub]
          rcases commit_cases (writeAnswer d leg answer) w.db with ⟨s', h, he⟩ | ⟨e, -, he⟩
          · rw [he, hended]
            exact Or.inr (writeAnswer_turns hw.sound hrow h)
          · simp only [he]
            exact Or.inl (rollback_clerical w.db e)
      · exact Or.inl (clerical_frame.refl _)
  | readOverdue => exact Or.inl (clerical_frame.refl _)
  | readFallback legId =>
      simp only [Interleaved.exec]
      split
      all_goals exact Or.inl (clerical_frame.refl _)
  | cancelAtProvider i accepted =>
      simp only [Interleaved.exec]
      split
      · exact Or.inl (clerical_frame.refl _)
      · split
        all_goals exact Or.inl (clerical_frame.refl _)
  | cancelLocally i =>
      simp only [Interleaved.exec, endedIn]
      split
      · exact Or.inl (clerical_frame.refl _)
      · next ending hending =>
          cases hcleared : ending.cleared with
          | false => exact Or.inl (clerical_frame.refl _)
          | true =>
              simp only [hending, Option.filter, hcleared, if_true, Option.bind_some]
              rcases commit_cases (endLeg d ending) w.db with ⟨s', h, he⟩ | ⟨e, -, he⟩
              · simp only [he]
                obtain ⟨r, s₁, hcancel, hret⟩ := Tx.run_bind_eq_ok.mp h
                cases hret
                refine Or.inr (cancelLeg_turns hw.sound ?_ hcancel)
                cases ending.kind with
                | timeout => exact Or.inl rfl
                | fallback => exact Or.inr rfl
              · simp only [he]
                exact Or.inl (rollback_clerical w.db e)

/-- Where a submission comes from: it was there, or its leg has just been read. -/
theorem submission_origin {w : Work} {a : Interleaved.Action} {sub : Submission}
    (h : sub ∈ (Interleaved.exec d w a).submissions) :
    (∃ old ∈ w.submissions, old.leg = sub.leg) ∨
      ∃ legId, submittable w.db legId = some sub.leg := by
  have old : sub ∈ w.submissions → (∃ old ∈ w.submissions, old.leg = sub.leg) ∨
      ∃ legId, submittable w.db legId = some sub.leg :=
    fun h => Or.inl ⟨sub, h, rfl⟩
  cases a with
  | atomic a =>
      simp only [Interleaved.exec] at h
      split at h
      all_goals exact old h
  | readSubmit legId =>
      simp only [Interleaved.exec] at h
      split at h
      · exact old h
      · next leg hleg =>
          rcases List.mem_append.mp h with h | h
          · exact old h
          · obtain rfl := List.mem_singleton.mp h
            exact Or.inr ⟨legId, (Option.filter_eq_some_iff.mp hleg).1⟩
  | answerSubmit i answer =>
      simp only [Interleaved.exec] at h
      split at h
      · next leg hsub =>
          rcases List.mem_or_eq_of_mem_set h with h | rfl
          · exact old h
          · exact Or.inl ⟨_, List.mem_of_getElem? hsub, rfl⟩
      · exact old h
  | writeSubmit i =>
      simp only [Interleaved.exec] at h
      split at h
      · exact old (List.mem_of_mem_eraseIdx h)
      · exact old h
  | readOverdue => exact old h
  | readFallback legId =>
      simp only [Interleaved.exec] at h
      split at h
      all_goals exact old h
  | cancelAtProvider i accepted =>
      simp only [Interleaved.exec] at h
      split at h
      · exact old h
      · split at h
        all_goals exact old h
  | cancelLocally i =>
      simp only [Interleaved.exec] at h
      split at h
      · exact old h
      · split at h
        all_goals exact old h

/-- Where a cancellation under way comes from: it was there, or its leg has
just been read by the reconciler or an admin. -/
theorem ending_origin {w : Work} {a : Interleaved.Action} {ending : Ending}
    (h : ending ∈ (Interleaved.exec d w a).endings) :
    (∃ old ∈ w.endings, old.leg = ending.leg) ∨
      ending.leg ∈ expiringLegs d w.db ∨ ∃ legId, fallbackLeg w.db legId = some ending.leg := by
  have old : ending ∈ w.endings → (∃ old ∈ w.endings, old.leg = ending.leg) ∨
      ending.leg ∈ expiringLegs d w.db ∨ ∃ legId, fallbackLeg w.db legId = some ending.leg :=
    fun h => Or.inl ⟨ending, h, rfl⟩
  cases a with
  | atomic a =>
      simp only [Interleaved.exec] at h
      split at h
      all_goals exact old h
  | readSubmit legId =>
      simp only [Interleaved.exec] at h
      split at h
      all_goals exact old h
  | answerSubmit i answer =>
      simp only [Interleaved.exec] at h
      split at h
      all_goals exact old h
  | writeSubmit i =>
      simp only [Interleaved.exec] at h
      split at h
      all_goals exact old h
  | readOverdue =>
      rcases List.mem_append.mp h with h | h
      · exact old h
      · obtain ⟨leg, hleg, rfl⟩ := List.mem_map.mp h
        exact Or.inr (Or.inl hleg)
  | readFallback legId =>
      simp only [Interleaved.exec] at h
      split at h
      · exact old h
      · next leg hleg =>
          rcases List.mem_append.mp h with h | h
          · exact old h
          · obtain rfl := List.mem_singleton.mp h
            exact Or.inr (Or.inr ⟨legId, hleg⟩)
  | cancelAtProvider i accepted =>
      simp only [Interleaved.exec] at h
      split at h
      · exact old h
      · next old_ending hending =>
          split at h
          · rcases List.mem_or_eq_of_mem_set h with h | rfl
            · exact old h
            · exact Or.inl ⟨_, List.mem_of_getElem? hending, rfl⟩
          · exact old (List.mem_of_mem_eraseIdx h)
  | cancelLocally i =>
      simp only [Interleaved.exec] at h
      split at h
      · exact old h
      · split at h
        · exact old (List.mem_of_mem_eraseIdx h)
        · exact old h

theorem expiringLegs_mem {leg : DeliveryLegRow} (h : leg ∈ expiringLegs d s) :
    leg ∈ s.legs ∧ isOverdue s leg = true ∧ (registryGet d leg.providerKey).isSome = true := by
  obtain ⟨htaken, hadapter⟩ := List.mem_filter.mp h
  have hsorted := List.mem_of_mem_take htaken
  rw [List.mem_insertionSort] at hsorted
  obtain ⟨hmem, hoverdue⟩ := List.mem_filter.mp hsorted
  exact ⟨hmem, hoverdue, hadapter⟩

theorem fallbackLeg_some {legId : Nat} {leg : DeliveryLegRow} (h : fallbackLeg s legId = some leg) :
    leg ∈ s.legs ∧ leg.providerKey ≠ inHouseProviderKey := by
  obtain ⟨hget, hp⟩ := Option.filter_eq_some_iff.mp h
  exact ⟨(get_some hget).1, (of_decide_eq_true hp).1⟩

theorem Captured.of_mem (hs : Sound s) {leg : DeliveryLegRow} (h : leg ∈ s.legs) :
    Captured s leg leg := ⟨h, rfl, rfl, rfl, hs.forward leg h⟩

theorem step_keeping {w : Work} (hw : Traced w) (a : Interleaved.Action) :
    Sound (Interleaved.exec d w a).db ∧
      Keeping (endedIn d w a) w.db (Interleaved.exec d w a).db := by
  rcases step_turns (d := d) hw a with h | h
  · exact ⟨hw.sound.mono h.orders h.legs h.nextId, keeping_of_legs h.legs⟩
  · exact h.keeping hw.sound

/-- **Every step keeps the trace.** -/
theorem Traced.exec {w : Work} (hw : Traced w) (a : Interleaved.Action) :
    Traced (Interleaved.exec d w a) := by
  obtain ⟨hsound, hkeeping⟩ := step_keeping (d := d) hw a
  refine ⟨hsound, fun sub hsub => ?_, fun ending hending => ?_⟩
  · rcases submission_origin hsub with ⟨old, hold, heq⟩ | ⟨legId, hleg⟩
    · obtain ⟨row, hrow⟩ := hw.submissions old hold
      exact heq ▸ hrow.keep hkeeping
    · exact (Captured.of_mem hw.sound (submittable_some hleg).1).keep hkeeping
  · rcases ending_origin hending with ⟨old, hold, heq⟩ | hleg | ⟨legId, hleg⟩
    · obtain ⟨row, hrow⟩ := hw.endings old hold
      exact heq ▸ hrow.keep hkeeping
    · exact (Captured.of_mem hw.sound (expiringLegs_mem hleg).1).keep hkeeping
    · exact (Captured.of_mem hw.sound (fallbackLeg_some hleg).1).keep hkeeping

theorem traced_of_initial (h : Initial s) : Traced (idle s) :=
  ⟨(Books.aligned_of_initial h).inStep.toSound, by simp [idle], by simp [idle]⟩

end Locoomo.Turns
