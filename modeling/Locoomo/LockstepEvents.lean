import Locoomo.Lockstep

/-! Leg events keep leg and order in step: dispatch, one event, a catch-up of
several, and the entry points built from them. Each of them also commits: the
order is always where the event needs it. -/

namespace Locoomo.Lockstep

open Locoomo.Delivery Locoomo.Database Locoomo.Routing Locoomo.Logistics Locoomo.Handoffs
  Locoomo.OrderMoves Locoomo.LegMoves Locoomo.Soundness Relational

/-! ## Active legs -/

theorem activeLeg_some {s : State} {orderId : Nat} {leg : DeliveryLegRow}
    (h : activeLeg s orderId = some leg) :
    leg ∈ s.legs ∧ leg.orderId = orderId ∧ isActive leg.status = true := by
  have hp := List.find?_some h
  simp only [isActiveOf, Bool.and_eq_true, decide_eq_true_eq] at hp
  exact ⟨List.mem_of_find?_eq_some h, hp.1, decide_eq_true hp.2⟩

theorem activeLeg_none {s : State} {orderId : Nat} (h : activeLeg s orderId = none) :
    ∀ l ∈ s.legs, l.orderId = orderId → isActive l.status = false := by
  intro l hl hlo
  have := List.find?_eq_none.mp h l hl
  simpa [isActiveOf, hlo] using this

/-! ## Dispatch -/

theorem dispatch_inStep {d : Deployment} {orderId : Nat} {providerKey : Option String}
    {s s' : State} {r : Option DeliveryLegRow} (hs : InStep s)
    (hwaiting : ∀ o, getOrder s orderId = some o → activeLeg s orderId = none →
      o.status = .parcelReceivedAtOrigin)
    (h : (dispatch d orderId .forward providerKey).run s = .ok (r, s')) : InStep s' := by
  rcases dispatch_ok hs.leg_fresh h with ⟨leg, -, -, rfl⟩ | ⟨hnone, ⟨-, -, rfl⟩ | hnew⟩
  · exact hs
  · exact hs
  · obtain ⟨choice, o, leg, -, ho, hfresh, -, hinserted⟩ := hnew
    have hw := hwaiting o ho hnone
    obtain ⟨ho, hoid⟩ := getOrder_mem ho
    have hidle := activeLeg_none hnone
    rw [← hoid] at hidle
    rw [hfresh.eq] at hinserted
    exact hs.insert ho rfl hw hidle hinserted rfl rfl rfl

/-! ## One event -/

@[simp] theorem sideEffect_orders (notice : DeliveryEventNotice) (o : OrderRow) (s : State) :
    (sideEffect notice o s).orders = s.orders := by
  obtain ⟨orderId, legId, legType, providerKey, event, courierUserId, reason⟩ := notice
  cases event <;> cases courierUserId <;> rfl

@[simp] theorem sideEffect_legs (notice : DeliveryEventNotice) (o : OrderRow) (s : State) :
    (sideEffect notice o s).legs = s.legs := by
  obtain ⟨orderId, legId, legType, providerKey, event, courierUserId, reason⟩ := notice
  cases event <;> cases courierUserId <;> rfl

@[simp] theorem sideEffect_nextId (notice : DeliveryEventNotice) (o : OrderRow) (s : State) :
    (sideEffect notice o s).nextId = s.nextId := by
  obtain ⟨orderId, legId, legType, providerKey, event, courierUserId, reason⟩ := notice
  cases event <;> cases courierUserId <;> rfl

@[simp] theorem sideEffect_orderEvents (notice : DeliveryEventNotice) (o : OrderRow) (s : State) :
    (sideEffect notice o s).orderEvents = s.orderEvents := by
  obtain ⟨orderId, legId, legType, providerKey, event, courierUserId, reason⟩ := notice
  cases event <;> cases courierUserId <;> rfl

section Moved

variable (leg : DeliveryLegRow) (event : DeliveryEventType) (next : DeliveryLegStatus) (now : Nat)

@[simp] theorem movedLeg_id : (movedLeg leg event next now).id = leg.id := by
  unfold movedLeg; split <;> rfl

@[simp] theorem movedLeg_orderId : (movedLeg leg event next now).orderId = leg.orderId := by
  unfold movedLeg; split <;> rfl

@[simp] theorem movedLeg_legType : (movedLeg leg event next now).legType = leg.legType := by
  unfold movedLeg; split <;> rfl

@[simp] theorem movedLeg_providerKey :
    (movedLeg leg event next now).providerKey = leg.providerKey := by
  unfold movedLeg; split <;> rfl

@[simp] theorem movedLeg_externalId :
    (movedLeg leg event next now).externalId = leg.externalId := by
  unfold movedLeg; split <;> rfl

@[simp] theorem movedLeg_providerSequence :
    (movedLeg leg event next now).providerSequence = leg.providerSequence := by
  unfold movedLeg; split <;> rfl

@[simp] theorem movedLeg_status : (movedLeg leg event next now).status = next := by
  unfold movedLeg; split <;> rfl

theorem movedLeg_courierUserId : (movedLeg leg event next now).courierUserId =
    if event = .released then none else leg.courierUserId := by
  unfold movedLeg; split <;> rfl

end Moved

theorem withSnapshot_twin (leg : DeliveryLegRow) (snapshot : ProviderDeliverySnapshot) :
    Twin (withSnapshot leg snapshot) leg := ⟨rfl, rfl, rfl, rfl, rfl, rfl⟩

/-- Details of legs may be rewritten freely. -/
theorem InStep.relabel {s s' : State} (hs : InStep s) {p : DeliveryLegRow → Bool}
    {f : DeliveryLegRow → DeliveryLegRow} (hlegs : s'.legs = update p f s.legs)
    (htwin : ∀ l ∈ s.legs, p l = true → Twin (f l) l) (horders : s'.orders = s.orders)
    (hnext : s'.nextId = s.nextId) : InStep s' := by
  refine
    { toSound := hs.toSound.relabel hlegs htwin horders hnext
      unclaimed := ?_, paired := ?_, covered := ?_, free := by rw [horders]; exact hs.free }
  · intro l' hl' hreq
    obtain ⟨l, hl, ht⟩ := twin_of_mem hlegs htwin hl'
    rw [ht.status] at hreq
    rw [ht.courier]
    exact hs.unclaimed l hl hreq
  · intro l' hl' hact o ho hoid
    obtain ⟨l, hl, ht⟩ := twin_of_mem hlegs htwin hl'
    rw [ht.status] at hact ⊢
    rw [ht.courier]
    rw [ht.orderId] at hoid
    exact hs.paired l hl hact o (horders ▸ ho) hoid
  · intro o ho hneeds
    obtain ⟨l, hl, hlo, hact⟩ := hs.covered o (horders ▸ ho) hneeds
    have hl' : (if p l then f l else l) ∈ s'.legs := by
      rw [hlegs]
      exact mem_update.mpr ⟨l, hl, rfl⟩
    have ht : Twin (if p l then f l else l) l := by
      split
      · exact htwin l hl ‹_›
      · exact Twin.refl l
    exact ⟨_, hl', ht.orderId.trans hlo, ht.status.symm ▸ hact⟩

/-- The events of a leg that its order does not follow. -/
def silent (current : DeliveryLegStatus) (event : DeliveryEventType) : Bool :=
  decide (event = .attemptFailed) || decide (event = .cancelled ∧ current = .requested)

theorem pairedStatus_of_silent {current next : DeliveryLegStatus} {event : DeliveryEventType}
    (hnext : nextLegStatus current event = some next) (h : silent current event = true) :
    pairedStatus next = pairedStatus current := by
  revert hnext h
  cases event <;> cases current <;> cases next <;> decide

/-- The edge of any other event joins the paired statuses of the leg's move. -/
theorem orderEdge_of_loud {current next : DeliveryLegStatus} {event : DeliveryEventType}
    (hnext : nextLegStatus current event = some next) (h : silent current event = false) :
    orderEdge event = (pairedStatus current, pairedStatus next) := by
  revert hnext h
  cases event <;> cases current <;> cases next <;> decide

/-- Beside a paired order the listener is quiet exactly on the silent events. -/
theorem quiet_iff_silent {s : State} {notice : DeliveryEventNotice} {o : OrderRow}
    {current next : DeliveryLegStatus} (hnext : nextLegStatus current notice.event = some next)
    (ho : getOrder s notice.orderId = some o) (hpaired : o.status = pairedStatus current) :
    Quiet s notice ↔ silent current notice.event = true := by
  unfold Quiet
  rw [ho, Option.map_some, hpaired]
  revert hnext
  generalize notice.event = event
  cases event <;> cases current <;> cases next <;> decide

/-- The rider of the order after a loud event: the leg's, or nobody once the
parcel is handed over or waits again. -/
theorem riderAfter_of_loud {leg : DeliveryLegRow} {event : DeliveryEventType}
    {next : DeliveryLegStatus} {now : Nat} {riderId : Option Nat}
    (hnext : nextLegStatus leg.status event = some next)
    (hassigned : event = .assigned → riderId = none)
    (hother : event ≠ .assigned → leg.courierUserId = riderId) :
    let moved := movedLeg leg event next now
    let after := riderAfter (noticeOf moved event) riderId
    (isActive next = true → after = moved.courierUserId) ∧
      (pairedStatus next = .parcelReceivedAtOrigin → after = none) := by
  intro moved after
  have hcourier : moved.courierUserId = if event = .released then none else leg.courierUserId :=
    movedLeg_courierUserId leg event next now
  have hnext' := (nextLegStatus_eq_some.mp hnext).2
  cases event with
  | assigned =>
      have hafter : after = leg.courierUserId := by
        rw [show after = moved.courierUserId.or riderId from rfl, hassigned rfl, Option.or_none]
        simpa using hcourier
      refine ⟨fun _ => by simpa [hafter] using hcourier.symm, fun h => ?_⟩
      rw [hnext'] at h
      cases h
  | released => exact ⟨fun _ => hcourier.symm, fun _ => rfl⟩
  | cancelled =>
      refine ⟨fun h => ?_, fun _ => rfl⟩
      rw [hnext'] at h
      cases h
  | pickedUp | attemptFailed | delivered | returning | returned =>
      refine ⟨fun _ => ?_, fun h => ?_⟩
      · rw [show after = riderId from rfl, ← hother (by decide)]
        simpa using hcourier.symm
      · rw [hnext'] at h
        cases h

/-- What an event leaves behind, before the dispatch of a cancelled leg. -/
structure Advanced (s s₁ : State) (row moved : DeliveryLegRow) (event : DeliveryEventType)
    (o o' : OrderRow) : Prop where
  legs : s₁.legs = put DeliveryLegRow.id moved s.legs
  orders : s₁.orders = put OrderRow.id o' s.orders
  order : getOrder s moved.orderId = some o
  same : core o' = core o
  before : o.status = pairedStatus row.status ∧ o.riderId = row.courierUserId
  frame : s₁ = sideEffect (noticeOf moved event) o'
    { s with legs := s₁.legs, orders := s₁.orders, orderEvents := s₁.orderEvents }
  status : o'.status = pairedStatus moved.status
  rider : isActive moved.status = true → o'.riderId = moved.courierUserId
  free : o'.status = .parcelReceivedAtOrigin → o'.riderId = none

theorem Advanced.nextId {s s₁ : State} {row moved : DeliveryLegRow} {event : DeliveryEventType}
    {o o' : OrderRow} (h : Advanced s s₁ row moved event o o') : s₁.nextId = s.nextId := by
  rw [h.frame, sideEffect_nextId]

theorem Advanced.found {s s₁ : State} {row moved : DeliveryLegRow} {event : DeliveryEventType}
    {o o' : OrderRow} (h : Advanced s s₁ row moved event o o') :
    getOrder s₁ moved.orderId = some o' := by
  obtain ⟨ho, hoid⟩ := getOrder_mem h.order
  have hid : o'.id = moved.orderId := (core_id h.same).trans hoid
  rw [getOrder, h.orders, ← hid]
  exact get_put_self ⟨o, ho, (core_id h.same).symm⟩

section Event

variable {d : Deployment} {s s' s₁ : State} {leg row : DeliveryLegRow} {event : DeliveryEventType}
  {routeTo : Option String} {next : DeliveryLegStatus}

/-- The listener after an event moved `leg`: it commits, and the order ends up
beside the leg's new status. -/
theorem listen_advanced (hs : InStep s) (hrow : row ∈ s.legs) (hstands : Stands leg row event)
    (hnext : nextLegStatus leg.status event = some next) :
    ∃ s₁ o o', (onDeliveryEvent (noticeOf (movedLeg leg event next s.now) event)).run
        (putLeg s (movedLeg leg event next s.now)) = .ok ((), s₁) ∧
      Advanced s s₁ row (movedLeg leg event next s.now) event o o' := by
  have hactive : isActive row.status = true := hstands.status ▸ isActive_of_next hnext
  obtain ⟨o, ho⟩ := hs.getOrder_of_leg hrow
  obtain ⟨homem, hoid⟩ := getOrder_mem ho
  have hbefore := hs.paired row hrow hactive o homem hoid
  have hpaired := hbefore.1
  have hrider := hbefore.2
  rw [← hstands.status] at hpaired
  let moved := movedLeg leg event next s.now
  let notice := noticeOf moved event
  have hforward : notice.legType = .forward := by
    change moved.legType = .forward
    rw [movedLeg_legType, hstands.legType]
    exact hs.forward row hrow
  have horder : getOrder (putLeg s moved) notice.orderId = some o := by
    change getOrder s moved.orderId = some o
    rw [movedLeg_orderId, hstands.orderId]
    exact ho
  have hwaits : o.status = .parcelReceivedAtOrigin → o.riderId = none :=
    fun h => hs.free o homem (Or.inr h)
  have hassigned : event = .assigned → o.riderId = none := by
    rintro rfl
    have hreq : leg.status = .requested := by
      simpa [transitions] using (nextLegStatus_eq_some.mp hnext).1
    exact hwaits (by rw [hpaired, hreq]; rfl)
  have hother : event ≠ .assigned → leg.courierUserId = o.riderId :=
    fun hne => (hstands.courier hne).trans hrider.symm
  have hguard : riderGuard notice o = true := by
    unfold riderGuard
    split
    · next he _ => rw [hassigned he]; rfl
    · rfl
  have hquiet : Quiet (putLeg s moved) notice ↔ silent leg.status event = true :=
    quiet_iff_silent hnext horder hpaired
  have hsource : Quiet (putLeg s moved) notice ∨ o.status = (orderEdge notice.event).1 := by
    rw [hquiet]
    cases hsilent : silent leg.status event with
    | true => exact Or.inl rfl
    | false =>
        right
        rw [hpaired]
        exact (congrArg Prod.fst (orderEdge_of_loud hnext hsilent)).symm
  obtain ⟨s₁, hrun⟩ := onDeliveryEvent_total hforward horder hsource hguard
  rcases onDeliveryEvent_ok hforward hrun with ⟨rfl, hq⟩ | hmove
  · -- a silent event leaves the order as it is, and that is where it belongs
    have hsilent := hquiet.mp hq
    have hcourier : isActive next = true → o.riderId = moved.courierUserId := by
      intro hact
      obtain rfl : event = .attemptFailed := by
        revert hsilent hnext hact
        cases event <;> cases leg.status <;> cases next <;> decide
      rw [movedLeg_courierUserId, if_neg (by decide), hother (by decide)]
    have hnothing : ∀ s₁, sideEffect notice o s₁ = s₁ := by
      intro s₁
      simp only [silent, Bool.or_eq_true, decide_eq_true_eq] at hsilent
      rcases hsilent with rfl | ⟨rfl, -⟩ <;> rfl
    refine ⟨_, o, o, hrun, ?_⟩
    exact
      { legs := rfl, orders := (put_self hs.orderIds homem).symm
        order := horder, same := rfl, before := hbefore, frame := (hnothing _).symm
        status := by rw [movedLeg_status, hpaired, pairedStatus_of_silent hnext hsilent]
        rider := by rwa [movedLeg_status], free := hwaits }
  · obtain ⟨o₀, o', s₂, hm, -, -, htarget, hriderAfter, rfl, hq⟩ := hmove
    obtain rfl : o = o₀ := Option.some.inj (horder.symm.trans hm.found)
    have hloud : silent leg.status event = false := by
      simpa using fun h => hq (hquiet.mpr h)
    have hstatus' : o'.status = pairedStatus next := by
      rw [htarget]
      exact congrArg Prod.snd (orderEdge_of_loud hnext hloud)
    obtain ⟨hact, hfree⟩ :=
      @riderAfter_of_loud leg event next s.now o.riderId hnext hassigned hother
    refine ⟨_, o, o', hrun, ?_⟩
    exact
      { legs := by rw [sideEffect_legs, hm.frame]; rfl
        orders := by rw [sideEffect_orders, hm.orders]; rfl
        frame := by
          rw [sideEffect_legs, sideEffect_orders, sideEffect_orderEvents, hm.frame]
          rfl
        order := horder, same := hm.same, before := hbefore
        status := by rw [movedLeg_status, hstatus']
        rider := by rw [movedLeg_status, hriderAfter]; exact hact
        free := by rw [hstatus', hriderAfter]; exact hfree }

/-- **An event commits.** Whatever the leg, the listener and the dispatch
after a cancellation find the order where they need it. -/
theorem apply_commits (routeTo : Option String) (hs : InStep s) (hrow : row ∈ s.legs)
    (hstands : Stands leg row event) : ∃ r s', (apply d leg event routeTo).run s = .ok (r, s') := by
  cases hnext : nextLegStatus leg.status event with
  | none => exact ⟨none, s, by simp [apply, hnext]⟩
  | some next =>
      obtain ⟨s₁, o, o', hlisten, hadv⟩ := listen_advanced hs hrow hstands hnext
      have ho' := hadv.found
      rw [movedLeg_orderId] at ho'
      exact apply_total hnext hlisten fun _ => dispatch_total d leg.legType routeTo ho'

/-- What a committed event did. -/
theorem apply_advanced (hs : InStep s) (hrow : row ∈ s.legs) (hstands : Stands leg row event)
    {r : Option DeliveryLegRow} (h : (apply d leg event routeTo).run s = .ok (r, s')) :
    (nextLegStatus leg.status event = none ∧ r = none ∧ s' = s) ∨
      ∃ next s₁ o o', nextLegStatus leg.status event = some next ∧
        r = some (movedLeg leg event next s.now) ∧
        Advanced s s₁ row (movedLeg leg event next s.now) event o o' ∧
        (event ≠ .cancelled ∧ s' = s₁ ∨
          event = .cancelled ∧ ∃ r', (dispatch d leg.orderId leg.legType routeTo).run s₁
            = .ok (r', s')) := by
  rcases apply_ok h with hnone | ⟨next, s₁, hnext, hr, hlisten, hrest⟩
  · exact Or.inl hnone
  · obtain ⟨s₂, o, o', hlisten', hadv⟩ := listen_advanced hs hrow hstands hnext
    obtain rfl : s₁ = s₂ := by
      rw [hlisten] at hlisten'
      cases hlisten'
      rfl
    exact Or.inr ⟨next, s₁, o, o', hnext, hr, hadv, hrest⟩

/-- The state before the dispatch of a cancelled leg is in step. -/
theorem Advanced.inStep (hs : InStep s) (hrow : row ∈ s.legs) (hstands : Stands leg row event)
    (hnext : nextLegStatus leg.status event = some next) {o o' : OrderRow}
    (hadv : Advanced s s₁ row (movedLeg leg event next s.now) event o o') : InStep s₁ := by
  obtain ⟨homem, hoid⟩ := getOrder_mem hadv.order
  have hactive : isActive row.status = true := hstands.status ▸ isActive_of_next hnext
  have hstatus := hadv.status
  rw [movedLeg_status] at hstatus
  refine hs.move hrow hactive homem ?_ hadv.legs hadv.orders hadv.nextId ?_ ?_ ?_ hadv.same
    ?_ ?_ ?_ ?_
  · rw [hoid, movedLeg_orderId, hstands.orderId]
  · rw [movedLeg_id, hstands.id]
  · rw [movedLeg_orderId, hstands.orderId]
  · rw [movedLeg_legType, hstands.legType]
    exact hs.forward row hrow
  · exact fun hact => ⟨hadv.status, hadv.rider hact⟩
  · intro hend
    rw [hstatus]
    rw [movedLeg_status] at hend
    exact needsLeg_pairedStatus_of_terminal hend
  · rintro (h | h)
    · rw [hstatus] at h
      cases next <;> cases h
    · exact hadv.free h
  · intro hreq
    rw [movedLeg_status] at hreq
    subst hreq
    have hreleased : event = .released := by
      revert hnext
      cases event <;> cases leg.status <;> decide
    rw [movedLeg_courierUserId, if_pos hreleased]

/-- **An event keeps leg and order in step.** -/
theorem apply_inStep (hs : InStep s) (hrow : row ∈ s.legs) (hstands : Stands leg row event)
    {r : Option DeliveryLegRow} (h : (apply d leg event routeTo).run s = .ok (r, s')) :
    InStep s' := by
  rcases apply_advanced hs hrow hstands h with ⟨-, -, rfl⟩ |
    ⟨next, s₁, o, o', hnext, -, hadv, hrest⟩
  · exact hs
  · have hs₁ := hadv.inStep hs hrow hstands hnext
    rcases hrest with ⟨-, rfl⟩ | ⟨rfl, r', hdispatch⟩
    · exact hs₁
    · have htype : leg.legType = .forward := by
        rw [hstands.legType]
        exact hs.forward row hrow
      rw [htype] at hdispatch
      refine dispatch_inStep hs₁ (fun p hp _ => ?_) hdispatch
      have ho' := hadv.found
      rw [movedLeg_orderId] at ho'
      obtain rfl : p = o' := Option.some.inj (hp.symm.trans ho')
      have hcancelled := (nextLegStatus_eq_some.mp hnext).2
      rw [hadv.status, movedLeg_status, hcancelled]
      rfl

/-- After an event the entity in memory is the row in the table. -/
theorem apply_stored (hs : InStep s) (hrow : row ∈ s.legs) (hstands : Stands leg row event)
    {moved : DeliveryLegRow} (h : (apply d leg event routeTo).run s = .ok (some moved, s')) :
    moved ∈ s'.legs := by
  rcases apply_advanced hs hrow hstands h with ⟨-, hr, -⟩ |
    ⟨next, s₁, o, o', hnext, hr, hadv, hrest⟩
  · cases hr
  · obtain rfl := Option.some.inj hr
    have hmem : movedLeg leg event next s.now ∈ s₁.legs := by
      rw [hadv.legs]
      exact mem_put.mpr (Or.inl ⟨rfl, row, hrow, by rw [movedLeg_id, hstands.id]⟩)
    rcases hrest with ⟨-, rfl⟩ | ⟨-, r', hdispatch⟩
    · exact hmem
    · have hs₁ := hadv.inStep hs hrow hstands hnext
      rcases dispatch_ok hs₁.leg_fresh hdispatch with ⟨_, -, -, rfl⟩ | ⟨-, ⟨-, -, rfl⟩ | hnew⟩
      · exact hmem
      · exact hmem
      · obtain ⟨_, _, _, -, -, -, -, hinserted⟩ := hnew
        rw [hinserted.legs]
        exact List.mem_append_left _ hmem

end Event

/-! ## Catching up -/

/-- The next event of a catch-up finds the leg of the one before in the table. -/
theorem apply_twin {d : Deployment} {s s' : State} {leg row : DeliveryLegRow}
    {event : DeliveryEventType} {r : Option DeliveryLegRow} (hs : InStep s) (hrow : row ∈ s.legs)
    (htwin : Twin leg row) (h : (apply d leg event none).run s = .ok (r, s')) :
    ∃ row' ∈ s'.legs, Twin (r.getD leg) row' := by
  cases r with
  | some moved => exact ⟨moved, apply_stored hs hrow (htwin.stands event) h, Twin.refl moved⟩
  | none =>
      rcases apply_ok h with ⟨-, -, rfl⟩ | ⟨_, _, -, hr, -⟩
      · exact ⟨row, hrow, htwin⟩
      · cases hr

theorem applyAll_commits (d : Deployment) (events : List DeliveryEventType) {s : State}
    {leg row : DeliveryLegRow} (hs : InStep s) (hrow : row ∈ s.legs) (htwin : Twin leg row) :
    ∃ s', (applyAll d leg events).run s = .ok ((), s') := by
  induction events generalizing s leg row with
  | nil => exact ⟨s, rfl⟩
  | cons event events ih =>
      obtain ⟨r, s₁, happly⟩ := apply_commits none hs hrow (htwin.stands event)
      obtain ⟨row', hrow', htwin'⟩ := apply_twin hs hrow htwin happly
      obtain ⟨s', hrest⟩ :=
        ih (apply_inStep hs hrow (htwin.stands event) happly) hrow' htwin'
      exact ⟨s', Tx.run_bind_eq_ok.mpr ⟨r, s₁, happly, hrest⟩⟩

theorem findByExternalId_mem {s : State} {providerKey externalId : String} {leg : DeliveryLegRow}
    (h : findByExternalId s providerKey externalId = some leg) :
    leg ∈ s.legs ∧ leg.providerKey = providerKey ∧ leg.externalId = some externalId := by
  have hp := List.find?_some h
  simp only [decide_eq_true_eq] at hp
  exact ⟨List.mem_of_find?_eq_some h, hp⟩

/-- **A snapshot is never an error**, whatever it reports and whenever it comes. -/
theorem syncFromSnapshot_commits (d : Deployment) (providerKey : String)
    (snapshot : ProviderDeliverySnapshot) {s : State} (hs : InStep s) :
    ∃ r s', (syncFromSnapshot d providerKey snapshot).run s = .ok (r, s') := by
  rw [syncFromSnapshot, Tx.run_read_bind]
  cases hfound : findByExternalId s providerKey snapshot.externalId with
  | none => exact ⟨_, _, rfl⟩
  | some leg =>
      have hleg := (findByExternalId_mem hfound).1
      simp only
      split
      · exact ⟨_, _, rfl⟩
      · split
        · exact ⟨_, _, rfl⟩
        · obtain ⟨s', hs'⟩ := applyAll_commits d (eventsToReach leg.status snapshot.status) hs
            hleg (withSnapshot_twin leg snapshot)
          exact ⟨_, _, Tx.run_bind_of_ok hs'⟩

/-! ## Ending a leg -/

theorem cancelLeg_commits (d : Deployment) (legId : Nat) (reason : String)
    (thenRouteTo : Option String) {s : State} (hs : InStep s) :
    ∃ r s', (cancelLeg d legId reason thenRouteTo).run s = .ok (r, s') := by
  rw [cancelLeg, Tx.run_read_bind]
  cases hleg : getLeg s legId with
  | none => exact ⟨_, _, rfl⟩
  | some leg =>
      have hrow := (get_some hleg).1
      have hstands : Stands { leg with failureReason := some reason } leg .cancelled :=
        ⟨rfl, rfl, rfl, rfl, rfl, fun _ => rfl⟩
      obtain ⟨r, s', h⟩ := apply_commits thenRouteTo hs hrow hstands
      exact ⟨_, _, Tx.run_bind_of_ok h⟩

end Locoomo.Lockstep
