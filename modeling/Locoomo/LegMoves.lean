import Locoomo.OrderMoves
import Locoomo.Logistics

/-! What a leg event, a dispatch and a cancellation can do to the database,
said once: every invariant of the system is derived from these lemmas. -/

namespace Locoomo.LegMoves

open Locoomo.Delivery Locoomo.Database Locoomo.Routing Locoomo.Logistics Locoomo.OrderMoves
  Relational

/-! ## The listener -/

/-- The edge of the order state machine a leg event takes. -/
def orderEdge : DeliveryEventType → OrderStatus × OrderStatus
  | .assigned => (.parcelReceivedAtOrigin, .riderAssigned)
  | .pickedUp => (.riderAssigned, .inTransit)
  | .delivered => (.inTransit, .arrivedAtDestination)
  | .released | .cancelled => (.riderAssigned, .parcelReceivedAtOrigin)
  | .returning => (.inTransit, .returnInTransit)
  | .returned => (.returnInTransit, .returnedToOrigin)
  | .attemptFailed => (.inTransit, .inTransit)

/-- What the event makes of the order's `riderId`. -/
def riderAfter (notice : DeliveryEventNotice) (riderId : Option Nat) : Option Nat :=
  match notice.event with
  | .assigned => notice.courierUserId.or riderId
  | .released | .cancelled => none
  | _ => riderId

/-- A Locoomo rider is only assigned to an order without one. -/
def riderGuard (notice : DeliveryEventNotice) (o : OrderRow) : Bool :=
  match notice.event, notice.courierUserId with
  | .assigned, some _ => o.riderId.isNone
  | _, _ => true

/-- `GREATEST` and its observation, as a function on states. -/
def releaseNode (nodeId : Nat) (s : State) : State :=
  { adjustNode nodeId (· - 1) s with
    clampHits := s.clampHits + s.nodes.countP fun n => n.id = nodeId ∧ n.currentCount = 0 }

def releaseRider (courierUserId : Option Nat) (s : State) : State :=
  match courierUserId with
  | some riderId => adjustRider riderId (· - 1) s
  | none => s

/-- What follows the move of the order: counters and emails. -/
def sideEffect (notice : DeliveryEventNotice) (order : OrderRow) (s : State) : State :=
  match notice.event with
  | .pickedUp => releaseNode order.originNodeId s
  | .delivered => releaseRider notice.courierUserId s
  | .returning =>
      { s with
        outbox := s.outbox ++ [.email notice.orderId .returnStartedSender]
          ++ [.email notice.orderId .returnStartedReceiver] }
  | .returned => releaseRider notice.courierUserId (adjustNode order.originNodeId (· + 1) s)
  | _ => s

/-- The listener moves nothing: a failed attempt, or a courier gone before the
order had one. -/
def Quiet (s : State) (notice : DeliveryEventNotice) : Prop :=
  notice.event = .attemptFailed ∨ (notice.event = .released ∨ notice.event = .cancelled) ∧
    (getOrder s notice.orderId).map OrderRow.status ≠ some .riderAssigned

/-- The move of the order inside the listener. -/
def moveOf (notice : DeliveryEventNotice) : Db OrderRow :=
  match notice.event with
  | .assigned =>
      match notice.courierUserId with
      | some riderId => assignRider notice.orderId riderId
      | none => markCourierAssigned notice.orderId notice.providerKey
  | .pickedUp => markPickedUpByRider notice.orderId
  | .delivered => markArrivedAtDestination notice.orderId
  | .released | .cancelled =>
      markCourierReleased notice.orderId
        (.courierReleased notice.providerKey notice.event notice.reason)
  | .returning => markReturning notice.orderId (.returning notice.providerKey notice.reason)
  | .returned => markReturnedToOrigin notice.orderId
  | .attemptFailed => Tx.reject .fault

theorem moveOf_moves {notice : DeliveryEventNotice} (h : notice.event ≠ .attemptFailed) :
    Moves (moveOf notice) notice.orderId (orderEdge notice.event).1 (orderEdge notice.event).2
      (riderGuard notice) (riderAfter notice) := by
  obtain ⟨orderId, legId, legType, providerKey, event, courierUserId, reason⟩ := notice
  cases event with
  | attemptFailed => exact absurd rfl h
  | assigned =>
      cases courierUserId with
      | some riderId => exact assignRider_moves orderId riderId
      | none => exact markCourierAssigned_moves orderId providerKey
  | pickedUp => exact markPickedUpByRider_moves orderId
  | delivered => exact markArrivedAtDestination_moves orderId
  | released => exact markCourierReleased_moves orderId _
  | cancelled => exact markCourierReleased_moves orderId _
  | returning => exact markReturning_moves orderId _
  | returned => exact markReturnedToOrigin_moves orderId

@[simp] theorem run_releaseCourierSlot (courierUserId : Option Nat) (s : State) :
    (releaseCourierSlot courierUserId).run s = .ok ((), releaseRider courierUserId s) := by
  cases courierUserId <;> rfl

/-- Off the quiet cases the listener is its move followed by its side effect. -/
theorem run_onDeliveryEvent {notice : DeliveryEventNotice} {s : State}
    (hf : notice.legType = .forward) (hq : ¬ Quiet s notice) :
    (onDeliveryEvent notice).run s =
      (moveOf notice >>= fun order => Tx.write (sideEffect notice order)).run s := by
  obtain ⟨orderId, legId, legType, providerKey, event, courierUserId, reason⟩ := notice
  simp only at hf
  subst hf
  cases event with
  | attemptFailed => exact absurd (Or.inl rfl) hq
  | assigned => cases courierUserId <;> exact Tx.run_bind_congr fun _ _ => rfl
  | pickedUp => exact Tx.run_bind_congr fun _ _ => rfl
  | delivered => exact Tx.run_bind_congr fun _ _ => run_releaseCourierSlot _ _
  | released | cancelled =>
      have hstatus : (getOrder s orderId).map OrderRow.status = some .riderAssigned := by
        by_contra hne
        exact hq (Or.inr ⟨by simp, hne⟩)
      simp only [onDeliveryEvent, Tx.run_read_bind, hstatus, if_true, ne_eq, not_true_eq_false,
        if_false]
      exact Tx.run_bind_congr fun _ _ => rfl
  | returning => exact Tx.run_bind_congr fun _ _ => rfl
  | returned => exact Tx.run_bind_congr fun _ _ => run_releaseCourierSlot _ _

theorem run_onDeliveryEvent_quiet {notice : DeliveryEventNotice} {s : State}
    (hf : notice.legType = .forward) (hq : Quiet s notice) :
    (onDeliveryEvent notice).run s = .ok ((), s) := by
  obtain ⟨orderId, legId, legType, providerKey, event, courierUserId, reason⟩ := notice
  simp only at hf
  subst hf
  rcases hq with h | ⟨h | h, hstatus⟩
  · simp only at h
    subst h
    rfl
  all_goals
    simp only at h hstatus
    subst h
    simp only [onDeliveryEvent, Tx.run_read_bind, hstatus, if_false, ne_eq, not_true_eq_false,
      Tx.run_pure]

/-- **Everything the listener can do**: nothing, or one edge of the order and
the counters that go with it. -/
theorem onDeliveryEvent_ok {notice : DeliveryEventNotice} {s s' : State}
    (hf : notice.legType = .forward) (h : (onDeliveryEvent notice).run s = .ok ((), s')) :
    (s' = s ∧ Quiet s notice) ∨
      ∃ o o' s₁, Moved s s₁ notice.orderId o o' ∧ o.status = (orderEdge notice.event).1 ∧
        riderGuard notice o = true ∧ o'.status = (orderEdge notice.event).2 ∧
        o'.riderId = riderAfter notice o.riderId ∧ s' = sideEffect notice o' s₁ ∧
        ¬ Quiet s notice := by
  by_cases hq : Quiet s notice
  · rw [run_onDeliveryEvent_quiet hf hq] at h
    cases h
    exact Or.inl ⟨rfl, hq⟩
  · rw [run_onDeliveryEvent hf hq] at h
    obtain ⟨o', s₁, hmove, hside⟩ := Tx.run_bind_eq_ok.mp h
    have hne : notice.event ≠ .attemptFailed := fun he => hq (Or.inl he)
    obtain ⟨o, hm, hsource, hguard, htarget, hrider⟩ := (moveOf_moves hne).ok hmove
    cases hside
    exact Or.inr ⟨o, o', s₁, hm, hsource, hguard, htarget, hrider, rfl, hq⟩

/-- The listener commits when the order stands at the edge's source. -/
theorem onDeliveryEvent_total {notice : DeliveryEventNotice} {s : State} {o : OrderRow}
    (hf : notice.legType = .forward) (ho : getOrder s notice.orderId = some o)
    (hsource : Quiet s notice ∨ o.status = (orderEdge notice.event).1)
    (hguard : riderGuard notice o = true) :
    ∃ s', (onDeliveryEvent notice).run s = .ok ((), s') := by
  by_cases hq : Quiet s notice
  · exact ⟨s, run_onDeliveryEvent_quiet hf hq⟩
  · have hne : notice.event ≠ .attemptFailed := fun he => hq (Or.inl he)
    obtain ⟨o', s₁, hmove⟩ :=
      (moveOf_moves hne).total ho (hsource.resolve_left hq) hguard
    refine ⟨sideEffect notice o' s₁, ?_⟩
    rw [run_onDeliveryEvent hf hq, Tx.run_bind_of_ok hmove, Tx.run_write]

/-! ## Dispatch -/

/-- A leg as `dispatch` and `createInHouseLeg` insert it. -/
structure Inserted (s s' : State) (leg : DeliveryLegRow) : Prop where
  legs : s'.legs = s.legs ++ [leg]
  id : leg.id = s.nextId
  nextId : s'.nextId = s.nextId + 1
  frame : s' = { s with legs := s'.legs, nextId := s'.nextId, outbox := s'.outbox }

theorem route_state {d : Deployment} {orderId : Nat} {legType : DeliveryLegType}
    {providerKey : Option String} {s s' : State} {choice : Option RoutingChoice}
    (h : (route d orderId legType providerKey).run s = .ok (choice, s')) : s' = s := by
  unfold route at h
  cases providerKey with
  | some key =>
      simp only [forcedChoice, Tx.run_read_bind, Tx.run_pure, Except.ok.injEq, Prod.mk.injEq] at h
      exact h.2.symm
  | none =>
      simp only [choose, Tx.run_read_bind] at h
      obtain ⟨order, s₁, hexpect, h⟩ := Tx.run_bind_eq_ok.mp h
      obtain ⟨-, rfl⟩ := Tx.run_expect_eq_ok.mp hexpect
      simp only [Tx.run_read_bind, Tx.run_pure, Except.ok.injEq, Prod.mk.injEq] at h
      exact h.2.symm

/-- What `dispatch` inserts: a requested leg nobody has answered for yet. -/
structure FreshLeg (s : State) (o : OrderRow) (legType : DeliveryLegType)
    (choice : RoutingChoice) (leg : DeliveryLegRow) : Prop where
  eq : leg = { newLeg o.id legType choice.provider.key .requested choice.attemptNumber
    o.vehicleClass none with id := s.nextId, createdAt := s.now }

theorem bookLeg_ok {orderId : Nat} {legType : DeliveryLegType} {choice : RoutingChoice}
    {s s' : State} {r : Option DeliveryLegRow} (hfresh : ∀ leg ∈ s.legs, leg.id ≠ s.nextId)
    (h : (bookLeg orderId legType choice).run s = .ok (r, s')) :
    ∃ o leg, getOrder s orderId = some o ∧ FreshLeg s o legType choice leg ∧ r = some leg ∧
      Inserted s s' leg := by
  rw [bookLeg, Tx.run_read_bind] at h
  obtain ⟨order, s₁, hexpect, h⟩ := Tx.run_bind_eq_ok.mp h
  obtain ⟨horder, rfl⟩ := Tx.run_expect_eq_ok.mp hexpect
  obtain rfl : order.id = orderId := (getOrder_mem horder).2
  rw [insertLeg, Tx.run_query_bind] at h
  refine ⟨order, _, horder, ⟨rfl⟩, ?_⟩
  cases hremote : choice.provider.remoteSubmission with
  | true =>
      simp only [hremote, if_true, enqueue, Tx.run_write_bind, Tx.run_pure,
        Except.ok.injEq, Prod.mk.injEq] at h
      exact ⟨h.1.symm, by rw [← h.2], rfl, by rw [← h.2], by rw [← h.2]⟩
  | false =>
      simp only [hremote, Bool.false_eq_true, if_false, saveLeg, Tx.run_write_bind,
        Tx.run_pure, Except.ok.injEq, Prod.mk.injEq] at h
      refine ⟨h.1.symm, ?_, rfl, by rw [← h.2]; rfl, by rw [← h.2]; rfl⟩
      -- the second save writes the row that was just inserted
      rw [← h.2]
      refine update_eq_self fun x hx hkey => ?_
      rcases List.mem_append.mp hx with hx | hx
      · exact absurd (of_decide_eq_true hkey) (hfresh x hx)
      · exact (List.mem_singleton.mp hx).symm

theorem bookLeg_total {orderId : Nat} (legType : DeliveryLegType) (choice : RoutingChoice)
    {s : State} {o : OrderRow} (ho : getOrder s orderId = some o) :
    ∃ r s', (bookLeg orderId legType choice).run s = .ok (r, s') := by
  rw [bookLeg, Tx.run_read_bind, ho, Tx.expect_some, Tx.run_pure_bind, insertLeg,
    Tx.run_query_bind]
  cases choice.provider.remoteSubmission with
  | true => exact ⟨_, _, rfl⟩
  | false => exact ⟨_, _, rfl⟩

/-- **Everything `dispatch` can do**: keep the active leg, find nobody, or
insert one requested leg with the chosen provider. -/
theorem dispatch_ok {d : Deployment} {orderId : Nat} {legType : DeliveryLegType}
    {providerKey : Option String} {s s' : State} {r : Option DeliveryLegRow}
    (hfresh : ∀ leg ∈ s.legs, leg.id ≠ s.nextId)
    (h : (dispatch d orderId legType providerKey).run s = .ok (r, s')) :
    (∃ leg, activeLeg s orderId = some leg ∧ r = some leg ∧ s' = s) ∨
      activeLeg s orderId = none ∧
        (((route d orderId legType providerKey).run s = .ok (none, s) ∧ r = none ∧ s' = s) ∨
          ∃ choice o leg, (route d orderId legType providerKey).run s = .ok (some choice, s) ∧
            getOrder s orderId = some o ∧ FreshLeg s o legType choice leg ∧ r = some leg ∧
            Inserted s s' leg) := by
  rw [dispatch, Tx.run_read_bind] at h
  cases hactive : activeLeg s orderId with
  | some leg =>
      simp only [hactive, Tx.run_pure, Except.ok.injEq, Prod.mk.injEq] at h
      exact Or.inl ⟨leg, rfl, h.1.symm, h.2.symm⟩
  | none =>
      refine Or.inr ⟨rfl, ?_⟩
      simp only [hactive] at h
      obtain ⟨choice, s₁, hroute, h⟩ := Tx.run_bind_eq_ok.mp h
      obtain rfl : s₁ = s := route_state hroute
      cases choice with
      | none =>
          simp only [Tx.run_pure, Except.ok.injEq, Prod.mk.injEq] at h
          exact Or.inl ⟨hroute, h.1.symm, h.2.symm⟩
      | some choice =>
          obtain ⟨o, leg, ho, hleg, hr, hinserted⟩ := bookLeg_ok hfresh h
          exact Or.inr ⟨choice, o, leg, hroute, ho, hleg, hr, hinserted⟩

/-- Routing an order that exists never aborts, so neither does its dispatch. -/
theorem dispatch_total (d : Deployment) {orderId : Nat} (legType : DeliveryLegType)
    (providerKey : Option String) {s : State} {o : OrderRow} (ho : getOrder s orderId = some o) :
    ∃ r s', (dispatch d orderId legType providerKey).run s = .ok (r, s') := by
  rw [dispatch, Tx.run_read_bind]
  cases activeLeg s orderId with
  | some leg => exact ⟨_, _, rfl⟩
  | none =>
      have hroute : ∃ choice, (route d orderId legType providerKey).run s = .ok (choice, s) := by
        cases providerKey with
        | some key => exact ⟨_, rfl⟩
        | none =>
            rw [route, choose, Tx.run_read_bind, ho, Tx.expect_some]
            exact ⟨_, rfl⟩
      obtain ⟨choice, hroute⟩ := hroute
      rw [Tx.run_bind_of_ok hroute]
      cases choice with
      | none => exact ⟨_, _, rfl⟩
      | some choice => exact bookLeg_total legType choice ho

/-! ## Leg events -/

/-- **Everything an event can do to a leg**: nothing when it does not apply;
else the leg moves, the listener follows, and a cancelled leg is dispatched
anew. -/
theorem apply_ok {d : Deployment} {leg : DeliveryLegRow} {event : DeliveryEventType}
    {routeTo : Option String} {s s' : State} {r : Option DeliveryLegRow}
    (h : (apply d leg event routeTo).run s = .ok (r, s')) :
    (nextLegStatus leg.status event = none ∧ r = none ∧ s' = s) ∨
      ∃ next s₁, nextLegStatus leg.status event = some next ∧
        r = some (movedLeg leg event next s.now) ∧
        (onDeliveryEvent (noticeOf (movedLeg leg event next s.now) event)).run
          (putLeg s (movedLeg leg event next s.now)) = .ok ((), s₁) ∧
        (event ≠ .cancelled ∧ s' = s₁ ∨
          event = .cancelled ∧ ∃ r', (dispatch d leg.orderId leg.legType routeTo).run s₁
            = .ok (r', s')) := by
  unfold apply at h
  cases hnext : nextLegStatus leg.status event with
  | none =>
      simp only [hnext, Tx.run_pure, Except.ok.injEq, Prod.mk.injEq] at h
      exact Or.inl ⟨rfl, h.1.symm, h.2.symm⟩
  | some next =>
      simp only [hnext, Tx.run_read_bind, saveLeg, Tx.run_write_bind] at h
      obtain ⟨_, s₁, hlisten, h⟩ := Tx.run_bind_eq_ok.mp h
      refine Or.inr ⟨next, s₁, rfl, ?_⟩
      by_cases hevent : event = .cancelled
      · simp only [hevent, if_true] at h
        obtain ⟨r', s₂, hdispatch, h⟩ := Tx.run_bind_eq_ok.mp h
        simp only [Tx.run_pure, Except.ok.injEq, Prod.mk.injEq] at h
        obtain ⟨rfl, rfl⟩ := h
        subst hevent
        exact ⟨rfl, hlisten, Or.inr ⟨rfl, r', hdispatch⟩⟩
      · simp only [hevent, if_false, Tx.run_pure, Except.ok.injEq, Prod.mk.injEq] at h
        exact ⟨h.1.symm, hlisten, Or.inl ⟨hevent, h.2.symm⟩⟩

/-- An event commits when its listener does, and the dispatch after it. -/
theorem apply_total {d : Deployment} {leg : DeliveryLegRow} {event : DeliveryEventType}
    {routeTo : Option String} {s s₁ : State} {next : DeliveryLegStatus}
    (hnext : nextLegStatus leg.status event = some next)
    (hlisten : (onDeliveryEvent (noticeOf (movedLeg leg event next s.now) event)).run
      (putLeg s (movedLeg leg event next s.now)) = .ok ((), s₁))
    (hdispatch : event = .cancelled → ∃ r s', (dispatch d leg.orderId leg.legType routeTo).run s₁
      = .ok (r, s')) :
    ∃ r s', (apply d leg event routeTo).run s = .ok (r, s') := by
  simp only [apply, hnext, Tx.run_read_bind, saveLeg, Tx.run_write_bind]
  rw [Tx.run_bind_of_ok hlisten]
  by_cases hevent : event = .cancelled
  · obtain ⟨r, s', hd⟩ := hdispatch hevent
    subst hevent
    simp only [if_true]
    exact ⟨_, _, Tx.run_bind_of_ok hd⟩
  · simp only [hevent, if_false]
    exact ⟨_, _, rfl⟩

/-- A step at a counter works on the active leg, or on the one it creates. -/
theorem activeLegOr_ok {orderId : Nat} {create : Db DeliveryLegRow} {s s' : State}
    {leg : DeliveryLegRow} (h : (activeLegOr orderId create).run s = .ok (leg, s')) :
    (activeLeg s orderId = some leg ∧ s' = s) ∨
      (activeLeg s orderId = none ∧ create.run s = .ok (leg, s')) := by
  rw [activeLegOr, Tx.run_read_bind] at h
  cases hactive : activeLeg s orderId with
  | some row =>
      rw [hactive] at h
      cases h
      exact Or.inl ⟨rfl, rfl⟩
  | none =>
      rw [hactive] at h
      exact Or.inr ⟨rfl, h⟩

/-- A snapshot of a leg we know, and fresher than what we hold: it is stored, or
the leg catches up with it. -/
theorem syncFromSnapshot_ok {d : Deployment} {providerKey : String}
    {snapshot : ProviderDeliverySnapshot} {s s' : State} {r : Bool}
    (h : (syncFromSnapshot d providerKey snapshot).run s = .ok (r, s')) :
    s' = s ∨
      ∃ leg, findByExternalId s providerKey snapshot.externalId = some leg ∧
        isStale leg snapshot = false ∧
        (s' = putLeg s (withSnapshot leg snapshot) ∨
          eventsToReach leg.status snapshot.status ≠ [] ∧
            (applyAll d (withSnapshot leg snapshot)
              (eventsToReach leg.status snapshot.status)).run s = .ok ((), s')) := by
  rw [syncFromSnapshot, Tx.run_read_bind] at h
  cases hfound : findByExternalId s providerKey snapshot.externalId with
  | none =>
      rw [hfound] at h
      cases h
      exact Or.inl rfl
  | some leg =>
      simp only [hfound] at h
      split at h
      · cases h
        exact Or.inl rfl
      · next hfresh =>
          refine Or.inr ⟨leg, rfl, Bool.not_eq_true _ ▸ hfresh, ?_⟩
          split at h
          · cases h
            exact Or.inl rfl
          · next hsteps =>
              obtain ⟨_, s₁, hall, hret⟩ := Tx.run_bind_eq_ok.mp h
              cases hret
              exact Or.inr ⟨hsteps, hall⟩

/-- Ending a leg from our side is its `cancelled` event. -/
theorem cancelLeg_ok {d : Deployment} {legId : Nat} {reason : String} {routeTo : Option String}
    {s s' : State} {r : Bool} (h : (cancelLeg d legId reason routeTo).run s = .ok (r, s')) :
    s' = s ∨
      ∃ leg moved, getLeg s legId = some leg ∧
        (apply d { leg with failureReason := some reason } .cancelled routeTo).run s
          = .ok (moved, s') := by
  rw [cancelLeg, Tx.run_read_bind] at h
  cases hleg : getLeg s legId with
  | none =>
      rw [hleg] at h
      cases h
      exact Or.inl rfl
  | some leg =>
      rw [hleg] at h
      obtain ⟨moved, s₁, happly, hret⟩ := Tx.run_bind_eq_ok.mp h
      cases hret
      exact Or.inr ⟨leg, moved, rfl, happly⟩

end Locoomo.LegMoves
