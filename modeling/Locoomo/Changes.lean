import Locoomo.Frames
import Locoomo.LockstepEvents

/-! What a transaction is made of. Every committed transaction is a sequence
of changes, each one of the kinds listed here, and the invariants of the
system are checked against the kinds. -/

namespace Locoomo.Changes

open Locoomo.Delivery Locoomo.Pricing Locoomo.Database Locoomo.Routing Locoomo.Logistics
  Locoomo.Handoffs Locoomo.Payments Locoomo.System Locoomo.OrderMoves Locoomo.LegMoves
  Locoomo.Soundness Locoomo.Lockstep Locoomo.Frames Relational

/-! ## The kinds -/

/-- An order moved along one edge at a counter. -/
structure Edge (s s₁ : State) (o o' : OrderRow) (source target : OrderStatus) : Prop where
  moved : Moved s s₁ o.id o o'
  source : o.status = source
  target : o'.status = target
  rider : o'.riderId = o.riderId

/-- A leg event of a row: the entity in memory, the event, what it did. -/
structure Emitted (s s₁ : State) (row leg : DeliveryLegRow) (event : DeliveryEventType)
    (next : DeliveryLegStatus) (o o' : OrderRow) : Prop where
  row_mem : row ∈ s.legs
  stands : Stands leg row event
  externalId : leg.externalId = row.externalId
  applies : nextLegStatus leg.status event = some next
  advanced : Advanced s s₁ row (movedLeg leg event next s.now) event o o'

/-- A requested in-house leg inserted for an order nobody carries yet. -/
def adopted (s : State) (orderId attemptNumber : Nat) : DeliveryLegRow :=
  { newLeg orderId .forward inHouseProviderKey .requested attemptNumber none none with
    id := s.nextId, createdAt := s.now }

/-- The row of a refused submission. -/
def refused (s : State) (row : DeliveryLegRow) (reason : String) : DeliveryLegRow :=
  { row with status := .cancelled, failureReason := some reason, endedAt := some s.now }

/-- What the payment provider has said of each intent. -/
abbrev Answers := PaymentIntentRow → VerifyAnswer

/-- One change. `recalls` says whether a leg that a Locoomo rider has claimed
may be cancelled, `answers` what the provider said of the intents. -/
inductive Change (d : Deployment) (recalls : Bool) (answers : Answers) (s s' : State) : Prop
  | clerical (h : Clerical s s')
  | key (k : IdempotencyKey) (h : s' = { s with keys := s.keys ++ [k] })
  | book {intent : PaymentIntentRow} (h : Booked s s' intent)
  | refer (intentId : Nat) (h : (setProviderReference intentId).run s = .ok ((), s'))
  | pay {intent : PaymentIntentRow} {verification : PaymentVerificationResult} {order : OrderRow}
      (hanswer : answers intent = some verification) (hpayable : Payable s intent verification)
      (h : Confirmed s s' intent verification order)
  | expire {intent : PaymentIntentRow} (hmem : intent ∈ s.intents)
      (hpending : intent.status = .pending)
      (h : s' = releaseNode intent.originNodeId (putIntent s { intent with status := .expired }))
  | intake {o o' : OrderRow} {s₁ : State}
      (h : Edge s s₁ o o' .arrivedAtDestination .readyForCollection) (hrest : Clerical s₁ s')
  | collect {o o' : OrderRow} {s₁ : State} {rule : RevenueSplitRule}
      (h : Edge s s₁ o o' .readyForCollection .completed) (hrest : Recorded s₁ s' o' rule)
  | returnIntake {o o' : OrderRow} {s₁ : State}
      (h : Edge s s₁ o o' .returnedToOrigin .readyForSenderCollection) (hrest : Clerical s₁ s')
  | returnCollect {o o' : OrderRow} {s₁ : State}
      (h : Edge s s₁ o o' .readyForSenderCollection .returnCompleted)
      (hrest : s' = releaseNode o'.originNodeId s₁)
  | dropOff {o o' : OrderRow} {s₁ s₂ : State} {r : Option DeliveryLegRow}
      (h : Edge s s₁ o o' .awaitingDropOff .parcelReceivedAtOrigin) (hmail : Clerical s₁ s₂)
      (hrest : (dispatch d o.id .forward none).run s₂ = .ok (r, s'))
  | dispatch {o : OrderRow} {routeTo : Option String} {r : Option DeliveryLegRow}
      (ho : getOrder s o.id = some o) (hwaiting : o.status = .parcelReceivedAtOrigin)
      (h : (dispatch d o.id .forward routeTo).run s = .ok (r, s'))
  | adopt {o : OrderRow} {attemptNumber : Nat} (ho : o ∈ s.orders)
      (hwaiting : o.status = .parcelReceivedAtOrigin) (hnone : activeLeg s o.id = none)
      (h : Inserted s s' (adopted s o.id attemptNumber))
  | claim {riderId : Nat} {p : RiderProfileRow} {row leg : DeliveryLegRow} {o o' : OrderRow}
      (hp : p ∈ s.riders) (hpid : p.userId = riderId)
      (hroom : p.currentActiveOrderCount < maxActiveOrdersPerRider)
      (hinHouse : row.providerKey = inHouseProviderKey)
      (hcourier : leg.courierUserId = some riderId)
      (h : Emitted (adjustRider riderId (· + 1) s) s' row leg .assigned .assigned o o')
  | event {row leg : DeliveryLegRow} {event : DeliveryEventType} {next : DeliveryLegStatus}
      {o o' : OrderRow} (hcourier : leg.courierUserId = row.courierUserId)
      (hcarrier : row.courierUserId = none ∨ event = .pickedUp ∨ event = .delivered)
      (hevent : event ≠ .cancelled) (h : Emitted s s' row leg event next o o')
  | cancel {row leg : DeliveryLegRow} {o o' : OrderRow} {s₁ : State} {routeTo : Option String}
      {r : Option DeliveryLegRow} (hrecall : recalls = false → row.courierUserId = none)
      (h : Emitted s s₁ row leg .cancelled .cancelled o o')
      (hrest : (Logistics.dispatch d row.orderId .forward routeTo).run s₁ = .ok (r, s'))
  | relabel {p : DeliveryLegRow → Bool} {f : DeliveryLegRow → DeliveryLegRow}
      (h : s' = { s with legs := update p f s.legs })
      (htwin : ∀ l ∈ s.legs, p l = true → Twin (f l) l)
      (hinHouse : ∀ l ∈ s.legs, p l = true → l.providerKey = inHouseProviderKey →
        (f l).externalId = l.externalId)
  | refuse {row : DeliveryLegRow} {reason : String} {r : Option DeliveryLegRow}
      (hrow : row ∈ s.legs) (hrequested : row.status = .requested)
      (h : (Logistics.dispatch d row.orderId .forward none).run (putLeg s (refused s row reason))
        = .ok (r, s'))

/-- A transaction, change by change. -/
abbrev ChangeSeq (d : Deployment) (recalls : Bool) (answers : Answers) : State → State → Prop :=
  Relation.ReflTransGen (Change d recalls answers)

/-! ## Legs and their couriers -/

/-- Only in-house legs have a Locoomo rider, and none of them is known to a
remote courier. -/
structure Sourced (s : State) : Prop where
  courier : ∀ l ∈ s.legs, ∀ riderId, l.courierUserId = some riderId →
    l.providerKey = inHouseProviderKey
  inHouse : ∀ l ∈ s.legs, l.providerKey = inHouseProviderKey → l.externalId = none

/-- The two invariants every transaction relies on. -/
structure Aligned (s : State) : Prop where
  inStep : InStep s
  sourced : Sourced s

theorem Sourced.mono {s s' : State} (h : Sourced s) (hlegs : s'.legs = s.legs) : Sourced s' where
  courier := by rw [hlegs]; exact h.courier
  inHouse := by rw [hlegs]; exact h.inHouse

theorem Sourced.append {s s' : State} {leg : DeliveryLegRow} (h : Sourced s)
    (hlegs : s'.legs = s.legs ++ [leg]) (hcourier : leg.courierUserId = none)
    (hext : leg.externalId = none) : Sourced s' where
  courier := by
    intro l hl riderId hr
    rw [hlegs, List.mem_append, List.mem_singleton] at hl
    rcases hl with hl | rfl
    · exact h.courier l hl riderId hr
    · rw [hcourier] at hr
      cases hr
  inHouse := by
    intro l hl hkey
    rw [hlegs, List.mem_append, List.mem_singleton] at hl
    rcases hl with hl | rfl
    · exact h.inHouse l hl hkey
    · exact hext

/-- What a dispatch changes: it may append one leg nobody has answered for. -/
theorem dispatch_sourced {d : Deployment} {orderId : Nat} {routeTo : Option String} {s s' : State}
    {r : Option DeliveryLegRow} (hs : InStep s) (h : Sourced s)
    (hd : (Logistics.dispatch d orderId .forward routeTo).run s = .ok (r, s')) : Sourced s' := by
  rcases dispatch_ok hs.leg_fresh hd with ⟨_, -, -, rfl⟩ | ⟨-, ⟨-, -, rfl⟩ | hnew⟩
  · exact h
  · exact h
  · obtain ⟨choice, o, leg, -, -, hfresh, -, hinserted⟩ := hnew
    refine h.append hinserted.legs ?_ ?_
    · rw [hfresh.eq]
      rfl
    · rw [hfresh.eq]
      rfl

/-- A dispatch touches legs, the id counter and the outbox. -/
theorem dispatch_frame {d : Deployment} {orderId : Nat} {routeTo : Option String} {s s' : State}
    {r : Option DeliveryLegRow} (hs : InStep s)
    (hd : (Logistics.dispatch d orderId .forward routeTo).run s = .ok (r, s')) :
    s' = { s with legs := s'.legs, nextId := s'.nextId, outbox := s'.outbox } := by
  rcases dispatch_ok hs.leg_fresh hd with ⟨_, -, -, rfl⟩ | ⟨-, ⟨-, -, rfl⟩ | hnew⟩
  · rfl
  · rfl
  · obtain ⟨_, _, _, -, -, -, -, hinserted⟩ := hnew
    exact hinserted.frame

/-! ## Every change keeps them -/

theorem Edge.inStep {s s₁ : State} {o o' : OrderRow} {source target : OrderStatus}
    (h : Edge s s₁ o o' source target) (hs : InStep s)
    (hsource : source ≠ .parcelReceivedAtOrigin) (hneeds : needsLeg source = false)
    (hneeds' : needsLeg target = false)
    (hfree : target = .awaitingDropOff ∨ target = .parcelReceivedAtOrigin →
      source = .awaitingDropOff) : InStep s₁ := by
  refine hs.moveOrder h.moved ?_ ?_ ?_ h.rider ?_
  · rwa [h.source]
  · rwa [h.source]
  · rwa [h.target]
  · rwa [h.source, h.target]

theorem Edge.legs {s s₁ : State} {o o' : OrderRow} {source target : OrderStatus}
    (h : Edge s s₁ o o' source target) : s₁.legs = s.legs := by
  rw [h.moved.frame]

theorem clerical_inStep {s s' : State} (hs : InStep s) (h : Clerical s s') : InStep s' :=
  hs.mono h.orders h.legs h.nextId

theorem Emitted.inStep {s s₁ : State} {row leg : DeliveryLegRow} {event : DeliveryEventType}
    {next : DeliveryLegStatus} {o o' : OrderRow} (h : Emitted s s₁ row leg event next o o')
    (hs : InStep s) : InStep s₁ :=
  h.advanced.inStep hs h.row_mem h.stands h.applies

theorem Emitted.sourced {s s₁ : State} {row leg : DeliveryLegRow} {event : DeliveryEventType}
    {next : DeliveryLegStatus} {o o' : OrderRow} (h : Emitted s s₁ row leg event next o o')
    (hb : Sourced s)
    (hcourier : leg.courierUserId = row.courierUserId ∨ row.providerKey = inHouseProviderKey) :
    Sourced s₁ := by
  have hmem : ∀ {l}, l ∈ s₁.legs → l = movedLeg leg event next s.now ∨ l ∈ s.legs := by
    intro l hl
    rw [h.advanced.legs] at hl
    exact (mem_put.mp hl).imp And.left And.left
  constructor
  · intro l hl riderId hr
    rcases hmem hl with rfl | hl
    · rw [movedLeg_providerKey, h.stands.providerKey]
      rw [movedLeg_courierUserId] at hr
      split at hr
      · cases hr
      · rcases hcourier with hc | hc
        · exact hb.courier row h.row_mem riderId (hc ▸ hr)
        · exact hc
    · exact hb.courier l hl riderId hr
  · intro l hl hkey
    rcases hmem hl with rfl | hl
    · rw [movedLeg_providerKey, h.stands.providerKey] at hkey
      rw [movedLeg_externalId, h.externalId]
      exact hb.inHouse row h.row_mem hkey
    · exact hb.inHouse l hl hkey

/-- After a cancelled leg its order waits at the origin again. -/
theorem Emitted.dispatch_inStep {d : Deployment} {s s₁ s' : State} {row leg : DeliveryLegRow}
    {o o' : OrderRow} {routeTo : Option String} {r : Option DeliveryLegRow}
    (h : Emitted s s₁ row leg .cancelled .cancelled o o') (hs : InStep s)
    (hrest : (Logistics.dispatch d row.orderId .forward routeTo).run s₁ = .ok (r, s')) :
    InStep s' := by
  refine Lockstep.dispatch_inStep (h.inStep hs) (fun p hp _ => ?_) hrest
  have ho' := h.advanced.found
  rw [movedLeg_orderId, h.stands.orderId] at ho'
  have hstatus := h.advanced.status
  rw [movedLeg_status, Option.some.inj (ho'.symm.trans hp)] at hstatus
  exact hstatus

/-- The row a refused submission leaves, before its re-routing. -/
theorem refused_inStep {s : State} {row : DeliveryLegRow} (reason : String) (hs : InStep s)
    (hrow : row ∈ s.legs) (hrequested : row.status = .requested) :
    InStep (putLeg s (refused s row reason)) ∧
      ∃ o, getOrder s row.orderId = some o ∧ o.status = .parcelReceivedAtOrigin := by
  have hactive : isActive row.status = true := by
    rw [hrequested]
    decide
  obtain ⟨o, ho⟩ := hs.getOrder_of_leg hrow
  obtain ⟨homem, hoid⟩ := getOrder_mem ho
  have hwaiting : o.status = .parcelReceivedAtOrigin := by
    rw [(hs.paired row hrow hactive o homem hoid).1, hrequested]
    rfl
  refine ⟨?_, o, ho, hwaiting⟩
  refine hs.move hrow hactive homem hoid rfl (put_self hs.orderIds homem).symm rfl rfl rfl
    (hs.forward row hrow) rfl ?_ ?_ ?_ ?_
  · intro h
    cases h
  · intro _
    rw [hwaiting]
    rfl
  · intro _
    exact hs.free o homem (Or.inr hwaiting)
  · intro h
    cases h

theorem refused_sourced {s : State} {row : DeliveryLegRow} (reason : String) (hb : Sourced s)
    (hrow : row ∈ s.legs) : Sourced (putLeg s (refused s row reason)) := by
  constructor
  · intro l hl
    rcases mem_put.mp hl with ⟨rfl, -⟩ | ⟨hl, -⟩
    · exact hb.courier row hrow
    · exact hb.courier l hl
  · intro l hl
    rcases mem_put.mp hl with ⟨rfl, -⟩ | ⟨hl, -⟩
    · exact hb.inHouse row hrow
    · exact hb.inHouse l hl

/-- **Every change keeps leg and order in step.** -/
theorem Change.inStep {d : Deployment} {recalls : Bool} {answers : Answers} {s s' : State}
    (h : Change d recalls answers s s') (hs : InStep s) : InStep s' := by
  cases h with
  | clerical h => exact clerical_inStep hs h
  | key k h => exact hs.mono (by rw [h]) (by rw [h]) (by rw [h])
  | book h =>
      exact hs.mono (by rw [h.eq]; rfl) (by rw [h.eq]; rfl) (by rw [h.eq]; exact Nat.le_succ _)
  | refer intentId h =>
      cases h
      exact hs.mono rfl rfl le_rfl
  | pay hanswer hpayable h =>
      exact hs.place h.orders (by rw [h.frame]) h.placed.id h.nextId h.placed.status
        h.placed.riderId
  | expire hmem hpending h => exact hs.mono (by rw [h]; rfl) (by rw [h]; rfl) (by rw [h]; rfl)
  | intake h hrest => exact clerical_inStep (h.inStep hs (by decide) rfl rfl (by decide)) hrest
  | returnIntake h hrest =>
      exact clerical_inStep (h.inStep hs (by decide) rfl rfl (by decide)) hrest
  | collect h hrest =>
      have hs₁ := h.inStep hs (by decide) rfl rfl (by decide)
      exact hs₁.mono (by rw [hrest.eq]) (by rw [hrest.eq]) (by rw [hrest.eq])
  | returnCollect h hrest =>
      have hs₁ := h.inStep hs (by decide) rfl rfl (by decide)
      exact hs₁.mono (by rw [hrest]; rfl) (by rw [hrest]; rfl) (by rw [hrest]; rfl)
  | @dropOff o o' s₁ s₂ r h hmail hrest =>
      have hs₂ := clerical_inStep (h.inStep hs (by decide) rfl rfl (by decide)) hmail
      refine dispatch_inStep hs₂ (fun p hp _ => ?_) hrest
      have hfound := h.moved.found'
      rw [getOrder, hmail.orders, ← getOrder, hfound] at hp
      obtain rfl : o' = p := Option.some.inj hp
      exact h.target
  | dispatch ho hwaiting h =>
      refine dispatch_inStep hs (fun p hp _ => ?_) h
      obtain rfl := Option.some.inj (ho.symm.trans hp)
      exact hwaiting
  | adopt ho hwaiting hnone h =>
      exact hs.insert ho rfl hwaiting (activeLeg_none hnone) h rfl rfl rfl
  | claim hp hpid hroom hinHouse hcourier h =>
      exact h.inStep (hs.mono rfl rfl le_rfl)
  | event hcourier hcarrier hevent h => exact h.inStep hs
  | cancel hrecall h hrest => exact h.dispatch_inStep hs hrest
  | relabel h htwin hinHouse => exact hs.relabel (by rw [h]) htwin (by rw [h]) (by rw [h])
  | @refuse row reason r hrow hrequested h =>
      obtain ⟨hs₁, o, ho, hwaiting⟩ := refused_inStep reason hs hrow hrequested
      refine dispatch_inStep hs₁ (fun p hp _ => ?_) h
      obtain rfl : o = p := Option.some.inj (ho.symm.trans hp)
      exact hwaiting

theorem Change.sourced {d : Deployment} {recalls : Bool} {answers : Answers} {s s' : State}
    (h : Change d recalls answers s s') (hs : InStep s) (hb : Sourced s) : Sourced s' := by
  cases h with
  | clerical h => exact hb.mono h.legs
  | key k h => exact hb.mono (by rw [h])
  | book h => exact hb.mono (by rw [h.eq]; rfl)
  | refer intentId h =>
      cases h
      exact hb.mono rfl
  | pay hanswer hpayable h => exact hb.mono (by rw [h.frame])
  | expire hmem hpending h => exact hb.mono (by rw [h]; rfl)
  | intake h hrest => exact hb.mono (hrest.legs.trans h.legs)
  | returnIntake h hrest => exact hb.mono (hrest.legs.trans h.legs)
  | collect h hrest => exact hb.mono (by rw [hrest.eq]; exact h.legs)
  | returnCollect h hrest => exact hb.mono (by rw [hrest]; exact h.legs)
  | dropOff h hmail hrest =>
      have hs₂ := clerical_inStep (h.inStep hs (by decide) rfl rfl (by decide)) hmail
      exact dispatch_sourced hs₂ (hb.mono (hmail.legs.trans h.legs)) hrest
  | dispatch ho hwaiting h => exact dispatch_sourced hs hb h
  | adopt ho hwaiting hnone h => exact hb.append h.legs rfl rfl
  | claim hp hpid hroom hinHouse hcourier h =>
      exact h.sourced (hb.mono rfl) (Or.inr hinHouse)
  | event hcourier hcarrier hevent h => exact h.sourced hb (Or.inl hcourier)
  | cancel hrecall h hrest =>
      have hcourier := h.stands.courier (by decide)
      exact dispatch_sourced (h.inStep hs) (h.sourced hb (Or.inl hcourier)) hrest
  | @relabel p f h htwin hinHouse =>
      have hmem : ∀ {l'}, l' ∈ s'.legs → ∃ l ∈ s.legs, Twin l' l ∧
          (l.providerKey = inHouseProviderKey → l'.externalId = l.externalId) := by
        intro l' hl'
        rw [h] at hl'
        obtain ⟨l, hl, rfl⟩ := mem_update.mp hl'
        refine ⟨l, hl, ?_⟩
        split
        · exact ⟨htwin l hl ‹_›, hinHouse l hl ‹_›⟩
        · exact ⟨Twin.refl l, fun _ => rfl⟩
      constructor
      · intro l' hl' riderId hr
        obtain ⟨l, hl, ht, -⟩ := hmem hl'
        rw [ht.providerKey]
        exact hb.courier l hl riderId (ht.courier ▸ hr)
      · intro l' hl' hkey
        obtain ⟨l, hl, ht, hext⟩ := hmem hl'
        rw [ht.providerKey] at hkey
        rw [hext hkey]
        exact hb.inHouse l hl hkey
  | @refuse row reason r hrow hrequested h =>
      exact dispatch_sourced (refused_inStep reason hs hrow hrequested).1
        (refused_sourced reason hb hrow) h

theorem Change.aligned {d : Deployment} {recalls : Bool} {answers : Answers} {s s' : State}
    (h : Change d recalls answers s s') (hs : Aligned s) : Aligned s' :=
  ⟨h.inStep hs.inStep, h.sourced hs.inStep hs.sourced⟩

/-- **The rule for invariants**: what every change from an aligned state keeps,
a sequence of changes keeps. -/
theorem ChangeSeq.keeps {d : Deployment} {recalls : Bool} {answers : Answers} {P : State → Prop}
    {s s' : State}
    (hchange : ∀ {s s'}, Aligned s → P s → Change d recalls answers s s' → P s')
    (h : ChangeSeq d recalls answers s s') (hs : Aligned s) (hp : P s) : Aligned s' ∧ P s' := by
  induction h with
  | refl => exact ⟨hs, hp⟩
  | tail _ hstep ih => exact ⟨hstep.aligned ih.1, hchange ih.1 ih.2 hstep⟩

end Locoomo.Changes
