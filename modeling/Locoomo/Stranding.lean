import Locoomo.TurnSteps

/-! No order is stranded. As long as the in-house pool takes anything, a leg
that ends before the parcel is picked up has a successor in the transaction
that ends it, whatever the couriers have done to the order before. -/

namespace Locoomo.Stranding

open Locoomo.Delivery Locoomo.Database Locoomo.Routing Locoomo.Logistics Locoomo.System
  Locoomo.OrderMoves Locoomo.LegMoves Locoomo.Soundness Locoomo.Lockstep Locoomo.Frames
  Locoomo.Changes Locoomo.Transactions Locoomo.Interleaved Locoomo.Turns Relational

/-! ## The setting -/

/-- Enabled, with an attempt to give, and no limit on distance, Nodes or time. -/
def isUnlimited (row : LogisticsProviderRow) : Bool :=
  row.enabled && decide (1 ≤ row.maxAttempts) && row.minDistanceKm.isNone
    && row.maxDistanceKm.isNone && (row.pilotNodeIds.getD []).isEmpty
    && row.assignTimeoutMinutes.isNone

/-- The in-house pool takes every order its vehicles can carry. -/
def inHouseOpen (s : State) : Prop :=
  (get LogisticsProviderRow.key inHouseProviderKey s.providers).any isUnlimited = true

instance (s : State) : Decidable (inHouseOpen s) := inferInstanceAs (Decidable (_ = _))

/-- The order asks for no vehicle, or for one the riders have. -/
def inHouseServes (o : OrderRow) : Bool :=
  o.vehicleClass.all fun vehicleClass => decide (vehicleClass ∈ inHouseRiders.vehicleClasses)

/-- Between its origin and its courier. -/
def waits : OrderStatus → Bool
  | .parcelReceivedAtOrigin | .riderAssigned => true
  | _ => false

theorem isEarly_of_waits {status : OrderStatus} (h : waits status = true) :
    isEarly status = true := by
  revert h
  cases status <;> decide

/-! ## The invariant -/

/-- The in-house pool still has its attempt for every order that has not left,
and every waiting order that it serves has a courier, but for the one that the
transaction is about to dispatch. -/
structure Offered (due : Option Nat) (s : State) : Prop where
  unnamed : ∀ l ∈ s.legs, l.providerKey = inHouseProviderKey → l.externalId = none
  unspent : ∀ l ∈ s.legs, l.providerKey = inHouseProviderKey → isActive l.status = false →
    ∀ o ∈ s.orders, o.id = l.orderId → isEarly o.status = false
  carried : ∀ o ∈ s.orders, due ≠ some o.id → waits o.status = true → inHouseServes o = true →
    ∃ l ∈ s.legs, l.orderId = o.id ∧ isActive l.status = true

variable {d : Deployment} {target due : Option Nat} {s s₁ s' : State}

theorem Offered.same (h : Offered due s) (hlegs : s'.legs = s.legs)
    (horders : s'.orders = s.orders) :
    Offered due s' where
  unnamed := by rw [hlegs]; exact h.unnamed
  unspent := by rw [hlegs, horders]; exact h.unspent
  carried := by rw [hlegs, horders]; exact h.carried

theorem inHouseServes_of_core {o o' : OrderRow} (h : core o' = core o) :
    inHouseServes o' = inHouseServes o := by
  have hvehicle : o'.vehicleClass = o.vehicleClass := by
    simpa [core] using congrArg OrderRow.vehicleClass h
  rw [inHouseServes, inHouseServes, hvehicle]

/-! ## Routing finds somebody -/

/-- With the pool open and its attempt unspent, an order it serves is routed. -/
theorem route_serves (hopen : inHouseOpen s) {routeTo : Option String}
    (hroute : IsOpenRoute routeTo) {o : OrderRow} (ho : getOrder s o.id = some o)
    (hserves : inHouseServes o = true)
    (hunspent : ∀ l ∈ s.legs, l.orderId = o.id → l.providerKey ≠ inHouseProviderKey) :
    (route d o.id .forward routeTo).run s ≠ .ok (none, s) := by
  rcases hroute with rfl | rfl
  · obtain ⟨row, hrow, hlimits⟩ := (Option.any_eq_true _ _).mp hopen
    obtain ⟨hmem, hkey⟩ := get_some hrow
    let legs := s.legs.filter (isLegOf o.id .forward)
    let context : RoutingContext :=
      { originNodeId := o.originNodeId
        distanceKm := d.distanceKm o.originNodeId o.destinationNodeId
        vehicleClass := o.vehicleClass
        attemptsByProvider := fun key => legs.countP fun leg => leg.providerKey = key }
    have hattempts : context.attemptsByProvider inHouseProviderKey = 0 := by
      refine List.countP_eq_zero.mpr fun l hl => ?_
      obtain ⟨hl, hof⟩ := List.mem_filter.mp hl
      simp only [isLegOf, Bool.and_eq_true, decide_eq_true_eq] at hof
      simpa using hunspent l hl hof.1
    have heligible : eligible (fun key => (registryGet d key).isSome) context
        (routingConfig d row) = true := by
      simp only [isUnlimited, Bool.and_eq_true, decide_eq_true_eq, Option.isNone_iff_eq_none,
        List.isEmpty_iff] at hlimits
      obtain ⟨⟨⟨⟨⟨henabled, hmax⟩, hmin⟩, hmaxKm⟩, hpilots⟩, -⟩ := hlimits
      have hpilots' : row.pilotNodeIds = none ∨ row.pilotNodeIds = some [] := by
        cases hp : row.pilotNodeIds with
        | none => exact Or.inl rfl
        | some pilots =>
            rw [hp] at hpilots
            exact Or.inr (congrArg some hpilots)
      have hvehicle : ∀ v, o.vehicleClass = some v → v ∈ inHouseRiders.vehicleClasses := by
        intro v hv
        rw [inHouseServes, hv] at hserves
        exact of_decide_eq_true hserves
      simp only [eligible, routingConfig, hkey, henabled, registryGet_inHouse, hattempts, hmin,
        hmaxKm, Option.isSome_some, Option.map_some, Option.getD_some, Bool.and_eq_true,
        decide_eq_true_eq, true_and, and_true]
      refine ⟨⟨hmax, ?_⟩, ?_⟩
      · rcases hpilots' with hp | hp
        · rw [hp]
        · rw [hp]
      · cases hv : o.vehicleClass with
        | none => simp [context, hv]
        | some v => simpa [context, hv] using hvehicle v hv
    have hconfig : routingConfig d row ∈ s.providers.map (routingConfig d) :=
      List.mem_map_of_mem hmem
    obtain ⟨config, hchosen⟩ : ∃ config, chooseProvider d.keyLe (s.providers.map (routingConfig d))
        (fun key => (registryGet d key).isSome) context = some config :=
      chooseProvider_ne_none hconfig heligible
    obtain ⟨provider, hprovider⟩ : ∃ provider, registryGet d config.key = some provider := by
      have heligible' := (chooseProvider_some hchosen).2
      simp only [eligible, Bool.and_eq_true] at heligible'
      exact Option.isSome_iff_exists.mp heligible'.1.1.1.1.1.2
    intro h
    rw [route, choose, Tx.run_read_bind, ho, Tx.expect_some] at h
    simp only [Tx.run_pure_bind, Tx.run_read_bind, Tx.run_pure, Except.ok.injEq,
      Prod.mk.injEq] at h
    have hnone := h.1
    change (chooseProvider _ _ _ context).bind _ = none at hnone
    rw [hchosen, Option.bind_some, hprovider] at hnone
    cases hnone
  · intro h
    simp only [route, forcedChoice, Tx.run_read_bind, Tx.run_pure, registryGet_inHouse] at h
    cases h

/-! ## What keeps the invariant -/

/-- A new active leg. -/
theorem Offered.append (h : Offered due s) {leg : DeliveryLegRow}
    (hlegs : s'.legs = s.legs ++ [leg]) (horders : s'.orders = s.orders)
    (hext : leg.externalId = none) (hactive : isActive leg.status = true)
    (hdue : due = none ∨ due = some leg.orderId) : Offered none s' := by
  have hmem : ∀ {l}, l ∈ s'.legs ↔ l ∈ s.legs ∨ l = leg := by
    intro l
    rw [hlegs, List.mem_append, List.mem_singleton]
  constructor
  · intro l hl hkey
    rcases hmem.mp hl with hl | rfl
    · exact h.unnamed l hl hkey
    · exact hext
  · intro l hl hkey hover o ho
    rw [horders] at ho
    rcases hmem.mp hl with hl | rfl
    · exact h.unspent l hl hkey hover o ho
    · rw [hactive] at hover
      cases hover
  · intro o ho _ hwaits hserves
    rw [horders] at ho
    by_cases hid : due = some o.id
    · have horder : leg.orderId = o.id := by
        rcases hdue with hdue | hdue
        · rw [hdue] at hid
          cases hid
        · exact Option.some.inj (hdue.symm.trans hid)
      exact ⟨leg, hmem.mpr (Or.inr rfl), horder, hactive⟩
    · obtain ⟨l, hl, hlo, hact⟩ := h.carried o ho hid hwaits hserves
      exact ⟨l, hmem.mpr (Or.inl hl), hlo, hact⟩

/-- A dispatch while every waiting order has its courier. -/
theorem Offered.dispatch (h : Offered none s) (hs : Sound s) {orderId : Nat}
    {routeTo : Option String} {r : Option DeliveryLegRow}
    (hd : (Logistics.dispatch d orderId .forward routeTo).run s = .ok (r, s')) :
    Offered none s' := by
  rcases dispatch_cases hs hd with rfl | ⟨leg, hbooking⟩
  · exact h
  · have hactive : isActive leg.status = true := by
      rw [hbooking.requested]
      rfl
    exact h.append hbooking.inserted.legs (by rw [hbooking.inserted.frame]) hbooking.externalId
      hactive (Or.inl rfl)

/-- **The successor.** The order that lost its courier gets the next one. -/
theorem Offered.dispatchDue {orderId : Nat} (h : Offered (some orderId) s) (hs : Sound s)
    (hopen : inHouseOpen s) {routeTo : Option String} (hroute : IsOpenRoute routeTo)
    {r : Option DeliveryLegRow}
    (hd : (Logistics.dispatch d orderId .forward routeTo).run s = .ok (r, s')) :
    Offered none s' := by
  have hothers : ∀ o ∈ s.orders, o.id ≠ orderId → waits o.status = true →
      inHouseServes o = true → ∃ l ∈ s.legs, l.orderId = o.id ∧ isActive l.status = true := by
    intro o ho hne
    exact h.carried o ho fun heq => hne (Option.some.inj heq).symm
  rcases dispatch_ok hs.leg_fresh hd with ⟨leg, hleg, -, rfl⟩ | ⟨hnone, ⟨hnobody, -, rfl⟩ | hnew⟩
  · -- it has one still
    obtain ⟨hmem, horder, hactive⟩ := activeLeg_some hleg
    refine ⟨h.unnamed, h.unspent, fun o ho _ hwaits hserves => ?_⟩
    by_cases hid : o.id = orderId
    · exact ⟨leg, hmem, horder.trans hid.symm, hactive⟩
    · exact hothers o ho hid hwaits hserves
  · -- nobody takes it, so it does not wait or the pool cannot carry it
    refine ⟨h.unnamed, h.unspent, fun o ho _ hwaits hserves => ?_⟩
    by_cases hid : o.id = orderId
    · subst hid
      have hunspent : ∀ l ∈ s'.legs, l.orderId = o.id → l.providerKey ≠ inHouseProviderKey := by
        intro l hl hlo hkey
        have hlate := h.unspent l hl hkey (activeLeg_none hnone l hl hlo) o ho hlo.symm
        rw [isEarly_of_waits hwaits] at hlate
        cases hlate
      exact absurd hnobody (route_serves hopen hroute (hs.orderIds.get_eq ho) hserves hunspent)
    · exact hothers o ho hid hwaits hserves
  · obtain ⟨choice, o, leg, -, ho, hfresh, -, hinserted⟩ := hnew
    have horder : leg.orderId = orderId := by
      rw [hfresh.eq]
      exact (getOrder_mem ho).2
    refine h.append hinserted.legs (by rw [hinserted.frame]) ?_ ?_ (Or.inr (by rw [horder]))
    · rw [hfresh.eq]
      rfl
    · rw [hfresh.eq]
      rfl

/-- An order walks on: from a waiting status to a waiting one, out of the early
ones, or into the hands of a dispatch. -/
theorem Offered.walk (h : Offered none s) {o o' : OrderRow}
    {source goal : OrderStatus} (hw : Walked s s' o o' source goal) (hlegs : s'.legs = s.legs)
    (hearly : isEarly goal = true → isEarly source = true)
    (hwaits : waits goal = true → waits source = true ∨ due = some o.id) : Offered due s' := by
  have hid : o'.id = o.id := core_id hw.same
  have hmem : ∀ {p}, p ∈ s'.orders → p = o' ∨ p ∈ s.orders := by
    intro p hp
    rw [hw.orders] at hp
    exact (mem_put.mp hp).imp And.left And.left
  constructor
  · rw [hlegs]
    exact h.unnamed
  · intro l hl hkey hover p hp hpid
    rw [hlegs] at hl
    rcases hmem hp with rfl | hp
    · have hbefore := h.unspent l hl hkey hover o hw.mem (hid.symm.trans hpid)
      rw [hw.source] at hbefore
      rw [hw.target]
      by_contra hne
      rw [hearly (by simpa using hne)] at hbefore
      cases hbefore
    · exact h.unspent l hl hkey hover p hp hpid
  · intro p hp hdue hpwaits hserves
    rw [hlegs]
    rcases hmem hp with rfl | hp
    · rw [hw.target] at hpwaits
      rw [inHouseServes_of_core hw.same] at hserves
      rw [hid]
      rcases hwaits hpwaits with hsource | hdue'
      · exact h.carried o hw.mem (by simp) (hw.source ▸ hsource) hserves
      · exact absurd (hid ▸ hdue') hdue
    · exact h.carried p hp (by simp) hpwaits hserves

/-- A leg's row is replaced: it stays active, its order no longer waits, or a
dispatch follows. -/
theorem Offered.putLeg (h : Offered none s) (hs : Sound s) {row leg : DeliveryLegRow}
    (hrow : row ∈ s.legs) (hid : leg.id = row.id) (horder : leg.orderId = row.orderId)
    (hkey : leg.providerKey = row.providerKey) (hext : leg.externalId = row.externalId)
    (hlegs : s'.legs = put DeliveryLegRow.id leg s.legs) (horders : s'.orders = s.orders)
    (hspent : isActive leg.status = false → row.providerKey = inHouseProviderKey →
      ∀ o ∈ s.orders, o.id = row.orderId → isEarly o.status = false)
    (hover : isActive leg.status = false → due ≠ some row.orderId →
      ∀ o ∈ s.orders, o.id = row.orderId → waits o.status = false) : Offered due s' := by
  have hmem : ∀ {l}, l ∈ s'.legs → l = leg ∨ l ∈ s.legs := by
    intro l hl
    rw [hlegs] at hl
    exact (mem_put.mp hl).imp And.left And.left
  constructor
  · intro l hl hlkey
    rcases hmem hl with rfl | hl
    · rw [hext]
      exact h.unnamed row hrow (hkey ▸ hlkey)
    · exact h.unnamed l hl hlkey
  · intro l hl hlkey hlover o ho hoid
    rw [horders] at ho
    rcases hmem hl with rfl | hl
    · exact hspent hlover (hkey ▸ hlkey) o ho (hoid.trans horder)
    · exact h.unspent l hl hlkey hlover o ho hoid
  · intro o ho hdue hwaits hserves
    rw [horders] at ho
    obtain ⟨l, hl, hlo, hact⟩ := h.carried o ho (by simp) hwaits hserves
    by_cases hlid : l.id = leg.id
    · obtain rfl : l = row := hs.legIds.eq_of_key hl hrow (hlid.trans hid)
      refine ⟨leg, ?_, horder.trans hlo, ?_⟩
      · rw [hlegs]
        exact mem_put.mpr (Or.inl ⟨rfl, l, hl, hlid⟩)
      · by_contra hne
        have hlate := hover (by simpa using hne) (hlo ▸ hdue) o ho hlo.symm
        rw [hwaits] at hlate
        cases hlate
    · refine ⟨l, ?_, hlo, hact⟩
      rw [hlegs]
      exact mem_put.mpr (Or.inr ⟨hl, hlid⟩)

/-! ## Every turn keeps it -/

theorem early_edge {event : DeliveryEventType} (h : isEarly (orderEdge event).2 = true) :
    isEarly (orderEdge event).1 = true := by
  revert h
  cases event <;> decide

theorem waits_edge {event : DeliveryEventType} (h : waits (orderEdge event).2 = true) :
    waits (orderEdge event).1 = true := by
  revert h
  cases event <;> decide

/-- A leg that is over and was not cancelled has taken its order from the origin. -/
theorem late_of_over {current next : DeliveryLegStatus} {event : DeliveryEventType}
    (hnext : nextLegStatus current event = some next) (hover : isActive next = false)
    (hevent : event ≠ .cancelled) : isEarly (orderEdge event).2 = false := by
  revert hnext hover hevent
  cases event <;> cases current <;> cases next <;> decide

theorem waits_of_late {status : OrderStatus} (h : isEarly status = false) :
    waits status = false := by
  revert h
  cases status <;> decide

/-- A leg event; after a cancellation the dispatch is due. -/
theorem Offered.fired (h : Offered none s) (hs : Sound s) {row leg : DeliveryLegRow}
    {event : DeliveryEventType} {next : DeliveryLegStatus} (hf : Fired s s₁ row leg event next)
    (hremote : event = .cancelled → row.providerKey ≠ inHouseProviderKey)
    (hdue : event = .cancelled → due = some row.orderId) : Offered due s₁ := by
  let t : State := { s with orders := s₁.orders }
  have hsound : Sound t := by
    rcases hf.order with ⟨heq, -⟩ | ⟨o, o', -, hw⟩
    · exact hs.mono heq rfl le_rfl
    · exact hs.putOrder hw.mem (core_id hw.same) hw.orders rfl rfl
  have hwalked : Offered none t := by
    rcases hf.order with ⟨heq, -⟩ | ⟨o, o', -, hw⟩
    · exact h.same rfl heq
    · have hw' : Walked s t o o' (orderEdge event).1 (orderEdge event).2 :=
        ⟨hw.mem, hw.orders, hw.same, hw.source, hw.target⟩
      exact h.walk hw' rfl early_edge fun hwaits => Or.inl (waits_edge hwaits)
  -- an order left by a leg that is over, but not cancelled, has left its origin
  have hlate : isActive next = false → event ≠ .cancelled → ∀ p ∈ t.orders, p.id = row.orderId →
      isEarly p.status = false := by
    intro hover hevent p hp hpid
    rcases hf.order with ⟨-, hactive | hcancelled⟩ | ⟨o, o', hoid, hw⟩
    · rw [hactive] at hover
      cases hover
    · exact absurd hcancelled hevent
    · have hid : o'.id = o.id := core_id hw.same
      have ho' : o' ∈ t.orders := by
        show o' ∈ s₁.orders
        rw [hw.orders]
        exact mem_put.mpr (Or.inl ⟨rfl, o, hw.mem, hid.symm⟩)
      obtain rfl : p = o' := hsound.orderIds.eq_of_key hp ho' (hpid.trans (hid.trans hoid).symm)
      rw [hw.target]
      exact late_of_over hf.applies hover hevent
  refine hwalked.putLeg hsound hf.row_mem ?_ ?_ ?_ ?_ hf.legs rfl ?_ ?_
  · rw [movedLeg_id, hf.stands.id]
  · rw [movedLeg_orderId, hf.stands.orderId]
  · rw [movedLeg_providerKey, hf.stands.providerKey]
  · rw [movedLeg_externalId, hf.externalId]
  · rw [movedLeg_status]
    intro hover hkey
    exact hlate hover fun hevent => hremote hevent hkey
  · rw [movedLeg_status]
    intro hover hne p hp hpid
    exact waits_of_late (hlate hover (fun hevent => hne (hdue hevent)) p hp hpid)

/-- The leg a transaction may end is with a remote courier. -/
def RemoteTarget (target : Option Nat) (s : State) : Prop :=
  ∀ legId, target = some legId →
    ∃ l ∈ s.legs, l.id = legId ∧ l.providerKey ≠ inHouseProviderKey

theorem RemoteTarget.keep (h : RemoteTarget target s) (hkeeping : Keeping target s s') :
    RemoteTarget target s' := by
  intro legId hlegId
  obtain ⟨l, hl, hid, hkey⟩ := h legId hlegId
  obtain ⟨l', hl', hkept⟩ := hkeeping l hl
  exact ⟨l', hl', hkept.id.trans hid, hkept.providerKey.symm ▸ hkey⟩

theorem RemoteTarget.remote (h : RemoteTarget target s) (hs : Sound s) {row : DeliveryLegRow}
    (hrow : row ∈ s.legs) (htarget : target = some row.id) :
    row.providerKey ≠ inHouseProviderKey := by
  obtain ⟨l, hl, hid, hkey⟩ := h row.id htarget
  exact hs.legIds.eq_of_key hl hrow hid ▸ hkey

/-- A new order is still with its sender. -/
theorem Offered.place (h : Offered none s) (hs : Sound s) {o : OrderRow}
    (horders : s'.orders = s.orders ++ [o]) (hlegs : s'.legs = s.legs) (hid : o.id = s.nextId)
    (hstatus : o.status = .awaitingDropOff) : Offered none s' := by
  have hmem : ∀ {p}, p ∈ s'.orders → p ∈ s.orders ∨ p = o := by
    intro p hp
    rw [horders, List.mem_append, List.mem_singleton] at hp
    exact hp
  constructor
  · rw [hlegs]
    exact h.unnamed
  · intro l hl hkey hover p hp hpid
    rw [hlegs] at hl
    rcases hmem hp with hp | rfl
    · exact h.unspent l hl hkey hover p hp hpid
    · exact absurd (hpid.symm.trans hid) (hs.orderId_ne_nextId hl)
  · intro p hp hdue hwaits hserves
    rw [hlegs]
    rcases hmem hp with hp | rfl
    · exact h.carried p hp hdue hwaits hserves
    · rw [hstatus] at hwaits
      cases hwaits

/-- Legs change no more than a courier's name for them. -/
theorem Offered.relabel (h : Offered none s) {p : DeliveryLegRow → Bool}
    {f : DeliveryLegRow → DeliveryLegRow} (heq : s' = { s with legs := update p f s.legs })
    (htwin : ∀ l ∈ s.legs, p l = true → Twin (f l) l)
    (hinHouse : ∀ l ∈ s.legs, p l = true → l.providerKey = inHouseProviderKey →
      (f l).externalId = l.externalId ∨ (f l).externalId = none) : Offered none s' := by
  have hlegs : s'.legs = update p f s.legs := by rw [heq]
  have horders : s'.orders = s.orders := by rw [heq]
  constructor
  · intro l' hl' hkey
    rw [hlegs] at hl'
    obtain ⟨l, hl, rfl⟩ := mem_update.mp hl'
    by_cases hp : p l = true
    · rw [if_pos hp] at hkey ⊢
      rw [(htwin l hl hp).providerKey] at hkey
      rcases hinHouse l hl hp hkey with hext | hext
      · rw [hext]
        exact h.unnamed l hl hkey
      · exact hext
    · rw [if_neg hp] at hkey ⊢
      exact h.unnamed l hl hkey
  · intro l' hl' hkey hover o ho hoid
    obtain ⟨l, hl, ht⟩ := twin_of_mem hlegs htwin hl'
    rw [ht.status] at hover
    exact h.unspent l hl (ht.providerKey ▸ hkey) hover o (horders ▸ ho) (hoid.trans ht.orderId)
  · intro o ho hdue hwaits hserves
    obtain ⟨l, hl, hlo, hact⟩ := h.carried o (horders ▸ ho) hdue hwaits hserves
    have ht : Twin (if p l then f l else l) l := by
      split
      · exact htwin l hl ‹_›
      · exact Twin.refl l
    refine ⟨if p l then f l else l, ?_, ht.orderId.trans hlo, ht.status.symm ▸ hact⟩
    rw [hlegs]
    exact mem_update.mpr ⟨l, hl, rfl⟩

/-- A remote courier refuses a leg, and the order is due for another. -/
theorem Offered.refuse (h : Offered none s) (hs : Sound s) {row : DeliveryLegRow} {reason : String}
    (hrow : row ∈ s.legs) (hremote : row.providerKey ≠ inHouseProviderKey) :
    Offered (some row.orderId) (Database.putLeg s (refused s row reason)) := by
  have hput : (Database.putLeg s (refused s row reason)).legs
      = put DeliveryLegRow.id (refused s row reason) s.legs := rfl
  refine h.putLeg hs hrow ?_ ?_ ?_ ?_ hput rfl ?_ ?_
  · rfl
  · rfl
  · rfl
  · rfl
  · exact fun _ hkey => absurd hkey hremote
  · exact fun _ hne => absurd rfl hne

/-- **Every turn leaves every order with its courier.** -/
theorem Offered.turn (h : Offered none s) (hs : Sound s) (hopen : inHouseOpen s)
    (htarget : RemoteTarget target s) (hturn : Turn d target s s') : Offered none s' := by
  have hopen' : ∀ {t : State}, t.providers = s.providers → inHouseOpen t := by
    intro t ht
    rw [inHouseOpen, ht]
    exact hopen
  cases hturn with
  | calm hcalm => exact h.same hcalm.legs hcalm.orders
  | place horders hlegs _ hid _ hstatus => exact h.place hs horders hlegs hid hstatus
  | walk hw hframe hlate hrest =>
      refine (h.walk hw (by rw [hframe]) (fun hearly => ?_) fun hwaits => ?_).same hrest.legs
        hrest.orders
      · rw [hlate] at hearly
        cases hearly
      · rw [waits_of_late hlate] at hwaits
        cases hwaits
  | @arrive o o' s₁ s₂ r hw hframe hmail hrest =>
      have hwalked : Offered (some o.id) s₂ :=
        (h.walk hw (by rw [hframe]) (fun _ => rfl) fun _ => Or.inr rfl).same hmail.legs hmail.orders
      have hproviders : s₂.providers = s.providers := by rw [hmail.providers, hframe]
      exact hwalked.dispatchDue (hmail.sound (hw.sound hframe hs)) (hopen' hproviders)
        (Or.inl rfl) hrest
  | dispatch hd => exact h.dispatch hs hd
  | adopt horder hnone hinHouse hext hforward hactive hinserted =>
      exact h.append hinserted.legs (by rw [hinserted.frame]) hext hactive (Or.inl rfl)
  | event hf hevent hend =>
      exact h.fired hs hf (fun he => absurd he hevent) fun he => absurd he hevent
  | @cancel row leg s₁ routeTo r hf ht hroute hrest =>
      have hfired : Offered (some row.orderId) s₁ :=
        h.fired hs hf (fun _ => htarget.remote hs hf.row_mem ht) fun _ => rfl
      exact hfired.dispatchDue (hf.sound hs) (hopen' hf.providers) hroute hrest
  | relabel heq htwin hinHouse => exact h.relabel heq htwin hinHouse
  | @refuse row reason r hrow ht hd =>
      have hrefused : Offered (some row.orderId) (Database.putLeg s (refused s row reason)) :=
        h.refuse hs hrow (htarget.remote hs hrow ht)
      exact hrefused.dispatchDue (refused_sound reason hs hrow) (hopen' rfl) (Or.inl rfl) hd

theorem Offered.turns (h : Offered none s) (hs : Sound s) (hopen : inHouseOpen s)
    (htarget : RemoteTarget target s) (hturns : TurnSeq d target s s') : Offered none s' := by
  have hstep : ∀ {t t'}, Sound t →
      Offered none t ∧ RemoteTarget target t ∧ t.providers = s.providers → Turn d target t t' →
      Offered none t' ∧ RemoteTarget target t' ∧ t'.providers = s.providers := by
    rintro t t' ht ⟨hoffered, hremote, hproviders⟩ hturn
    have hopen' : inHouseOpen t := by
      rw [inHouseOpen, hproviders]
      exact hopen
    exact ⟨hoffered.turn ht hopen' hremote hturn, hremote.keep (hturn.keeping ht),
      (hturn.providers ht).trans hproviders⟩
  exact (hturns.keeps hstep hs ⟨h, htarget, rfl⟩).2.1

/-! ## Interleaved runs -/

/-- The state of the work while the pool is open: no cancellation under way
concerns a leg of the pool. -/
structure Tended (w : Work) : Prop where
  traced : Traced w
  offered : Offered none w.db
  remote : ∀ ending ∈ w.endings, ending.leg.providerKey ≠ inHouseProviderKey

/-- A leg without a timeout is never overdue. -/
theorem inHouse_not_overdue (hopen : inHouseOpen s) {leg : DeliveryLegRow}
    (h : isOverdue s leg = true) : leg.providerKey ≠ inHouseProviderKey := by
  intro hkey
  obtain ⟨row, hrow, hlimits⟩ := (Option.any_eq_true _ _).mp hopen
  simp only [isUnlimited, Bool.and_eq_true, Option.isNone_iff_eq_none] at hlimits
  rw [isOverdue, hkey, hrow, Option.bind_some, hlimits.2, Bool.and_false] at h
  cases h

theorem Tended.remoteTarget {w : Work} (hw : Tended w) (a : Interleaved.Action) :
    RemoteTarget (endedIn d w a) w.db := by
  have captured : ∀ {leg row : DeliveryLegRow}, Captured w.db leg row →
      leg.providerKey ≠ inHouseProviderKey →
      ∃ l ∈ w.db.legs, l.id = leg.id ∧ l.providerKey ≠ inHouseProviderKey :=
    fun hrow hkey => ⟨_, hrow.row_mem, hrow.id, hrow.providerKey.symm ▸ hkey⟩
  intro legId hlegId
  cases a with
  | atomic a =>
      simp only [endedIn] at hlegId
      split at hlegId
      · cases hlegId
      · cases a with
        | submit submitted answer =>
            obtain ⟨leg, hleg, hrefused⟩ := Option.bind_eq_some_iff.mp hlegId
            obtain ⟨rfl, hkey⟩ := refusedLeg_some hrefused
            exact ⟨leg, (submittable_some hleg).1, rfl, hkey⟩
        | syncFromSnapshot providerKey snapshot =>
            obtain ⟨-, leg, hmem, hid, -, hext⟩ := endedBySnapshot_some hlegId
            refine ⟨leg, hmem, hid, fun hkey => ?_⟩
            rw [hw.offered.unnamed leg hmem hkey] at hext
            cases hext
        | _ => cases hlegId
  | writeSubmit i =>
      simp only [endedIn] at hlegId
      split at hlegId
      · next leg answer hsub =>
          obtain ⟨rfl, hkey⟩ := refusedLeg_some hlegId
          obtain ⟨row, hrow⟩ := hw.traced.submissions _ (List.mem_of_getElem? hsub)
          exact captured hrow hkey
      · cases hlegId
  | cancelLocally i =>
      obtain ⟨ending, hending, hcancelled⟩ := Option.bind_eq_some_iff.mp hlegId
      obtain rfl := cancelledLeg_some hcancelled
      have hmem := List.mem_of_getElem? (Option.filter_eq_some_iff.mp hending).1
      obtain ⟨row, hrow⟩ := hw.traced.endings ending hmem
      exact captured hrow (hw.remote ending hmem)
  | _ => cases hlegId

/-- **Every step leaves every order with its courier.** -/
theorem Tended.exec {w : Work} (hw : Tended w) (hopen : inHouseOpen w.db)
    (a : Interleaved.Action) : Tended (Interleaved.exec d w a) := by
  refine ⟨hw.traced.exec a, ?_, fun ending hending => ?_⟩
  · rcases step_turns (d := d) hw.traced a with h | h
    · exact hw.offered.same h.legs h.orders
    · exact hw.offered.turns hw.traced.sound hopen (hw.remoteTarget a) h
  · rcases ending_origin hending with ⟨old, hold, heq⟩ | hleg | ⟨legId, hleg⟩
    · exact heq ▸ hw.remote old hold
    · exact inHouse_not_overdue hopen (expiringLegs_mem hleg).2.1
    · exact (fallbackLeg_some hleg).2

theorem tended_of_initial (h : Initial s) : Tended (idle s) where
  traced := traced_of_initial h
  offered :=
    { unnamed := by simp [idle, h.legs], unspent := by simp [idle, h.legs]
      carried := by simp [idle, h.orders] }
  remote := by simp [idle]

/-- **No order is stranded.** While the in-house pool is open, in every state
of every interleaved run an order between its origin and its courier has
exactly one active leg. -/
theorem waiting_orders_have_one_leg (d : Deployment) {s₀ : State} (h : Initial s₀)
    (as : List Interleaved.Action)
    (hopen : Runs.Always (Interleaved.exec d) (fun w => inHouseOpen w.db) (idle s₀) as) :
    Runs.Always (Interleaved.exec d)
      (fun w => ∀ o ∈ w.db.orders,
        o.status = .parcelReceivedAtOrigin ∨ o.status = .riderAssigned →
        inHouseServes o = true → (w.db.legs.filter (isActiveOf o.id)).length = 1)
      (idle s₀) as := by
  have htended : Runs.Always (Interleaved.exec d) Tended (idle s₀) as :=
    Runs.always_of_always (fun w a hw hwopen => hw.exec hwopen a) (tended_of_initial h) hopen
  refine htended.mono fun w hw o ho hstatus hserves => ?_
  have hwaits : waits o.status = true := by
    rcases hstatus with hstatus | hstatus
    · rw [hstatus]
      rfl
    · rw [hstatus]
      rfl
  obtain ⟨l, hl, hlo, hact⟩ := hw.offered.carried o ho (by simp) hwaits hserves
  have hsome : 0 < (w.db.legs.filter (isActiveOf o.id)).length :=
    List.length_pos_of_mem (List.mem_filter.mpr ⟨hl, isActiveOf_iff.mpr ⟨hlo, hact⟩⟩)
  have hone := hw.traced.sound.oneLeg o.id
  omega

/-- Two submissions of one leg are under way. The first books it and the
courier is assigned; the second is refused and takes the leg away again. -/
def demoRefusedTwin : List Interleaved.Action :=
  demoBooking.map .atomic ++ [.atomic (.webhook 10 (some demoPayment) ["LOC1"]),
    .atomic (.confirm .dropOff 11 (demoArgs "")), .readSubmit 12, .readSubmit 12,
    .answerSubmit 0 (.booked ⟨some "ext", none, none, none, none⟩),
    .answerSubmit 1 (.refused "wallet"), .writeSubmit 0,
    .atomic (.syncFromSnapshot "sendii" (demoSnapshot .assigned 1)), .writeSubmit 0]

/-- The order is past its assignment, and the riders' pool holds the one leg. -/
theorem demo_waiting_order_has_one_leg :
    let w := Interleaved.run demo (idle demoState) demoRefusedTwin
    w.db.orders.map OrderRow.status = [.riderAssigned] ∧
      w.db.legs.map DeliveryLegRow.status = [.cancelled, .requested] ∧
      ∀ o ∈ w.db.orders, o.status = .parcelReceivedAtOrigin ∨ o.status = .riderAssigned →
        inHouseServes o = true → (w.db.legs.filter (isActiveOf o.id)).length = 1 := by
  intro w
  refine ⟨by decide +kernel, by decide +kernel, ?_⟩
  have hopen : Runs.Always (Interleaved.exec demo) (fun w => inHouseOpen w.db) (idle demoState)
      demoRefusedTwin := by
    decide +kernel
  exact (waiting_orders_have_one_leg demo demoState_initial demoRefusedTwin hopen).last

end Locoomo.Stranding
