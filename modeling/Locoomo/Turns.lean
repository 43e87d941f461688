import Locoomo.Transactions
import Locoomo.Interleaved

/-! What a transaction does to legs and orders when nothing is known about how
they agree. A submission that answers late may cancel a leg that has long moved
on, so here every kind of change is stated for a leg and an order in any
statuses, together with the one leg of a remote courier the transaction may
end. -/

namespace Locoomo.Turns

open Locoomo.Delivery Locoomo.Database Locoomo.Routing Locoomo.Logistics Locoomo.Handoffs
  Locoomo.Payments Locoomo.System Locoomo.OrderMoves Locoomo.LegMoves Locoomo.Soundness
  Locoomo.Lockstep Locoomo.Frames Locoomo.Changes Locoomo.Transactions Locoomo.Interleaved
  Relational

/-! ## The kinds -/

/-- Legs, orders and couriers' settings stay as they are. -/
structure Calm (s s' : State) : Prop where
  legs : s'.legs = s.legs
  orders : s'.orders = s.orders
  providers : s'.providers = s.providers
  nextId : s.nextId ≤ s'.nextId

/-- The row of one order goes from one status to another. -/
structure Walked (s s' : State) (o o' : OrderRow) (source target : OrderStatus) : Prop where
  mem : o ∈ s.orders
  orders : s'.orders = put OrderRow.id o' s.orders
  same : core o' = core o
  source : o.status = source
  target : o'.status = target

/-- A leg event: the row, the entity in memory, and what became of the order. -/
structure Fired (s s₁ : State) (row leg : DeliveryLegRow) (event : DeliveryEventType)
    (next : DeliveryLegStatus) : Prop where
  row_mem : row ∈ s.legs
  stands : Stands leg row event
  externalId : leg.externalId = row.externalId
  applies : nextLegStatus row.status event = some next
  legs : s₁.legs = put DeliveryLegRow.id (movedLeg leg event next s.now) s.legs
  providers : s₁.providers = s.providers
  nextId : s₁.nextId = s.nextId
  order : s₁.orders = s.orders ∧ (isActive next = true ∨ event = .cancelled) ∨
    ∃ o o', o.id = row.orderId ∧ Walked s s₁ o o' (orderEdge event).1 (orderEdge event).2

/-- The statuses before a parcel has left its origin. -/
def isEarly : OrderStatus → Bool
  | .awaitingDropOff | .parcelReceivedAtOrigin | .riderAssigned => true
  | _ => false

/-- Where a cancelled leg's order goes: to whom the router chooses, or by an
admin's word to the in-house pool. -/
abbrev IsOpenRoute (routeTo : Option String) : Prop :=
  routeTo = none ∨ routeTo = some inHouseProviderKey

/-- One kind of change. `target` is the leg of a remote courier that the
transaction may end, if there is one. -/
inductive Turn (d : Deployment) (target : Option Nat) (s s' : State) : Prop
  | calm (h : Calm s s')
  | place {o : OrderRow} (horders : s'.orders = s.orders ++ [o]) (hlegs : s'.legs = s.legs)
      (hproviders : s'.providers = s.providers) (hid : o.id = s.nextId)
      (hnext : s'.nextId = s.nextId + 1) (hstatus : o.status = .awaitingDropOff)
  | walk {o o' : OrderRow} {source goal : OrderStatus} {s₁ : State}
      (h : Walked s s₁ o o' source goal) (hframe : s₁ = { s with
        orders := s₁.orders, orderEvents := s₁.orderEvents }) (hlate : isEarly goal = false)
      (hrest : Calm s₁ s')
  | arrive {o o' : OrderRow} {s₁ s₂ : State} {r : Option DeliveryLegRow}
      (h : Walked s s₁ o o' .awaitingDropOff .parcelReceivedAtOrigin) (hframe : s₁ = { s with
        orders := s₁.orders, orderEvents := s₁.orderEvents }) (hmail : Calm s₁ s₂)
      (hrest : (Logistics.dispatch d o.id .forward none).run s₂ = .ok (r, s'))
  | dispatch {orderId : Nat} {routeTo : Option String} {r : Option DeliveryLegRow}
      (h : (Logistics.dispatch d orderId .forward routeTo).run s = .ok (r, s'))
  | adopt {leg : DeliveryLegRow} (horder : ∃ o ∈ s.orders, o.id = leg.orderId)
      (hnone : activeLeg s leg.orderId = none) (hinHouse : leg.providerKey = inHouseProviderKey)
      (hext : leg.externalId = none) (hforward : leg.legType = .forward)
      (hactive : isActive leg.status = true) (h : Inserted s s' leg)
  | event {row leg : DeliveryLegRow} {event : DeliveryEventType} {next : DeliveryLegStatus}
      (h : Fired s s' row leg event next) (hevent : event ≠ .cancelled)
      (hend : isActive next = false → row.providerKey = inHouseProviderKey ∨ target = some row.id)
  | cancel {row leg : DeliveryLegRow} {s₁ : State} {routeTo : Option String}
      {r : Option DeliveryLegRow} (h : Fired s s₁ row leg .cancelled .cancelled)
      (htarget : target = some row.id) (hroute : IsOpenRoute routeTo)
      (hrest : (Logistics.dispatch d row.orderId .forward routeTo).run s₁ = .ok (r, s'))
  | relabel {p : DeliveryLegRow → Bool} {f : DeliveryLegRow → DeliveryLegRow}
      (h : s' = { s with legs := update p f s.legs })
      (htwin : ∀ l ∈ s.legs, p l = true → Twin (f l) l)
      (hinHouse : ∀ l ∈ s.legs, p l = true → l.providerKey = inHouseProviderKey →
        (f l).externalId = l.externalId ∨ (f l).externalId = none)
  | refuse {row : DeliveryLegRow} {reason : String} {r : Option DeliveryLegRow}
      (hrow : row ∈ s.legs) (htarget : target = some row.id)
      (h : (Logistics.dispatch d row.orderId .forward none).run (putLeg s (refused s row reason))
        = .ok (r, s'))

/-- A transaction, turn by turn. -/
abbrev TurnSeq (d : Deployment) (target : Option Nat) : State → State → Prop :=
  Relation.ReflTransGen (Turn d target)

variable {d : Deployment} {target : Option Nat} {s s₁ s' : State}

/-! ## Dispatch -/

/-- What `dispatch` inserts, if anything. -/
structure Booking (s s' : State) (orderId : Nat) (leg : DeliveryLegRow) : Prop where
  idle : activeLeg s orderId = none
  order : ∃ o ∈ s.orders, o.id = orderId
  inserted : Inserted s s' leg
  orderId : leg.orderId = orderId
  forward : leg.legType = .forward
  requested : leg.status = .requested
  externalId : leg.externalId = none

theorem dispatch_cases (hs : Sound s) {orderId : Nat} {routeTo : Option String}
    {r : Option DeliveryLegRow}
    (h : (Logistics.dispatch d orderId .forward routeTo).run s = .ok (r, s')) :
    s' = s ∨ ∃ leg, Booking s s' orderId leg := by
  rcases dispatch_ok hs.leg_fresh h with ⟨_, -, -, heq⟩ | ⟨hnone, ⟨-, -, heq⟩ | hnew⟩
  · exact Or.inl heq
  · exact Or.inl heq
  · obtain ⟨choice, o, leg, -, ho, hfresh, -, hinserted⟩ := hnew
    obtain ⟨homem, hoid⟩ := getOrder_mem ho
    refine Or.inr ⟨leg, hnone, ⟨o, homem, hoid⟩, hinserted, ?_, ?_, ?_, ?_⟩
    all_goals rw [hfresh.eq]
    · exact hoid
    · rfl
    · rfl
    · rfl

theorem Booking.sound {orderId : Nat} {leg : DeliveryLegRow} (h : Booking s s' orderId leg)
    (hs : Sound s) : Sound s' := by
  refine hs.insert (h.orderId.symm ▸ h.order) ?_ h.inserted h.forward
  rw [h.orderId]
  exact activeLeg_none h.idle

theorem dispatch_sound (hs : Sound s) {orderId : Nat} {routeTo : Option String}
    {r : Option DeliveryLegRow}
    (h : (Logistics.dispatch d orderId .forward routeTo).run s = .ok (r, s')) : Sound s' := by
  rcases dispatch_cases hs h with rfl | ⟨leg, hbooking⟩
  · exact hs
  · exact hbooking.sound hs

/-! ## Every turn is sound -/

theorem Calm.sound (h : Calm s s') (hs : Sound s) : Sound s' := hs.mono h.orders h.legs h.nextId

theorem Walked.sound {o o' : OrderRow} {source goal : OrderStatus}
    (h : Walked s s₁ o o' source goal)
    (hframe : s₁ = { s with orders := s₁.orders, orderEvents := s₁.orderEvents }) (hs : Sound s) :
    Sound s₁ :=
  hs.putOrder h.mem (core_id h.same) h.orders (by rw [hframe]) (by rw [hframe])

theorem Fired.sound {row leg : DeliveryLegRow} {event : DeliveryEventType}
    {next : DeliveryLegStatus} (h : Fired s s₁ row leg event next) (hs : Sound s) : Sound s₁ := by
  have hsound : Sound { s with orders := s₁.orders } := by
    rcases h.order with ⟨heq, -⟩ | ⟨o, o', -, hw⟩
    · exact hs.mono heq rfl le_rfl
    · exact hs.putOrder hw.mem (core_id hw.same) hw.orders rfl rfl
  refine hsound.putLeg h.row_mem ?_ ?_ ?_ (fun _ => isActive_of_next h.applies) h.legs rfl h.nextId
  · rw [movedLeg_id, h.stands.id]
  · rw [movedLeg_orderId, h.stands.orderId]
  · rw [movedLeg_legType, h.stands.legType]
    exact hs.forward row h.row_mem

theorem refused_sound {row : DeliveryLegRow} (reason : String) (hs : Sound s)
    (hrow : row ∈ s.legs) : Sound (putLeg s (refused s row reason)) := by
  have hlegs : (putLeg s (refused s row reason)).legs
      = put DeliveryLegRow.id (refused s row reason) s.legs := rfl
  refine hs.putLeg hrow ?_ ?_ ?_ (fun h => ?_) hlegs rfl rfl
  · rfl
  · rfl
  · exact hs.forward row hrow
  · cases h

/-- **Every turn keeps the tables sound.** -/
theorem Turn.sound (h : Turn d target s s') (hs : Sound s) : Sound s' := by
  cases h with
  | calm h => exact h.sound hs
  | place horders hlegs hproviders hid hnext hstatus => exact hs.place horders hlegs hid hnext
  | walk h hframe hlate hrest => exact hrest.sound (h.sound hframe hs)
  | arrive h hframe hmail hrest => exact dispatch_sound (hmail.sound (h.sound hframe hs)) hrest
  | dispatch h => exact dispatch_sound hs h
  | adopt horder hnone hinHouse hext hforward hactive h =>
      exact hs.insert horder (activeLeg_none hnone) h hforward
  | event h hevent hend => exact h.sound hs
  | cancel h htarget hroute hrest => exact dispatch_sound (h.sound hs) hrest
  | relabel h htwin hinHouse => exact hs.relabel (by rw [h]) htwin (by rw [h]) (by rw [h])
  | refuse hrow htarget h => exact dispatch_sound (refused_sound _ hs hrow) h

theorem dispatch_providers (hs : Sound s) {orderId : Nat} {routeTo : Option String}
    {r : Option DeliveryLegRow}
    (h : (Logistics.dispatch d orderId .forward routeTo).run s = .ok (r, s')) :
    s'.providers = s.providers := by
  rcases dispatch_cases hs h with rfl | ⟨leg, hbooking⟩
  · rfl
  · rw [hbooking.inserted.frame]

/-- No turn touches the couriers' settings. -/
theorem Turn.providers (h : Turn d target s s') (hs : Sound s) : s'.providers = s.providers := by
  cases h with
  | calm h => exact h.providers
  | place horders hlegs hproviders hid hnext hstatus => exact hproviders
  | walk h hframe hlate hrest => rw [hrest.providers, hframe]
  | arrive h hframe hmail hrest =>
      rw [dispatch_providers (hmail.sound (h.sound hframe hs)) hrest, hmail.providers, hframe]
  | dispatch h => exact dispatch_providers hs h
  | adopt horder hnone hinHouse hext hforward hactive h => rw [h.frame]
  | event h hevent hend => exact h.providers
  | cancel h htarget hroute hrest => rw [dispatch_providers (h.sound hs) hrest, h.providers]
  | relabel h htwin hinHouse => rw [h]
  | @refuse row reason r hrow htarget h =>
      have hproviders := dispatch_providers (refused_sound reason hs hrow) h
      exact hproviders

/-- What sound turns keep, a transaction keeps. -/
theorem TurnSeq.keeps {P : State → Prop}
    (hturn : ∀ {s s'}, Sound s → P s → Turn d target s s' → P s') (h : TurnSeq d target s s')
    (hs : Sound s) (hp : P s) : Sound s' ∧ P s' := by
  induction h with
  | refl => exact ⟨hs, hp⟩
  | tail _ hlast ih => exact ⟨hlast.sound ih.1, hturn ih.1 ih.2 hlast⟩

/-! ## What stays of a leg -/

/-- A leg later in a transaction: the same leg, and still active unless it was
in-house or the one to be ended. -/
structure Kept (target : Option Nat) (l l' : DeliveryLegRow) : Prop where
  id : l'.id = l.id
  orderId : l'.orderId = l.orderId
  providerKey : l'.providerKey = l.providerKey
  active : isActive l.status = true → l.providerKey ≠ inHouseProviderKey → target ≠ some l.id →
    isActive l'.status = true

theorem Kept.refl (target : Option Nat) (l : DeliveryLegRow) : Kept target l l :=
  ⟨rfl, rfl, rfl, fun h _ _ => h⟩

theorem Kept.trans {l l' l'' : DeliveryLegRow} (h : Kept target l l') (h' : Kept target l' l'') :
    Kept target l l'' where
  id := h'.id.trans h.id
  orderId := h'.orderId.trans h.orderId
  providerKey := h'.providerKey.trans h.providerKey
  active := by
    intro hact hremote hne
    refine h'.active (h.active hact hremote hne) ?_ ?_
    · rwa [h.providerKey]
    · rwa [h.id]

/-- Every leg of the first table is kept in the second. -/
def Keeping (target : Option Nat) (s s' : State) : Prop :=
  ∀ l ∈ s.legs, ∃ l' ∈ s'.legs, Kept target l l'

theorem keeping_of_legs (hlegs : s'.legs = s.legs) : Keeping target s s' := by
  intro l hl
  exact ⟨l, hlegs ▸ hl, Kept.refl target l⟩

theorem Keeping.trans {s'' : State} (h : Keeping target s s') (h' : Keeping target s' s'') :
    Keeping target s s'' := by
  intro l hl
  obtain ⟨l', hl', hkept⟩ := h l hl
  obtain ⟨l'', hl'', hkept'⟩ := h' l' hl'
  exact ⟨l'', hl'', hkept.trans hkept'⟩

/-- A replaced row keeps the others, and itself when it may. -/
theorem keeping_of_put (hs : Sound s) {row leg : DeliveryLegRow} (hrow : row ∈ s.legs)
    (hkept : Kept target row leg) (hlegs : s'.legs = put DeliveryLegRow.id leg s.legs) :
    Keeping target s s' := by
  intro l hl
  rw [hlegs]
  by_cases hid : l.id = leg.id
  · obtain rfl : l = row := hs.legIds.eq_of_key hl hrow (hid.trans hkept.id)
    exact ⟨leg, mem_put.mpr (Or.inl ⟨rfl, l, hl, hid⟩), hkept⟩
  · exact ⟨l, mem_put.mpr (Or.inr ⟨hl, hid⟩), Kept.refl target l⟩

theorem dispatch_keeping (hs : Sound s) {orderId : Nat} {routeTo : Option String}
    {r : Option DeliveryLegRow}
    (h : (Logistics.dispatch d orderId .forward routeTo).run s = .ok (r, s')) :
    Keeping target s s' := by
  rcases dispatch_cases hs h with rfl | ⟨leg, hbooking⟩
  · exact keeping_of_legs rfl
  · intro l hl
    rw [hbooking.inserted.legs]
    exact ⟨l, List.mem_append_left _ hl, Kept.refl target l⟩

theorem Fired.keeping {row leg : DeliveryLegRow} {event : DeliveryEventType}
    {next : DeliveryLegStatus} (h : Fired s s₁ row leg event next) (hs : Sound s)
    (hend : isActive next = false → row.providerKey = inHouseProviderKey ∨ target = some row.id) :
    Keeping target s s₁ := by
  have hkept : Kept target row (movedLeg leg event next s.now) := by
    refine ⟨?_, ?_, ?_, fun _ hremote hne => ?_⟩
    · rw [movedLeg_id, h.stands.id]
    · rw [movedLeg_orderId, h.stands.orderId]
    · rw [movedLeg_providerKey, h.stands.providerKey]
    · rw [movedLeg_status]
      by_contra hact
      rcases hend (by simpa using hact) with h | h
      · exact hremote h
      · exact hne h
  exact keeping_of_put hs h.row_mem hkept h.legs

/-- **Every turn keeps every leg.** -/
theorem Turn.keeping (h : Turn d target s s') (hs : Sound s) : Keeping target s s' := by
  cases h with
  | calm h => exact keeping_of_legs h.legs
  | place horders hlegs hproviders hid hnext hstatus => exact keeping_of_legs hlegs
  | walk h hframe hlate hrest =>
      refine keeping_of_legs (hrest.legs.trans ?_)
      rw [hframe]
  | @arrive o o' s₁ s₂ r h hframe hmail hrest =>
      have hlegs : s₂.legs = s.legs := by rw [hmail.legs, hframe]
      exact (keeping_of_legs hlegs).trans (dispatch_keeping (hmail.sound (h.sound hframe hs)) hrest)
  | dispatch h => exact dispatch_keeping hs h
  | adopt horder hnone hinHouse hext hforward hactive h =>
      intro l hl
      rw [h.legs]
      exact ⟨l, List.mem_append_left _ hl, Kept.refl target l⟩
  | event h hevent hend => exact h.keeping hs hend
  | cancel h htarget hroute hrest =>
      exact (h.keeping hs fun _ => Or.inr htarget).trans (dispatch_keeping (h.sound hs) hrest)
  | @relabel p f h htwin hinHouse =>
      intro l hl
      refine ⟨if p l then f l else l, ?_, ?_⟩
      · rw [h]
        exact mem_update.mpr ⟨l, hl, rfl⟩
      · split
        · next hp =>
            have ht := htwin l hl hp
            exact ⟨ht.id, ht.orderId, ht.providerKey, fun hact _ _ => by rwa [ht.status]⟩
        · exact Kept.refl target l
  | @refuse row reason r hrow htarget h =>
      have hkept : Kept target row (refused s row reason) :=
        ⟨rfl, rfl, rfl, fun _ _ hne => absurd htarget hne⟩
      exact (keeping_of_put hs hrow hkept rfl).trans
        (dispatch_keeping (refused_sound reason hs hrow) h)

theorem TurnSeq.keeping (h : TurnSeq d target s s') (hs : Sound s) :
    Sound s' ∧ Keeping target s s' := by
  refine h.keeps (fun hs hk hturn => ?_) hs (keeping_of_legs rfl)
  exact hk.trans (hturn.keeping hs)

end Locoomo.Turns
