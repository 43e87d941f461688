import Locoomo.Lib.Choices
import Locoomo.System

/-! Which courier the router picks: the first eligible one by priority and key,
whatever order the rows come in, and the same policy at checkout as at dispatch. -/

namespace Locoomo.CourierChoice

open Locoomo.Delivery Locoomo.Database Locoomo.Routing Locoomo.Logistics Locoomo.System Relational

/-- `localeCompare` orders the keys: any two compare, comparing is transitive, and
only equal keys sort neither before the other. -/
structure OrdersKeys (keyLe : String → String → Bool) (keys : List String) : Prop where
  total : ∀ a ∈ keys, ∀ b ∈ keys, keyLe a b = true ∨ keyLe b a = true
  trans : ∀ a ∈ keys, ∀ b ∈ keys, ∀ c ∈ keys,
    keyLe a b = true → keyLe b c = true → keyLe a c = true
  antisymm : ∀ a ∈ keys, ∀ b ∈ keys, keyLe a b = true → keyLe b a = true → a = b

/-- What a routing question is about, the attempts aside. -/
structure SameParcel (context context' : RoutingContext) : Prop where
  origin : context'.originNodeId = context.originNodeId
  distance : context'.distanceKm = context.distanceKm
  vehicle : context'.vehicleClass = context.vehicleClass

/-- `canServe`, with no attempts yet. -/
def canServe (d : Deployment) (originNodeId : Nat) (distanceKm : ℚ≥0)
    (vehicleClass : VehicleClass) : Db Bool := do
  let configs ← Tx.read fun s => s.providers.map (routingConfig d)
  let context : RoutingContext :=
    { originNodeId := originNodeId
      distanceKm := distanceKm
      vehicleClass := some vehicleClass
      attemptsByProvider := fun _ => 0 }
  return (chooseProvider d.keyLe configs (fun key => (registryGet d key).isSome) context).isSome

variable {keyLe : String → String → Bool} {configs : List ProviderRoutingConfig}
  {registeredKeys : String → Bool} {context context' : RoutingContext}
  {config other : ProviderRoutingConfig}

/-! ## The order of the couriers -/

theorem chooseProvider_eq_first : chooseProvider keyLe configs registeredKeys context =
    Choices.first (sortsBefore keyLe) (eligible registeredKeys context) configs := rfl

theorem ordersOn (h : OrdersKeys keyLe (configs.map ProviderRoutingConfig.key)) :
    Choices.OrdersOn (sortsBefore keyLe) configs where
  total a ha b hb := by
    have hkeys := h.total a.key (List.mem_map_of_mem ha) b.key (List.mem_map_of_mem hb)
    unfold sortsBefore
    rcases lt_trichotomy a.priority b.priority with hlt | heq | hgt
    · exact .inl (.inl hlt)
    · rcases hkeys with hab | hba
      · exact .inl (.inr ⟨heq, hab⟩)
      · exact .inr (.inr ⟨heq.symm, hba⟩)
    · exact .inr (.inl hgt)
  trans a ha b hb c hc := by
    have hkeys := h.trans a.key (List.mem_map_of_mem ha) b.key (List.mem_map_of_mem hb) c.key
      (List.mem_map_of_mem hc)
    unfold sortsBefore
    rintro (hab | ⟨hab, hkab⟩) (hbc | ⟨hbc, hkbc⟩)
    · exact .inl (by omega)
    · exact .inl (by omega)
    · exact .inl (by omega)
    · exact .inr ⟨by omega, hkeys hkab hkbc⟩

/-- Two couriers that sort neither before the other have one key. -/
theorem key_eq_of_sortsBefore (h : OrdersKeys keyLe (configs.map ProviderRoutingConfig.key))
    (ha : config ∈ configs) (hb : other ∈ configs) (hab : sortsBefore keyLe config other)
    (hba : sortsBefore keyLe other config) : config.key = other.key := by
  have hkeys := h.antisymm config.key (List.mem_map_of_mem ha) other.key (List.mem_map_of_mem hb)
  rcases hab with hab | ⟨hab, hkab⟩
  · rcases hba with hba | ⟨hba, -⟩
    · omega
    · omega
  · rcases hba with hba | ⟨-, hkba⟩
    · omega
    · exact hkeys hkab hkba

/-- More attempts leave fewer couriers eligible. -/
theorem eligible_of_more_attempts (hsame : SameParcel context context')
    (hmore : ∀ key, context.attemptsByProvider key ≤ context'.attemptsByProvider key)
    (h : eligible registeredKeys context' config = true) :
    eligible registeredKeys context config = true := by
  unfold eligible at h ⊢
  rw [hsame.origin, hsame.distance, hsame.vehicle] at h
  simp only [Bool.and_eq_true, decide_eq_true_eq] at h ⊢
  obtain ⟨⟨⟨⟨⟨hregistered, hattempts⟩, hpilots⟩, hvehicle⟩, hmin⟩, hmax⟩ := h
  exact ⟨⟨⟨⟨⟨hregistered, (hmore config.key).trans_lt hattempts⟩, hpilots⟩, hvehicle⟩, hmin⟩, hmax⟩

/-! ## The first eligible one -/

/-- An eligible courier, before every other eligible one by priority and key. -/
structure FirstEligible (keyLe : String → String → Bool) (configs : List ProviderRoutingConfig)
    (registeredKeys : String → Bool) (context : RoutingContext) (config : ProviderRoutingConfig) :
    Prop where
  mem : config ∈ configs
  eligible : eligible registeredKeys context config = true
  first : ∀ other ∈ configs, Routing.eligible registeredKeys context other = true →
    other ≠ config → sortsBefore keyLe config other ∧ ¬ sortsBefore keyLe other config

theorem least_iff_firstEligible (hkeys : Distinct ProviderRoutingConfig.key configs)
    (horder : OrdersKeys keyLe (configs.map ProviderRoutingConfig.key)) :
    Choices.Least (sortsBefore keyLe) (eligible registeredKeys context) configs config ↔
      FirstEligible keyLe configs registeredKeys context config := by
  constructor
  · rintro ⟨hmem, heligible, hleast⟩
    refine ⟨hmem, heligible, fun other hother hother' hne => ?_⟩
    have hbefore := hleast other hother hother'
    refine ⟨hbefore, fun hafter => hne ?_⟩
    exact hkeys.eq_of_key hother hmem
      (key_eq_of_sortsBefore horder hmem hother hbefore hafter).symm
  · rintro ⟨hmem, heligible, hfirst⟩
    refine ⟨hmem, heligible, fun other hother hother' => ?_⟩
    by_cases heq : other = config
    · rw [heq]
      rcases (ordersOn horder).total config hmem config hmem with h | h
      · exact h
      · exact h
    · exact (hfirst other hother hother' heq).1

theorem FirstEligible.unique (ha : FirstEligible keyLe configs registeredKeys context config)
    (hb : FirstEligible keyLe configs registeredKeys context other) : config = other := by
  by_contra hne
  have hab := hb.first config ha.mem ha.eligible hne
  have hba := ha.first other hb.mem hb.eligible fun h => hne h.symm
  exact hab.2 hba.1

theorem chooseProvider_eq_some (hkeys : Distinct ProviderRoutingConfig.key configs)
    (horder : OrdersKeys keyLe (configs.map ProviderRoutingConfig.key)) :
    chooseProvider keyLe configs registeredKeys context = some config ↔
      FirstEligible keyLe configs registeredKeys context config := by
  rw [← least_iff_firstEligible hkeys horder, chooseProvider_eq_first]
  constructor
  · exact Choices.least_of_first (ordersOn horder)
  · intro h
    refine h.first_eq (ordersOn horder) fun other hother => ?_
    rw [least_iff_firstEligible hkeys horder] at h hother
    exact hother.unique h

theorem chooseProvider_eq_none : chooseProvider keyLe configs registeredKeys context = none ↔
    ∀ config ∈ configs, eligible registeredKeys context config = false :=
  Choices.first_eq_none

/-! ## Checkout and dispatch -/

variable {d : Deployment} {s s' : State} {orderId originNodeId : Nat} {legType : DeliveryLegType}
  {vehicleClass : VehicleClass} {distanceKm : ℚ≥0} {order : OrderRow}

theorem canServe_iff : (canServe d originNodeId distanceKm vehicleClass).run s = .ok (true, s) ↔
    ∃ row ∈ s.providers, eligible (fun key => (registryGet d key).isSome)
      ⟨originNodeId, distanceKm, some vehicleClass, fun _ => 0⟩ (routingConfig d row) = true := by
  rw [canServe, Tx.run_read_bind, Tx.run_pure, Except.ok.injEq, Prod.mk.injEq]
  rw [chooseProvider_eq_first, Choices.first_isSome]
  simp

/-- A registered courier is found as soon as one is eligible. -/
theorem choose_isSome (horder : getOrder s orderId = some order) {row : LogisticsProviderRow}
    (hrow : row ∈ s.providers)
    (heligible : eligible (fun key => (registryGet d key).isSome)
      ⟨order.originNodeId, d.distanceKm order.originNodeId order.destinationNodeId,
        order.vehicleClass,
        fun key =>
          (s.legs.filter (isLegOf orderId legType)).countP fun leg => leg.providerKey = key⟩
      (routingConfig d row) = true) :
    ∃ choice, (choose d orderId legType).run s = .ok (some choice, s) := by
  have hmem : routingConfig d row ∈ s.providers.map (routingConfig d) := List.mem_map_of_mem hrow
  obtain ⟨config, hconfig⟩ : ∃ config, chooseProvider d.keyLe (s.providers.map (routingConfig d))
      (fun key => (registryGet d key).isSome) _ = some config :=
    chooseProvider_ne_none hmem heligible
  obtain ⟨provider, hprovider⟩ : ∃ provider, registryGet d config.key = some provider := by
    have hchosen := (chooseProvider_some hconfig).2
    simp only [eligible, Bool.and_eq_true] at hchosen
    exact Option.isSome_iff_exists.mp hchosen.1.1.1.1.1.2
  refine ⟨⟨provider, (s.legs.filter (isLegOf orderId legType)).length + 1⟩, ?_⟩
  rw [choose, Tx.run_read_bind, horder, Tx.expect_some]
  simp only [Tx.run_pure_bind, Tx.run_read_bind, Tx.run_pure, hconfig, Except.ok.injEq,
    Prod.mk.injEq, and_true]
  show (registryGet d config.key).bind _ = _
  rw [hprovider]
  rfl

/-- **What checkout promised, dispatch finds**: with the couriers as they were, the
order's first leg of either type has somebody to take it. -/
theorem choose_of_canServe (hproviders : s'.providers.Perm s.providers)
    (horder : getOrder s' orderId = some order) (hvehicle : order.vehicleClass = some vehicleClass)
    (hfirst : ∀ leg ∈ s'.legs, isLegOf orderId legType leg = false)
    (h : (canServe d order.originNodeId
      (d.distanceKm order.originNodeId order.destinationNodeId) vehicleClass).run s =
        .ok (true, s)) :
    ∃ choice, (choose d orderId legType).run s' = .ok (some choice, s') := by
  obtain ⟨row, hrow, heligible⟩ := canServe_iff.mp h
  have hlegs : s'.legs.filter (isLegOf orderId legType) = [] := by simpa using hfirst
  refine choose_isSome horder (hproviders.symm.subset hrow) ?_
  rw [hvehicle, hlegs]
  exact heligible

/-! ## The policy -/

/-- **The first eligible courier, however the rows come.** -/
theorem choice_first_eligible (keyLe : String → String → Bool)
    (configs : List ProviderRoutingConfig) (registeredKeys : String → Bool)
    (hkeys : Distinct ProviderRoutingConfig.key configs)
    (horder : OrdersKeys keyLe (configs.map ProviderRoutingConfig.key)) :
    (∀ context config, chooseProvider keyLe configs registeredKeys context = some config ↔
      FirstEligible keyLe configs registeredKeys context config) ∧
    (∀ context, chooseProvider keyLe configs registeredKeys context = none ↔
      ∀ config ∈ configs, eligible registeredKeys context config = false) ∧
    (∀ context configs', configs'.Perm configs →
      chooseProvider keyLe configs' registeredKeys context =
        chooseProvider keyLe configs registeredKeys context) ∧
    (∀ context context', SameParcel context context' →
      (∀ key, context.attemptsByProvider key ≤ context'.attemptsByProvider key) →
      ∀ later, chooseProvider keyLe configs registeredKeys context' = some later →
        ∃ earlier, chooseProvider keyLe configs registeredKeys context = some earlier ∧
          sortsBefore keyLe earlier later) ∧
    ∀ (d : Deployment) (s s' : State) orderId legType order vehicleClass,
      s'.providers.Perm s.providers → getOrder s' orderId = some order →
      order.vehicleClass = some vehicleClass →
      (∀ leg ∈ s'.legs, isLegOf orderId legType leg = false) →
      (canServe d order.originNodeId (d.distanceKm order.originNodeId order.destinationNodeId)
        vehicleClass).run s = .ok (true, s) →
      ∃ choice, (choose d orderId legType).run s' = .ok (some choice, s') := by
  refine ⟨fun context config => chooseProvider_eq_some hkeys horder,
    fun context => chooseProvider_eq_none, ?_, ?_, ?_⟩
  · intro context configs' hperm
    refine Choices.first_perm (ordersOn horder) ?_ hperm (List.Perm.refl configs)
    intro a b ha hb
    rw [least_iff_firstEligible hkeys horder] at ha hb
    exact ha.unique hb
  · intro context context' hsame hmore later hlater
    refine Choices.first_mono (ordersOn horder) ?_ hlater
    exact fun config _ => eligible_of_more_attempts hsame hmore
  · intro d s s' orderId legType order vehicleClass hproviders ho hvehicle hfirst hserve
    exact choose_of_canServe hproviders ho hvehicle hfirst hserve

/-- Two couriers, their rows in either order, and an order that is paid for. -/
theorem demo_first_eligible :
    let configs := demoState.providers.map (routingConfig demo)
    (chooseProvider demo.keyLe configs.reverse (fun key => (registryGet demo key).isSome)
      ⟨1, 3, some .motorbike, fun _ => 0⟩).map ProviderRoutingConfig.key = some "sendii" ∧
    ∃ choice, (choose demo 11 .forward).run demoPaid = .ok (some choice, demoPaid) := by
  intro configs
  have hkeys : Distinct ProviderRoutingConfig.key configs := by decide +kernel
  have horder : OrdersKeys demo.keyLe (configs.map ProviderRoutingConfig.key) :=
    ⟨by decide +kernel, by decide +kernel, by decide +kernel⟩
  obtain ⟨-, -, hperm, -, hserve⟩ := choice_first_eligible demo.keyLe configs
    (fun key => (registryGet demo key).isSome) hkeys horder
  refine ⟨?_, ?_⟩
  · rw [hperm _ _ (List.reverse_perm configs)]
    decide +kernel
  · obtain ⟨order, ho⟩ : ∃ order, getOrder demoPaid 11 = some order :=
      Option.isSome_iff_exists.mp (by decide +kernel)
    have hrow : (getOrder demoPaid 11).map (fun o => (o.originNodeId, o.vehicleClass)) =
        some (1, some .motorbike) := by decide +kernel
    obtain ⟨horigin, hvehicle⟩ : order.originNodeId = 1 ∧ order.vehicleClass = some .motorbike := by
      simpa [ho] using hrow
    refine hserve demo demoPaid demoPaid 11 .forward order .motorbike (List.Perm.refl _) ho hvehicle
      (by decide +kernel) (canServe_iff.mpr ?_)
    have hdistance : demo.distanceKm order.originNodeId order.destinationNodeId = 3 := rfl
    rw [horigin] at hdistance ⊢
    rw [hdistance]
    decide +kernel

end Locoomo.CourierChoice
