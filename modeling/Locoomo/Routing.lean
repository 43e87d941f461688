import Mathlib.Data.List.Sort
import Locoomo.Database

/-! Which courier gets a leg: the pure choice over the provider table, and the
registry of adapters running in this process. -/

namespace Locoomo.Routing

open Locoomo.Delivery Locoomo.Database

/-- `IN_HOUSE_PROVIDER_KEY`. -/
def inHouseProviderKey : String := "in_house"

structure Adapter where
  key : String
  vehicleClasses : List VehicleClass
  remoteSubmission : Bool
  deriving DecidableEq, Repr

/-- The in-house pool: every vehicle but vans and trucks, handed over inside
the caller's transaction. -/
def inHouseRiders : Adapter := ⟨inHouseProviderKey, [.bicycle, .motorbike, .car], false⟩

/-- What the process runs on: the couriers' adapters (with the vehicle classes
each offers), `localeCompare` on provider keys (`keyLe a b` when `a` does not
sort after `b`), PostGIS distances between Nodes, and the hash of a code. -/
structure Deployment where
  remoteAdapters : List (String × List VehicleClass)
  keyLe : String → String → Bool
  distanceKm : Nat → Nat → ℚ≥0
  hashToken : String → String

/-- `LogisticsProviderRegistry.get`. -/
def registryGet (d : Deployment) (key : String) : Option Adapter :=
  if key = inHouseProviderKey then some inHouseRiders
  else (d.remoteAdapters.lookup key).map fun vehicleClasses => ⟨key, vehicleClasses, true⟩

structure ProviderRoutingConfig where
  key : String
  enabled : Bool
  priority : Int
  maxAttempts : Nat
  minDistanceKm : Option ℚ≥0
  maxDistanceKm : Option ℚ≥0
  pilotNodeIds : Option (List Nat)
  vehicleClasses : List VehicleClass

structure RoutingContext where
  originNodeId : Nat
  distanceKm : ℚ≥0
  vehicleClass : Option VehicleClass
  attemptsByProvider : String → Nat

/-- The conjunction inside `find`. -/
def eligible (registeredKeys : String → Bool) (context : RoutingContext)
    (config : ProviderRoutingConfig) : Bool :=
  config.enabled
    && registeredKeys config.key
    && decide (context.attemptsByProvider config.key < config.maxAttempts)
    && (match config.pilotNodeIds with
        | none | some [] => true
        | some pilots => decide (context.originNodeId ∈ pilots))
    && (match context.vehicleClass with
        | none => true
        | some vehicleClass => decide (vehicleClass ∈ config.vehicleClasses))
    && (match config.minDistanceKm with
        | none => true
        | some km => decide (km ≤ context.distanceKm))
    && (match config.maxDistanceKm with
        | none => true
        | some km => decide (context.distanceKm ≤ km))

/-- `a.priority - b.priority || a.key.localeCompare(b.key)` is not positive. -/
def sortsBefore (keyLe : String → String → Bool) (a b : ProviderRoutingConfig) : Prop :=
  a.priority < b.priority ∨ a.priority = b.priority ∧ keyLe a.key b.key = true

instance (keyLe : String → String → Bool) : DecidableRel (sortsBefore keyLe) :=
  fun _ _ => inferInstanceAs (Decidable (_ ∨ _))

/-- The first eligible provider in priority order. -/
def chooseProvider (keyLe : String → String → Bool) (configs : List ProviderRoutingConfig)
    (registeredKeys : String → Bool) (context : RoutingContext) : Option ProviderRoutingConfig :=
  (configs.insertionSort (sortsBefore keyLe)).find? (eligible registeredKeys context)

theorem chooseProvider_some {keyLe : String → String → Bool} {configs : List ProviderRoutingConfig}
    {registeredKeys : String → Bool} {context : RoutingContext} {config : ProviderRoutingConfig}
    (h : chooseProvider keyLe configs registeredKeys context = some config) :
    config ∈ configs ∧ eligible registeredKeys context config = true := by
  have hmem := List.mem_of_find?_eq_some h
  rw [List.mem_insertionSort] at hmem
  exact ⟨hmem, List.find?_some h⟩

/-- Some provider is chosen as soon as one is eligible. -/
theorem chooseProvider_ne_none {keyLe : String → String → Bool}
    {configs : List ProviderRoutingConfig} {registeredKeys : String → Bool}
    {context : RoutingContext} {config : ProviderRoutingConfig} (hmem : config ∈ configs)
    (h : eligible registeredKeys context config = true) :
    ∃ chosen, chooseProvider keyLe configs registeredKeys context = some chosen := by
  rw [← Option.isSome_iff_exists, chooseProvider, List.find?_isSome]
  exact ⟨config, (List.mem_insertionSort _).mpr hmem, h⟩

/-- `loadConfigs`: a configured provider offers what its adapter offers. -/
def routingConfig (d : Deployment) (row : LogisticsProviderRow) : ProviderRoutingConfig where
  key := row.key
  enabled := row.enabled
  priority := row.priority
  maxAttempts := row.maxAttempts
  minDistanceKm := row.minDistanceKm
  maxDistanceKm := row.maxDistanceKm
  pilotNodeIds := row.pilotNodeIds
  vehicleClasses := ((registryGet d row.key).map Adapter.vehicleClasses).getD []

theorem registryGet_key {d : Deployment} {key : String} {adapter : Adapter}
    (h : registryGet d key = some adapter) : adapter.key = key := by
  unfold registryGet at h
  split at h
  · obtain rfl : inHouseRiders = adapter := by simpa using h
    simp_all [inHouseRiders]
  · obtain ⟨classes, -, rfl⟩ := Option.map_eq_some_iff.mp h
    rfl

theorem registryGet_remote {d : Deployment} {key : String} {adapter : Adapter}
    (h : registryGet d key = some adapter) :
    adapter.remoteSubmission = decide (key ≠ inHouseProviderKey) := by
  unfold registryGet at h
  split at h
  · obtain rfl : inHouseRiders = adapter := by simpa using h
    simp_all [inHouseRiders]
  · obtain ⟨classes, -, rfl⟩ := Option.map_eq_some_iff.mp h
    simp_all

@[simp] theorem registryGet_inHouse (d : Deployment) :
    registryGet d inHouseProviderKey = some inHouseRiders := by
  simp [registryGet]

end Locoomo.Routing
