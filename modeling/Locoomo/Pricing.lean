import Mathlib.Data.Rat.Floor
import Mathlib.Data.NNRat.Defs
import Locoomo.Lib.Binary64
import Locoomo.Lib.Table
import Locoomo.Delivery

/-! The money rules: what a delivery costs and how the fee of a completed
order is split. Kobo amounts are integers; rates and percentages are natural
numbers, as the admin endpoints only accept values from 0 on; distances are
non-negative rationals. Rates and distances are multiplied as doubles. -/

namespace Locoomo.Pricing

open Locoomo.Delivery Binary64

/-! ## Fees -/

/-- `Math.round` of a non-negative number, which is exact. -/
def mathRound (x : ℚ) : Nat := ⌊x + 1 / 2⌋₊

/-- Two of them are no doubles. -/
def vehicleRateMultipliers : VehicleClass → ℚ
  | .bicycle => nearest (7 / 10)
  | .motorbike => 1
  | .car => nearest (24 / 10)
  | .van => 5
  | .truck => 8

structure VehicleRate where
  baseFeeKobo : Nat
  perKmRateKobo : Nat
  deriving DecidableEq, Repr

structure PricingRule where
  id : Nat
  baseFeeKobo : Nat
  perKmRateKobo : Nat
  destinationFeeKobo : Nat
  roadDistanceFactor : ℚ≥0
  vehicleRates : List (VehicleClass × VehicleRate)
  effectiveFrom : Nat
  deriving DecidableEq

def rateFor (rule : PricingRule) (vehicleClass : VehicleClass) : VehicleRate :=
  match rule.vehicleRates.lookup vehicleClass with
  | some explicit => explicit
  | none =>
      let multiplier := vehicleRateMultipliers vehicleClass
      { baseFeeKobo := mathRound (nearest (rule.baseFeeKobo * multiplier))
        perKmRateKobo := mathRound (nearest (rule.perKmRateKobo * multiplier)) }

def deliveryFeeKobo (rate : VehicleRate) (distanceKm : ℚ) : Nat :=
  rate.baseFeeKobo + mathRound (nearest (rate.perKmRateKobo * distanceKm))

structure FeeBreakdown where
  pricingRuleId : Nat
  vehicleClass : VehicleClass
  deliveryFeeKobo : Int
  destinationFeeKobo : Int
  totalKobo : Int
  deriving DecidableEq, Repr

/-- The rule in force at `now`: the latest `effectiveFrom` not in the future. -/
def currentRule {R : Type} (effectiveFrom : R → Nat) (rules : List R) (now : Nat) : Option R :=
  Relational.latest effectiveFrom (rules.filter fun rule => effectiveFrom rule ≤ now)

/-- The distance is the measured route when one is known, else the straight
line scaled by the rule's road factor. Both are quotients by 1000, which become
doubles here, as the factor does. -/
def roadKm (rule : PricingRule) (routeKm : Option ℚ≥0) (straightLineKm : ℚ≥0) : ℚ :=
  match routeKm with
  | some km => nearest km
  | none => nearest (nearest straightLineKm * nearest rule.roadDistanceFactor)

def calculateFee (rule : PricingRule) (routeKm : Option ℚ≥0) (straightLineKm : ℚ≥0)
    (vehicleClass : VehicleClass) : FeeBreakdown :=
  let distanceKm := roadKm rule routeKm straightLineKm
  let deliveryFee := deliveryFeeKobo (rateFor rule vehicleClass) distanceKm
  { pricingRuleId := rule.id
    vehicleClass
    deliveryFeeKobo := deliveryFee
    destinationFeeKobo := rule.destinationFeeKobo
    totalKobo := deliveryFee + rule.destinationFeeKobo }

/-- A breakdown whose parts add up, none of them negative. -/
structure FeeBreakdown.Sound (fee : FeeBreakdown) : Prop where
  total : fee.totalKobo = fee.deliveryFeeKobo + fee.destinationFeeKobo
  delivery_nonneg : 0 ≤ fee.deliveryFeeKobo
  destination_nonneg : 0 ≤ fee.destinationFeeKobo

theorem calculateFee_sound (rule : PricingRule) (routeKm : Option ℚ≥0) (straightLineKm : ℚ≥0)
    (vehicleClass : VehicleClass) :
    (calculateFee rule routeKm straightLineKm vehicleClass).Sound where
  total := rfl
  delivery_nonneg := Int.natCast_nonneg _
  destination_nonneg := Int.natCast_nonneg _

theorem deliveryFeeKobo_mono (rate : VehicleRate) {km km' : ℚ} (h0 : 0 ≤ km) (h : km ≤ km') :
    deliveryFeeKobo rate km ≤ deliveryFeeKobo rate km' := by
  have hrate : (0 : ℚ) ≤ rate.perKmRateKobo := Nat.cast_nonneg _
  have hproduct : nearest (rate.perKmRateKobo * km) ≤ nearest (rate.perKmRateKobo * km') :=
    nearest_mono (mul_nonneg hrate h0) (mul_le_mul_of_nonneg_left h hrate)
  exact Nat.add_le_add_left (Nat.floor_mono (add_le_add_left hproduct _)) _

theorem roadKm_nonneg (rule : PricingRule) (routeKm : Option ℚ≥0) (straightLineKm : ℚ≥0) :
    0 ≤ roadKm rule routeKm straightLineKm := by
  unfold roadKm
  split
  · exact nearest_nonneg (NNRat.coe_nonneg _)
  · have hstraight := nearest_nonneg (NNRat.coe_nonneg straightLineKm)
    have hfactor := nearest_nonneg (NNRat.coe_nonneg rule.roadDistanceFactor)
    exact nearest_nonneg (mul_nonneg hstraight hfactor)

theorem roadKm_some_mono (rule : PricingRule) {km km' : ℚ≥0} (h : km ≤ km')
    (straightLineKm straightLineKm' : ℚ≥0) :
    roadKm rule (some km) straightLineKm ≤ roadKm rule (some km') straightLineKm' :=
  nearest_mono (NNRat.coe_nonneg km) (NNRat.coe_le_coe.mpr h)

theorem roadKm_none_mono (rule : PricingRule) {km km' : ℚ≥0} (h : km ≤ km') :
    roadKm rule none km ≤ roadKm rule none km' := by
  have hkm : (0 : ℚ) ≤ km := NNRat.coe_nonneg km
  have hle : nearest km ≤ nearest km' := nearest_mono hkm (NNRat.coe_le_coe.mpr h)
  have hfactor := nearest_nonneg (NNRat.coe_nonneg rule.roadDistanceFactor)
  exact nearest_mono (mul_nonneg (nearest_nonneg hkm) hfactor)
    (mul_le_mul_of_nonneg_right hle hfactor)

theorem calculateFee_le {rule : PricingRule} {routeKm routeKm' : Option ℚ≥0} {km km' : ℚ≥0}
    (h : roadKm rule routeKm km ≤ roadKm rule routeKm' km') (vehicleClass : VehicleClass) :
    (calculateFee rule routeKm km vehicleClass).totalKobo ≤
      (calculateFee rule routeKm' km' vehicleClass).totalKobo := by
  have hfee := deliveryFeeKobo_mono (rateFor rule vehicleClass) (roadKm_nonneg rule routeKm km) h
  simp only [calculateFee]
  omega

/-- **A longer way is never cheaper**, measured or estimated, however its numbers
are rounded. -/
theorem calculateFee_mono (rule : PricingRule) (vehicleClass : VehicleClass) {km km' : ℚ≥0}
    (h : km ≤ km') (straightLineKm straightLineKm' : ℚ≥0) :
    (calculateFee rule (some km) straightLineKm vehicleClass).totalKobo ≤
        (calculateFee rule (some km') straightLineKm' vehicleClass).totalKobo ∧
      (calculateFee rule none km vehicleClass).totalKobo ≤
        (calculateFee rule none km' vehicleClass).totalKobo :=
  ⟨calculateFee_le (roadKm_some_mono rule h straightLineKm straightLineKm') vehicleClass,
    calculateFee_le (roadKm_none_mono rule h) vehicleClass⟩

/-- A hundred kobo a kilometre, over 1005 metres. -/
example : deliveryFeeKobo ⟨100, 100⟩ (nearest (1005 / 1000)) = 200 := by decide +kernel

theorem currentRule_mem {R : Type} {effectiveFrom : R → Nat} {rules : List R} {now : Nat} {r : R}
    (h : currentRule effectiveFrom rules now = some r) : r ∈ rules :=
  (List.mem_filter.mp (Relational.latest_mem h)).1

/-! ## The revenue split -/

structure RevenueSplitShares where
  riderShareKobo : Int
  nodeShareKobo : Int
  platformShareKobo : Int
  deriving DecidableEq, Repr

/-- The platform absorbs the rounding remainder. -/
def calculateSplit (amountKobo : Int) (riderPercent nodePercent : Nat) : RevenueSplitShares :=
  let riderShareKobo := amountKobo * riderPercent / 100
  let nodeShareKobo := amountKobo * nodePercent / 100
  { riderShareKobo
    nodeShareKobo
    platformShareKobo := amountKobo - riderShareKobo - nodeShareKobo }

/-- A row of `revenue_split_rules`. The check that the percentages add up is
the admin service's own; a rule that fails it cannot be stored. -/
structure RevenueSplitRule where
  id : Nat
  riderPercent : Nat
  nodePercent : Nat
  platformPercent : Nat
  effectiveFrom : Nat
  total : riderPercent + nodePercent + platformPercent = 100
  deriving DecidableEq

end Locoomo.Pricing
