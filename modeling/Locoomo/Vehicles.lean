import Mathlib.Algebra.Order.Ring.Rat
import Locoomo.Lib.Choices
import Locoomo.Lib.Runs
import Locoomo.Edits
import Locoomo.Delivery

/-! Which vehicle a parcel needs: the smallest enabled class of the configured
table that it fits, and the table under the admin's edits. -/

namespace Locoomo.Vehicles

open Locoomo.Delivery Relational

/-! ## Selection -/

/-- The mapped columns of `vehicle_class_rules`. -/
structure VehicleClassRule where
  vehicleClass : VehicleClass
  rank : Int
  enabled : Bool
  parcelSizes : List String
  maxWeightKg : ℚ
  maxLongestSideCm : Int
  deriving DecidableEq

structure ParcelToCarry where
  parcelSize : String
  weightKg : Option ℚ := none
  lengthCm : Option ℚ := none
  widthCm : Option ℚ := none
  heightCm : Option ℚ := none
  deriving DecidableEq

def longestSide (parcel : ParcelToCarry) : ℚ :=
  max (parcel.lengthCm.getD 0) (max (parcel.widthCm.getD 0) (parcel.heightCm.getD 0))

/-- The condition inside `find`. -/
def fits (parcel : ParcelToCarry) (rule : VehicleClassRule) : Bool :=
  decide (parcel.parcelSize ∈ rule.parcelSizes)
    && (match parcel.weightKg with
        | none => true
        | some weightKg => decide (weightKg ≤ rule.maxWeightKg))
    && decide (longestSide parcel ≤ rule.maxLongestSideCm)

/-- `a.rank - b.rank` is not positive. -/
def byRank (a b : VehicleClassRule) : Prop := a.rank ≤ b.rank

instance : DecidableRel byRank := fun a b => inferInstanceAs (Decidable (a.rank ≤ b.rank))

instance : Std.Total byRank := ⟨fun a b => le_total a.rank b.rank⟩

instance : IsTrans VehicleClassRule byRank := ⟨fun _ _ _ => le_trans⟩

def fitting (rules : List VehicleClassRule) (parcel : ParcelToCarry) : Option VehicleClassRule :=
  Choices.first byRank (fits parcel) (rules.filter VehicleClassRule.enabled)

/-- `null` when nothing that runs can carry the parcel. -/
def chooseVehicleClass (rules : List VehicleClassRule) (parcel : ParcelToCarry) :
    Option VehicleClass :=
  (fitting rules parcel).map VehicleClassRule.vehicleClass

/-- `vehicleFor`, over the rows that the unordered query returned. -/
def vehicleFor (rows : List VehicleClassRule) (parcel : ParcelToCarry) : Option VehicleClass :=
  chooseVehicleClass rows parcel

/-- An enabled class takes the parcel: its size, its weight when it is given, and
its longest side. -/
structure Takes (rule : VehicleClassRule) (parcel : ParcelToCarry) : Prop where
  enabled : rule.enabled = true
  size : parcel.parcelSize ∈ rule.parcelSizes
  weight : ∀ weightKg ∈ parcel.weightKg, weightKg ≤ rule.maxWeightKg
  side : longestSide parcel ≤ rule.maxLongestSideCm

/-- What the first parcel needs, the second needs too: a missing weight is the least. -/
structure NoLarger (p q : ParcelToCarry) : Prop where
  size : p.parcelSize = q.parcelSize
  weight : ∀ light ∈ p.weightKg, ∃ heavy ∈ q.weightKg, light ≤ heavy
  side : longestSide p ≤ longestSide q

variable {rules rules' : List VehicleClassRule} {rule : VehicleClassRule}
  {parcel p q : ParcelToCarry}

theorem takes_iff : Takes rule parcel ↔ rule.enabled = true ∧ fits parcel rule = true := by
  have hfits : fits parcel rule = true ↔ parcel.parcelSize ∈ rule.parcelSizes ∧
      (∀ weightKg ∈ parcel.weightKg, weightKg ≤ rule.maxWeightKg) ∧
      longestSide parcel ≤ rule.maxLongestSideCm := by
    cases hw : parcel.weightKg with
    | none => simp [fits, hw]
    | some weightKg => simp [fits, hw, and_assoc]
  rw [hfits]
  constructor
  · rintro ⟨henabled, hsize, hweight, hside⟩
    exact ⟨henabled, hsize, hweight, hside⟩
  · rintro ⟨henabled, hsize, hweight, hside⟩
    exact ⟨henabled, hsize, hweight, hside⟩

/-- A class that takes a parcel takes what is no larger. -/
theorem Takes.of_noLarger (h : Takes rule q) (hpq : NoLarger p q) : Takes rule p where
  enabled := h.enabled
  size := hpq.size ▸ h.size
  weight := by
    intro light hlight
    obtain ⟨heavy, hheavy, hle⟩ := hpq.weight light hlight
    exact hle.trans (h.weight heavy hheavy)
  side := hpq.side.trans h.side

/-! ## The seeded table -/

def allParcelSizes : List String := ["small", "medium", "large", "extra_large"]

/-- What the migration inserts. -/
def seededRules : List VehicleClassRule :=
  [⟨.bicycle, 1, false, ["small"], 5, 40⟩, ⟨.motorbike, 2, true, ["small", "medium"], 20, 60⟩,
    ⟨.car, 3, true, allParcelSizes, 50, 120⟩, ⟨.van, 4, false, allParcelSizes, 500, 250⟩]

/-! ## The least rank -/

/-- A class that takes the parcel, none of a smaller rank does. -/
structure Smallest (rules : List VehicleClassRule) (parcel : ParcelToCarry)
    (rule : VehicleClassRule) : Prop where
  mem : rule ∈ rules
  takes : Takes rule parcel
  least : ∀ other ∈ rules, Takes other parcel → rule.rank ≤ other.rank

theorem least_iff :
    Choices.Least byRank (fits parcel) (rules.filter VehicleClassRule.enabled) rule ↔
      Smallest rules parcel rule := by
  constructor
  · rintro ⟨hmem, hfits, hleast⟩
    obtain ⟨hmem, henabled⟩ := List.mem_filter.mp hmem
    refine ⟨hmem, takes_iff.mpr ⟨henabled, hfits⟩, ?_⟩
    intro other hother htakes
    obtain ⟨henabled', hfits'⟩ := takes_iff.mp htakes
    exact hleast other (List.mem_filter.mpr ⟨hother, henabled'⟩) hfits'
  · rintro ⟨hmem, htakes, hleast⟩
    obtain ⟨henabled, hfits⟩ := takes_iff.mp htakes
    refine ⟨List.mem_filter.mpr ⟨hmem, henabled⟩, hfits, ?_⟩
    intro other hother hfits'
    obtain ⟨hother, henabled'⟩ := List.mem_filter.mp hother
    exact hleast other hother (takes_iff.mpr ⟨henabled', hfits'⟩)

/-- **What is chosen is a smallest class.** -/
theorem smallest_of_fitting (h : fitting rules parcel = some rule) : Smallest rules parcel rule :=
  least_iff.mp (Choices.least_of_first (Choices.ordersOn _) h)

theorem fitting_isSome :
    (fitting rules parcel).isSome = true ↔ ∃ rule ∈ rules, Takes rule parcel := by
  rw [fitting, Choices.first_isSome]
  constructor
  · rintro ⟨rule, hmem, hfits⟩
    obtain ⟨hmem, henabled⟩ := List.mem_filter.mp hmem
    exact ⟨rule, hmem, takes_iff.mpr ⟨henabled, hfits⟩⟩
  · rintro ⟨rule, hmem, htakes⟩
    obtain ⟨henabled, hfits⟩ := takes_iff.mp htakes
    exact ⟨rule, List.mem_filter.mpr ⟨hmem, henabled⟩, hfits⟩

/-- A smaller parcel never needs a larger vehicle. -/
theorem fitting_mono (hpq : NoLarger p q) {large : VehicleClassRule}
    (h : fitting rules q = some large) :
    ∃ small, fitting rules p = some small ∧ small.rank ≤ large.rank := by
  refine Choices.first_mono (Choices.ordersOn _) ?_ h
  intro rule hrule hfits
  have htakes : Takes rule q := takes_iff.mpr ⟨(List.mem_filter.mp hrule).2, hfits⟩
  exact (takes_iff.mp (htakes.of_noLarger hpq)).2

/-- **The choice is sound, minimal and monotone.** -/
theorem choice_minimal (rules : List VehicleClassRule)
    (hranks : Distinct VehicleClassRule.rank rules) :
    (∀ parcel, (chooseVehicleClass rules parcel).isSome = true ↔
      ∃ rule ∈ rules, Takes rule parcel) ∧
    (∀ parcel vehicleClass, chooseVehicleClass rules parcel = some vehicleClass →
      ∃ rule ∈ rules, rule.vehicleClass = vehicleClass ∧ Takes rule parcel ∧
        ∀ other ∈ rules, Takes other parcel → other ≠ rule → rule.rank < other.rank) ∧
    ∀ p q, NoLarger p q → ∀ large, fitting rules q = some large →
      chooseVehicleClass rules q = some large.vehicleClass ∧
      ∃ small, fitting rules p = some small ∧
        chooseVehicleClass rules p = some small.vehicleClass ∧ small.rank ≤ large.rank := by
  refine ⟨fun parcel => ?_, fun parcel vehicleClass h => ?_, fun p q hpq large h => ?_⟩
  · rw [chooseVehicleClass, Option.isSome_map]
    exact fitting_isSome
  · obtain ⟨rule, hrule, hclass⟩ := Option.map_eq_some_iff.mp h
    have hsmallest := smallest_of_fitting hrule
    refine ⟨rule, hsmallest.mem, hclass, hsmallest.takes, ?_⟩
    intro other hother htakes hne
    have hle := hsmallest.least other hother htakes
    have hranks' : other.rank ≠ rule.rank := fun heq =>
      hne (hranks.eq_of_key hother hsmallest.mem heq)
    omega
  · obtain ⟨small, hsmall, hle⟩ := fitting_mono hpq h
    refine ⟨by simp [chooseVehicleClass, h], small, hsmall, ?_, hle⟩
    simp [chooseVehicleClass, hsmall]

/-- A small parcel of unknown weight and a long one, over four classes. -/
theorem choice_minimal_seeded :
    Distinct VehicleClassRule.rank seededRules ∧
    (chooseVehicleClass seededRules ⟨"small", none, none, none, none⟩ = some .motorbike ∧
      chooseVehicleClass seededRules ⟨"small", some 12, some 90, none, none⟩ = some .car) ∧
    ∃ small, fitting seededRules ⟨"small", none, none, none, none⟩ = some small ∧
      small.rank ≤ 3 := by
  have hranks : Distinct VehicleClassRule.rank seededRules := by decide
  have hsmall : chooseVehicleClass seededRules ⟨"small", none, none, none, none⟩ =
      some .motorbike := by decide +kernel
  have hlong : fitting seededRules ⟨"small", some 12, some 90, none, none⟩ =
      some ⟨.car, 3, true, allParcelSizes, 50, 120⟩ := by decide +kernel
  have hpq : NoLarger ⟨"small", none, none, none, none⟩ ⟨"small", some 12, some 90, none, none⟩ :=
    ⟨rfl, by simp, by decide +kernel⟩
  obtain ⟨hclass, small, hfitting, -, hle⟩ :=
    (choice_minimal seededRules hranks).2.2 _ _ hpq _ hlong
  exact ⟨hranks, ⟨hsmall, hclass⟩, small, hfitting, hle⟩

/-! ## The table -/

/-- The key of a row, as the path of a request names it. -/
def className : VehicleClass → String
  | .bicycle => "bicycle"
  | .motorbike => "motorbike"
  | .car => "car"
  | .van => "van"
  | .truck => "truck"

structure UpdateVehicleRuleDto where
  enabled : Edits.Field Bool := none
  rank : Edits.Field Int := none
  parcelSizes : Edits.Field (List String) := none
  maxWeightKg : Edits.Field ℚ := none
  maxLongestSideCm : Edits.Field Int := none
  deriving DecidableEq

/-- What the validation pipe lets through: `@IsOptional` passes absent and `null`. -/
structure UpdateVehicleRuleDto.Valid (dto : UpdateVehicleRuleDto) : Prop where
  rank : ∀ rank ∈ dto.rank.join, 1 ≤ rank ∧ rank ≤ 100
  parcelSizes : ∀ sizes ∈ dto.parcelSizes.join, sizes.Nodup ∧ ∀ size ∈ sizes, size ∈ allParcelSizes
  maxWeightKg : ∀ weight ∈ dto.maxWeightKg.join, 1 / 10 ≤ weight ∧ (10 * weight).den = 1
  maxLongestSideCm : ∀ side ∈ dto.maxLongestSideCm.join, 1 ≤ side

inductive UpdateError
  | outOfRange (type : String)
  | notNull (column : String)
  | entityNotFound (entity id : String)
  deriving DecidableEq, Repr

/-- The first column, as the table has them, that the request sets to `NULL`. -/
def UpdateVehicleRuleDto.nullColumn (dto : UpdateVehicleRuleDto) : Option String :=
  ([("rank", decide (dto.rank = some none)), ("enabled", decide (dto.enabled = some none)),
    ("parcelSizes", decide (dto.parcelSizes = some none)),
    ("maxWeightKg", decide (dto.maxWeightKg = some none)),
    ("maxLongestSideCm", decide (dto.maxLongestSideCm = some none))].find? Prod.snd).map Prod.fst

def UpdateVehicleRuleDto.applyTo (dto : UpdateVehicleRuleDto) (rule : VehicleClassRule) :
    VehicleClassRule :=
  { rule with
    rank := dto.rank.orElse rule.rank
    enabled := dto.enabled.orElse rule.enabled
    parcelSizes := dto.parcelSizes.orElse rule.parcelSizes
    maxWeightKg := dto.maxWeightKg.orElse rule.maxWeightKg
    maxLongestSideCm := dto.maxLongestSideCm.orElse rule.maxLongestSideCm }

def isRule (vehicleClass : String) (rule : VehicleClassRule) : Bool :=
  decide (className rule.vehicleClass = vehicleClass)

/-- `AdminLogisticsService.updateVehicleRule`: one `UPDATE`, then the row as it is
listed. The statement fails as a whole, and every column is `NOT NULL`. -/
def updateVehicleRule (vehicleClass : String) (dto : UpdateVehicleRuleDto)
    (rules : List VehicleClassRule) : Except UpdateError (List VehicleClassRule) :=
  if ∃ side ∈ dto.maxLongestSideCm.join, 2147483647 < side then .error (.outOfRange "integer")
  else if rules.any (isRule vehicleClass) then
    match dto.nullColumn with
    | some column => .error (.notNull column)
    | none => .ok (update (isRule vehicleClass) dto.applyTo rules)
  else .error (.entityNotFound "VehicleClassRule" vehicleClass)

structure Request where
  vehicleClass : String
  dto : UpdateVehicleRuleDto
  valid : dto.Valid

/-- The table after a request: a refused one leaves it as it was. -/
def exec (rules : List VehicleClassRule) (request : Request) : List VehicleClassRule :=
  (updateVehicleRule request.vehicleClass request.dto rules).toOption.getD rules

theorem exec_eq (rules : List VehicleClassRule) (request : Request) :
    exec rules request = rules ∨
      exec rules request = update (isRule request.vehicleClass) request.dto.applyTo rules := by
  unfold exec updateVehicleRule
  split
  · exact .inl rfl
  · split
    · split
      · exact .inl rfl
      · exact .inr rfl
    · exact .inl rfl

/-! ## Every table reached -/

/-- One row a class, ranks and limits within the bounds of the requests. -/
structure WellFormed (rules : List VehicleClassRule) : Prop where
  classes : Distinct VehicleClassRule.vehicleClass rules
  ranks : ∀ rule ∈ rules, 1 ≤ rule.rank ∧ rule.rank ≤ 100
  weights : ∀ rule ∈ rules, 1 / 10 ≤ rule.maxWeightKg
  sides : ∀ rule ∈ rules, 1 ≤ rule.maxLongestSideCm
  sizes : ∀ rule ∈ rules, ∀ size ∈ rule.parcelSizes, size ∈ allParcelSizes

theorem orElse_forall {α : Type} {P : α → Prop} {field : Edits.Field α} {old : α}
    (hfield : ∀ a ∈ field.join, P a) (hold : P old) : P (field.orElse old) := by
  unfold Edits.Field.orElse
  cases h : field.join with
  | none => exact hold
  | some a => exact hfield a (by simp [h])

theorem wellFormed_seeded : WellFormed seededRules where
  classes := by decide
  ranks := by decide
  weights := by decide +kernel
  sides := by decide
  sizes := by decide

/-- A request keeps the table well formed. -/
theorem WellFormed.exec (h : WellFormed rules) (request : Request) :
    WellFormed (exec rules request) := by
  rcases exec_eq rules request with heq | heq
  · rw [heq]
    exact h
  rw [heq]
  have hvalid := request.valid
  have hrows : ∀ {P : VehicleClassRule → Prop}, (∀ rule ∈ rules, P rule) →
      (∀ rule ∈ rules, P (request.dto.applyTo rule)) →
      ∀ rule ∈ update (isRule request.vehicleClass) request.dto.applyTo rules, P rule := by
    intro P hold hnew rule hrule
    obtain ⟨old, hmem, rfl⟩ := mem_update.mp hrule
    split
    · exact hnew old hmem
    · exact hold old hmem
  constructor
  · exact h.classes.update fun _ _ _ => rfl
  · exact hrows h.ranks fun rule hrule => orElse_forall hvalid.rank (h.ranks rule hrule)
  · refine hrows h.weights fun rule hrule => ?_
    exact orElse_forall (fun w hw => (hvalid.maxWeightKg w hw).1) (h.weights rule hrule)
  · exact hrows h.sides fun rule hrule =>
      orElse_forall hvalid.maxLongestSideCm (h.sides rule hrule)
  · refine hrows h.sizes fun rule hrule => ?_
    exact orElse_forall (fun sizes hs => (hvalid.parcelSizes sizes hs).2) (h.sizes rule hrule)

/-- **Every table reached** from the seeded one is well formed. -/
theorem wellFormed_run (requests : List Request) :
    WellFormed (Runs.run exec seededRules requests) := by
  have h : ∀ rules, WellFormed rules → WellFormed (Runs.run exec rules requests) := by
    induction requests with
    | nil => exact fun rules h => h
    | cons request requests ih => exact fun rules h => ih _ (h.exec request)
  exact h _ wellFormed_seeded

/-! ## The order of the rows -/

/-- Whatever order the query returns the rows in, the parcel gets one class. -/
def SelectsAlike (rules : List VehicleClassRule) (parcel : ParcelToCarry) : Prop :=
  ∀ rows₁ rows₂ : List VehicleClassRule, rows₁.Perm rules → rows₂.Perm rules →
    vehicleFor rows₁ parcel = vehicleFor rows₂ parcel

/-- Two of the classes that take the parcel share the least rank among them. -/
def Tied (rules : List VehicleClassRule) (parcel : ParcelToCarry) : Prop :=
  ∃ a b, a ≠ b ∧ Smallest rules parcel a ∧ Smallest rules parcel b

theorem Smallest.perm (h : Smallest rules parcel rule) (hperm : rules.Perm rules') :
    Smallest rules' parcel rule :=
  ⟨hperm.subset h.mem, h.takes, fun other hother => h.least other (hperm.symm.subset hother)⟩

/-- The rule found depends on the order of the rows just when two are tied. -/
theorem fitting_perm_iff :
    (∀ rows₁ rows₂ : List VehicleClassRule, rows₁.Perm rules → rows₂.Perm rules →
      fitting rows₁ parcel = fitting rows₂ parcel) ↔ ¬ Tied rules parcel := by
  unfold fitting
  rw [Choices.first_filter_perm_iff _ (Choices.ordersOn _)]
  simp only [least_iff, Tied, not_exists, not_and]
  constructor
  · intro h a b hne ha hb
    exact hne (h a b ha hb)
  · intro h a b ha hb
    by_contra hne
    exact h a b hne ha hb

/-- With one row a class, the classes found agree just when the rules do. -/
theorem selectsAlike_iff (hclasses : Distinct VehicleClassRule.vehicleClass rules) :
    SelectsAlike rules parcel ↔ ¬ Tied rules parcel := by
  rw [← fitting_perm_iff]
  constructor
  · intro h rows₁ rows₂ h₁ h₂
    have hclass := h rows₁ rows₂ h₁ h₂
    unfold vehicleFor chooseVehicleClass at hclass
    cases ha : fitting rows₁ parcel with
    | none =>
        rw [ha, Option.map_none, eq_comm, Option.map_eq_none_iff] at hclass
        rw [hclass]
    | some a =>
        rw [ha, Option.map_some, eq_comm, Option.map_eq_some_iff] at hclass
        obtain ⟨b, hb, hsame⟩ := hclass
        have hamem := h₁.subset (smallest_of_fitting ha).mem
        have hbmem := h₂.subset (smallest_of_fitting hb).mem
        rw [hb, hclasses.eq_of_key hbmem hamem hsame]
  · intro h rows₁ rows₂ h₁ h₂
    show (fitting rows₁ parcel).map _ = (fitting rows₂ parcel).map _
    rw [h rows₁ rows₂ h₁ h₂]

/-- **The vehicle depends on the order of the rows** just when two of the classes
that take the parcel share the least rank, after any requests. -/
theorem selectsAlike_run_iff (requests : List Request) (parcel : ParcelToCarry) :
    SelectsAlike (Runs.run exec seededRules requests) parcel ↔
      ¬ Tied (Runs.run exec seededRules requests) parcel :=
  selectsAlike_iff (wellFormed_run requests).classes

/-- The motorbike given the rank of the car. -/
def sameRank : Request where
  vehicleClass := "motorbike"
  dto := { rank := some (some 3) }
  valid := ⟨by simp, by simp, by simp, by simp⟩

/-- A small parcel goes on a motorbike or in a car, as the rows come. -/
theorem not_selectsAlike :
    ¬ ∀ requests parcel, SelectsAlike (Runs.run exec seededRules requests) parcel := by
  intro h
  have hrun : Runs.run exec seededRules [sameRank] =
      [⟨.bicycle, 1, false, ["small"], 5, 40⟩, ⟨.motorbike, 3, true, ["small", "medium"], 20, 60⟩,
        ⟨.car, 3, true, allParcelSizes, 50, 120⟩, ⟨.van, 4, false, allParcelSizes, 500, 250⟩] := by
    decide +kernel
  have hsame := h [sameRank] ⟨"small", none, none, none, none⟩ _ _ (List.Perm.refl _)
    (List.reverse_perm _)
  rw [hrun] at hsame
  revert hsame
  decide +kernel

end Locoomo.Vehicles
