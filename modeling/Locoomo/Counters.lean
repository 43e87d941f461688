import Locoomo.Edits

/-! Capacity counters under edits. The entity an edit saves carries the counter
as it was at the edit's first read; whatever is reserved, held or released until
the save re-reads the row differs from it, and is set back. -/

namespace Locoomo.Counters

open Locoomo.Edits Relational Ledgers

/-! ## The property -/

/-- Every counter has its starting value, plus the committed reservations and
holds, minus the committed releases. -/
def CountersHold (w : World) : Prop :=
  Balanced NodeRow.currentCount w.nodes ∧ Balanced RiderRow.currentActiveOrderCount w.riders

instance (w : World) : Decidable (CountersHold w) := inferInstanceAs (Decidable (_ ∧ _))

/-- The counter an edit read is still there at the re-read of its save, or is
there again when the save writes. -/
def Unmoved (w : World) : Call → Prop
  | .nodeWriting entity row =>
      ∀ current ∈ rows w.nodes, current.id = entity.id →
        entity.currentCount = row.currentCount ∨ entity.currentCount = current.currentCount
  | .riderWriting entity row =>
      ∀ current ∈ rows w.riders, current.id = entity.id →
        entity.currentActiveOrderCount = row.currentActiveOrderCount ∨
          entity.currentActiveOrderCount = current.currentActiveOrderCount
  | _ => True

instance (w : World) : ∀ call, Decidable (Unmoved w call)
  | .nodeWriting .. => inferInstanceAs (Decidable (∀ current ∈ rows w.nodes, _))
  | .riderWriting .. => inferInstanceAs (Decidable (∀ current ∈ rows w.riders, _))
  | .ended _ | .geocoding _ | .nodeSaving _ | .resolving .. | .riderSaving _ => isTrue trivial

/-- Every save of an edit finds its counter so, and no release an empty one. -/
def Undisturbed (w : World) : Action → Prop
  | .write i => ∀ call ∈ w.calls[i]?, Unmoved w call
  | .releaseCapacitySlot nodeId => ∀ n ∈ rows w.nodes, n.id = nodeId → 0 < n.currentCount
  | .releaseDeliverySlot riderId =>
      ∀ r ∈ rows w.riders, r.userId = riderId → 0 < r.currentActiveOrderCount
  | _ => True

/-! ## Statements -/

section Steps

variable {w : World}

/-- A statement on `nodes` alone. -/
theorem nodes_posted (hw : CountersHold w) (p : NodeRow → Bool) (f : NodeRow → NodeRow) (d : Int) :
    CountersHold { w with nodes := post p f d w.nodes } ↔
      ∀ n ∈ rows w.nodes, p n = true → (f n).currentCount = n.currentCount + d := by
  rw [← balanced_post hw.1]
  exact and_iff_left hw.2

theorem riders_posted (hw : CountersHold w) (p : RiderRow → Bool) (f : RiderRow → RiderRow)
    (d : Int) :
    CountersHold { w with riders := post p f d w.riders } ↔
      ∀ r ∈ rows w.riders, p r = true →
        (f r).currentActiveOrderCount = r.currentActiveOrderCount + d := by
  rw [← balanced_post hw.2]
  exact and_iff_right hw.1

/-- One less, or none at all. -/
theorem clamped_iff {count : Int} : max (count - 1) 0 = count + -1 ↔ 0 < count := by omega

theorem takeSlot_holds (hw : CountersHold w) (nodeId : Nat) : CountersHold (takeSlot w nodeId) :=
  (nodes_posted hw _ _ 1).mpr fun _ _ _ => rfl

theorem reserveCapacitySlot_holds (hw : CountersHold w) (nodeId : Nat) :
    CountersHold (reserveCapacitySlot w nodeId) := by
  unfold reserveCapacitySlot
  split
  · exact hw
  · exact takeSlot_holds hw nodeId

theorem reserveDeliverySlot_holds (hw : CountersHold w) (riderId : Nat) :
    CountersHold (reserveDeliverySlot w riderId) := by
  unfold reserveDeliverySlot
  split
  · exact (riders_posted hw _ _ 1).mpr fun _ _ _ => rfl
  · exact hw

theorem releaseCapacitySlot_holds_iff (hw : CountersHold w) (nodeId : Nat) :
    CountersHold (releaseCapacitySlot w nodeId) ↔
      ∀ n ∈ rows w.nodes, n.id = nodeId → 0 < n.currentCount := by
  rw [releaseCapacitySlot, nodes_posted hw]
  simp only [decide_eq_true_eq, clamped_iff]

theorem releaseDeliverySlot_holds_iff (hw : CountersHold w) (riderId : Nat) :
    CountersHold (releaseDeliverySlot w riderId) ↔
      ∀ r ∈ rows w.riders, r.userId = riderId → 0 < r.currentActiveOrderCount := by
  rw [releaseDeliverySlot, riders_posted hw]
  simp only [decide_eq_true_eq, clamped_iff]

/-- **A save** keeps the counters just when it leaves its own one alone. -/
theorem write_holds_iff (hw : CountersHold w) (i : Nat) (call : Call) :
    CountersHold (write w i call) ↔ Unmoved w call := by
  cases call with
  | nodeWriting entity row =>
      have hproceed : CountersHold (proceed w i (.ended .saved)) := hw
      refine (nodes_posted hproceed _ _ 0).trans ?_
      simp only [decide_eq_true_eq, Int.add_zero, saveNode, Saves.column_eq_current]
      exact Iff.rfl
  | riderWriting entity row =>
      have hproceed : CountersHold (proceed w i (.ended .saved)) := hw
      refine (riders_posted hproceed _ _ 0).trans ?_
      simp only [decide_eq_true_eq, Int.add_zero, saveRider, Saves.column_eq_current]
      exact Iff.rfl
  | ended answer => exact iff_of_true hw trivial
  | geocoding entity => exact iff_of_true hw trivial
  | nodeSaving entity => exact iff_of_true hw trivial
  | resolving profile dto => exact iff_of_true hw trivial
  | riderSaving entity => exact iff_of_true hw trivial

theorem reread_holds (hw : CountersHold w) (i : Nat) (call : Call) :
    CountersHold (reread w i call) := by
  unfold reread
  split
  · split
    · exact hw
    · exact hw
  · split
    · exact hw
    · exact hw
  · exact hw

theorem answered_holds (hw : CountersHold w) (i : Nat) (next : Call → Option Call) :
    CountersHold (answered w i next) := by
  unfold answered
  split
  · exact hw
  · exact hw

/-- Every action, from counters that hold. -/
theorem step_holds_iff (distanceMeters : Coordinates → Coordinates → ℚ) (hw : CountersHold w)
    (a : Action) : CountersHold (exec distanceMeters w a) ↔ Undisturbed w a := by
  cases a with
  | tick ms => exact iff_of_true hw trivial
  | update id dto => exact iff_of_true hw trivial
  | set userId dto => exact iff_of_true hw trivial
  | geocoded i geocoded => exact iff_of_true (answered_holds hw i _) trivial
  | resolved i reply => exact iff_of_true (answered_holds hw i _) trivial
  | reread i =>
      refine iff_of_true ?_ trivial
      simp only [exec]
      cases w.calls[i]? with
      | none => exact hw
      | some call => exact reread_holds hw i call
  | write i =>
      simp only [exec, Undisturbed]
      cases w.calls[i]? with
      | none => exact iff_of_true hw (by simp)
      | some call => simpa using write_holds_iff hw i call
  | reserveCapacitySlot nodeId => exact iff_of_true (reserveCapacitySlot_holds hw nodeId) trivial
  | holdReturnedParcel nodeId => exact iff_of_true (takeSlot_holds hw nodeId) trivial
  | releaseCapacitySlot nodeId => exact releaseCapacitySlot_holds_iff hw nodeId
  | reserveDeliverySlot riderId => exact iff_of_true (reserveDeliverySlot_holds hw riderId) trivial
  | releaseDeliverySlot riderId => exact releaseDeliverySlot_holds_iff hw riderId
  | setVisibility nodeId isPubliclyVisible =>
      refine iff_of_true ((nodes_posted hw _ _ 0).mpr ?_) trivial
      exact fun n _ _ => (Int.add_zero _).symm
  | setContactDetails nodeId contactPhone openingHours =>
      refine iff_of_true ((nodes_posted hw _ _ 0).mpr ?_) trivial
      exact fun n _ _ => (Int.add_zero _).symm
  | approveRider profileId =>
      refine iff_of_true ((riders_posted hw _ _ 0).mpr ?_) trivial
      exact fun r _ _ => (Int.add_zero _).symm

end Steps

/-! ## Runs -/

theorem start_holds (now : Nat) (nodes : List NodeRow) (riders : List RiderRow) :
    CountersHold (start now nodes riders) :=
  ⟨balanced_opened _ nodes, balanced_opened _ riders⟩

/-- **Edits leave the counters alone** throughout a run just when each save
finds its counter where the edit read it, and no release an empty one. -/
theorem counters_hold_iff (distanceMeters : Coordinates → Coordinates → ℚ) (now : Nat)
    (nodes : List NodeRow) (riders : List RiderRow) (as : List Action) :
    Runs.Always (exec distanceMeters) CountersHold (start now nodes riders) as ↔
      Runs.Meets (exec distanceMeters) Undisturbed (start now nodes riders) as := by
  have hstep : ∀ w a, True → CountersHold w →
      (CountersHold (exec distanceMeters w a) ↔ Undisturbed w a) :=
    fun w a _ hw => step_holds_iff distanceMeters hw a
  exact Runs.always_iff_meets (I := fun _ => True) (fun _ _ _ => trivial) hstep trivial
    (start_holds now nodes riders) as

/-! ## A reservation lost -/

def demoNode : NodeRow where
  id := 1
  name := "Yaba Hub"
  address := "12 Herbert Macaulay"
  city := "Yaba"
  state := "Lagos"
  country := "Nigeria"
  latitude := 6
  longitude := 3
  capacity := 1
  currentCount := 0
  status := .active
  onboardingType := .fieldRecruited
  operatingHours := none
  openingHours := none
  contactPhone := none
  locationCheck := none
  locationCheckedAt := none
  isPubliclyVisible := true
  createdAt := 0

def demoRider : RiderRow where
  id := 2
  userId := 7
  currentEmployer := "Dash"
  licenseNumber := none
  status := .active
  currentActiveOrderCount := 0
  payoutBankCode := none
  payoutBankName := none
  payoutAccountNumber := none
  payoutAccountName := none
  payoutAccountVerifiedAt := none
  createdAt := 0

/-- A new address for the node and an account for the rider; while both wait, a
parcel is dropped off and picked up by the rider. -/
def crossedEdits : List Action :=
  [.update 1 { address := some (some "14 Herbert Macaulay") },
    .set 7 ⟨"044", "Access Bank", "0123456789"⟩,
    .reserveCapacitySlot 1, .reserveDeliverySlot 7,
    .geocoded 0 none, .reread 0, .write 0,
    .resolved 1 (.answered 200 true none "ADA OBI"), .reread 1, .write 1]

/-- Both slots are free again, and the full node takes a second parcel. -/
theorem crossed_edits_lose_slots :
    let w := Runs.run (exec fun _ _ => 0) (start 0 [demoNode] [demoRider]) crossedEdits
    (rows w.nodes).map NodeRow.currentCount = [0] ∧ w.nodes.map Counted.ledger = [1] ∧
      (rows w.riders).map RiderRow.currentActiveOrderCount = [0] ∧
      w.riders.map Counted.ledger = [1] ∧
      ¬ CountersHold w ∧
      (reserveCapacitySlot w 1).nodes.map Counted.ledger = [2] := by
  refine ⟨?_, ?_, ?_, ?_, ?_, ?_⟩ <;> decide +kernel

end Locoomo.Counters
