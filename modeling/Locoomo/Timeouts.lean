import Locoomo.LegAges

/-! The assignment timeout. `expireUnassigned` picks a leg by its age and takes
it back some steps later, whatever has become of it. A run is watched for how
long its legs have really been waiting. -/

namespace Locoomo.Timeouts

open Locoomo.Delivery Locoomo.Database Locoomo.Routing Locoomo.Logistics
  Locoomo.LegMoves Locoomo.Soundness Locoomo.Turns Locoomo.LegAges Relational
open Locoomo.Interleaved hiding exec
open Locoomo.Handoffs (minute)
open Locoomo.System (demo demoState demoState_initial demoBooking demoPayment demoBooked
  demoSnapshot)

/-! ## Watching a run -/

/-- For every leg, when it last became REQUESTED and when its courier last
released it, if one did; for every cancellation under way, the
`assignTimeoutMinutes` that its query went by. -/
structure Watch where
  work : Work
  since : Nat → Nat
  released : Nat → Option Nat
  minutes : List Nat

def statusOf (s : State) (legId : Nat) : Option DeliveryLegStatus :=
  (getLeg s legId).map DeliveryLegRow.status

/-- `p."assignTimeoutMinutes"` of the leg's provider. -/
def timeoutOf (s : State) (leg : DeliveryLegRow) : Nat :=
  ((get LogisticsProviderRow.key leg.providerKey s.providers).bind
    LogisticsProviderRow.assignTimeoutMinutes).getD 0

/-- The timeouts, kept beside the cancellations under way. -/
def minutesAfter (d : Deployment) (v : Watch) : Action → List Nat
  | .readOverdue => v.minutes ++ (expiringLegs d v.work.db).map (timeoutOf v.work.db)
  | .readFallback legId =>
      match fallbackLeg v.work.db legId with
      | none => v.minutes
      | some _ => v.minutes ++ [0]
  | .cancelAtProvider i accepted =>
      match v.work.endings[i]? with
      | none => v.minutes
      | some ending =>
          if accepted || !asksCourier d ending then v.minutes else v.minutes.eraseIdx i
  | .cancelLocally i =>
      match v.work.endings[i]? with
      | none => v.minutes
      | some ending => if ending.cleared then v.minutes.eraseIdx i else v.minutes
  | _ => v.minutes

def exec (d : Deployment) (v : Watch) (a : Action) : Watch :=
  let work := Interleaved.exec d v.work a
  let before := statusOf v.work.db
  let after := statusOf work.db
  { work
    since := fun legId =>
      if after legId = some .requested ∧ before legId ≠ some .requested then work.db.now
      else v.since legId
    released := fun legId =>
      if after legId = some .requested ∧ before legId = some .assigned then some work.db.now
      else v.released legId
    minutes := minutesAfter d v a }

def start (s : State) : Watch := ⟨idle s, fun _ => 0, fun _ => none, []⟩

/-! ## A courier's job -/

/-- The row that `cancelLeg` is called for with `assign_timeout`, and the
timeout it has passed. -/
def expiring (v : Watch) : Action → Option (DeliveryLegRow × Nat)
  | .cancelLocally i => do
      let ending ← v.work.endings[i]?
      let minutes ← v.minutes[i]?
      if ending.kind = .timeout ∧ ending.cleared = true then
        let row ← getLeg v.work.db ending.leg.id
        return (row, minutes)
      else none
  | _ => none

/-- What the timeout cancels is REQUESTED, and has been for the whole timeout. -/
def TakesNoJob (d : Deployment) (v : Watch) (a : Action) : Prop :=
  ∀ p ∈ expiring v a, p.1.status ≠ .cancelled →
    statusOf (exec d v a).work.db p.1.id = some .cancelled →
    p.1.status = .requested ∧ v.since p.1.id + p.2 * minute ≤ v.work.db.now

/-- No courier has the leg, and none has released it within the timeout. -/
def Untaken (v : Watch) (a : Action) : Prop :=
  ∀ p ∈ expiring v a, p.1.status ≠ .assigned ∧
    (p.1.status = .requested → ∀ at_ ∈ v.released p.1.id, at_ + p.2 * minute ≤ v.work.db.now)

instance (d : Deployment) (v : Watch) (a : Action) : Decidable (TakesNoJob d v a) :=
  inferInstanceAs (Decidable (∀ p ∈ expiring v a, _))

instance (v : Watch) (a : Action) : Decidable (Untaken v a) :=
  inferInstanceAs (Decidable (∀ p ∈ expiring v a, _))

variable {d : Deployment} {v : Watch}

/-! ## What the watch knows -/

/-- A cancellation under way is of a leg that is older than its timeout. -/
structure Overdue (s : State) (ending : Ending) (minutes : Nat) : Prop where
  known : ending.leg.id < s.nextId
  age : ending.kind = .timeout → ∀ row ∈ s.legs, row.id = ending.leg.id →
    row.createdAt + minutes * minute < s.now

/-- A leg waits since its courier released it, or since it was created. -/
structure Watched (v : Watch) : Prop where
  traced : Traced v.work
  since : ∀ l ∈ v.work.db.legs, l.status = .requested →
    v.since l.id = (v.released l.id).getD l.createdAt
  unborn : ∀ legId, v.work.db.nextId ≤ legId → v.released legId = none
  overdue : List.Forall₂ (Overdue v.work.db) v.work.endings v.minutes

theorem statusOf_eq {s : State} (hs : Sound s) {l : DeliveryLegRow} (hl : l ∈ s.legs) :
    statusOf s l.id = some l.status := by
  rw [statusOf, getLeg, hs.legIds.get_eq hl, Option.map_some]

theorem statusOf_unborn {s : State} (hs : Sound s) {legId : Nat} (h : s.nextId ≤ legId) :
    statusOf s legId = none := by
  rw [statusOf, Option.map_eq_none_iff, getLeg, get_eq_none]
  intro l hl hid
  have hlt := hs.legIds_lt l hl
  omega

theorem watched_of_initial {s₀ : State} (h : System.Initial s₀) : Watched (start s₀) where
  traced := traced_of_initial h
  since := by
    intro l hl
    have hl' : l ∈ s₀.legs := hl
    rw [h.legs] at hl'
    cases hl'
  unborn := fun _ _ => rfl
  overdue := List.Forall₂.nil

/-! ## Parallel lists -/

section
variable {α β : Type} {R : α → β → Prop} {l : List α} {m : List β}

theorem forall₂_eraseIdx (h : List.Forall₂ R l m) (i : Nat) :
    List.Forall₂ R (l.eraseIdx i) (m.eraseIdx i) := by
  induction h generalizing i with
  | nil => exact List.Forall₂.nil
  | cons hab hrest ih =>
      cases i with
      | zero => exact hrest
      | succ i => exact List.Forall₂.cons hab (ih i)

theorem forall₂_set (h : List.Forall₂ R l m) {i : Nat} {a a' : α} (ha : l[i]? = some a)
    (hR : ∀ b, R a b → R a' b) : List.Forall₂ R (l.set i a') m := by
  induction h generalizing i with
  | nil => exact List.Forall₂.nil
  | cons hab hrest ih =>
      cases i with
      | zero =>
          obtain rfl := Option.some.inj ha
          exact List.Forall₂.cons (hR _ hab) hrest
      | succ i => exact List.Forall₂.cons hab (ih ha)

theorem forall₂_map {γ : Type} {xs : List γ} {f : γ → α} {g : γ → β}
    (h : ∀ x ∈ xs, R (f x) (g x)) : List.Forall₂ R (xs.map f) (xs.map g) := by
  rw [List.forall₂_map_left_iff, List.forall₂_map_right_iff]
  exact List.forall₂_same.mpr h

theorem forall₂_getElem? (h : List.Forall₂ R l m) {i : Nat} {a : α} {b : β} (ha : l[i]? = some a)
    (hb : m[i]? = some b) : R a b := by
  obtain ⟨hi, rfl⟩ := List.getElem?_eq_some_iff.mp ha
  obtain ⟨hj, rfl⟩ := List.getElem?_eq_some_iff.mp hb
  exact h.get hi hj
end

/-! ## The watch stays right -/

theorem exec_work (a : Action) : (exec d v a).work = Interleaved.exec d v.work a := rfl

/-- A leg that waits on waits since the same time. -/
theorem since_of_still {a : Action} {legId : Nat}
    (h : statusOf v.work.db legId = statusOf (exec d v a).work.db legId) :
    (exec d v a).since legId = v.since legId ∧ (exec d v a).released legId = v.released legId := by
  rw [exec_work] at h
  simp only [exec, ← h]
  constructor
  · exact if_neg fun hboth => hboth.2 hboth.1
  · refine if_neg fun hboth => ?_
    rw [hboth.1] at hboth
    exact absurd hboth.2 (by decide)

theorem Watched.since_exec (hw : Watched v) (a : Action) :
    ∀ l ∈ (exec d v a).work.db.legs, l.status = .requested →
      (exec d v a).since l.id = ((exec d v a).released l.id).getD l.createdAt := by
  intro l' hl' hstatus
  have hs := hw.traced.sound
  have hs' : Sound (exec d v a).work.db := (hw.traced.exec a).sound
  have hafter : statusOf (exec d v a).work.db l'.id = some .requested := by
    rw [statusOf_eq hs' hl', hstatus]
  -- a row that waited already
  have still : ∀ l ∈ v.work.db.legs, l.id = l'.id → l.createdAt = l'.createdAt →
      l.status = .requested →
      (exec d v a).since l'.id = ((exec d v a).released l'.id).getD l'.createdAt := by
    intro l hl hid hcreated hrequested
    have hbefore : statusOf v.work.db l'.id = some .requested := by
      rw [← hid, statusOf_eq hs hl, hrequested]
    obtain ⟨hsince, hreleased⟩ := since_of_still (hbefore.trans hafter.symm)
    rw [hsince, hreleased, ← hid, ← hcreated]
    exact hw.since l hl hrequested
  rcases step_aged (d := d) hs.legIds_lt a with hticked | haged
  · exact still l' (hticked.legs ▸ hl') rfl rfl hstatus
  · rw [exec_work] at hafter
    rcases haged.legs l' hl' with ⟨l, hl, holder⟩ | hnew
    · by_cases hrequested : l.status = .requested
      · exact still l hl holder.id.symm holder.createdAt.symm hrequested
      · -- its courier has just released it
        have hassigned : l.status = .assigned := by
          have hbefore : isBeforePickup l.status = true := by
            refine holder.beforePickup ?_
            rw [hstatus]
            rfl
          revert hrequested hbefore
          cases l.status <;> decide
        have hbefore : statusOf v.work.db l'.id = some .assigned := by
          rw [holder.id, statusOf_eq hs hl, hassigned]
        simp [exec, hafter, hbefore]
    · have hbefore : statusOf v.work.db l'.id = none := statusOf_unborn hs hnew.id
      have hunborn : v.released l'.id = none := hw.unborn l'.id hnew.id
      simp [exec, hafter, hbefore, hunborn, hnew.createdAt, haged.now]

theorem Watched.unborn_exec (hw : Watched v) (a : Action) :
    ∀ legId, (exec d v a).work.db.nextId ≤ legId → (exec d v a).released legId = none := by
  intro legId hle
  have hs' : Sound (exec d v a).work.db := (hw.traced.exec a).sound
  have hafter : statusOf (exec d v a).work.db legId = none := statusOf_unborn hs' hle
  rw [exec_work] at hafter hle
  have hnext : v.work.db.nextId ≤ (Interleaved.exec d v.work a).db.nextId := by
    rcases step_aged (d := d) hw.traced.sound.legIds_lt a with hticked | haged
    · exact hticked.nextId.ge
    · exact haged.nextId
  simp [exec, hafter, hw.unborn legId (hnext.trans hle)]

/-- What the query of `expireUnassigned` makes sure of. -/
theorem overdue_of_expiring {s : State} (hs : Sound s) {leg : DeliveryLegRow}
    (h : leg ∈ expiringLegs d s) (cleared : Bool) :
    Overdue s ⟨.timeout, leg, cleared⟩ (timeoutOf s leg) := by
  obtain ⟨hleg, hoverdue, -⟩ := expiringLegs_mem h
  refine ⟨hs.legIds_lt leg hleg, fun _ row hrow hid => ?_⟩
  obtain rfl := hs.legIds.eq_of_key hrow hleg hid
  simp only [isOverdue, Bool.and_eq_true] at hoverdue
  replace hoverdue := hoverdue.2
  split at hoverdue
  · cases hoverdue
  · next minutes hminutes =>
      rw [timeoutOf, hminutes]
      exact of_decide_eq_true hoverdue

/-- A leg only gets older. -/
theorem Overdue.exec {w : Work} (hs : Sound w.db) {ending : Ending} {minutes : Nat}
    (h : Overdue w.db ending minutes) (a : Action) :
    Overdue (Interleaved.exec d w a).db ending minutes := by
  rcases step_aged (d := d) hs.legIds_lt a with hticked | haged
  · refine ⟨hticked.nextId ▸ h.known, fun hkind row hrow hid => ?_⟩
    rw [hticked.legs] at hrow
    exact (h.age hkind row hrow hid).trans_le hticked.now
  · refine ⟨h.known.trans_le haged.nextId, fun hkind row hrow hid => ?_⟩
    rcases haged.legs row hrow with ⟨l, hl, holder⟩ | hnew
    · rw [holder.createdAt, haged.now]
      exact h.age hkind l hl (holder.id.symm.trans hid)
    · have hborn := hnew.id
      have hknown := h.known
      omega

/-- The lists stay parallel. -/
theorem Watched.overdue_exec (hw : Watched v) (a : Action) :
    List.Forall₂ (Overdue v.work.db) (exec d v a).work.endings (exec d v a).minutes := by
  have hs := hw.traced.sound
  have hsame := hw.overdue
  cases a with
  | readOverdue =>
      refine List.rel_append hsame ?_
      exact forall₂_map fun leg hleg => overdue_of_expiring hs hleg false
  | readFallback legId =>
      simp only [exec, Interleaved.exec, minutesAfter]
      cases hleg : fallbackLeg v.work.db legId with
      | none => exact hsame
      | some leg =>
          have hknown := hs.legIds_lt leg (fallbackLeg_some hleg).1
          refine List.rel_append hsame (List.Forall₂.cons ⟨hknown, fun h => ?_⟩ List.Forall₂.nil)
          cases h
  | cancelAtProvider i accepted =>
      simp only [exec, Interleaved.exec, minutesAfter]
      cases hending : v.work.endings[i]? with
      | none => exact hsame
      | some ending =>
          simp only
          split
          · exact forall₂_set hsame hending fun minutes h => ⟨h.known, h.age⟩
          · exact forall₂_eraseIdx hsame i
  | cancelLocally i =>
      simp only [exec, Interleaved.exec, minutesAfter]
      cases hending : v.work.endings[i]? with
      | none => exact hsame
      | some ending =>
          simp only
          split
          · exact forall₂_eraseIdx hsame i
          · exact hsame
  | atomic a | readSubmit legId | answerSubmit i answer | writeSubmit i =>
      simp only [exec, Interleaved.exec, minutesAfter]
      split
      all_goals exact hsame

/-- **Every step keeps the watch.** -/
theorem Watched.exec (hw : Watched v) (a : Action) : Watched (exec d v a) where
  traced := hw.traced.exec a
  since := hw.since_exec a
  unborn := hw.unborn_exec a
  overdue := (hw.overdue_exec a).imp fun _ _ h => h.exec hw.traced.sound a

/-! ## The cancellation -/

/-- Cancelling a leg never aborts: the listener has nothing to ask of the order. -/
theorem cancel_commits {s : State} (hs : Sound s) {row entity : DeliveryLegRow}
    (hrow : row ∈ s.legs) (horderId : entity.orderId = row.orderId)
    (hforward : entity.legType = .forward)
    (hnext : nextLegStatus entity.status .cancelled = some .cancelled) (routeTo : Option String) :
    ∃ r s', (apply d entity .cancelled routeTo).run s = .ok (r, s') := by
  obtain ⟨o, ho⟩ := hs.getOrder_of_leg hrow
  let moved := movedLeg entity .cancelled .cancelled s.now
  let notice := noticeOf moved .cancelled
  have horder : getOrder (putLeg s moved) notice.orderId = some o := by
    rw [← ho, ← horderId]
    rfl
  have hf : notice.legType = .forward := hforward
  have hsource : Quiet (putLeg s moved) notice ∨ o.status = (orderEdge notice.event).1 := by
    by_cases hassigned : o.status = .riderAssigned
    · exact Or.inr hassigned
    · refine Or.inl (Or.inr ⟨Or.inr rfl, ?_⟩)
      rw [horder]
      simpa using hassigned
  obtain ⟨s₁, hlisten⟩ := onDeliveryEvent_total hf horder hsource rfl
  obtain ⟨o', ho'⟩ : ∃ o', getOrder s₁ entity.orderId = some o' := by
    rcases onDeliveryEvent_ok hf hlisten with ⟨rfl, -⟩ | ⟨_, o', s₂, hmoved, -, -, -, -, rfl, -⟩
    · exact ⟨o, horder⟩
    · exact ⟨o', hmoved.found'⟩
  exact apply_total hnext hlisten fun _ => dispatch_total d entity.legType routeTo ho'

/-- `cancelLeg` is the event on the row, with the reason. -/
theorem endLeg_of_apply {s s' : State} {ending : Ending} {row : DeliveryLegRow}
    {r : Option DeliveryLegRow} (hrow : getLeg s ending.leg.id = some row)
    (h : (apply d { row with failureReason := some ending.kind.reason } .cancelled
      ending.kind.thenRouteTo).run s = .ok (r, s')) :
    (endLeg d ending).run s = .ok ((), s') := by
  have hcancel : (cancelLeg d ending.leg.id ending.kind.reason ending.kind.thenRouteTo).run s
      = .ok (r.isSome, s') := by
    rw [cancelLeg, Tx.run_read_bind, hrow]
    exact Tx.run_bind_of_ok h
  exact Tx.run_bind_of_ok hcancel

/-- **What `cancelLeg` does to the row it locks**: a leg before pickup ends,
any other stays as it is. -/
theorem endLeg_run {s : State} (hs : Sound s) {ending : Ending} {row : DeliveryLegRow}
    (hrow : getLeg s ending.leg.id = some row) :
    isBeforePickup row.status = false ∧ (endLeg d ending).run s = .ok ((), s) ∨
      isBeforePickup row.status = true ∧ ∃ s', (endLeg d ending).run s = .ok ((), s') ∧
        ∃ l ∈ s'.legs, l.id = row.id ∧ l.status = .cancelled := by
  obtain ⟨hmem, hid⟩ := get_some hrow
  let entity := { row with failureReason := some ending.kind.reason }
  cases hnext : nextLegStatus row.status .cancelled with
  | none =>
      left
      constructor
      · revert hnext
        cases row.status <;> decide
      · have hnext' : nextLegStatus entity.status .cancelled = none := hnext
        refine endLeg_of_apply (r := none) hrow ?_
        rw [apply, hnext']
        rfl
  | some next =>
      right
      obtain rfl : next = .cancelled := (nextLegStatus_eq_some.mp hnext).2
      have hbefore : isBeforePickup row.status = true := by
        revert hnext
        cases row.status <;> decide
      have horderId : entity.orderId = row.orderId := rfl
      have hforward : entity.legType = .forward := hs.forward row hmem
      have hnext' : nextLegStatus entity.status .cancelled = some .cancelled := hnext
      obtain ⟨r, s', happly⟩ :=
        cancel_commits (d := d) hs hmem horderId hforward hnext' ending.kind.thenRouteTo
      have hbased : Based s entity := ⟨row, hmem, rfl, rfl, rfl⟩
      obtain ⟨l, hl, hlid, -, hstatus⟩ := (apply_aged hs.legIds_lt hbased happly).2
      refine ⟨hbefore, s', endLeg_of_apply hrow happly, l, hl, ?_⟩
      rcases apply_ok happly with ⟨hnone, -, -⟩ | ⟨next, s₁, happlies, rfl, -, -⟩
      · rw [hnext'] at hnone
        cases hnone
      · obtain rfl : next = .cancelled := (nextLegStatus_eq_some.mp happlies).2
        exact ⟨hlid, hstatus⟩

/-! ## The timeout's cancellations -/

theorem expiring_some {a : Action} {row : DeliveryLegRow} {minutes : Nat}
    (h : expiring v a = some (row, minutes)) :
    ∃ i ending, a = .cancelLocally i ∧ v.work.endings[i]? = some ending ∧
      v.minutes[i]? = some minutes ∧ ending.kind = .timeout ∧ ending.cleared = true ∧
      getLeg v.work.db ending.leg.id = some row := by
  cases a with
  | cancelLocally i =>
      simp only [expiring, Option.bind_eq_bind, Option.bind_eq_some_iff] at h
      obtain ⟨ending, hending, minutes', hminutes, h⟩ := h
      split at h
      · next hkind =>
          obtain ⟨row', hrow, heq⟩ := Option.bind_eq_some_iff.mp h
          cases heq
          exact ⟨i, ending, rfl, hending, hminutes, hkind.1, hkind.2, hrow⟩
      · cases h
  | _ => cases h

/-- Which rows the timeout ends: those before pickup, however they got there. -/
theorem cancelled_iff (hw : Watched v) {a : Action} {row : DeliveryLegRow} {minutes : Nat}
    (h : expiring v a = some (row, minutes)) (hopen : row.status ≠ .cancelled) :
    statusOf (exec d v a).work.db row.id = some .cancelled ↔ isBeforePickup row.status = true := by
  obtain ⟨i, ending, rfl, hending, -, -, hcleared, hrow⟩ := expiring_some h
  have hs' : Sound (exec d v (.cancelLocally i)).work.db := (hw.traced.exec _).sound
  have hdb : (exec d v (.cancelLocally i)).work.db = commit (endLeg d ending) v.work.db := by
    simp only [exec_work, Interleaved.exec, hending, hcleared, if_true]
  rw [hdb] at hs' ⊢
  rcases endLeg_run (d := d) hw.traced.sound hrow with
    ⟨hpast, hrun⟩ | ⟨hbefore, s', hrun, l, hl, hid, hl'⟩
  · have hsame : commit (endLeg d ending) v.work.db = v.work.db := by
      rw [commit, hrun]
    rw [hsame, statusOf_eq hw.traced.sound (get_some hrow).1, hpast]
    simpa using hopen
  · have hcommitted : commit (endLeg d ending) v.work.db = s' := by
      rw [commit, hrun]
    rw [hcommitted] at hs' ⊢
    rw [← hid, statusOf_eq hs' hl, hl', hbefore]
    simp

/-- **One step.** -/
theorem takesNoJob_iff (hw : Watched v) (a : Action) : TakesNoJob d v a ↔ Untaken v a := by
  unfold TakesNoJob Untaken
  constructor
  · intro h p hp
    have hexpiring : expiring v a = some (p.1, p.2) := hp
    refine ⟨fun hassigned => ?_, fun hrequested t ht => ?_⟩
    · have hopen : p.1.status ≠ .cancelled := by simp [hassigned]
      have hcancelled : statusOf (exec d v a).work.db p.1.id = some .cancelled := by
        rw [cancelled_iff hw hexpiring hopen, hassigned]
        rfl
      have hrequested := (h p hp hopen hcancelled).1
      rw [hassigned] at hrequested
      cases hrequested
    · have hopen : p.1.status ≠ .cancelled := by simp [hrequested]
      have hcancelled : statusOf (exec d v a).work.db p.1.id = some .cancelled := by
        rw [cancelled_iff hw hexpiring hopen, hrequested]
        rfl
      have hwaited := (h p hp hopen hcancelled).2
      obtain ⟨_, _, -, -, -, -, -, hrow⟩ := expiring_some hexpiring
      rw [hw.since p.1 (get_some hrow).1 hrequested, show v.released p.1.id = some t from ht]
        at hwaited
      exact hwaited
  · intro h p hp hopen hcancelled
    have hexpiring : expiring v a = some (p.1, p.2) := hp
    obtain ⟨hfree, hreleased⟩ := h p hp
    rw [cancelled_iff hw hexpiring hopen] at hcancelled
    have hrequested : p.1.status = .requested := by
      revert hfree hcancelled
      cases p.1.status <;> decide
    refine ⟨hrequested, ?_⟩
    obtain ⟨i, ending, -, hending, hminutes, hkind, -, hrow⟩ := expiring_some hexpiring
    obtain ⟨hmem, hid⟩ := get_some hrow
    rw [hw.since p.1 hmem hrequested]
    cases hlast : v.released p.1.id with
    | none =>
        have hoverdue := forall₂_getElem? hw.overdue hending hminutes
        exact (hoverdue.age hkind p.1 hmem hid).le
    | some t => exact hreleased hrequested t hlast

/-- **The timeout takes no courier's job** in exactly the runs in which no
courier has a leg, or had it within the timeout, when it is cancelled. -/
theorem timeout_takes_no_job_iff (d : Deployment) {s₀ : State} (h : System.Initial s₀)
    (as : List Action) :
    Runs.Meets (exec d) (TakesNoJob d) (start s₀) as ↔
      Runs.Meets (exec d) Untaken (start s₀) as := by
  have hw := watched_of_initial h
  constructor
  · exact Runs.Meets.of_invariant (fun v a hv _ => hv.exec a)
      (fun v a hv hstep => (takesNoJob_iff hv a).mp hstep) hw
  · exact Runs.Meets.of_invariant (fun v a hv _ => hv.exec a)
      (fun v a hv hstep => (takesNoJob_iff hv a).mpr hstep) hw

/-- A parcel booked with the remote courier, which has five minutes. -/
def demoBookedFor : List Action :=
  demoBooking.map .atomic ++
    [.atomic (.webhook 10 (some demoPayment) ["LOC1"]),
      .atomic (.updateProvider "sendii" ⟨none, none, none, some (some 5), none, none, none⟩)] ++
    demoBooked.map .atomic

/-- The query, the courier's consent and the cancellation. -/
def demoExpiry : List Action := [.readOverdue, .cancelAtProvider 0 true, .cancelLocally 0]

/-- Nobody took the leg for six minutes, and it is cancelled. -/
theorem demo_takes_no_job :
    Runs.Meets (exec demo) (TakesNoJob demo) (start demoState)
      (demoBookedFor ++ [.atomic (.tick 360000)] ++ demoExpiry) := by
  refine (timeout_takes_no_job_iff demo demoState_initial _).mpr ?_
  decide +kernel

/-- A rider has the leg for six minutes and lets go of it, and it is cancelled
that moment. -/
theorem not_takes_no_job :
    ¬ ∀ (d : Deployment) (s₀ : State) (as : List Action), System.Initial s₀ →
      Runs.Meets (exec d) (TakesNoJob d) (start s₀) as := by
  intro h
  have hrun := h demo demoState (demoBookedFor ++
    [.atomic (.syncFromSnapshot "sendii" (demoSnapshot .assigned 1)), .atomic (.tick 360000),
      .atomic (.syncFromSnapshot "sendii" (demoSnapshot .requested 2))] ++ demoExpiry)
    demoState_initial
  revert hrun
  decide +kernel

end Locoomo.Timeouts
