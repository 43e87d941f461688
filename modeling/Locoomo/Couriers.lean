import Locoomo.Lib.External
import Locoomo.TurnSteps

/-! The couriers' side of a leg. A remote courier deduplicates by the leg's id,
its answer may be lost, and it ends a delivery when asked to or by itself. The
local cancellation of a leg trusts that the courier has been told, but nobody
tells a courier whose answer was never written down: the delivery lives on
while the order goes to the next courier. -/

namespace Locoomo.Couriers

open Locoomo.Delivery Locoomo.Database Locoomo.Routing Locoomo.Logistics Locoomo.System
  Locoomo.Soundness Locoomo.Lockstep Locoomo.Frames Locoomo.Interleaved Locoomo.Turns Relational

/-! ## Deliveries -/

/-- A delivery at a courier: the courier and its id for it, the courier and the
`external_ref` (the leg's id). -/
abbrev Delivery := External.Entry (String × String) (String × Nat)

structure World where
  work : Work
  couriers : External.Service (String × String) (String × Nat)

/-- How a remote `createDelivery` ends: a pre-check or the courier refuses, the
courier cannot be reached, or it has the delivery and its answer is heard or
lost. -/
inductive Reply
  | refused (message : String)
  | unavailable
  | accepted (externalId : String) (result : CreateDeliveryResult) (heard : Bool)

inductive Action
  | inside (a : Interleaved.Action)
  | create (i : Nat) (reply : Reply)
  | cancel (i : Nat) (accepted : Bool)
  | finish (name : String × String)
  | report (providerKey : String) (snapshot : ProviderDeliverySnapshot)

/-- The steps that no courier takes part in. -/
def isInside : Interleaved.Action → Bool
  | .atomic (.submit _ _) | .atomic (.syncFromSnapshot _ _) | .answerSubmit _ _
  | .cancelAtProvider _ _ => false
  | _ => true

def isRemote (d : Deployment) (leg : DeliveryLegRow) : Bool :=
  (registryGet d leg.providerKey).any Adapter.remoteSubmission

/-- The id `cancel` is called with; null and the empty string are no id. -/
def knownId (leg : DeliveryLegRow) : Option String := leg.externalId.filter (· ≠ "")

/-- The delivery that a cancellation under way ends at its courier. -/
def cancelledName (d : Deployment) (w : Work) (i : Nat) (accepted : Bool) :
    Option (String × String) :=
  (w.endings[i]?.filter fun ending => accepted && asksCourier d ending).bind fun ending =>
    (knownId ending.leg).map fun externalId => (ending.leg.providerKey, externalId)

/-- A courier reports an end only of a delivery that has ended. -/
def isReportable (w : World) (providerKey : String) (snapshot : ProviderDeliverySnapshot) : Bool :=
  isActive snapshot.status ||
    w.couriers.live.all fun x => decide (x.name ≠ (providerKey, snapshot.externalId))

def answer (d : Deployment) (w : World) (i : Nat) (answer : SubmitAnswer) : World :=
  { w with work := Interleaved.exec d w.work (.answerSubmit i answer) }

def exec (d : Deployment) (w : World) : Action → World
  | .inside a => if isInside a then { w with work := Interleaved.exec d w.work a } else w
  | .create i reply =>
      match w.work.submissions[i]? with
      | some ⟨leg, none⟩ =>
          if isRemote d leg then
            match reply with
            | .refused message => answer d w i (.refused message)
            | .unavailable => answer d w i .failed
            | .accepted externalId result heard =>
                match External.opened w.couriers (leg.providerKey, externalId)
                    (leg.providerKey, leg.id) with
                | none => w
                | some (name, couriers) =>
                    answer d { w with couriers } i
                      (if heard then .booked { result with externalId := some name.2 }
                        else .failed)
          else
            -- the local adapter answers by itself
            answer d w i .failed
      | _ => w
  | .cancel i accepted =>
      { work := Interleaved.exec d w.work (.cancelAtProvider i accepted)
        couriers :=
          match cancelledName d w.work i accepted with
          | some name => External.close w.couriers name
          | none => w.couriers }
  | .finish name => { w with couriers := External.close w.couriers name }
  | .report providerKey snapshot =>
      if isReportable w providerKey snapshot then
        { w with
          work := Interleaved.exec d w.work (.atomic (.syncFromSnapshot providerKey snapshot)) }
      else w

def run (d : Deployment) (w : World) (as : List Action) : World := Runs.run (exec d) w as

/-- Nothing under way, here or at a courier. -/
def start (s : State) : World := ⟨idle s, External.empty⟩

/-! ## The condition -/

/-- The leg a step ends locally. -/
def endedLeg (d : Deployment) (w : World) : Action → Option Nat
  | .inside a => if isInside a then endedIn d w.work a else none
  | .report providerKey snapshot =>
      if isReportable w providerKey snapshot then
        endedBySnapshot w.work.db providerKey snapshot
      else none
  | _ => none

/-- The courier's id that such a step has in hand: a refusal has none. -/
def idInHand (w : World) : Action → Option String
  | .inside (.cancelLocally i) => w.work.endings[i]?.bind fun ending => knownId ending.leg
  | .report _ snapshot => some snapshot.externalId
  | _ => none

/-- The leg a courier takes on in a step. -/
def acceptedLeg (d : Deployment) (w : World) : Action → Option Nat
  | .create i (.accepted _ _ _) =>
      (w.work.submissions[i]?.filter fun sub => sub.answer.isNone && isRemote d sub.leg).map
        fun sub => sub.leg.id
  | _ => none

/-- A step that ends a leg knows every delivery its courier holds for it, and
no courier takes on a leg that has ended. -/
def informed (d : Deployment) (w : World) (a : Action) : Bool :=
  (endedLeg d w a).all (fun legId => w.couriers.live.all fun x =>
    decide (x.ref.2 ≠ legId) || decide (idInHand w a = some x.name.2)) &&
  (acceptedLeg d w a).all fun legId =>
    (getLeg w.work.db legId).any fun leg => isActive leg.status

/-- The deliveries that remote couriers hold for an order. -/
def deliveriesFor (w : World) (orderId : Nat) : List Delivery :=
  w.couriers.live.filter fun x =>
    (getLeg w.work.db x.ref.2).any fun leg => decide (leg.orderId = orderId)

/-- The legs of an order that Locoomo riders have claimed. -/
def claimedFor (s : State) (orderId : Nat) : List DeliveryLegRow :=
  s.legs.filter fun leg =>
    isActiveOf orderId leg && decide (leg.providerKey = inHouseProviderKey)
      && leg.courierUserId.isSome

/-- How many couriers are at work for one parcel. -/
def engaged (w : World) (orderId : Nat) : Nat :=
  (deliveriesFor w orderId).length + (claimedFor w.work.db orderId).length

/-! ## The invariant -/

variable {d : Deployment} {w : World}

/-- Every delivery a courier holds belongs to an active leg of that courier,
and a cancellation its courier has agreed to has ended the delivery it names. -/
structure Tracked (d : Deployment) (w : World) : Prop where
  traced : Traced w.work
  tidy : External.Tidy w.couriers
  carried : ∀ x ∈ w.couriers.live, ∃ l ∈ w.work.db.legs, l.id = x.ref.2 ∧
    l.providerKey = x.ref.1 ∧ isActive l.status = true
  remote : ∀ x ∈ w.couriers.live, x.ref.1 ≠ inHouseProviderKey ∧
    (registryGet d x.ref.1).isSome = true ∧ x.name.1 = x.ref.1
  cleared : ∀ ending ∈ w.work.endings, ending.cleared = true →
    (registryGet d ending.leg.providerKey).isSome = true →
    ∀ externalId, knownId ending.leg = some externalId →
      (ending.leg.providerKey, externalId) ∈ w.couriers.closed

/-- An agreed cancellation was agreed before, or is in this step. -/
theorem cleared_origin {w : Work} {a : Interleaved.Action} {ending : Ending}
    (h : ending ∈ (Interleaved.exec d w a).endings) (hcleared : ending.cleared = true) :
    ending ∈ w.endings ∨ ∃ i accepted old, a = .cancelAtProvider i accepted ∧
      w.endings[i]? = some old ∧ old.leg = ending.leg ∧
      (accepted || !asksCourier d old) = true := by
  cases a with
  | atomic a =>
      simp only [Interleaved.exec] at h
      split at h
      all_goals exact Or.inl h
  | readSubmit legId =>
      simp only [Interleaved.exec] at h
      split at h
      all_goals exact Or.inl h
  | answerSubmit i answer =>
      simp only [Interleaved.exec] at h
      split at h
      all_goals exact Or.inl h
  | writeSubmit i =>
      simp only [Interleaved.exec] at h
      split at h
      all_goals exact Or.inl h
  | readOverdue =>
      rcases List.mem_append.mp h with h | h
      · exact Or.inl h
      · obtain ⟨leg, -, rfl⟩ := List.mem_map.mp h
        cases hcleared
  | readFallback legId =>
      simp only [Interleaved.exec] at h
      split at h
      · exact Or.inl h
      · rcases List.mem_append.mp h with h | h
        · exact Or.inl h
        · obtain rfl := List.mem_singleton.mp h
          cases hcleared
  | cancelAtProvider i accepted =>
      simp only [Interleaved.exec] at h
      split at h
      · exact Or.inl h
      · next old hold =>
          split at h
          · next hagreed =>
              rcases List.mem_or_eq_of_mem_set h with h | rfl
              · exact Or.inl h
              · exact Or.inr ⟨i, accepted, old, rfl, hold, rfl, hagreed⟩
          · exact Or.inl (List.mem_of_mem_eraseIdx h)
  | cancelLocally i =>
      simp only [Interleaved.exec] at h
      split at h
      · exact Or.inl h
      · split at h
        · exact Or.inl (List.mem_of_mem_eraseIdx h)
        · exact Or.inl h

/-- A leg found twice by its id is one leg. -/
theorem Tracked.providerKey_eq (hw : Tracked d w) {x : Delivery} (hx : x ∈ w.couriers.live)
    {leg row : DeliveryLegRow} (hrow : Captured w.work.db leg row) (hid : leg.id = x.ref.2) :
    leg.providerKey = x.ref.1 := by
  obtain ⟨l, hl, hlid, hkey, -⟩ := hw.carried x hx
  obtain rfl : l = row :=
    hw.traced.sound.legIds.eq_of_key hl hrow.row_mem (hlid.trans (hid.symm.trans hrow.id.symm))
  exact hrow.providerKey.symm.trans hkey

/-- A step of ours that ends no leg a courier works for. -/
theorem Tracked.work (hw : Tracked d w) {a : Interleaved.Action}
    (hasks : ∀ i accepted, a ≠ .cancelAtProvider i accepted)
    (hended : ∀ x ∈ w.couriers.live, endedIn d w.work a ≠ some x.ref.2) :
    Tracked d { w with work := Interleaved.exec d w.work a } where
  traced := hw.traced.exec a
  tidy := hw.tidy
  carried := by
    intro x hx
    obtain ⟨l, hl, hid, hkey, hact⟩ := hw.carried x hx
    obtain ⟨l', hl', hkept⟩ := (step_keeping (d := d) hw.traced a).2 l hl
    refine ⟨l', hl', hkept.id.trans hid, hkept.providerKey.trans hkey, hkept.active hact ?_ ?_⟩
    · rw [hkey]
      exact (hw.remote x hx).1
    · rw [hid]
      exact hended x hx
  remote := hw.remote
  cleared := by
    intro ending hending hcleared
    rcases cleared_origin hending hcleared with h | ⟨i, accepted, _, rfl, -⟩
    · exact hw.cleared ending h hcleared
    · exact absurd rfl (hasks i accepted)

theorem Tracked.answer (hw : Tracked d w) (i : Nat) (reply : SubmitAnswer) :
    Tracked d (answer d w i reply) := by
  refine hw.work (fun _ _ h => ?_) fun _ _ h => ?_
  · cases h
  · cases h

/-- The couriers end deliveries. -/
theorem Tracked.close (hw : Tracked d w) (name : String × String) :
    Tracked d { w with couriers := External.close w.couriers name } where
  traced := hw.traced
  tidy := hw.tidy.close name
  carried := fun x hx => hw.carried x (External.mem_live_close.mp hx).1
  remote := fun x hx => hw.remote x (External.mem_live_close.mp hx).1
  cleared := by
    intro ending hending hcleared hadapter externalId hknown
    have hclosed := hw.cleared ending hending hcleared hadapter externalId hknown
    exact External.mem_closed_close.mpr (Or.inr hclosed)

/-- A remote courier takes on a leg that is active. -/
theorem Tracked.open (hw : Tracked d w) {leg row : DeliveryLegRow} {externalId : String}
    {name : String × String} {couriers : External.Service (String × String) (String × Nat)}
    (hrow : Captured w.work.db leg row) (hactive : isActive row.status = true)
    (hremote : isRemote d leg = true)
    (h : External.opened w.couriers (leg.providerKey, externalId) (leg.providerKey, leg.id)
      = some (name, couriers)) : Tracked d { w with couriers } where
  traced := hw.traced
  tidy := hw.tidy.opened h
  carried := by
    intro x hx
    rcases External.live_opened h hx with hx | rfl
    · exact hw.carried x hx
    · exact ⟨row, hrow.row_mem, hrow.id, hrow.providerKey, hactive⟩
  remote := by
    intro x hx
    rcases External.live_opened h hx with hx | rfl
    · exact hw.remote x hx
    · obtain ⟨provider, hprovider, hsubmission⟩ := (Option.any_eq_true _ _).mp hremote
      rw [registryGet_remote hprovider] at hsubmission
      refine ⟨of_decide_eq_true hsubmission, ?_, rfl⟩
      rw [hprovider]
      rfl
  cleared := by
    rw [External.closed_opened h]
    exact hw.cleared

/-! ## Every informed step keeps it -/

theorem informed_ended {a : Action} (h : informed d w a = true) {x : Delivery}
    (hx : x ∈ w.couriers.live) (hended : endedLeg d w a = some x.ref.2) :
    idInHand w a = some x.name.2 := by
  simp only [informed, Bool.and_eq_true] at h
  have hall := h.1
  rw [hended, Option.all_some, List.all_eq_true] at hall
  simpa using hall x hx

theorem informed_accepted {a : Action} (h : informed d w a = true) {legId : Nat}
    (haccepted : acceptedLeg d w a = some legId) :
    ∃ l ∈ w.work.db.legs, l.id = legId ∧ isActive l.status = true := by
  simp only [informed, Bool.and_eq_true] at h
  have hall := h.2
  rw [haccepted, Option.all_some, Option.any_eq_true] at hall
  obtain ⟨l, hl, hact⟩ := hall
  exact ⟨l, (get_some hl).1, (get_some hl).2, hact⟩

/-- Our own steps. -/
theorem Tracked.inside (hw : Tracked d w) {a : Interleaved.Action} (hinside : isInside a = true)
    (h : informed d w (.inside a) = true) :
    Tracked d { w with work := Interleaved.exec d w.work a } := by
  have hknows : ∀ x ∈ w.couriers.live, endedIn d w.work a = some x.ref.2 →
      idInHand w (.inside a) = some x.name.2 := by
    intro x hx hended
    refine informed_ended h hx ?_
    rw [endedLeg, if_pos hinside]
    exact hended
  refine hw.work (fun i accepted heq => ?_) fun x hx hended => ?_
  · subst heq
    cases hinside
  · have hknown := hknows x hx hended
    cases a with
    | atomic a =>
        simp only [endedIn] at hended
        split at hended
        · cases hended
        · cases a <;> first | cases hended | cases hinside
    | cancelLocally i =>
        -- its courier has ended the very delivery the row names
        obtain ⟨ending, hending, hcancelled⟩ := Option.bind_eq_some_iff.mp hended
        obtain ⟨hget, hcleared⟩ := Option.filter_eq_some_iff.mp hending
        have hmem := List.mem_of_getElem? hget
        obtain ⟨row, hrow⟩ := hw.traced.endings ending hmem
        have hkey := hw.providerKey_eq hx hrow (cancelledLeg_some hcancelled).symm
        obtain ⟨-, hadapter, hname⟩ := hw.remote x hx
        rw [idInHand, hget, Option.bind_some] at hknown
        have hclosed := hw.cleared ending hmem hcleared (hkey ▸ hadapter) x.name.2 hknown
        rw [hkey, ← hname] at hclosed
        exact hw.tidy.names x hx hclosed
    | writeSubmit i => cases hknown
    | _ => cases hended

theorem Tracked.create (hw : Tracked d w) {i : Nat} {reply : Reply}
    (h : informed d w (.create i reply) = true) : Tracked d (exec d w (.create i reply)) := by
  simp only [exec]
  split
  · next leg hsub =>
      split
      · next hremote =>
          cases reply with
          | refused message => exact hw.answer i _
          | unavailable => exact hw.answer i _
          | accepted externalId result heard =>
              simp only
              split
              · exact hw
              · next name couriers hopened =>
                  obtain ⟨row, hrow⟩ := hw.traced.submissions _ (List.mem_of_getElem? hsub)
                  have haccepted : acceptedLeg d w (.create i (.accepted externalId result heard))
                      = some leg.id := by
                    rw [acceptedLeg, hsub, Option.filter_some_pos]
                    · rfl
                    · simpa using hremote
                  obtain ⟨l, hl, hlid, hactive⟩ := informed_accepted h haccepted
                  obtain rfl : l = row := hw.traced.sound.legIds.eq_of_key hl hrow.row_mem
                    (hlid.trans hrow.id.symm)
                  exact (hw.open hrow hactive hremote hopened).answer i _
      · exact hw.answer i _
  · exact hw

theorem Tracked.cancel (hw : Tracked d w) (i : Nat) (accepted : Bool) :
    Tracked d (exec d w (.cancel i accepted)) := by
  have hclosed : ∀ name, cancelledName d w.work i accepted = some name ∨
      name ∈ w.couriers.closed → name ∈ (exec d w (.cancel i accepted)).couriers.closed := by
    intro name hname
    simp only [exec]
    cases hcancelled : cancelledName d w.work i accepted with
    | none =>
        rw [hcancelled] at hname
        exact hname.resolve_left (by simp)
    | some name' =>
        rw [hcancelled] at hname
        rcases hname with hname | hname
        · obtain rfl := Option.some.inj hname
          exact External.mem_closed_close.mpr (Or.inl rfl)
        · exact External.mem_closed_close.mpr (Or.inr hname)
  have hcouriers : Tracked d { w with couriers := (exec d w (.cancel i accepted)).couriers } := by
    simp only [exec]
    split
    · exact hw.close _
    · exact hw
  have hdb : (exec d w (.cancel i accepted)).work.db = w.work.db := by
    simp only [exec, Interleaved.exec]
    split
    · rfl
    · split
      · rfl
      · rfl
  exact
    { traced := hw.traced.exec (.cancelAtProvider i accepted)
      tidy := hcouriers.tidy
      carried := by
        rw [hdb]
        exact hcouriers.carried
      remote := hcouriers.remote
      cleared := by
        intro ending hending hcleared hadapter externalId hknown
        rcases cleared_origin hending hcleared with hold |
          ⟨j, agreed, old, heq, hget, hleg, hagreed⟩
        · exact hclosed _ (Or.inr (hw.cleared ending hold hcleared hadapter externalId hknown))
        · cases heq
          rw [← hleg] at hadapter hknown ⊢
          have hasks : asksCourier d old = true := by
            unfold asksCourier
            cases old.kind with
            | timeout => rfl
            | fallback =>
                have hhas : hasExternalId old.leg = true := by
                  obtain ⟨hext, hne⟩ := Option.filter_eq_some_iff.mp hknown
                  rw [hasExternalId, hext]
                  exact hne
                simp only [hadapter, hhas, Bool.and_self]
          rw [hasks, Bool.not_true, Bool.or_false] at hagreed
          refine hclosed _ (Or.inl ?_)
          rw [cancelledName, hget, Option.filter_some_pos]
          · rw [Option.bind_some, hknown]
            rfl
          · rw [hagreed, hasks]
            rfl }

theorem Tracked.report (hw : Tracked d w) {providerKey : String}
    {snapshot : ProviderDeliverySnapshot} (hreportable : isReportable w providerKey snapshot = true)
    (h : informed d w (.report providerKey snapshot) = true) :
    Tracked d { w with
      work := Interleaved.exec d w.work (.atomic (.syncFromSnapshot providerKey snapshot)) } := by
  refine hw.work (fun i accepted heq => ?_) fun x hx hended => ?_
  · cases heq
  · have hsnapshot : endedBySnapshot w.work.db providerKey snapshot = some x.ref.2 := hended
    have hknown : idInHand w (.report providerKey snapshot) = some x.name.2 := by
      refine informed_ended h hx ?_
      rw [endedLeg, if_pos hreportable]
      exact hsnapshot
    -- the courier reports the end of a delivery it still holds
    obtain ⟨hover, leg, hleg, hid, hkey, -⟩ := endedBySnapshot_some hsnapshot
    have hcourier := hw.providerKey_eq hx (Captured.of_mem hw.traced.sound hleg) hid
    rw [isReportable, hover, Bool.false_or, List.all_eq_true] at hreportable
    refine of_decide_eq_true (hreportable x hx) ?_
    rw [Prod.ext_iff]
    refine ⟨?_, (Option.some.inj hknown).symm⟩
    rw [(hw.remote x hx).2.2, ← hcourier, hkey]

/-- **Every informed step keeps the couriers' deliveries with active legs.** -/
theorem Tracked.exec (hw : Tracked d w) {a : Action} (h : informed d w a = true) :
    Tracked d (exec d w a) := by
  cases a with
  | inside a =>
      cases hinside : isInside a with
      | false =>
          simp only [Couriers.exec, hinside, Bool.false_eq_true, if_false]
          exact hw
      | true =>
          simp only [Couriers.exec, hinside, if_true]
          exact hw.inside hinside h
  | create i reply => exact hw.create h
  | cancel i accepted => exact hw.cancel i accepted
  | finish name => exact hw.close name
  | report providerKey snapshot =>
      cases hreportable : isReportable w providerKey snapshot with
      | false =>
          simp only [Couriers.exec, hreportable, Bool.false_eq_true, if_false]
          exact hw
      | true =>
          simp only [Couriers.exec, hreportable, if_true]
          exact hw.report hreportable h

theorem tracked_of_initial {s : State} (h : Initial s) : Tracked d (start s) where
  traced := traced_of_initial h
  tidy := External.tidy_empty
  carried := by simp [start, External.empty]
  remote := by simp [start, External.empty]
  cleared := by simp [start, idle]

theorem Tracked.cancelled_is_over (hw : Tracked d w) {l : DeliveryLegRow}
    (hl : l ∈ w.work.db.legs) (hcancelled : l.status = .cancelled) :
    ∀ x ∈ w.couriers.live, x.ref.2 ≠ l.id := by
  intro x hx hid
  obtain ⟨k, hk, hkid, -, hact⟩ := hw.carried x hx
  obtain rfl : k = l := hw.traced.sound.legIds.eq_of_key hk hl (hkid.trans hid)
  rw [hcancelled] at hact
  cases hact

/-- The leg behind a delivery for an order. -/
theorem Tracked.leg_of_delivery (hw : Tracked d w) {orderId : Nat} {x : Delivery}
    (h : x ∈ deliveriesFor w orderId) : ∃ l ∈ w.work.db.legs, l.id = x.ref.2 ∧
      l.providerKey = x.ref.1 ∧ l.orderId = orderId ∧ isActive l.status = true := by
  obtain ⟨hx, hof⟩ := List.mem_filter.mp h
  obtain ⟨l, hl, hid, hkey, hact⟩ := hw.carried x hx
  have hget : getLeg w.work.db x.ref.2 = some l := hid ▸ hw.traced.sound.legIds.get_eq hl
  rw [hget, Option.any_some] at hof
  exact ⟨l, hl, hid, hkey, of_decide_eq_true hof, hact⟩

theorem Tracked.one_delivery (hw : Tracked d w) (orderId : Nat) :
    (deliveriesFor w orderId).length ≤ 1 := by
  refine filter_length_le_one hw.tidy.refs.nodup fun x hx y hy hpx hpy => ?_
  obtain ⟨l, hl, hlid, hlkey, hlo, hlact⟩ := hw.leg_of_delivery (List.mem_filter.mpr ⟨hx, hpx⟩)
  obtain ⟨k, hk, hkid, hkkey, hko, hkact⟩ := hw.leg_of_delivery (List.mem_filter.mpr ⟨hy, hpy⟩)
  obtain rfl := hw.traced.sound.oneActive l hl k hk (hlo.trans hko.symm) hlact hkact
  refine hw.tidy.refs.eq_of_key hx hy ?_
  rw [Prod.ext_iff]
  exact ⟨hlkey.symm.trans hkkey, hlid.symm.trans hkid⟩

theorem mem_claimedFor {s : State} {orderId : Nat} {l : DeliveryLegRow}
    (h : l ∈ claimedFor s orderId) : l ∈ s.legs ∧ l.orderId = orderId ∧
      isActive l.status = true ∧ l.providerKey = inHouseProviderKey := by
  obtain ⟨hl, hp⟩ := List.mem_filter.mp h
  simp only [Bool.and_eq_true, decide_eq_true_eq] at hp
  obtain ⟨hlo, hact⟩ := isActiveOf_iff.mp hp.1.1
  exact ⟨hl, hlo, hact, hp.1.2⟩

theorem Tracked.one_engaged (hw : Tracked d w) (orderId : Nat) : engaged w orderId ≤ 1 := by
  have hdeliveries := hw.one_delivery orderId
  have hclaimed : (claimedFor w.work.db orderId).length ≤ 1 := by
    refine filter_length_le_one hw.traced.sound.legIds.nodup fun a ha b hb hpa hpb => ?_
    obtain ⟨-, hao, haact, -⟩ := mem_claimedFor (List.mem_filter.mpr ⟨ha, hpa⟩)
    obtain ⟨-, hbo, hbact, -⟩ := mem_claimedFor (List.mem_filter.mpr ⟨hb, hpb⟩)
    exact hw.traced.sound.oneActive a ha b hb (hao.trans hbo.symm) haact hbact
  rw [engaged]
  cases hlist : deliveriesFor w orderId with
  | nil =>
      rw [List.length_nil]
      omega
  | cons x rest =>
      -- a remote courier has the active leg, so no rider can have claimed one
      have hx : x ∈ deliveriesFor w orderId := by
        rw [hlist]
        exact List.mem_cons_self
      obtain ⟨l, hl, -, hkey, hlo, hact⟩ := hw.leg_of_delivery hx
      have hremote := (hw.remote x (List.mem_filter.mp hx).1).1
      have hnone : claimedFor w.work.db orderId = [] := by
        refine List.eq_nil_iff_forall_not_mem.mpr fun k hk => ?_
        obtain ⟨hkmem, hko, hkact, hkkey⟩ := mem_claimedFor hk
        obtain rfl := hw.traced.sound.oneActive l hl k hkmem (hlo.trans hko.symm) hact hkact
        exact hremote (hkey.symm.trans hkkey)
      rw [hnone, ← hlist, List.length_nil]
      omega

/-- **One courier at a time.** As long as every step that ends a leg knows the
delivery it ends, no courier works for a cancelled leg, and no order has two
couriers, in every state of the run. -/
theorem one_courier_per_order (d : Deployment) {s₀ : State} (h : Initial s₀) (as : List Action)
    (hmeets : Runs.Meets (exec d) (fun w a => informed d w a = true) (start s₀) as) :
    Runs.Always (exec d)
      (fun w => (∀ l ∈ w.work.db.legs, l.status = .cancelled →
          ∀ x ∈ w.couriers.live, x.ref.2 ≠ l.id) ∧
        ∀ orderId, engaged w orderId ≤ 1) (start s₀) as := by
  have hall : Runs.Always (exec d) (Tracked d) (start s₀) as :=
    Runs.always_of_meets (fun w a hw ha => hw.exec ha) (tracked_of_initial h) hmeets
  refine hall.mono fun w hw => ⟨fun l hl hcancelled => ?_, hw.one_engaged⟩
  exact hw.cancelled_is_over hl hcancelled

/-- A parcel waits for its remote courier, who has five minutes. -/
def demoWaiting : List System.Action :=
  demoBooking ++ [.webhook 10 (some demoPayment) ["LOC1"], .confirm .dropOff 11 (demoArgs ""),
    .updateProvider "sendii" ⟨none, none, none, some (some 5), none, none, none⟩]

/-- The courier takes the delivery on, and its answer arrives or does not. -/
def demoSubmitted (heard : Bool) : List Action :=
  demoWaiting.map (fun a => .inside (.atomic a)) ++ [.inside (.readSubmit 12),
    .create 0 (.accepted "del" ⟨none, none, none, none, none⟩ heard), .inside (.writeSubmit 0)]

/-- Ten minutes later the reconciler takes the leg back, and a rider accepts. -/
def demoExpired : List Action :=
  [.inside (.atomic (.tick 600000)), .inside .readOverdue, .cancel 0 true,
    .inside (.cancelLocally 0), .inside (.atomic (.accept 11 3))]

/-- With the answer lost, the cancelled leg's courier is still on the way while
a Locoomo rider has the order. -/
theorem lost_answer_leaves_courier :
    let w := run demo (start demoState) (demoSubmitted false ++ demoExpired)
    w.work.db.legs.map (fun l => (l.id, l.orderId, l.status))
        = [(12, 11, .cancelled), (13, 11, .assigned)] ∧
      w.couriers.live = [⟨("sendii", "del"), ("sendii", 12)⟩] ∧ engaged w 11 = 2 ∧
      ¬ ∀ l ∈ w.work.db.legs, l.status = .cancelled → ∀ x ∈ w.couriers.live, x.ref.2 ≠ l.id := by
  intro w
  exact ⟨by decide +kernel, by decide +kernel, by decide +kernel, by decide +kernel⟩

/-- With the answer heard, the courier is told and nobody is left behind. -/
theorem demo_one_courier_per_order :
    Runs.Always (exec demo)
      (fun w => (∀ l ∈ w.work.db.legs, l.status = .cancelled →
          ∀ x ∈ w.couriers.live, x.ref.2 ≠ l.id) ∧
        ∀ orderId, engaged w orderId ≤ 1) (start demoState)
      (demoSubmitted true ++ demoExpired) := by
  refine one_courier_per_order demo demoState_initial _ ?_
  decide +kernel

end Locoomo.Couriers
