import Locoomo.AccessRuns
import Locoomo.Checkout
import Locoomo.Settings

/-! What is charged. Whatever changes while a checkout is under way, the intent it
stores carries the price of what it read; and a price that was shown is the price
that is charged until somebody changes what it is made of. -/

namespace Locoomo.CheckoutRuns

open Edits (Coordinates)
open Vehicles (VehicleClassRule ParcelToCarry vehicleFor)
open Locoomo.Delivery Locoomo.Pricing Locoomo.Database Locoomo.Payments Locoomo.Checkout
  Locoomo.Frames Relational

variable {d : Routing.Deployment} {straightLineKm : Coordinates → Coordinates → ℚ≥0}
  {p : Access.Platform} {s₀ s s' : Shop} {as : List Action} {call : Call} {parcel : Parcel}
  {restrictToPublicNodes : Bool}

/-! ## What a call has read -/

/-- A booking is the caller's own, or one for a Node the caller works at. -/
def Permits (s : Shop) (request : Request) (call : Call) : Prop :=
  match request with
  | .quote parcel => call.parcel = parcel ∧ call.books = false
  | .create parcel => call.parcel = parcel ∧ call.restrictToPublicNodes = true
  | .dispatch parcel => call.parcel = parcel ∧
      ∃ m ∈ s.access.memberships,
        Access.isActiveMember call.payerId parcel.originNodeId m = true

section Asked

variable (d : Routing.Deployment) (straightLineKm : Coordinates → Coordinates → ℚ≥0)
  (p : Access.Platform) (s₀ : Shop) (as : List Action)

/-- The call was asked for with a session that its route lets in. -/
def Asked (call : Call) : Prop :=
  Runs.Earlier (exec d straightLineKm p) s₀ as fun s a => ∃ token request,
    a = .ask (some token) request ∧ token ∈ s.access.issued ∧ token.sub = call.payerId ∧
      token.role ∈ request.roles ∧ Permits s request call

/-- So it stood somewhere in the run. -/
def Seen (P : Shop → Prop) : Prop :=
  Runs.Earlier (exec d straightLineKm p) s₀ as fun s _ => P s

end Asked

section Reads

variable (d : Routing.Deployment) (straightLineKm : Coordinates → Coordinates → ℚ≥0)
  (seen : (Shop → Prop) → Prop) (parcel : Parcel) (restrictToPublicNodes : Bool)

/-- Both Nodes were open when they were read, and public where that is asked for. -/
structure Stations (originNode destinationNode : QuotedNode) : Prop where
  origin : seen fun s => findOne s parcel.originNodeId = some originNode
  originOpen : originNode.row.status = .active
  destination : seen fun s => findOne s parcel.destinationNodeId = some destinationNode
  destinationOpen : destinationNode.row.status = .active
  visible : restrictToPublicNodes = true →
    originNode.row.isPubliclyVisible = true ∧ destinationNode.row.isPubliclyVisible = true

structure Selected (originNode destinationNode : QuotedNode) (vehicleClass : VehicleClass) : Prop
    extends Stations seen parcel restrictToPublicNodes originNode destinationNode where
  vehicle : seen fun s => vehicleFor s.vehicleRules parcel.details = some vehicleClass

structure Served (originNode destinationNode : QuotedNode) (vehicleClass : VehicleClass) : Prop
    extends Selected seen parcel restrictToPublicNodes originNode destinationNode vehicleClass where
  served : seen fun s => serves d s.db parcel.originNodeId
    (straightLineKm originNode.pin destinationNode.pin) vehicleClass = true

structure Ruled (originNode destinationNode : QuotedNode) (vehicleClass : VehicleClass)
    (rule : PricingRule) : Prop
    extends Served d straightLineKm seen parcel restrictToPublicNodes originNode destinationNode
      vehicleClass where
  rule : seen fun s =>
    currentRule PricingRule.effectiveFrom s.db.pricingRules s.db.now = some rule

/-- The fee is that of the vehicle, the rule and the route which were read. -/
def Quoted (feeBreakdown : FeeBreakdown) : Prop :=
  ∃ originNode destinationNode vehicleClass rule routeKm,
    Ruled d straightLineKm seen parcel restrictToPublicNodes originNode destinationNode vehicleClass
      rule ∧
    (seen fun s => roadDistanceKm s.routes parcel = routeKm) ∧
    feeBreakdown = calculateFee rule routeKm
      (straightLineKm originNode.pin destinationNode.pin) vehicleClass

/-- What a call in a stage stands on. -/
def Backed : Stage → Prop
  | .findingOrigin | .failed _ => True
  | .findingDestination originNode =>
      (seen fun s => findOne s parcel.originNodeId = some originNode) ∧
        originNode.row.status = .active
  | .selectingVehicle originNode destinationNode =>
      Stations seen parcel restrictToPublicNodes originNode destinationNode
  | .askingCouriers originNode destinationNode vehicleClass =>
      Selected seen parcel restrictToPublicNodes originNode destinationNode vehicleClass
  | .findingRule originNode destinationNode vehicleClass =>
      Served d straightLineKm seen parcel restrictToPublicNodes originNode destinationNode
        vehicleClass
  | .measuring originNode destinationNode vehicleClass rule =>
      Ruled d straightLineKm seen parcel restrictToPublicNodes originNode destinationNode
        vehicleClass rule
  | .quoted feeBreakdown => Quoted d straightLineKm seen parcel restrictToPublicNodes feeBreakdown
  | .booked intent =>
      Quoted d straightLineKm seen parcel restrictToPublicNodes intent.feeBreakdown

end Reads

section Mono

variable {seen seen' : (Shop → Prop) → Prop} {originNode destinationNode : QuotedNode}
  {vehicleClass : VehicleClass} {rule : PricingRule} {feeBreakdown : FeeBreakdown} {stage : Stage}

theorem Stations.mono (hmore : ∀ P, seen P → seen' P)
    (h : Stations seen parcel restrictToPublicNodes originNode destinationNode) :
    Stations seen' parcel restrictToPublicNodes originNode destinationNode :=
  { h with origin := hmore _ h.origin, destination := hmore _ h.destination }

theorem Selected.mono (hmore : ∀ P, seen P → seen' P)
    (h : Selected seen parcel restrictToPublicNodes originNode destinationNode vehicleClass) :
    Selected seen' parcel restrictToPublicNodes originNode destinationNode vehicleClass :=
  ⟨h.toStations.mono hmore, hmore _ h.vehicle⟩

theorem Served.mono (hmore : ∀ P, seen P → seen' P)
    (h : Served d straightLineKm seen parcel restrictToPublicNodes originNode destinationNode
      vehicleClass) :
    Served d straightLineKm seen' parcel restrictToPublicNodes originNode destinationNode
      vehicleClass :=
  ⟨h.toSelected.mono hmore, hmore _ h.served⟩

theorem Ruled.mono (hmore : ∀ P, seen P → seen' P)
    (h : Ruled d straightLineKm seen parcel restrictToPublicNodes originNode destinationNode
      vehicleClass rule) :
    Ruled d straightLineKm seen' parcel restrictToPublicNodes originNode destinationNode
      vehicleClass rule :=
  ⟨h.toServed.mono hmore, hmore _ h.rule⟩

theorem Quoted.mono (hmore : ∀ P, seen P → seen' P)
    (h : Quoted d straightLineKm seen parcel restrictToPublicNodes feeBreakdown) :
    Quoted d straightLineKm seen' parcel restrictToPublicNodes feeBreakdown := by
  obtain ⟨originNode, destinationNode, vehicleClass, rule, routeKm, hruled, hroute, heq⟩ := h
  exact ⟨originNode, destinationNode, vehicleClass, rule, routeKm, hruled.mono hmore,
    hmore _ hroute, heq⟩

theorem Backed.mono (hmore : ∀ P, seen P → seen' P)
    (h : Backed d straightLineKm seen parcel restrictToPublicNodes stage) :
    Backed d straightLineKm seen' parcel restrictToPublicNodes stage := by
  cases stage with
  | findingOrigin => trivial
  | findingDestination originNode => exact h.imp_left (hmore _)
  | selectingVehicle originNode destinationNode => exact Stations.mono hmore h
  | askingCouriers originNode destinationNode vehicleClass => exact Selected.mono hmore h
  | findingRule originNode destinationNode vehicleClass => exact Served.mono hmore h
  | measuring originNode destinationNode vehicleClass rule => exact Ruled.mono hmore h
  | quoted feeBreakdown => exact Quoted.mono hmore h
  | booked intent => exact Quoted.mono hmore h
  | failed e => trivial

theorem Quoted.sound
    (h : Quoted d straightLineKm seen parcel restrictToPublicNodes feeBreakdown) :
    feeBreakdown.Sound := by
  obtain ⟨originNode, destinationNode, vehicleClass, rule, routeKm, -, -, rfl⟩ := h
  exact calculateFee_sound rule routeKm _ vehicleClass

end Mono

/-- Only an open Node is found. -/
theorem findOne_active {nodeId : Nat} {node : QuotedNode} (h : findOne s nodeId = some node) :
    node.row.status = .active := by
  obtain ⟨row, hfound, rfl⟩ := Option.map_eq_some_iff.mp h
  exact of_decide_eq_true (Option.filter_eq_some_iff.mp hfound).2

/-- **A read** leaves a call standing on what it has read: on what was seen before,
and on what is there now. -/
theorem backed_next {seen seen' : (Shop → Prop) → Prop} (hmore : ∀ P, seen P → seen' P)
    (hnow : ∀ P, P s → seen' P)
    (h : Backed d straightLineKm seen call.parcel call.restrictToPublicNodes call.stage) :
    Backed d straightLineKm seen' call.parcel call.restrictToPublicNodes
      (next d straightLineKm s call) := by
  unfold next
  cases hstage : call.stage with
  | findingOrigin =>
      dsimp only
      split
      · trivial
      · next originNode hfound => exact ⟨hnow _ hfound, findOne_active hfound⟩
  | findingDestination originNode =>
      rw [hstage] at h
      dsimp only
      split
      · trivial
      · next destinationNode hfound =>
          split
          · trivial
          · next horigin =>
              split
              · trivial
              · next hdestination =>
                  refine ⟨hmore _ h.1, h.2, hnow _ hfound, findOne_active hfound,
                    fun hrestrict => ?_⟩
                  rw [hrestrict] at horigin hdestination
                  simp only [Bool.true_and, Bool.not_eq_true, Bool.not_eq_false'] at horigin
                  simp only [Bool.true_and, Bool.not_eq_true, Bool.not_eq_false'] at hdestination
                  exact ⟨horigin, hdestination⟩
  | selectingVehicle originNode destinationNode =>
      rw [hstage] at h
      dsimp only
      split
      · trivial
      · next vehicleClass hfound => exact ⟨Stations.mono hmore h, hnow _ hfound⟩
  | askingCouriers originNode destinationNode vehicleClass =>
      rw [hstage] at h
      dsimp only
      split
      · next hserves => exact ⟨Selected.mono hmore h, hnow _ hserves⟩
      · trivial
  | findingRule originNode destinationNode vehicleClass =>
      rw [hstage] at h
      dsimp only
      split
      · trivial
      · next rule hrule => exact ⟨Served.mono hmore h, hnow _ hrule⟩
  | measuring originNode destinationNode vehicleClass rule =>
      rw [hstage] at h
      have hroute := hnow (fun s' => roadDistanceKm s'.routes call.parcel =
        roadDistanceKm s.routes call.parcel) rfl
      exact ⟨originNode, destinationNode, vehicleClass, rule, _, Ruled.mono hmore h, hroute, rfl⟩
  | quoted feeBreakdown =>
      rw [hstage] at h
      exact Quoted.mono hmore h
  | booked intent =>
      rw [hstage] at h
      exact Quoted.mono hmore h
  | failed e => trivial

/-! ## Bookings -/

/-- The intent is the caller's, for the parcel's route, at the fee. -/
structure Charged (s s' : State) (payerId : Nat) (parcel : Parcel) (feeBreakdown : FeeBreakdown)
    (intent : PaymentIntentRow) : Prop extends Booked s s' intent where
  payer : intent.consumerId = payerId
  origin : intent.originNodeId = parcel.originNodeId
  destination : intent.destinationNodeId = parcel.destinationNodeId
  vehicle : intent.vehicleClass = some feeBreakdown.vehicleClass
  breakdown : intent.feeBreakdown = feeBreakdown

theorem saveBooking_ok {payerId : Nat} {feeBreakdown : FeeBreakdown} {s s' : State}
    {intent : PaymentIntentRow} (hsound : feeBreakdown.Sound)
    (h : (saveBooking payerId parcel feeBreakdown).run s = .ok (intent, s')) :
    Charged s s' payerId parcel feeBreakdown intent := by
  obtain ⟨reserved, s₁, hreserve, h⟩ := Tx.run_bind_eq_ok.mp h
  obtain ⟨_, s₂, hensure, h⟩ := Tx.run_bind_eq_ok.mp h
  obtain ⟨hr, rfl⟩ := Tx.run_ensure_eq_ok.mp hensure
  obtain ⟨n, hn, hid, hroom⟩ := reserveCapacitySlot_ok hreserve
  rcases hroom with ⟨hr', -, -⟩ | ⟨-, hlt, rfl⟩
  · rw [hr'] at hr
    cases hr
  · cases h
    exact
      { id := rfl, status := rfl, fee := hsound, amount := rfl, reference := rfl
        room := ⟨n, hn, hid, hlt⟩, eq := rfl, payer := rfl, origin := rfl, destination := rfl
        vehicle := rfl, breakdown := rfl }

/-- `createIntent` is the booking of what the rule in force comes to. -/
theorem createIntent_run (payerId : Nat) (parcel : Parcel) (vehicleClass : VehicleClass)
    (routeKm : Option ℚ≥0) (km : ℚ≥0) {s : State} {rule : PricingRule}
    (hrule : currentRule PricingRule.effectiveFrom s.pricingRules s.now = some rule) :
    (createIntent payerId
      ⟨parcel.originNodeId, parcel.destinationNodeId, vehicleClass, routeKm, km⟩).run s =
      (saveBooking payerId parcel (calculateFee rule routeKm km vehicleClass)).run s := by
  rw [createIntent, Tx.run_read_bind, hrule, Tx.expect_some, Tx.run_pure_bind]
  rfl

/-! ## Runs -/

/-- What an action makes of the call at an index. -/
inductive Progress (d : Routing.Deployment) (straightLineKm : Coordinates → Coordinates → ℚ≥0)
    (s : Shop) (a : Action) : Option Call → Call → Prop
  | idle (call : Call) : Progress d straightLineKm s a (some call) call
  | begun {call : Call} {token : Option Access.AccessToken} {request : Request}
      (hask : a = .ask token request) (hstart : start s token request = .ok call) :
      Progress d straightLineKm s a none call
  | read (call : Call) :
      Progress d straightLineKm s a (some call)
        { call with stage := next d straightLineKm s call }
  | refused (call : Call) (e : CheckoutError) :
      Progress d straightLineKm s a (some call) { call with stage := .failed e }
  | stored (call : Call) {intent : PaymentIntentRow} {feeBreakdown : FeeBreakdown} {db : State}
      (hstage : call.stage = .quoted feeBreakdown)
      (hsave : (saveBooking call.payerId call.parcel feeBreakdown).run s.db = .ok (intent, db)) :
      Progress d straightLineKm s a (some call) { call with stage := .booked intent }

/-- The call at an index, once another one has been set. -/
theorem progress_set {a : Action} {i j : Nat} {call₀ set : Call} (hcall₀ : s.calls[j]? = some call₀)
    (hset : Progress d straightLineKm s a (some call₀) set)
    (h : (s.calls.set j set)[i]? = some call) :
    Progress d straightLineKm s a s.calls[i]? call := by
  rw [List.getElem?_set] at h
  split at h
  · next heq =>
      split at h
      · cases h
        rw [← heq, hcall₀]
        exact hset
      · cases h
  · rw [h]
    exact .idle call

theorem progress_exec {a : Action} {i : Nat}
    (h : (exec d straightLineKm p s a).calls[i]? = some call) :
    Progress d straightLineKm s a s.calls[i]? call := by
  have hidle : ∀ calls, s.calls = calls → calls[i]? = some call →
      Progress d straightLineKm s a s.calls[i]? call := by
    rintro _ rfl h
    rw [h]
    exact .idle call
  cases a with
  | ask token request =>
      simp only [exec] at h
      split at h
      · next begun hstart =>
          rw [List.getElem?_append] at h
          split at h
          · exact hidle _ rfl h
          · next hle =>
              rw [List.getElem?_singleton] at h
              split at h
              · cases h
                rw [List.getElem?_eq_none (Nat.le_of_not_lt hle)]
                exact .begun rfl hstart
              · cases h
      · exact hidle _ rfl h
  | advance j =>
      simp only [exec] at h
      split at h
      · exact hidle _ rfl h
      · next call₀ hcall₀ => exact progress_set hcall₀ (.read call₀) h
  | book j =>
      simp only [exec] at h
      split at h
      · exact hidle _ rfl h
      · next call₀ hcall₀ =>
          split at h
          · next feeBreakdown _ hstage =>
              unfold commitBooking at h
              split at h
              · exact progress_set hcall₀ (.refused call₀ _) h
              · next hsave => exact progress_set hcall₀ (.stored call₀ hstage hsave) h
          · exact hidle _ rfl h
  | access a =>
      simp only [exec] at h
      split at h <;> exact hidle _ rfl h
  | system a =>
      simp only [exec] at h
      split at h <;> exact hidle _ rfl h
  | tick _ | move _ _ | saveVehicles _ | recordRoute _ | dropRoutes _ => exact hidle _ rfl h

/-- A call that has passed the guards was asked for by whom they let in. -/
theorem start_ok {token : Option Access.AccessToken} {request : Request}
    (h : start s token request = .ok call) :
    (∃ t, token = some t ∧ t ∈ s.access.issued ∧ t.sub = call.payerId ∧ t.role ∈ request.roles) ∧
      Permits s request call ∧ call.stage = .findingOrigin := by
  obtain ⟨caller, hguard, h⟩ := AccessRuns.bind_eq_ok.mp h
  obtain ⟨t, htoken, hissued, hrole, rfl⟩ := AccessRuns.guard_ok hguard
  have hsession : ∃ t', token = some t' ∧ t' ∈ s.access.issued ∧ t'.sub = t.sub ∧
      t'.role ∈ request.roles := by
    refine ⟨t, htoken, hissued, rfl, hrole.resolve_left ?_⟩
    cases request <;> simp [Request.roles]
  cases request with
  | quote parcel =>
      cases h
      exact ⟨hsession, ⟨rfl, rfl⟩, rfl⟩
  | create parcel =>
      cases h
      exact ⟨hsession, ⟨rfl, rfl⟩, rfl⟩
  | dispatch parcel =>
      obtain ⟨⟨m, node⟩, hfound, h⟩ := AccessRuns.bind_eq_ok.mp h
      obtain ⟨hm, hmember, -⟩ := AccessRuns.getForNode_ok hfound
      dsimp only at h
      split at h
      · cases h
        exact ⟨hsession, ⟨rfl, m, hm, hmember⟩, rfl⟩
      · cases h

/-- A call that was asked for in the run stands on what it has read in it. -/
structure Accounted (d : Routing.Deployment) (straightLineKm : Coordinates → Coordinates → ℚ≥0)
    (p : Access.Platform) (s₀ : Shop) (as : List Action) (call : Call) : Prop where
  asked : Asked d straightLineKm p s₀ as call
  backed : Backed d straightLineKm (Seen d straightLineKm p s₀ as) call.parcel
    call.restrictToPublicNodes call.stage

/-- **One step** keeps the calls accounted for. -/
theorem accounted_progress {a : Action} {before : Option Call}
    (h : ∀ call₀, before = some call₀ → Accounted d straightLineKm p s₀ as call₀)
    (hprogress : Progress d straightLineKm (run d straightLineKm p s₀ as) a before call) :
    Accounted d straightLineKm p s₀ (as ++ [a]) call := by
  have hmore : ∀ P, Seen d straightLineKm p s₀ as P → Seen d straightLineKm p s₀ (as ++ [a]) P :=
    fun P hP => Runs.Earlier.snoc hP a
  cases hprogress with
  | idle =>
      have hbefore := h call rfl
      exact ⟨Runs.Earlier.snoc hbefore.asked a, hbefore.backed.mono hmore⟩
  | begun hask hstart =>
      obtain ⟨⟨t, rfl, hissued, hsub, hrole⟩, hpermits, hstage⟩ := start_ok hstart
      subst hask
      refine ⟨Runs.earlier_last ⟨t, _, rfl, hissued, hsub, hrole, hpermits⟩, ?_⟩
      rw [hstage]
      trivial
  | read call₀ =>
      have hbefore := h call₀ rfl
      refine ⟨Runs.Earlier.snoc hbefore.asked a, ?_⟩
      exact backed_next hmore (fun P hP => Runs.earlier_last hP) hbefore.backed
  | refused call₀ e => exact ⟨Runs.Earlier.snoc (h call₀ rfl).asked a, trivial⟩
  | @stored call₀ intent feeBreakdown db hstage hsave =>
      obtain ⟨hasked, hbacked⟩ := h call₀ rfl
      rw [hstage] at hbacked
      have hbreakdown := (saveBooking_ok (Quoted.sound hbacked) hsave).breakdown
      refine ⟨Runs.Earlier.snoc hasked a, ?_⟩
      have hquoted := Quoted.mono hmore hbacked
      rwa [← hbreakdown] at hquoted

/-- Every call begun in the run is accounted for. -/
theorem run_accounted (as : List Action) {i : Nat} (hi : s₀.calls.length ≤ i)
    (hcall : (run d straightLineKm p s₀ as).calls[i]? = some call) :
    Accounted d straightLineKm p s₀ as call := by
  have hall : ∀ call, (run d straightLineKm p s₀ as).calls[i]? = some call →
      Accounted d straightLineKm p s₀ as call := by
    refine Runs.run_history (I := fun (as : List Action) (s : Shop) =>
      ∀ call, s.calls[i]? = some call → Accounted d straightLineKm p s₀ as call) ?_ ?_ as
    · intro call hcall
      rw [List.getElem?_eq_none hi] at hcall
      cases hcall
    · intro as a hbefore call hcall
      exact accounted_progress hbefore (progress_exec hcall)
  exact hall call hcall

/-- A booking that stores anything stores the intent of a call that was quoted. -/
theorem book_changes {i : Nat} (h : (exec d straightLineKm p s (.book i)).db ≠ s.db) :
    ∃ call feeBreakdown intent, s.calls[i]? = some call ∧ call.books = true ∧
      call.stage = .quoted feeBreakdown ∧
      (saveBooking call.payerId call.parcel feeBreakdown).run s.db =
        .ok (intent, (exec d straightLineKm p s (.book i)).db) := by
  revert h
  simp only [exec]
  split
  · exact fun h => absurd rfl h
  · next call hcall =>
      split
      · next feeBreakdown hbooks hstage =>
          unfold commitBooking
          split
          · exact fun h => absurd rfl h
          · next intent db hsave =>
              exact fun _ => ⟨call, feeBreakdown, intent, hcall, hbooks, hstage, hsave⟩
      · exact fun h => absurd rfl h

/-- **Booked as quoted.** Whatever happens between a checkout's reads and its
booking, the intent is that of somebody who may book there, at the fee of the
vehicle, the rule and the route that the checkout has read, and the slot is taken
with it. -/
theorem booked_as_quoted (p : Access.Platform) (s₀ : Shop) (as : List Action) {i : Nat}
    (hi : s₀.calls.length ≤ i)
    (hbook : (exec d straightLineKm p (run d straightLineKm p s₀ as) (.book i)).db ≠
      (run d straightLineKm p s₀ as).db) :
    ∃ call feeBreakdown intent,
      (run d straightLineKm p s₀ as).calls[i]? = some call ∧ call.books = true ∧
      Asked d straightLineKm p s₀ as call ∧
      Quoted d straightLineKm (Seen d straightLineKm p s₀ as) call.parcel
        call.restrictToPublicNodes feeBreakdown ∧
      Charged (run d straightLineKm p s₀ as).db
        (exec d straightLineKm p (run d straightLineKm p s₀ as) (.book i)).db call.payerId
        call.parcel feeBreakdown intent := by
  obtain ⟨call, feeBreakdown, intent, hcall, hbooks, hstage, hsave⟩ := book_changes hbook
  obtain ⟨hasked, hbacked⟩ := run_accounted as hi hcall
  rw [hstage] at hbacked
  exact ⟨call, feeBreakdown, intent, hcall, hbooks, hasked, hbacked,
    saveBooking_ok (Quoted.sound hbacked) hsave⟩

/-! ## Prices -/

/-- The rules that have come into force. -/
def inForce (s : State) : List PricingRule :=
  s.pricingRules.filter fun r => r.effectiveFrom ≤ s.now

/-- What the shop would charge for a parcel, were everything read at once. -/
def priceOf (straightLineKm : Coordinates → Coordinates → ℚ≥0) (s : Shop) (parcel : Parcel) :
    Option FeeBreakdown := do
  let vehicleClass ← vehicleFor s.vehicleRules parcel.details
  let rule ← currentRule PricingRule.effectiveFrom s.db.pricingRules s.db.now
  some (calculateFee rule (roadDistanceKm s.routes parcel)
    (straightLineKm (s.pins parcel.originNodeId) (s.pins parcel.destinationNodeId)) vehicleClass)

/-- Whatever does not change the vehicles, where the parcel's Nodes are, or how far
apart. -/
def keepsPrice (parcel : Parcel) : Action → Bool
  | .saveVehicles _ => false
  | .move nodeId _ | .dropRoutes nodeId =>
      nodeId ≠ parcel.originNodeId && nodeId ≠ parcel.destinationNodeId
  | .recordRoute row => !isRoute parcel.originNodeId parcel.destinationNodeId row
  | _ => true

/-- What makes up a price, the rules aside. -/
def makings (parcel : Parcel) (s : Shop) :
    List VehicleClassRule × Coordinates × Coordinates × Option ℚ≥0 :=
  (s.vehicleRules, s.pins parcel.originNodeId, s.pins parcel.destinationNodeId,
    roadDistanceKm s.routes parcel)

theorem isRoute_iff {originNodeId destinationNodeId : Nat} {row : RouteDistanceRow} :
    isRoute originNodeId destinationNodeId row = true ↔
      row.originNodeId = originNodeId ∧ row.destinationNodeId = destinationNodeId := by
  simp [isRoute]

/-- Dropping other routes leaves a route's distance as it is. -/
theorem roadDistanceKm_filter {routes : List RouteDistanceRow} {keep : RouteDistanceRow → Bool}
    (h : ∀ row, isRoute parcel.originNodeId parcel.destinationNodeId row = true →
      keep row = true) :
    roadDistanceKm (routes.filter keep) parcel = roadDistanceKm routes parcel := by
  unfold roadDistanceKm
  rw [List.find?_filter]
  congr 2
  funext row
  cases hroute : isRoute parcel.originNodeId parcel.destinationNodeId row with
  | false => simp
  | true => simp [h row hroute]

theorem roadDistanceKm_record {routes : List RouteDistanceRow} {row : RouteDistanceRow}
    (h : isRoute parcel.originNodeId parcel.destinationNodeId row = false) :
    roadDistanceKm (record routes row) parcel = roadDistanceKm routes parcel := by
  have hkept : ∀ r, isRoute parcel.originNodeId parcel.destinationNodeId r = true →
      (!isRoute row.originNodeId row.destinationNodeId r) = true := by
    intro r hr
    by_contra hsame
    obtain ⟨ho, hd⟩ := isRoute_iff.mp hr
    simp only [Bool.not_eq_true', Bool.not_eq_false] at hsame
    obtain ⟨ho', hd'⟩ := isRoute_iff.mp hsame
    have hrow := isRoute_iff.mpr ⟨ho'.symm.trans ho, hd'.symm.trans hd⟩
    rw [h] at hrow
    cases hrow
  have happend : ∀ rs : List RouteDistanceRow,
      roadDistanceKm (rs ++ [row]) parcel = roadDistanceKm rs parcel := by
    intro rs
    rw [roadDistanceKm, roadDistanceKm, List.find?_append]
    simp [h]
  rw [record, happend]
  exact roadDistanceKm_filter hkept

theorem exec_makings {a : Action} (h : keepsPrice parcel a = true) :
    makings parcel (exec d straightLineKm p s a) = makings parcel s := by
  cases a with
  | saveVehicles rules => cases h
  | move nodeId pin =>
      simp only [keepsPrice, ne_eq, decide_not, Bool.and_eq_true, Bool.not_eq_eq_eq_not,
        Bool.not_true, decide_eq_false_iff_not] at h
      simp [makings, exec, Function.update_of_ne (Ne.symm h.1), Function.update_of_ne (Ne.symm h.2)]
  | dropRoutes nodeId =>
      simp only [keepsPrice, ne_eq, decide_not, Bool.and_eq_true, Bool.not_eq_eq_eq_not,
        Bool.not_true, decide_eq_false_iff_not] at h
      have hroute : roadDistanceKm (dropRoutes s.routes nodeId) parcel =
          roadDistanceKm s.routes parcel := by
        refine roadDistanceKm_filter fun row hrow => ?_
        obtain ⟨ho, hd⟩ := isRoute_iff.mp hrow
        rw [ho, hd]
        simp [Ne.symm h.1, Ne.symm h.2]
      simp [makings, exec, hroute]
  | recordRoute row =>
      have hroute : roadDistanceKm (record s.routes row) parcel =
          roadDistanceKm s.routes parcel := roadDistanceKm_record (by simpa [keepsPrice] using h)
      simp [makings, exec, hroute]
  | access a =>
      simp only [exec]
      split <;> rfl
  | system a =>
      simp only [exec]
      split <;> rfl
  | ask token request =>
      simp only [exec]
      split <;> rfl
  | advance i =>
      simp only [exec]
      split <;> rfl
  | book i =>
      simp only [exec]
      split
      · rfl
      · split
        · unfold commitBooking
          split <;> rfl
        · rfl
  | tick ms => rfl

theorem currentRule_eq_latest (s : State) :
    currentRule PricingRule.effectiveFrom s.pricingRules s.now =
      latest PricingRule.effectiveFrom (inForce s) := rfl

/-! ## Rules in force -/

/-- No rule is taken back, and time does not turn back. -/
structure Dated (s s' : State) : Prop where
  now : s.now ≤ s'.now
  rules : List.Sublist s.pricingRules s'.pricingRules

theorem dated_frame : Tx.Frame Dated where
  refl _ := ⟨le_rfl, List.Sublist.refl _⟩
  trans h₁ h₂ := ⟨h₁.now.trans h₂.now, h₁.rules.trans h₂.rules⟩

theorem inForce_sublist {s s' : State} (h : Dated s s') :
    List.Sublist (inForce s) (inForce s') := by
  have hsooner :
      List.Sublist (inForce s) (s.pricingRules.filter fun r => r.effectiveFrom ≤ s'.now) :=
    List.monotone_filter_right _ fun r hr => by
      simp only [decide_eq_true_eq] at hr ⊢
      exact hr.trans h.now
  exact hsooner.trans (h.rules.filter _)

theorem system_dated (d : Routing.Deployment) (a : System.Action) (s : State) :
    Dated s (System.exec d s a) := by
  have F := dated_frame
  have hkeeps : ∀ {a}, Tx.Keeps Dated (System.tx d a) → Dated s (System.exec d s a) := by
    intro a htx
    rcases System.exec_cases d s a with ⟨s', hrun, he⟩ | ⟨e, -, he⟩
    · rw [he]
      exact htx s () s' hrun
    · rw [he]
      unfold Handoffs.rollback
      split
      · exact ⟨le_rfl, List.Sublist.refl _⟩
      · exact F.refl s
  cases hsetting : Settings.isSetting a with
  | false =>
      have hsame := Settings.exec_untouched (d := d) hsetting s
      simp only [Settings.settings, Prod.mk.injEq] at hsame
      exact ⟨hsame.1.ge, hsame.2.2.1 ▸ List.Sublist.refl _⟩
  | true =>
      cases a with
      | tick ms => exact hkeeps (F.write fun _ => ⟨Nat.le_add_right _ _, List.Sublist.refl _⟩)
      | createPricingRule rule =>
          exact hkeeps (F.write fun _ => ⟨le_rfl, List.sublist_append_left _ _⟩)
      | createSplitRule rule => exact hkeeps (F.write fun _ => ⟨le_rfl, List.Sublist.refl _⟩)
      | updateProvider key dto =>
          exact hkeeps (F.bind (F.read _) fun _ => F.bind (F.expect _ _) fun _ =>
            F.bind (F.ensure _ _) fun _ => F.bind (F.ensure _ _) fun _ =>
              F.bind (F.read _) fun _ => F.bind (F.ensure _ _) fun _ =>
                F.write fun _ => ⟨le_rfl, List.Sublist.refl _⟩)
      | _ => cases hsetting

theorem saveBooking_dated (payerId : Nat) (parcel : Parcel) (feeBreakdown : FeeBreakdown) :
    Tx.Keeps Dated (saveBooking payerId parcel feeBreakdown) := by
  have F := dated_frame
  have hreserve : Tx.Keeps Dated (reserveCapacitySlot parcel.originNodeId) := by
    intro s r s' h
    obtain ⟨n, -, -, ⟨-, -, rfl⟩ | ⟨-, -, rfl⟩⟩ := reserveCapacitySlot_ok h
    · exact F.refl _
    · exact ⟨le_rfl, List.Sublist.refl _⟩
  exact F.bind hreserve fun _ => F.bind (F.ensure _ _) fun _ =>
    F.query fun _ => ⟨le_rfl, List.Sublist.refl _⟩

theorem exec_dated (a : Action) : Dated s.db (exec d straightLineKm p s a).db := by
  have F := dated_frame
  cases a with
  | tick ms => exact system_dated d (.tick ms) s.db
  | system a =>
      simp only [exec]
      split
      · exact F.refl _
      · exact system_dated d a s.db
  | book i =>
      by_cases hsame : (exec d straightLineKm p s (.book i)).db = s.db
      · rw [hsame]
        exact F.refl _
      · obtain ⟨call, feeBreakdown, intent, -, -, -, hsave⟩ := book_changes hsame
        exact saveBooking_dated _ _ _ _ _ _ hsave
  | access a =>
      simp only [exec]
      split <;> exact F.refl _
  | ask token request =>
      simp only [exec]
      split <;> exact F.refl _
  | advance i =>
      simp only [exec]
      split <;> exact F.refl _
  | move _ _ | saveVehicles _ | recordRoute _ | dropRoutes _ => exact F.refl _

theorem run_dated (s : Shop) (as : List Action) : Dated s.db (run d straightLineKm p s as).db :=
  Runs.run_invariant (P := fun s' : Shop => Dated s.db s'.db)
    (fun _ a h => dated_frame.trans h (exec_dated a)) (dated_frame.refl s.db) as

theorem run_makings (hkeeps : ∀ a ∈ as, keepsPrice parcel a = true) :
    makings parcel (run d straightLineKm p s as) = makings parcel s := by
  induction as generalizing s with
  | nil => rfl
  | cons a as ih =>
      rw [run, Runs.run_cons, ← run, ih fun a ha => hkeeps a (List.mem_cons_of_mem _ ha)]
      exact exec_makings (hkeeps a List.mem_cons_self)

/-- Between two states with the same rules in force the same rules are in force:
there are no fewer than before, and no more than later. -/
theorem inForce_between {before after : List Action}
    (hrules : inForce (run d straightLineKm p s₀ (before ++ after)).db = inForce s₀.db) :
    inForce (run d straightLineKm p s₀ before).db = inForce s₀.db := by
  have hsince : List.Sublist (inForce s₀.db) (inForce (run d straightLineKm p s₀ before).db) :=
    inForce_sublist (run_dated s₀ before)
  have huntil : List.Sublist (inForce (run d straightLineKm p s₀ before).db)
      (inForce (run d straightLineKm p s₀ (before ++ after)).db) := by
    rw [run, run, Runs.run_append]
    exact inForce_sublist (run_dated _ after)
  exact (hrules ▸ huntil).antisymm hsince

/-- What was seen while nothing changed the price was seen at the start. -/
theorem seen_price (hkeeps : ∀ a ∈ as, keepsPrice parcel a = true)
    (hrules : inForce (run d straightLineKm p s₀ as).db = inForce s₀.db) {P : Shop → Prop}
    (h : Seen d straightLineKm p s₀ as P) :
    ∃ s, P s ∧ makings parcel s = makings parcel s₀ ∧ inForce s.db = inForce s₀.db := by
  obtain ⟨before, a, after, rfl, hP⟩ := h
  refine ⟨_, hP, run_makings fun b hb => hkeeps b (List.mem_append_left _ hb), ?_⟩
  exact inForce_between hrules

theorem findOne_pin {nodeId : Nat} {node : QuotedNode} (h : findOne s nodeId = some node) :
    node.pin = s.pins nodeId := by
  obtain ⟨row, -, rfl⟩ := Option.map_eq_some_iff.mp h
  rfl

/-- A fee that was quoted while nothing changed the price is the price. -/
theorem Quoted.priced (hkeeps : ∀ a ∈ as, keepsPrice parcel a = true)
    (hrules : inForce (run d straightLineKm p s₀ as).db = inForce s₀.db)
    {feeBreakdown : FeeBreakdown}
    (h : Quoted d straightLineKm (Seen d straightLineKm p s₀ as) parcel restrictToPublicNodes
      feeBreakdown) :
    priceOf straightLineKm s₀ parcel = some feeBreakdown := by
  obtain ⟨originNode, destinationNode, vehicleClass, rule, routeKm, hruled, hroute, rfl⟩ := h
  obtain ⟨s₁, horigin, hsame₁, -⟩ := seen_price hkeeps hrules hruled.origin
  obtain ⟨s₂, hdestination, hsame₂, -⟩ := seen_price hkeeps hrules hruled.destination
  obtain ⟨s₃, hvehicle, hsame₃, -⟩ := seen_price hkeeps hrules hruled.vehicle
  obtain ⟨s₄, hrule, -, hrules₄⟩ := seen_price hkeeps hrules hruled.rule
  obtain ⟨s₅, hroute, hsame₅, -⟩ := seen_price hkeeps hrules hroute
  simp only [makings, Prod.mk.injEq] at hsame₁ hsame₂ hsame₃ hsame₅
  rw [currentRule_eq_latest, hrules₄, ← currentRule_eq_latest] at hrule
  rw [hsame₃.1] at hvehicle
  have hpin : originNode.pin = s₀.pins parcel.originNodeId :=
    (findOne_pin horigin).trans hsame₁.2.1
  have hpin' : destinationNode.pin = s₀.pins parcel.destinationNodeId :=
    (findOne_pin hdestination).trans hsame₂.2.2.1
  simp only [priceOf, hvehicle, hrule, Option.bind_eq_bind, Option.bind_some]
  rw [hpin, hpin', ← hroute, hsame₅.2.2.2]

/-- What a call shows, or has charged. -/
def shows (call : Call) (feeBreakdown : FeeBreakdown) : Prop :=
  match call.stage with
  | .quoted shown => shown = feeBreakdown
  | .booked intent => intent.feeBreakdown = feeBreakdown
  | _ => False

theorem Accounted.quoted (h : Accounted d straightLineKm p s₀ as call)
    {feeBreakdown : FeeBreakdown} (hshows : shows call feeBreakdown) :
    Quoted d straightLineKm (Seen d straightLineKm p s₀ as) call.parcel call.restrictToPublicNodes
      feeBreakdown := by
  have hbacked := h.backed
  unfold shows at hshows
  split at hshows
  · next hstage =>
      rw [hstage] at hbacked
      exact hshows ▸ hbacked
  · next hstage =>
      rw [hstage] at hbacked
      exact hshows ▸ hbacked
  · cases hshows

/-- The price of a parcel is that of the rule in force. -/
theorem priceOf_rule {feeBreakdown : FeeBreakdown}
    (h : priceOf straightLineKm s parcel = some feeBreakdown) :
    ∃ rule vehicleClass,
      currentRule PricingRule.effectiveFrom s.db.pricingRules s.db.now = some rule ∧
      feeBreakdown = calculateFee rule (roadDistanceKm s.routes parcel)
        (straightLineKm (s.pins parcel.originNodeId) (s.pins parcel.destinationNodeId))
        vehicleClass := by
  obtain ⟨vehicleClass, -, h⟩ := Option.bind_eq_some_iff.mp h
  obtain ⟨rule, hrule, h⟩ := Option.bind_eq_some_iff.mp h
  exact ⟨rule, vehicleClass, hrule, (Option.some.inj h).symm⟩

/-- **The price shown is the price charged.** While nobody changes the vehicles, the
parcel's Nodes or its route, and no rule comes into force, every preview and every
checkout of a parcel comes to one price, whoever asks and whatever else goes on; and
to book at it is to book at the rule in force. -/
theorem shown_is_charged (d : Routing.Deployment)
    (straightLineKm : Coordinates → Coordinates → ℚ≥0) (p : Access.Platform) (s₀ : Shop)
    (as : List Action) (parcel : Parcel) (hkeeps : ∀ a ∈ as, keepsPrice parcel a = true)
    (hrules : inForce (run d straightLineKm p s₀ as).db = inForce s₀.db) {i : Nat}
    (hi : s₀.calls.length ≤ i) {call : Call}
    (hcall : (run d straightLineKm p s₀ as).calls[i]? = some call) (hparcel : call.parcel = parcel)
    {feeBreakdown : FeeBreakdown} (hshows : shows call feeBreakdown) :
    priceOf straightLineKm s₀ parcel = some feeBreakdown ∧
    ∃ dto : CreatePaymentIntentDto,
      dto.originNodeId = parcel.originNodeId ∧ dto.destinationNodeId = parcel.destinationNodeId ∧
      (saveBooking call.payerId parcel feeBreakdown).run (run d straightLineKm p s₀ as).db =
        (createIntent call.payerId dto).run (run d straightLineKm p s₀ as).db := by
  have hquoted := (run_accounted as hi hcall).quoted hshows
  rw [hparcel] at hquoted
  have hprice := hquoted.priced hkeeps hrules
  refine ⟨hprice, ?_⟩
  obtain ⟨rule, vehicleClass, hrule, rfl⟩ := priceOf_rule hprice
  rw [currentRule_eq_latest, ← hrules, ← currentRule_eq_latest] at hrule
  refine ⟨⟨parcel.originNodeId, parcel.destinationNodeId, vehicleClass,
    roadDistanceKm s₀.routes parcel,
    straightLineKm (s₀.pins parcel.originNodeId) (s₀.pins parcel.destinationNodeId)⟩, rfl, rfl, ?_⟩
  exact (createIntent_run call.payerId parcel vehicleClass _ _ hrule).symm

/-! ## A small run -/

def demoStraightLineKm : Coordinates → Coordinates → ℚ≥0 := fun _ _ => System.demo.distanceKm 1 2

/-- Two open Nodes, a consumer and a shop with the seeded vehicles. -/
def demoShop : Shop where
  access := { AccessRuns.demoWorld with
    nodes := [⟨1, .active, true⟩, ⟨2, .active, true⟩]
    issued := [⟨6, .consumer, 900⟩] }
  pins := fun nodeId => ⟨nodeId, nodeId⟩
  vehicleRules := Vehicles.seededRules
  routes := []
  db := System.demoState
  calls := []

def demoParcel : Parcel := ⟨1, 2, { parcelSize := "small" }⟩

/-- A preview and a checkout side by side, while a route between other Nodes is measured. -/
def demoCheckout : List Action :=
  [.ask (some ⟨6, .consumer, 900⟩) (.quote demoParcel), .advance 0, .advance 0,
    .ask (some ⟨6, .consumer, 900⟩) (.create demoParcel), .advance 1, .recordRoute ⟨2, 1, 9000⟩,
    .advance 1, .advance 0, .advance 1, .system .interrupted, .advance 1, .advance 0, .advance 0,
    .advance 1, .advance 0, .advance 1]

/-- What it comes to: the base fee, three kilometres and the fee of the Node. -/
def demoFee : FeeBreakdown := ⟨4, .motorbike, 130, 50, 180⟩

abbrev demoAfter : Shop :=
  run System.demo demoStraightLineKm AccessRuns.demoPlatform demoShop demoCheckout

theorem demo_booked_as_quoted :
    ∃ call feeBreakdown intent, demoAfter.calls[1]? = some call ∧ call.books = true ∧
      Asked System.demo demoStraightLineKm AccessRuns.demoPlatform demoShop demoCheckout call ∧
      Quoted System.demo demoStraightLineKm
        (Seen System.demo demoStraightLineKm AccessRuns.demoPlatform demoShop demoCheckout)
        call.parcel call.restrictToPublicNodes feeBreakdown ∧
      Charged demoAfter.db
        (exec System.demo demoStraightLineKm AccessRuns.demoPlatform demoAfter (.book 1)).db
        call.payerId call.parcel feeBreakdown intent := by
  refine booked_as_quoted AccessRuns.demoPlatform demoShop demoCheckout (Nat.zero_le 1) ?_
  intro hsame
  have hintents := congrArg (fun s => s.intents.length) hsame
  revert hintents
  decide +kernel

theorem demo_shown_is_charged :
    priceOf demoStraightLineKm demoShop demoParcel = some demoFee := by
  have hcall : demoAfter.calls[0]? =
      some ⟨6, demoParcel, true, false, .quoted demoFee⟩ := by decide +kernel
  exact (shown_is_charged System.demo demoStraightLineKm AccessRuns.demoPlatform demoShop
    demoCheckout demoParcel (by decide) (by decide +kernel) (Nat.zero_le 0) hcall rfl rfl).1

end Locoomo.CheckoutRuns
