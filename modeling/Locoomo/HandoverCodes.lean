import Locoomo.Timelines
import Locoomo.RiderCapacity

/-! A rider's handover code. The rider check of a request and the transaction
that issues the code are separate steps, and a code outlives the assignment it
was asked for under; at the counter only order and type are compared. -/

namespace Locoomo.HandoverCodes

open Locoomo.Delivery Locoomo.Database Locoomo.Routing Locoomo.Logistics Locoomo.Handoffs
  Locoomo.System Locoomo.OrderMoves Locoomo.Frames Locoomo.Interleaved Locoomo.Histories
  Locoomo.Timelines Relational

/-! ## Who holds an order -/

/-- What an event does to the order's `riderId`, if anything. -/
def riderChange (event : OrderEventRow) : Option (Option Nat) :=
  match event.type, event.payload with
  | .riderAssigned, .rider riderId => some (some riderId)
  | .courierReleased, _ => some none
  | _, _ => none

/-- The assignments and releases of an order, in the order they happened. -/
def riderChanges (events : List OrderEventRow) (orderId : Nat) : List (Option Nat) :=
  (events.filter (ofOrder orderId)).filterMap riderChange

/-- The rider the events leave the order with. -/
def holder (events : List OrderEventRow) (orderId : Nat) : Option Nat :=
  (riderChanges events orderId).getLast?.join

/-- The last assignment or release of the order after the first `seen` events,
if there was one, gave it to this rider. -/
def Undisturbed (events : List OrderEventRow) (orderId riderId seen : Nat) : Prop :=
  ∀ change ∈ (riderChanges (events.drop seen) orderId).getLast?, change = some riderId

instance (events : List OrderEventRow) (orderId riderId seen : Nat) :
    Decidable (Undisturbed events orderId riderId seen) :=
  inferInstanceAs (Decidable (∀ change ∈ (riderChanges (events.drop seen) orderId).getLast?, _))

theorem riderChanges_append (l l' : List OrderEventRow) (orderId : Nat) :
    riderChanges (l ++ l') orderId = riderChanges l orderId ++ riderChanges l' orderId := by
  simp [riderChanges]

theorem riderChanges_singleton (event : OrderEventRow) (orderId : Nat) :
    riderChanges [event] orderId
      = if event.orderId = orderId then (riderChange event).toList else [] := by
  by_cases h : event.orderId = orderId
  · cases hchange : riderChange event <;> simp [riderChanges, ofOrder, h, hchange]
  · simp [riderChanges, ofOrder, h]

theorem holder_drop (events : List OrderEventRow) (orderId seen : Nat) :
    holder events orderId = ((riderChanges (events.drop seen) orderId).getLast?.or
      (riderChanges (events.take seen) orderId).getLast?).join := by
  rw [← List.getLast?_append, ← riderChanges_append, List.take_append_drop, holder]

/-- Whoever held an undisturbed order holds it still. -/
theorem holder_of_undisturbed {events : List OrderEventRow} {orderId riderId seen : Nat}
    (h : holder (events.take seen) orderId = some riderId)
    (hsince : Undisturbed events orderId riderId seen) : holder events orderId = some riderId := by
  rw [holder_drop events orderId seen]
  cases hlast : (riderChanges (events.drop seen) orderId).getLast? with
  | none => simpa [holder] using h
  | some change => simp [hsince change hlast]

theorem undisturbed_of_holder {events : List OrderEventRow} {orderId riderId : Nat}
    (h : holder events orderId = some riderId) (seen : Nat) :
    Undisturbed events orderId riderId seen := by
  intro change hlast
  rw [holder_drop events orderId seen, hlast] at h
  simpa using h

/-- Every order has the rider its events leave it with. -/
structure Held (s : State) : Prop where
  told : Told s
  riderId : ∀ o ∈ s.orders, o.riderId = holder s.orderEvents o.id

variable {d : Deployment} {s s' : State}

theorem holder_append (events : List OrderEventRow) (event : OrderEventRow) (orderId : Nat) :
    holder (events ++ [event]) orderId
      = if event.orderId = orderId then (riderChange event).getD (holder events orderId)
        else holder events orderId := by
  rw [holder, riderChanges_append, riderChanges_singleton]
  split
  · cases riderChange event with
    | none => simp [holder]
    | some change => simp
  · rw [List.append_nil, holder]

theorem riderChange_event (m : OrderMove) (o : OrderRow) (now : Nat) :
    (riderChange (m.event o now)).getD o.riderId = m.riderAfter o.riderId := by
  cases m <;> rfl

/-- **Every entry** that changes a rider says so. -/
theorem Held.entry {asks : Bool} (hs : Held s) (h : Entry asks s s') : Held s' := by
  refine ⟨hs.told.entry h, ?_⟩
  cases h with
  | aside h =>
      rw [h.orders, h.orderEvents]
      exact hs.riderId
  | @opened o payload h =>
      have horders : s'.orders = s.orders ++ [o] := by rw [h.eq]
      have hevents : s'.orderEvents = s.orderEvents ++ [⟨o.id, .orderPlaced, payload, s.now⟩] := by
        rw [h.eq]
      have hnone : holder s.orderEvents o.id = none := by
        have hfresh : s.orderEvents.filter (ofOrder o.id) = [] := by
          rw [List.filter_eq_nil_iff, h.id]
          intro event hevent hid
          exact absurd (of_decide_eq_true hid) (Nat.ne_of_lt (hs.told.events_lt event hevent))
        simp [holder, riderChanges, hfresh]
      intro x hx
      rw [horders, List.mem_append, List.mem_singleton] at hx
      rw [hevents, holder_append]
      rcases hx with hx | rfl
      · have hne : o.id ≠ x.id := by
          rw [h.id]
          exact (Nat.ne_of_lt (hs.told.orderIds_lt x hx)).symm
        rw [if_neg hne]
        exact hs.riderId x hx
      · rw [if_pos rfl, h.riderId, hnone]
        rfl
  | @stepped m o h =>
      have ho : o ∈ s.orders := (get_some h.found).1
      have horders : s'.orders = put OrderRow.id (m.row s.orders o) s.orders := by rw [h.eq]
      have hevents : s'.orderEvents = s.orderEvents ++ [m.event o s.now] := by rw [h.eq]
      have hid : (m.row s.orders o).id = o.id := m.row_id s.orders o
      intro x hx
      rw [horders] at hx
      rw [hevents, holder_append]
      rcases mem_put.mp hx with ⟨rfl, -⟩ | ⟨hx, hne⟩
      · have horder : (m.event o s.now).orderId = o.id := rfl
        rw [hid, if_pos horder, ← hs.riderId o ho, riderChange_event]
        exact m.row_riderId s.orders o
      · rw [hid] at hne
        have horder : (m.event o s.now).orderId ≠ x.id := fun heq => hne heq.symm
        rw [if_neg horder]
        exact hs.riderId x hx

/-! ## Requests and counters -/

/-- A `request` past its rider check, and how much had happened by then. -/
structure Request where
  orderId : Nat
  riderId : Nat
  type : HandoffCodeType
  seen : Nat
  deriving DecidableEq

/-- `checks` is no table: it notes for each code how much had happened when
its request was checked. -/
structure Counter where
  work : Work
  requests : List Request
  checks : List (Nat × Nat)

inductive Action
  | work (a : Interleaved.Action)
  | check (orderId riderId : Nat) (type : HandoffCodeType)
  | issue (i : Nat) (rawCode : String)

/-- A `request` only happens in its two steps here. -/
def exec (d : Deployment) (w : Counter) : Action → Counter
  | .work a => if isRequestIn a then w else { w with work := Interleaved.exec d w.work a }
  | .check orderId riderId type =>
      if (getOrder w.work.db orderId).any fun o => o.riderId = some riderId then
        { w with
          requests := w.requests ++ [⟨orderId, riderId, type, w.work.db.orderEvents.length⟩] }
      else w
  | .issue i rawCode =>
      match w.requests[i]? with
      | none => w
      | some request =>
          { work := { w.work with
              db := commit (Handoffs.issue d request.orderId request.type (some request.riderId)
                handoffCodeTtlMinutes rawCode) w.work.db }
            requests := w.requests.eraseIdx i
            checks := w.checks ++ [(w.work.db.nextId, request.seen)] }

def start (s : State) : Counter := ⟨idle s, [], []⟩

/-- The type of code a step at a counter asks a rider for. -/
def handoverType : ConfirmStep → Option HandoffCodeType
  | .pickup => some .riderPickup
  | .arrival => some .riderArrival
  | _ => none

/-- The code row `validate` accepts `rawCode` for. -/
def presented (d : Deployment) (s : State) (orderId : Nat) (type : HandoffCodeType)
    (rawCode : String) : Option HandoffCodeRow :=
  (latest HandoffCodeRow.createdAt (s.codes.filter (isUnusedCode orderId type))).filter
    (isValidCode d s.now rawCode)

/-- The step has confirmed the order now, and had not before. -/
def HandedOver (s s' : State) (step : ConfirmStep) (orderId : Nat) : Prop :=
  ⟨step.scope, orderId⟩ ∉ s.keys ∧ ⟨step.scope, orderId⟩ ∈ s'.keys

/-- The code belongs to the order's rider. -/
def OfRider (s' : State) (orderId : Nat) (code : HandoffCodeRow) : Prop :=
  ∃ o riderId, getOrder s' orderId = some o ∧ o.riderId = some riderId ∧
    code.requestedByUserId = some riderId

/-- The handover an action asks to confirm. -/
structure Handover where
  step : ConfirmStep
  orderId : Nat
  args : ConfirmArgs
  type : HandoffCodeType

def handover : Action → Option Handover
  | .work (.atomic (.confirm step orderId args)) =>
      (handoverType step).map fun type => ⟨step, orderId, args, type⟩
  | _ => none

/-- A handover that is confirmed was proved by a code of the order's rider. -/
def Proven (d : Deployment) (w : Counter) (a : Action) : Prop :=
  ∀ h ∈ handover a, HandedOver w.work.db (exec d w a).work.db h.step h.orderId →
    ∃ code ∈ presented d w.work.db h.orderId h.type h.args.code,
      OfRider (exec d w a).work.db h.orderId code

/-- Since the rider check of the request that issued the code, the order has
not been released or given to anybody else, or the rider has it again. -/
def Fresh (d : Deployment) (w : Counter) (a : Action) : Prop :=
  ∀ h ∈ handover a, ∀ code ∈ presented d w.work.db h.orderId h.type h.args.code,
    ∀ riderId ∈ code.requestedByUserId, ∀ check ∈ w.checks, check.1 = code.id →
      Undisturbed w.work.db.orderEvents h.orderId riderId check.2

instance (d : Deployment) (w : Counter) (a : Action) : Decidable (Fresh d w a) :=
  inferInstanceAs (Decidable (∀ h ∈ handover a, _))

/-! ## The invariant -/

/-- A check of the request behind a code found its rider holding the order. -/
def Checked (w : Counter) (orderId riderId seen : Nat) : Prop :=
  seen ≤ w.work.db.orderEvents.length ∧
    holder (w.work.db.orderEvents.take seen) orderId = some riderId

structure Vouched (w : Counter) : Prop where
  held : Held w.work.db
  requests : ∀ request ∈ w.requests,
    Checked w request.orderId request.riderId request.seen
  codes : ∀ code ∈ w.work.db.codes, isRiderCode code.type = true →
    ∃ riderId seen, code.requestedByUserId = some riderId ∧ (code.id, seen) ∈ w.checks ∧
      Checked w code.orderId riderId seen

variable {w w' : Counter}

/-- What was checked stays checked as the timeline grows. -/
theorem Checked.grow {orderId riderId seen : Nat} (h : Checked w orderId riderId seen)
    (hevents : w.work.db.orderEvents <+: w'.work.db.orderEvents) :
    Checked w' orderId riderId seen := by
  obtain ⟨rest, hrest⟩ := hevents
  refine ⟨?_, ?_⟩
  · rw [← hrest, List.length_append]
    exact Nat.le_add_right_of_le h.1
  · rw [← hrest, List.take_append_of_le_length h.1]
    exact h.2

theorem riderCodesKept_of_history (h : History false s s') : RiderCodesKept s s' := by
  induction h with
  | refl => exact RiderCodesKept.refl s
  | tail _ hlast ih =>
      refine ih.trans ?_
      cases hlast with
      | aside h => exact h.codes.resolve_left (by simp)
      | opened h => exact .of_eq (by rw [h.eq])
      | stepped h => exact .of_eq (by rw [h.eq])

theorem Vouched.work (hw : Vouched w) {a : Interleaved.Action} (ha : isRequestIn a = false) :
    Vouched { w with work := Interleaved.exec d w.work a } := by
  have hhistory : History false w.work.db (Interleaved.exec d w.work a).db := by
    rw [← ha]
    exact interleaved_history d w.work a
  have hevents := history_appends hhistory
  refine ⟨hhistory.keeps Held.entry hw.held, fun request hrequest => ?_, fun code hcode htype => ?_⟩
  · exact (hw.requests request hrequest).grow hevents
  · obtain ⟨old, hold, hid, horder, hkind, hby⟩ :=
      riderCodesKept_of_history hhistory code hcode htype
    obtain ⟨riderId, seen, hrider, hcheck, hchecked⟩ := hw.codes old hold (by rwa [hkind])
    refine ⟨riderId, seen, ?_, ?_, ?_⟩
    · rw [← hby]
      exact hrider
    · rw [← hid]
      exact hcheck
    · rw [← horder]
      exact hchecked.grow hevents

theorem Vouched.check (hw : Vouched w) {orderId riderId : Nat} (type : HandoffCodeType)
    (h : (getOrder w.work.db orderId).any (fun o => o.riderId = some riderId) = true) :
    Vouched { w with
      requests := w.requests ++ [⟨orderId, riderId, type, w.work.db.orderEvents.length⟩] } := by
  refine ⟨hw.held, fun request hrequest => ?_, hw.codes⟩
  rcases List.mem_append.mp hrequest with hrequest | hrequest
  · exact hw.requests request hrequest
  · obtain rfl := List.mem_singleton.mp hrequest
    cases ho : getOrder w.work.db orderId with
    | none =>
        rw [ho] at h
        cases h
    | some o =>
        rw [ho] at h
        obtain ⟨homem, rfl⟩ := getOrder_mem ho
        refine ⟨le_rfl, ?_⟩
        rw [List.take_length, ← hw.held.riderId o homem]
        exact of_decide_eq_true h

/-- The codes an issue leaves: the new one, and old ones. -/
theorem issue_db (d : Deployment) (orderId : Nat) (type : HandoffCodeType)
    (requestedByUserId : Option Nat) (ttlMinutes : Nat) (rawCode : String) (s : State) :
    commit (Handoffs.issue d orderId type requestedByUserId ttlMinutes rawCode) s
      = { s with
          nextId := s.nextId + 1
          codes := s.codes.filter (fun code => !isUnusedCode orderId type code) ++
            [⟨s.nextId, orderId, type, d.hashToken rawCode, requestedByUserId,
              s.now + ttlMinutes * minute, none, 0, s.now⟩] } := rfl

theorem Vouched.issue (hw : Vouched w) {i : Nat} {request : Request} (rawCode : String)
    (h : w.requests[i]? = some request) : Vouched (exec d w (.issue i rawCode)) := by
  simp only [exec, h, issue_db]
  refine ⟨?_, fun other hother => ?_, fun code hcode htype => ?_⟩
  · have haside : History true w.work.db (commit (Handoffs.issue d request.orderId request.type
        (some request.riderId) handoffCodeTtlMinutes rawCode) w.work.db) :=
      commit_history (history_of_aside (issue_aside _ _ _ _ _ (Or.inl rfl))) _
    exact haside.keeps Held.entry hw.held
  · exact hw.requests other (List.mem_of_mem_eraseIdx hother)
  · rcases List.mem_append.mp hcode with hcode | hcode
    · obtain ⟨riderId, seen, hrider, hcheck, hchecked⟩ :=
        hw.codes code (List.mem_filter.mp hcode).1 htype
      exact ⟨riderId, seen, hrider, List.mem_append_left _ hcheck, hchecked⟩
    · obtain rfl := List.mem_singleton.mp hcode
      exact ⟨request.riderId, request.seen, rfl,
        List.mem_append_right _ (List.mem_singleton.mpr rfl),
        hw.requests request (List.mem_of_getElem? h)⟩

/-- **Every step** keeps codes vouched for. -/
theorem Vouched.exec (hw : Vouched w) (a : Action) : Vouched (HandoverCodes.exec d w a) := by
  cases a with
  | work a =>
      simp only [HandoverCodes.exec]
      split
      · exact hw
      · next ha => exact hw.work (by simpa using ha)
  | check orderId riderId type =>
      simp only [HandoverCodes.exec]
      split
      · next h => exact hw.check type h
      · exact hw
  | issue i rawCode =>
      cases h : w.requests[i]? with
      | none =>
          simp only [HandoverCodes.exec, h]
          exact hw
      | some request => exact hw.issue rawCode h

/-! ## The counter -/

/-- Every order keeps its rider. -/
def SameRiders (s s' : State) : Prop :=
  ∀ orderId, (getOrder s' orderId).map OrderRow.riderId = (getOrder s orderId).map OrderRow.riderId

theorem sameRiders_frame : Tx.Frame SameRiders where
  refl _ _ := rfl
  trans h₁ h₂ orderId := (h₂ orderId).trans (h₁ orderId)

theorem sameRiders_of_orders (h : s'.orders = s.orders) : SameRiders s s' := by
  intro orderId
  rw [getOrder, h, getOrder]

theorem sameRiders_of_aside {α : Type} {x : Db α} (hx : Tx.Keeps (Aside false) x) :
    Tx.Keeps SameRiders x :=
  fun s a s' h => sameRiders_of_orders (hx s a s' h).orders

theorem sameRiders_of_moves {x : Db OrderRow} {orderId : Nat} {source target : OrderStatus}
    {guard : OrderRow → Bool} (hx : Moves x orderId source target guard id) :
    Tx.Keeps SameRiders x := by
  intro s o' s' h k
  obtain ⟨o, hm, -, -, -, hrider⟩ := hx.ok h
  by_cases hk : k = orderId
  · subst hk
    rw [hm.found', hm.found, Option.map_some, Option.map_some, hrider]
    rfl
  · rw [getOrder, hm.orders, get_put_of_ne (by rwa [hm.id_eq']), getOrder]

/-- Pickup and delivery leave an order with its rider. -/
theorem onDeliveryEvent_sameRiders {notice : DeliveryEventNotice}
    (h : notice.event = .pickedUp ∨ notice.event = .delivered) :
    Tx.Keeps SameRiders (onDeliveryEvent notice) := by
  unfold onDeliveryEvent
  split
  · exact sameRiders_frame.pure ()
  · rcases h with h | h
    · simp only [h]
      exact sameRiders_frame.bind (sameRiders_of_moves (markPickedUpByRider_moves _)) fun _ =>
        sameRiders_of_aside (releaseCapacitySlot_aside _)
    · simp only [h]
      exact sameRiders_frame.bind (sameRiders_of_moves (markArrivedAtDestination_moves _))
        fun _ => sameRiders_of_aside (releaseCourierSlot_aside _)

theorem confirmHandoff_sameRiders (d : Deployment) (orderId : Nat) (type : HandoffCodeType)
    {event : DeliveryEventType} (hevent : event = .pickedUp ∨ event = .delivered)
    (code : String) : Tx.Keeps SameRiders (confirmHandoff d orderId type event code) := by
  have frame := sameRiders_frame
  have happly : ∀ leg, Tx.Keeps SameRiders (apply d leg event none) := by
    intro leg
    unfold apply
    split
    · exact frame.pure none
    · refine frame.bind (frame.read _) fun now =>
        frame.bind (sameRiders_of_aside (saveLeg_aside _)) fun _ =>
          frame.bind (onDeliveryEvent_sameRiders hevent) fun _ => ?_
      have hne : event ≠ .cancelled := by
        rcases hevent with rfl | rfl <;> decide
      rw [if_neg hne]
      exact frame.pure _
  exact frame.bind (sameRiders_of_aside (validate_aside _ _ _ _)) fun _ =>
    frame.bind
      (frame.bind (sameRiders_of_aside (activeLegOr_aside _
          (aside_frame.bind (aside_frame.read _) fun _ => createInHouseLeg_aside _ _ _)))
        fun leg => frame.bind (frame.ensure _ _) fun _ => frame.bind (happly leg) fun _ =>
          frame.ensure _ _) fun _ =>
      frame.bind (frame.read _) fun _ => frame.expect _ _

/-- A code that passes is the one presented. -/
theorem validate_ok {orderId : Nat} {type : HandoffCodeType} {rawCode : String}
    (h : (validate d orderId type rawCode).run s = .ok ((), s')) :
    ∃ code, presented d s orderId type rawCode = some code := by
  rw [validate, Tx.run_read_bind, Tx.run_read_bind] at h
  obtain ⟨code, _, hexpect, -⟩ := Tx.run_bind_eq_ok.mp h
  exact ⟨code, (Tx.run_expect_eq_ok.mp hexpect).1⟩

theorem presented_some {orderId : Nat} {type : HandoffCodeType} {rawCode : String}
    {code : HandoffCodeRow} (h : presented d s orderId type rawCode = some code) :
    code ∈ s.codes ∧ code.orderId = orderId ∧ code.type = type := by
  have hmem := latest_mem (Option.filter_eq_some_iff.mp h).1
  obtain ⟨hcode, hunused⟩ := List.mem_filter.mp hmem
  simp only [isUnusedCode, Bool.and_eq_true, decide_eq_true_eq] at hunused
  exact ⟨hcode, hunused.1.1, hunused.1.2⟩

/-- What a confirmed handover went through: a code was presented, and the order
kept its rider. -/
theorem handedOver_cases {step : ConfirmStep} {orderId : Nat} {args : ConfirmArgs}
    {type : HandoffCodeType} (htype : handoverType step = some type)
    (h : HandedOver s (System.exec d s (.confirm step orderId args)) step orderId) :
    (∃ code, presented d s orderId type args.code = some code) ∧
      ∃ o, getOrder (System.exec d s (.confirm step orderId args)) orderId = some o ∧
        ∃ o₀ ∈ s.orders, o₀.id = orderId ∧ o₀.riderId = o.riderId := by
  rcases exec_cases d s (.confirm step orderId args) with ⟨s', hrun, he⟩ | ⟨e, -, he⟩
  · rw [he] at h ⊢
    obtain ⟨o, s₁, hconfirm, hret⟩ := Tx.run_bind_eq_ok.mp hrun
    cases hret
    rcases confirm_ok hconfirm with ⟨hused, -, -⟩ | ⟨-, hbody⟩
    · exact absurd hused h.1
    · have handover : ∀ {event}, event = DeliveryEventType.pickedUp ∨ event = .delivered →
          (confirmHandoff d orderId type event args.code).run (insertKey step.scope orderId s)
            = .ok (o, s') →
          (∃ code, presented d s orderId type args.code = some code) ∧
            ∃ o, getOrder s' orderId = some o ∧
              ∃ o₀ ∈ s.orders, o₀.id = orderId ∧ o₀.riderId = o.riderId := by
        intro event hevent hrun
        have hsame := confirmHandoff_sameRiders d orderId type hevent args.code _ _ _ hrun orderId
        obtain ⟨_, s₂, hvalidate, hrest⟩ := Tx.run_bind_eq_ok.mp hrun
        obtain ⟨_, s₃, -, hread⟩ := Tx.run_bind_eq_ok.mp hrest
        rw [Tx.run_read_bind] at hread
        obtain ⟨horder, rfl⟩ := Tx.run_expect_eq_ok.mp hread
        have hcode : ∃ code, presented d (insertKey step.scope orderId s) orderId type args.code
            = some code := validate_ok hvalidate
        refine ⟨hcode, o, horder, ?_⟩
        rw [horder] at hsame
        obtain ⟨o₀, ho₀, hrider⟩ := Option.map_eq_some_iff.mp hsame.symm
        obtain ⟨hmem, hid⟩ := getOrder_mem ho₀
        exact ⟨o₀, hmem, hid, hrider⟩
      cases step with
      | pickup =>
          obtain rfl := Option.some.inj htype
          exact handover (Or.inl rfl) hbody
      | arrival =>
          obtain rfl := Option.some.inj htype
          exact handover (Or.inr rfl) hbody
      | _ => cases htype
  · rw [he] at h
    have hkeys : (rollback s e).keys = s.keys := (rollback_clerical s e).keys
    rw [HandedOver, hkeys] at h
    exact absurd h.2 h.1

theorem isRiderCode_of_handover {step : ConfirmStep} {type : HandoffCodeType}
    (h : handoverType step = some type) : isRiderCode type = true := by
  cases step <;> cases h <;> rfl

theorem handover_some {a : Action} {h : Handover} (hh : handover a = some h) :
    a = .work (.atomic (.confirm h.step h.orderId h.args)) ∧
      handoverType h.step = some h.type := by
  unfold handover at hh
  split at hh
  · obtain ⟨type, htype, rfl⟩ := Option.map_eq_some_iff.mp hh
    exact ⟨rfl, htype⟩
  · cases hh

/-- **At the counter.** A confirmed handover was proved by a code of the
order's rider just when the order is undisturbed since that code's check. -/
theorem proven_iff_fresh (hw : Vouched w) {a : Action} {h : Handover} (hh : handover a = some h)
    (hover : HandedOver w.work.db (exec d w a).work.db h.step h.orderId) :
    Proven d w a ↔ Fresh d w a := by
  obtain ⟨rfl, htype⟩ := handover_some hh
  obtain ⟨⟨code, hcode⟩, o, ho, o₀, ho₀, hid, hsame⟩ := handedOver_cases htype hover
  obtain ⟨hmem, horder, hkind⟩ := presented_some hcode
  have hholder : o.riderId = holder w.work.db.orderEvents h.orderId := by
    rw [← hsame, hw.held.riderId o₀ ho₀, hid]
  constructor
  · intro hproven h' hh' code' hcode' riderId hby check _ _
    obtain rfl := Option.some.inj (hh.symm.trans hh')
    obtain ⟨code'', hcode'', o', riderId', ho', hhas, hby'⟩ := hproven h hh hover
    obtain rfl := Option.some.inj (hcode'.symm.trans hcode'')
    obtain rfl := Option.some.inj (ho.symm.trans ho')
    obtain rfl := Option.some.inj (hby.symm.trans hby')
    exact undisturbed_of_holder (hholder.symm.trans hhas) check.2
  · intro hfresh h' hh' _
    obtain rfl := Option.some.inj (hh.symm.trans hh')
    have hrider : isRiderCode code.type = true := by
      rw [hkind]
      exact isRiderCode_of_handover htype
    obtain ⟨riderId, seen, hby, hcheck, -, hseen⟩ := hw.codes code hmem hrider
    rw [horder] at hseen
    have hsince := hfresh h hh code hcode riderId hby (code.id, seen) hcheck rfl
    exact ⟨code, hcode, o, riderId, ho, hholder.trans (holder_of_undisturbed hseen hsince), hby⟩

/-! ## Runs -/

theorem vouched_of_blank (h : Blank s) : Vouched (start s) := by
  refine ⟨⟨told_of_blank h, ?_⟩, ?_, ?_⟩
  · change ∀ o ∈ s.orders, _
    rw [h.initial.orders]
    exact fun o ho => absurd ho List.not_mem_nil
  · exact fun request hrequest => absurd hrequest List.not_mem_nil
  · change ∀ code ∈ s.codes, _
    rw [h.initial.codes]
    exact fun code hcode => absurd hcode List.not_mem_nil

/-- **Codes and riders.** In a run in which no order is released or given to
somebody else between the rider check of a request and the handover its code
confirms, every confirmed handover was proved by a code of the order's rider. -/
theorem codes_prove_riders (d : Deployment) {s₀ : State} (h : Blank s₀) (as : List Action)
    (hfresh : Runs.Meets (exec d) (Fresh d) (start s₀) as) :
    Runs.Meets (exec d) (Proven d) (start s₀) as := by
  have hvouched := vouched_of_blank h
  generalize start s₀ = w at hfresh hvouched
  induction as generalizing w with
  | nil => trivial
  | cons a as ih =>
      refine ⟨fun h hh hover => ?_, ih _ hfresh.2 (hvouched.exec a)⟩
      exact (proven_iff_fresh hvouched hh hover).mpr hfresh.1 h hh hover

/-- Two riders. -/
def demoRiders : State := { demoState with riders := [⟨3, .active, 0⟩, ⟨4, .active, 0⟩] }

theorem demoRiders_blank : Blank demoRiders where
  initial := { demoState_initial with riders := by decide, riders_idle := by decide }
  orderEvents := rfl

/-- Rider 3 has claimed the order, which the reconciler had read as unclaimed,
and asks for a code. -/
def demoAsked : List Action :=
  (RiderCapacity.demoOffered ++ [.readOverdue, .atomic (.accept 11 3)]
    : List Interleaved.Action).map .work ++
    [.check 11 3 .riderPickup, .issue 0 "third"]

/-- The reconciler takes the order from rider 3, rider 4 claims it, and the
code of rider 3 hands it over. -/
theorem stale_code_hands_over :
    let w := Runs.run (exec demo) (start demoRiders) (demoAsked ++
      [.work (.cancelAtProvider 0 true), .work (.cancelLocally 0), .work (.atomic (.accept 11 4))])
    let a := Action.work (.atomic (.confirm .pickup 11 (demoArgs "third")))
    (presented demo w.work.db 11 .riderPickup "third").map HandoffCodeRow.requestedByUserId
        = some (some 3) ∧
      (getOrder (exec demo w a).work.db 11).map OrderRow.riderId = some (some 4) ∧
      HandedOver w.work.db (exec demo w a).work.db .pickup 11 ∧ ¬ Proven demo w a := by
  intro w a
  have hcode : (presented demo w.work.db 11 .riderPickup "third").map
      HandoffCodeRow.requestedByUserId = some (some 3) := by decide +kernel
  have horder : (getOrder (exec demo w a).work.db 11).map OrderRow.riderId = some (some 4) := by
    decide +kernel
  have hover : HandedOver w.work.db (exec demo w a).work.db .pickup 11 := by
    unfold HandedOver
    decide +kernel
  refine ⟨hcode, horder, hover, fun h => ?_⟩
  obtain ⟨code, hpresented, o, riderId, ho, hhas, hby⟩ :=
    h ⟨.pickup, 11, demoArgs "third", .riderPickup⟩ rfl hover
  have hthird : code.requestedByUserId = some 3 := by
    have hpresented' : presented demo w.work.db 11 .riderPickup "third" = some code := hpresented
    rw [hpresented'] at hcode
    exact Option.some.inj hcode
  have hfourth : o.riderId = some 4 := by
    have ho' : getOrder (exec demo w a).work.db 11 = some o := ho
    rw [ho'] at horder
    exact Option.some.inj horder
  rw [hhas] at hfourth
  rw [hby] at hthird
  cases hthird
  cases hfourth

/-- With nobody in between, the code is good. -/
theorem demo_code_proves_rider :
    Runs.Meets (exec demo) (Proven demo) (start demoRiders)
      (demoAsked ++ [.work (.atomic (.confirm .pickup 11 (demoArgs "third")))]) :=
  codes_prove_riders demo demoRiders_blank _ (by decide +kernel)

end Locoomo.HandoverCodes
