import Locoomo.HandoverCodes
import Locoomo.StepKeys

/-! When a confirming step takes effect. A call of the staff moves its order
exactly when the order is one of their Node's and stands before the step's
edge, the parcel is with a rider where a rider's handover is confirmed, the
code asked for was typed in, and the earnings can be recorded; any other call
leaves every order as it was. -/

namespace Locoomo.CounterSteps

open Locoomo.Delivery Locoomo.Pricing Locoomo.Database Locoomo.Routing Locoomo.Logistics
  Locoomo.Handoffs Locoomo.System Locoomo.OrderMoves Locoomo.LegMoves Locoomo.Soundness
  Locoomo.Lockstep Locoomo.Frames Locoomo.Changes Locoomo.Transactions Locoomo.StepEffects
  Locoomo.HandoverCodes Locoomo.StepKeys Relational

/-! ## The conditions -/

/-- The code a step asks for. -/
def codeTypeOf : ConfirmStep → Option HandoffCodeType
  | .pickup => some .riderPickup
  | .arrival => some .riderArrival
  | .collection => some .receiverCollection
  | .returnCollect => some .senderCollection
  | .dropOff | .intake | .returnIntake => none

/-- The code typed in is the one the step asks for, where it asks for one. -/
def Proven (d : Deployment) (s : State) (step : ConfirmStep) (orderId : Nat) (code : String) :
    Prop :=
  ∀ type, codeTypeOf step = some type → (presented d s orderId type code).isSome = true

/-- A rider's handover confirms a leg of the in-house pool. -/
def Ridden (s : State) (step : ConfirmStep) (orderId : Nat) : Prop :=
  (handoverType step).isSome = true →
    ∃ leg, activeLeg s orderId = some leg ∧ leg.providerKey = inHouseProviderKey

/-- A rule to split the earnings by is in force when the step records them. -/
def Shared (s : State) (step : ConfirmStep) : Prop :=
  step = .collection →
    (currentRule RevenueSplitRule.effectiveFrom s.splitRules s.now).isSome = true

def statusOf (s : State) (orderId : Nat) : Option OrderStatus :=
  (getOrder s orderId).map OrderRow.status

/-- The call moves its order along the step's edge. -/
def Advances (d : Deployment) (s : State) (step : ConfirmStep) (orderId : Nat)
    (args : ConfirmArgs) : Prop :=
  statusOf s orderId = some (edgeOf step).1 ∧
    statusOf (System.exec d s (.confirm step orderId args)) orderId = some (edgeOf step).2

variable {d : Deployment} {s s' : State} {orderId : Nat}

/-! ## The parts of a step commit -/

theorem validate_total {type : HandoffCodeType} {code : String}
    (h : (presented d s orderId type code).isSome = true) :
    ∃ s', (validate d orderId type code).run s = .ok ((), s') := by
  obtain ⟨row, hrow⟩ := Option.isSome_iff_exists.mp h
  rw [validate, Tx.run_read_bind, Tx.run_read_bind]
  change ∃ s', (Tx.expect (presented d s orderId type code) _ >>= _).run s = .ok ((), s')
  rw [hrow, Tx.expect_some, Tx.run_pure_bind]
  exact ⟨_, rfl⟩

/-- Nothing has been recorded yet for an order that is not completed. -/
theorem record_total {order : OrderRow} {rule : RevenueSplitRule}
    (hrule : currentRule RevenueSplitRule.effectiveFrom s.splitRules s.now = some rule)
    (hnone : Money.entriesOf s order.id = []) : ∃ s', (record order).run s = .ok ((), s') := by
  have hfresh : ∀ partyType, hasEntry s.entries order.id partyType = false := by
    intro partyType
    rw [hasEntry, List.any_eq_false]
    intro e he hparty
    have hmem : e ∈ Money.entriesOf s order.id :=
      List.mem_filter.mpr ⟨he, decide_eq_true (of_decide_eq_true hparty).1⟩
    rw [hnone] at hmem
    cases hmem
  have hall : ((splitEntries order rule).all fun entry =>
      !hasEntry s.entries order.id entry.partyType) = true := by
    rw [List.all_eq_true]
    intro entry _
    rw [hfresh]
    rfl
  rw [record, Tx.run_read_bind, hrule, Tx.expect_some, Tx.run_pure_bind, Tx.run_read_bind, hall,
    Tx.ensure_true, Tx.run_pure_bind]
  exact ⟨_, rfl⟩

/-- The leg's status is the one its order stands beside. -/
theorem nextLegStatus_of_paired {status : DeliveryLegStatus} {event : DeliveryEventType}
    (hactive : isActive status = true) (hevent : event = .pickedUp ∨ event = .delivered)
    (h : pairedStatus status = (orderEdge event).1) : nextLegStatus status event ≠ none := by
  revert hactive h
  rcases hevent with rfl | rfl <;> cases status <;> decide

theorem recordInHouseHandover_total (hs : InStep s) {o : OrderRow} {leg : DeliveryLegRow}
    {event : DeliveryEventType} (hevent : event = .pickedUp ∨ event = .delivered)
    (ho : getOrder s orderId = some o) (hsource : o.status = (orderEdge event).1)
    (hleg : activeLeg s orderId = some leg) (hkey : leg.providerKey = inHouseProviderKey) :
    ∃ s', (recordInHouseHandover d orderId event).run s = .ok ((), s') := by
  obtain ⟨hmem, horder, hactive⟩ := activeLeg_some hleg
  obtain ⟨homem, hoid⟩ := getOrder_mem ho
  have hpaired := (hs.paired leg hmem hactive o homem (hoid.trans horder.symm)).1
  have hnext : nextLegStatus leg.status event ≠ none :=
    nextLegStatus_of_paired hactive hevent (hpaired.symm.trans hsource)
  obtain ⟨r, s₁, happly⟩ := apply_commits (d := d) none hs hmem ((Twin.refl leg).stands event)
  have hmoved : r.isSome = true := by
    rcases apply_ok happly with ⟨hnone, -, -⟩ | ⟨next, -, -, rfl, -, -⟩
    · exact absurd hnone hnext
    · rfl
  have hactiveLeg : (activeLegOr orderId (createHandoverLeg orderId event)).run s
      = .ok (leg, s) := by
    rw [activeLegOr, Tx.run_read_bind, hleg]
    rfl
  refine ⟨s₁, ?_⟩
  rw [recordInHouseHandover, Tx.run_bind_of_ok hactiveLeg, decide_eq_true hkey, Tx.ensure_true,
    Tx.run_pure_bind, Tx.run_bind_of_ok happly, hmoved]
  rfl

theorem confirmHandoff_total (hs : InStep s) {o : OrderRow} {leg : DeliveryLegRow}
    {type : HandoffCodeType} {event : DeliveryEventType} {code : String}
    (hevent : event = .pickedUp ∨ event = .delivered) (ho : getOrder s orderId = some o)
    (hsource : o.status = (orderEdge event).1) (hleg : activeLeg s orderId = some leg)
    (hkey : leg.providerKey = inHouseProviderKey)
    (hcode : (presented d s orderId type code).isSome = true) :
    ∃ o' s', (confirmHandoff d orderId type event code).run s = .ok (o', s') := by
  obtain ⟨s₁, hvalidate⟩ := validate_total hcode
  have hclerical := (validate_noted d orderId type code s () s₁ hvalidate).clerical
  have ho₁ : getOrder s₁ orderId = some o := by
    rw [getOrder, hclerical.orders]
    exact ho
  have hleg₁ : activeLeg s₁ orderId = some leg := by
    rw [activeLeg, hclerical.legs]
    exact hleg
  obtain ⟨s₂, hhandover⟩ := recordInHouseHandover_total (d := d) (clerical_inStep hs hclerical)
    hevent ho₁ hsource hleg₁ hkey
  have hhistory : Histories.History false s₁ s₂ :=
    Histories.recordInHouseHandover_history d orderId event s₁ () s₂ hhandover
  have honwards : Onwards s₁ s₂ := onwards_of_history hhistory
  obtain ⟨o', ho', -⟩ := honwards orderId o ho₁
  refine ⟨o', s₂, ?_⟩
  rw [confirmHandoff, Tx.run_bind_of_ok hvalidate, Tx.run_bind_of_ok hhandover, Tx.run_read_bind,
    ho']
  rfl

/-! ## The body of a step commits -/

/-- A move and what follows it. -/
theorem moves_total {x : Db OrderRow} {y : OrderRow → Db OrderRow} {source target : OrderStatus}
    {o : OrderRow} (hx : Moves x orderId source target anyOrder id)
    (ho : getOrder s orderId = some o) (hsource : o.status = source)
    (hy : ∀ {o' t}, Moved s t orderId o o' → ∃ p t', (y o').run t = .ok (p, t')) :
    ∃ p t', (x >>= y).run s = .ok (p, t') := by
  obtain ⟨o', t, hmove⟩ := hx.total ho hsource rfl
  obtain ⟨o₀, hmoved, -⟩ := hx.ok hmove
  obtain rfl : o₀ = o := Option.some.inj (hmoved.found.symm.trans ho)
  obtain ⟨p, t', hrest⟩ := hy hmoved
  exact ⟨p, t', by rw [Tx.run_bind_of_ok hmove, hrest]⟩

/-- **A step commits** when its order stands where the step starts and all it
asks for is there. -/
theorem stepBody_total (hs : InStep s) (hearned : Money.Earned s) {step : ConfirmStep}
    {args : ConfirmArgs} {o : OrderRow} (ho : getOrder s orderId = some o)
    (hsource : o.status = (edgeOf step).1) (hridden : Ridden s step orderId)
    (hproven : Proven d s step orderId args.code) (hshared : Shared s step) :
    ∃ o' s', (stepBody d step orderId args).run s = .ok (o', s') := by
  -- a collection: the code is used up before the order moves
  have collected : ∀ {type}, codeTypeOf step = some type →
      ∃ s₁, (validate d orderId type args.code).run s = .ok ((), s₁) ∧ Clerical s s₁ ∧
        getOrder s₁ orderId = some o := by
    intro type htype
    obtain ⟨s₁, hvalidate⟩ := validate_total (hproven type htype)
    have hclerical := (validate_noted d orderId type args.code s () s₁ hvalidate).clerical
    refine ⟨s₁, hvalidate, hclerical, ?_⟩
    rw [getOrder, hclerical.orders]
    exact ho
  cases step with
  | dropOff =>
      refine moves_total (markReceivedAtOrigin_moves orderId) ho hsource fun {o' t} hmoved => ?_
      have ho' : getOrder { t with outbox := t.outbox ++ [.email orderId .onItsWay] } orderId
          = some o' := hmoved.found'
      obtain ⟨r, t', hdispatch⟩ := dispatch_total d .forward none ho'
      exact ⟨o', t', by rw [enqueue, Tx.run_write_bind, Tx.run_bind_of_ok hdispatch]; rfl⟩
  | pickup =>
      obtain ⟨leg, hleg, hkey⟩ := hridden rfl
      exact confirmHandoff_total hs (Or.inl rfl) ho hsource hleg hkey (hproven _ rfl)
  | arrival =>
      obtain ⟨leg, hleg, hkey⟩ := hridden rfl
      exact confirmHandoff_total hs (Or.inr rfl) ho hsource hleg hkey (hproven _ rfl)
  | intake =>
      exact moves_total (markReadyForCollection_moves orderId) ho hsource fun _ => ⟨_, _, rfl⟩
  | collection =>
      obtain ⟨s₁, hvalidate, hclerical, ho₁⟩ := collected rfl
      obtain ⟨rule, hrule⟩ := Option.isSome_iff_exists.mp (hshared rfl)
      have hsplit : s₁.splitRules = s.splitRules ∧ s₁.now = s.now := by
        have hnoted := validate_noted d orderId .receiverCollection args.code s () s₁ hvalidate
        rw [hnoted.frame]
        exact ⟨rfl, rfl⟩
      obtain ⟨p, t', hrest⟩ := moves_total (y := fun order => do record order; return order)
        (markCollected_moves orderId (.collected args.identityConfirmed)) ho₁ hsource
        fun {o' t} hmoved => by
          have hrule' : currentRule RevenueSplitRule.effectiveFrom t.splitRules t.now
              = some rule := by
            rw [hmoved.frame, ← hrule, ← hsplit.1, ← hsplit.2]
          have hnone : Money.entriesOf t o'.id = [] := by
            obtain ⟨homem, hoid⟩ := getOrder_mem ho
            have hempty := hearned.none o homem (by rw [hsource]; decide)
            have hentries : t.entries = s.entries := by
              rw [hmoved.frame]
              exact hclerical.entries
            rw [Money.entriesOf, hentries, hmoved.id_eq', ← hoid]
            exact hempty
          obtain ⟨t', hrecord⟩ := record_total hrule' hnone
          exact ⟨o', t', by rw [Tx.run_bind_of_ok hrecord]; rfl⟩
      exact ⟨p, t', by rw [stepBody, confirmCollection, Tx.run_bind_of_ok hvalidate, hrest]⟩
  | returnIntake =>
      exact moves_total (markReadyForSenderCollection_moves orderId) ho hsource
        fun _ => ⟨_, _, rfl⟩
  | returnCollect =>
      obtain ⟨s₁, hvalidate, -, ho₁⟩ := collected rfl
      obtain ⟨p, t', hrest⟩ := moves_total
        (y := fun order => do releaseCapacitySlot order.originNodeId; return order)
        (markCollectedBySender_moves orderId (.collected args.identityConfirmed)) ho₁ hsource
        fun _ => ⟨_, _, rfl⟩
      exact ⟨p, t', by rw [stepBody, confirmReturnCollection, Tx.run_bind_of_ok hvalidate, hrest]⟩

/-! ## What a committed step has shown -/

theorem confirm_owned {step : ConfirmStep} {args : ConfirmArgs} {o' : OrderRow}
    (h : (Handoffs.confirm d step orderId args).run s = .ok (o', s')) :
    ∃ o, getOrder s orderId = some o ∧ ownsOrder step args o = true := by
  rw [Handoffs.confirm, Tx.run_read_bind] at h
  obtain ⟨_, s₁, hown, -⟩ := Tx.run_bind_eq_ok.mp h
  obtain ⟨hown, -⟩ := Tx.run_ensure_eq_ok.mp hown
  exact (Option.any_eq_true _ _).mp hown

theorem stepBody_proven {step : ConfirmStep} {args : ConfirmArgs} {o' : OrderRow}
    (h : (stepBody d step orderId args).run s = .ok (o', s')) :
    Proven d s step orderId args.code := by
  have validated : ∀ {type : HandoffCodeType} {x : Unit → Db OrderRow},
      (validate d orderId type args.code >>= x).run s = .ok (o', s') →
      (presented d s orderId type args.code).isSome = true := by
    intro type x hrun
    obtain ⟨_, s₁, hvalidate, -⟩ := Tx.run_bind_eq_ok.mp hrun
    exact Option.isSome_iff_exists.mpr (validate_ok hvalidate)
  intro type htype
  cases step with
  | pickup | arrival | collection | returnCollect =>
      obtain rfl := Option.some.inj htype
      exact validated h
  | _ => cases htype

/-- A handover that commits worked on the active leg, which a rider carries. -/
theorem stepBody_ridden (hs : Aligned s) {step : ConfirmStep} {args : ConfirmArgs} {o' : OrderRow}
    (h : (stepBody d step orderId args).run s = .ok (o', s')) : Ridden s step orderId := by
  have handed : ∀ {type event}, (event = .pickedUp ∨ event = .delivered) →
      (confirmHandoff d orderId type event args.code).run s = .ok (o', s') →
      ∃ leg, activeLeg s orderId = some leg ∧ leg.providerKey = inHouseProviderKey := by
    intro type event hevent hrun
    obtain ⟨_, s₁, hvalidate, hrest⟩ := Tx.run_bind_eq_ok.mp hrun
    obtain ⟨_, s₂, hhandover, -⟩ := Tx.run_bind_eq_ok.mp hrest
    have hclerical := (validate_noted d orderId type args.code s () s₁ hvalidate).clerical
    have hlegs : activeLeg s orderId = activeLeg s₁ orderId := by
      rw [activeLeg, activeLeg, hclerical.legs]
    obtain ⟨leg, s₃, hleg, hrest₁⟩ := Tx.run_bind_eq_ok.mp hhandover
    obtain ⟨_, s₄, hensure, hrest₂⟩ := Tx.run_bind_eq_ok.mp hrest₁
    obtain ⟨hkey, rfl⟩ := Tx.run_ensure_eq_ok.mp hensure
    obtain ⟨r, s₅, happly, hret⟩ := Tx.run_bind_eq_ok.mp hrest₂
    obtain ⟨hmoved, -⟩ := Tx.run_ensure_eq_ok.mp hret
    rcases activeLegOr_ok hleg with ⟨hactive, -⟩ | ⟨hnone, hcreate⟩
    · exact ⟨leg, hlegs.trans hactive, of_decide_eq_true hkey⟩
    · -- an order under way always has a leg, so none was made for it
      simp only [createHandoverLeg, Tx.run_read_bind] at hcreate
      obtain ⟨n, rfl, hinserted⟩ := createInHouseLeg_inserted hcreate
      obtain ⟨o, ho, hsource⟩ := apply_source rfl (Or.inr hevent)
        (by rintro rfl; cases hmoved) happly
      rw [getOrder, hinserted.frame] at ho
      obtain ⟨homem, hoid⟩ := getOrder_mem (s := s₁) ho
      have hs₁ := clerical_inStep hs.inStep hclerical
      have hneeds : needsLeg o.status = true := by
        rw [hsource]
        rcases hevent with rfl | rfl <;> rfl
      obtain ⟨l, hl, hlo, hact⟩ := hs₁.covered o homem hneeds
      rw [activeLeg_none hnone l hl (hlo.trans hoid)] at hact
      cases hact
  intro hstep
  cases step with
  | pickup => exact handed (Or.inl rfl) h
  | arrival => exact handed (Or.inr rfl) h
  | _ => cases hstep

theorem stepBody_shared {step : ConfirmStep} {args : ConfirmArgs} {o' : OrderRow}
    (h : (stepBody d step orderId args).run s = .ok (o', s')) : Shared s step := by
  rintro rfl
  obtain ⟨_, s₁, hvalidate, hrest⟩ := Tx.run_bind_eq_ok.mp h
  obtain ⟨o, s₂, hmove, hrest⟩ := Tx.run_bind_eq_ok.mp hrest
  obtain ⟨_, s₃, hrecord, -⟩ := Tx.run_bind_eq_ok.mp hrest
  obtain ⟨o₀, hmoved, -⟩ := (markCollected_moves orderId _).ok hmove
  have hnoted := validate_noted d orderId .receiverCollection args.code s () s₁ hvalidate
  have hrules : s₂.splitRules = s.splitRules ∧ s₂.now = s.now := by
    rw [hmoved.frame, hnoted.frame]
    exact ⟨rfl, rfl⟩
  rw [record, Tx.run_read_bind] at hrecord
  obtain ⟨rule, s₄, hexpect, -⟩ := Tx.run_bind_eq_ok.mp hrecord
  rw [← hrules.1, ← hrules.2, (Tx.run_expect_eq_ok.mp hexpect).1]
  rfl

/-! ## The exact condition -/

theorem statusOf_eq {status : OrderStatus} :
    statusOf s orderId = some status ↔ ∃ o, getOrder s orderId = some o ∧ o.status = status :=
  Option.map_eq_some_iff

/-- A call either runs the body under a fresh key, or changes neither an order
nor a timeline. -/
theorem exec_confirm (step : ConfirmStep) (orderId : Nat) (args : ConfirmArgs) :
    (∃ o' s', (Handoffs.confirm d step orderId args).run s = .ok (o', s') ∧
      System.exec d s (.confirm step orderId args) = s' ∧
      (stepBody d step orderId args).run (insertKey step.scope orderId s) = .ok (o', s')) ∨
    ((System.exec d s (.confirm step orderId args)).orders = s.orders ∧
      (System.exec d s (.confirm step orderId args)).orderEvents = s.orderEvents) := by
  rcases exec_cases d s (.confirm step orderId args) with ⟨s', hrun, he⟩ | ⟨e, -, he⟩
  · obtain ⟨o', s₁, hconfirm, hret⟩ := Tx.run_bind_eq_ok.mp hrun
    cases hret
    rw [he]
    rcases confirm_ok hconfirm with ⟨-, -, rfl⟩ | ⟨-, hbody⟩
    · exact Or.inr ⟨rfl, rfl⟩
    · exact Or.inl ⟨o', s', hconfirm, rfl, hbody⟩
  · rw [he]
    have haside : Histories.Aside false s (rollback s e) := Histories.rollback_aside s e
    exact Or.inr ⟨haside.orders, haside.orderEvents⟩

theorem insertKey_aligned (d : Deployment) (h : Aligned s) (scope : String) (key : Nat) :
    Aligned (insertKey scope key s) := by
  have hkey : Changes.Change d false (fun _ => none) s (insertKey scope key s) :=
    insertKey_change scope key
  exact hkey.aligned h

/-- **When a confirming step takes effect**, to the letter. -/
theorem advances_iff (h : Orderly s) {step : ConfirmStep} {args : ConfirmArgs} :
    Advances d s step orderId args ↔
      ∃ o, getOrder s orderId = some o ∧ ownsOrder step args o = true ∧
        o.status = (edgeOf step).1 ∧ Ridden s step orderId ∧
        Proven d s step orderId args.code ∧ Shared s step := by
  have hkeyed := insertKey_aligned d h.aligned step.scope orderId
  constructor
  · rintro ⟨hbefore, hafter⟩
    rcases exec_confirm (d := d) (s := s) step orderId args with
      ⟨o', s', hconfirm, -, hbody⟩ | ⟨horders, -⟩
    · obtain ⟨o, ho, howns⟩ := confirm_owned hconfirm
      obtain ⟨o₁, ho₁, hsource⟩ := statusOf_eq.mp hbefore
      obtain rfl : o₁ = o := Option.some.inj (ho₁.symm.trans ho)
      have hproven : Proven d (insertKey step.scope orderId s) step orderId args.code :=
        stepBody_proven hbody
      have hshared : Shared (insertKey step.scope orderId s) step := stepBody_shared hbody
      exact ⟨o₁, ho, howns, hsource, stepBody_ridden hkeyed hbody, hproven, hshared⟩
    · -- the order would stand on both ends of the edge
      rw [statusOf, getOrder, horders] at hafter
      have hends := hbefore.symm.trans hafter
      cases step <;> cases hends
  · rintro ⟨o, ho, howns, hsource, hridden, hproven, hshared⟩
    have hfree := h.keyed.free ho hsource
    have hearned : Money.Earned (insertKey step.scope orderId s) := h.earned.same rfl rfl le_rfl
    obtain ⟨o', s', hbody⟩ : ∃ o' s', (stepBody d step orderId args).run
        (insertKey step.scope orderId s) = .ok (o', s') :=
      stepBody_total hkeyed.inStep hearned ho hsource hridden hproven hshared
    have hlogged := stepBody_logs hkeyed hbody
    have hkey : (withIdempotency step.scope orderId (stepBody d step orderId args)).run s
        = .ok (some o', s') := by
      rw [withIdempotency, Tx.run_query_bind, if_neg hfree]
      exact Tx.run_bind_of_ok hbody
    have hconfirm : (Handoffs.confirm d step orderId args).run s = .ok (o', s') := by
      rw [Handoffs.confirm, Tx.run_read_bind, ho, Option.any_some, howns, Tx.ensure_true,
        Tx.run_pure_bind, Tx.run_bind_of_ok hkey]
      rfl
    refine ⟨statusOf_eq.mpr ⟨o, ho, hsource⟩, ?_⟩
    have hexec : System.exec d s (.confirm step orderId args) = s' := by
      rw [System.exec, tx, Tx.run_bind_of_ok hconfirm]
      rfl
    rw [hexec]
    exact statusOf_eq.mpr ⟨o', hlogged.current, hlogged.status⟩

/-- A call that does not move its order touches no order and no timeline. -/
theorem unmoved (h : Orderly s) {step : ConfirmStep} {args : ConfirmArgs}
    (hnot : ¬ Advances d s step orderId args) :
    (System.exec d s (.confirm step orderId args)).orders = s.orders ∧
      (System.exec d s (.confirm step orderId args)).orderEvents = s.orderEvents := by
  rcases exec_confirm (d := d) (s := s) step orderId args with ⟨o', s', -, he, hbody⟩ | hsame
  · have hkeyed := insertKey_aligned d h.aligned step.scope orderId
    have hlogged := stepBody_logs hkeyed hbody
    refine absurd ⟨?_, ?_⟩ hnot
    · obtain ⟨o, ho, hsource⟩ := hlogged.before
      exact statusOf_eq.mpr ⟨o, ho, hsource⟩
    · rw [he]
      exact statusOf_eq.mpr ⟨o', hlogged.current, hlogged.status⟩
  · exact hsame

end Locoomo.CounterSteps
