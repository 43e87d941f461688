import Locoomo.Books

/-! A Node's counter is what the capacity audit counts, in every reachable
state: one slot for each pending intent, and one for each paid order whose
parcel is still, or again, at the Node. -/

namespace Locoomo.NodeCapacity

open Locoomo.Delivery Locoomo.Database Locoomo.Routing Locoomo.Payments Locoomo.System
  Locoomo.OrderMoves Locoomo.LegMoves Locoomo.Lockstep Locoomo.Frames Locoomo.Changes
  Locoomo.Effects Locoomo.Books Locoomo.Transactions Relational

/-! ## The audit -/

/-- A pending intent of the Node. -/
def pendingAt (nodeId : Nat) (i : PaymentIntentRow) : Bool :=
  decide (i.status = .pending) && decide (i.originNodeId = nodeId)

/-- A joined row the audit counts for the Node. -/
def paidAt (nodeId : Nat) (row : PaymentIntentRow × OrderRow) : Bool :=
  decide (row.1.status = .paid) && holdsSlot row.2.status && decide (row.1.originNodeId = nodeId)

/-- The two halves of the `UNION ALL`. -/
def expectedCount (s : State) (nodeId : Nat) : Nat :=
  s.intents.countP (pendingAt nodeId) +
    (join (fun i o => decide (o.paymentIntentId = i.id)) s.intents s.orders).countP (paidAt nodeId)

structure NodeCapacityMismatchRow where
  nodeId : Nat
  storedCount : Nat
  expectedCount : Nat
  deriving DecidableEq, Repr

/-- `CapacityAuditQueryService.auditNodes`. -/
def auditNodes (s : State) : List NodeCapacityMismatchRow :=
  (s.nodes.filter fun n => n.currentCount ≠ expectedCount s n.id).map fun n =>
    ⟨n.id, n.currentCount, expectedCount s n.id⟩

/-! ## The count without the join -/

/-- An order whose parcel takes a slot at the Node. -/
def parcelAt (nodeId : Nat) (o : OrderRow) : Bool :=
  holdsSlot o.status && decide (o.originNodeId = nodeId)

def held (s : State) (nodeId : Nat) : Nat :=
  s.intents.countP (pendingAt nodeId) + s.orders.countP (parcelAt nodeId)

variable {recalls : Bool} {answers : Answers} {s s' : State}

/-- Every order joins exactly the intent that paid for it. -/
theorem expectedCount_eq (h : Balanced s) (nodeId : Nat) :
    expectedCount s nodeId = held s nodeId := by
  have hjoin : (join (fun i o => decide (o.paymentIntentId = i.id)) s.intents s.orders).countP
      (paidAt nodeId) = s.orders.countP (parcelAt nodeId) := by
    refine countP_join_right _ _ _ fun o ho => ?_
    obtain ⟨i, hi, hf⟩ := h.funded o ho
    have hparcel : parcelAt nodeId o = paidAt nodeId (i, o) := by
      simp [parcelAt, paidAt, hf.paid, hf.originNodeId]
    rw [hparcel, ← h.intentIds.countP_key hi fun x => paidAt nodeId (x, o)]
    refine List.countP_congr fun x _ => ?_
    have hcomm : decide (o.paymentIntentId = x.id) = decide (x.id = o.paymentIntentId) :=
      decide_eq_decide.mpr eq_comm
    rw [hf.id, hcomm]
  rw [expectedCount, hjoin, held]

/-! ## The counter -/

structure Counted (s : State) : Prop where
  nodeIds : Distinct NodeRow.id s.nodes
  count : ∀ n ∈ s.nodes, n.currentCount = held s n.id
  clamp : s.clampHits = 0

/-- One more slot taken at `nodeId`. -/
theorem Counted.up (h : Counted s) (nodeId : Nat)
    (hnodes : s'.nodes = (adjustNode nodeId (· + 1) s).nodes)
    (hheld : ∀ k, held s' k = held s k + (decide (nodeId = k)).toNat)
    (hclamp : s'.clampHits = s.clampHits) : Counted s' where
  nodeIds := by
    rw [hnodes]
    exact h.nodeIds.update fun _ _ _ => rfl
  count := by
    intro n hn
    rw [hnodes] at hn
    obtain ⟨m, hm, rfl⟩ := mem_update.mp hn
    have hcount := h.count m hm
    have hk := hheld m.id
    by_cases hid : m.id = nodeId
    · rw [hid] at hcount hk
      simp only [hid, decide_true, if_true, Bool.toNat_true] at hk ⊢
      omega
    · have hid' : ¬ nodeId = m.id := fun heq => hid heq.symm
      simp only [hid', decide_false, Bool.toNat_false] at hk
      simp only [hid, decide_false, Bool.false_eq_true, if_false]
      omega
  clamp := hclamp.trans h.clamp

/-- One slot given back: there was one to give, so the clamp is idle. -/
theorem Counted.down (h : Counted s) (nodeId : Nat)
    (hnodes : s'.nodes = (releaseNode nodeId s).nodes)
    (hheld : ∀ k, held s' k + (decide (nodeId = k)).toNat = held s k)
    (hclamp : s'.clampHits = (releaseNode nodeId s).clampHits) : Counted s' where
  nodeIds := by
    rw [hnodes]
    exact h.nodeIds.update fun _ _ _ => rfl
  count := by
    intro n hn
    rw [hnodes] at hn
    obtain ⟨m, hm, rfl⟩ := mem_update.mp hn
    have hcount := h.count m hm
    have hk := hheld m.id
    by_cases hid : m.id = nodeId
    · simp only [hid, decide_true, if_true, Bool.toNat_true] at hk ⊢
      rw [hid] at hcount
      omega
    · have hid' : ¬ nodeId = m.id := fun heq => hid heq.symm
      simp only [hid', decide_false, Bool.toNat_false] at hk
      simp only [hid, decide_false, Bool.false_eq_true, if_false]
      omega
  clamp := by
    have hzero : (s.nodes.countP fun n => n.id = nodeId ∧ n.currentCount = 0) = 0 := by
      refine List.countP_eq_zero.mpr fun n hn hp => ?_
      obtain ⟨hid, hempty⟩ := of_decide_eq_true hp
      have hcount := h.count n hn
      have hk := hheld nodeId
      rw [hid] at hcount
      simp only [decide_true, Bool.toNat_true] at hk
      omega
    rw [hclamp]
    change s.clampHits + _ = 0
    rw [hzero, h.clamp]

/-- Nothing taken, nothing given back. -/
theorem Counted.same (h : Counted s) (hnodes : s'.nodes = s.nodes)
    (hheld : ∀ k, held s' k = held s k) (hclamp : s'.clampHits = s.clampHits) : Counted s' where
  nodeIds := by rw [hnodes]; exact h.nodeIds
  count := by
    intro n hn
    rw [hheld]
    exact h.count n (hnodes ▸ hn)
  clamp := hclamp.trans h.clamp

/-- What a stored intent does to the pending count. -/
theorem pending_put (hb : Balanced s) {intent : PaymentIntentRow} (hmem : intent ∈ s.intents)
    (hpending : intent.status = .pending) (intent' : PaymentIntentRow)
    (hid : intent'.id = intent.id) (hended : intent'.status ≠ .pending) (nodeId : Nat) :
    (put PaymentIntentRow.id intent' s.intents).countP (pendingAt nodeId) +
      (decide (intent.originNodeId = nodeId)).toNat = s.intents.countP (pendingAt nodeId) := by
  have hput := hb.intentIds.countP_put (q := pendingAt nodeId) hmem hid
  have hold : pendingAt nodeId intent = decide (intent.originNodeId = nodeId) := by
    simp [pendingAt, hpending]
  have hnew : pendingAt nodeId intent' = false := by
    simp [pendingAt, hended]
  rw [hold, hnew] at hput
  exact hput

theorem Counted.book (h : Counted s) {intent : PaymentIntentRow} (hb : Booked s s' intent) :
    Counted s' := by
  refine h.up intent.originNodeId (by rw [hb.eq]) (fun k => ?_) (by rw [hb.eq]; rfl)
  have hintents : s'.intents = s.intents ++ [intent] := by rw [hb.eq]
  have horders : s'.orders = s.orders := by rw [hb.eq]; rfl
  have hone : pendingAt k intent = decide (intent.originNodeId = k) := by
    simp [pendingAt, hb.status]
  rw [held, held, hintents, horders, List.countP_append, List.countP_singleton, hone]
  by_cases hk : intent.originNodeId = k
  · simp only [hk, decide_true, if_true, Bool.toNat_true]
    omega
  · simp [hk]

theorem Counted.pay (h : Counted s) (hb : Balanced s) {intent : PaymentIntentRow}
    {verification : PaymentVerificationResult} {order : OrderRow}
    (hpayable : Payable s intent verification) (hc : Confirmed s s' intent verification order) :
    Counted s' := by
  refine h.same (by rw [hc.frame]) (fun k => ?_) (by rw [hc.frame])
  have hput := pending_put hb hpayable.stored hpayable.pending
    (paidIntent intent verification s.now) rfl (fun he => by cases he) k
  have hparcel : parcelAt k order = decide (intent.originNodeId = k) := by
    rw [parcelAt, hc.placed.status, hc.placed.originNodeId]
    rfl
  rw [held, held, hc.intents, hc.orders, List.countP_append, List.countP_singleton, hparcel]
  by_cases hk : intent.originNodeId = k
  · simp only [hk, decide_true, if_true, Bool.toNat_true] at hput ⊢
    omega
  · simp only [hk, decide_false, Bool.false_eq_true, if_false, Bool.toNat_false] at hput ⊢
    omega

/-- What a moved order does to the count of parcels. -/
theorem parcel_put (hs : InStep s) {o o' : OrderRow} (hmem : o ∈ s.orders)
    (hcore : core o' = core o)
    (k : Nat) :
    (put OrderRow.id o' s.orders).countP (parcelAt k) +
        (holdsSlot o.status && decide (o.originNodeId = k)).toNat
      = s.orders.countP (parcelAt k) +
        (holdsSlot o'.status && decide (o.originNodeId = k)).toNat := by
  have hput := hs.orderIds.countP_put (q := parcelAt k) hmem (core_id hcore)
  rw [parcelAt, parcelAt, originNodeId_of_core hcore] at hput
  exact hput

theorem Counted.move (h : Counted s) (hs : InStep s) {o o' : OrderRow} (hm : Shift s s' o o') :
    Counted s' := by
  have hput := parcel_put hs hm.mem hm.same
  have hheld : ∀ k, held s' k = s.intents.countP (pendingAt k) +
      (put OrderRow.id o' s.orders).countP (parcelAt k) := by
    intro k
    rw [held, hm.intents, hm.orders]
  have hnodes := hm.nodes
  have hclamp := hm.clampHits
  rw [nodeAfter_nodes] at hnodes
  rw [nodeAfter_clampHits] at hclamp
  cases hbefore : holdsSlot o.status with
  | true =>
      cases hafter : holdsSlot o'.status with
      | true =>
          rw [hbefore, hafter] at hnodes hclamp hput
          refine h.same hnodes (fun k => ?_) hclamp
          have := hput k
          rw [hheld, held]
          omega
      | false =>
          rw [hbefore, hafter] at hnodes hclamp hput
          refine h.down o.originNodeId hnodes (fun k => ?_) hclamp
          have := hput k
          simp only [Bool.true_and, Bool.false_and, Bool.toNat_false] at this
          rw [hheld, held]
          omega
  | false =>
      cases hafter : holdsSlot o'.status with
      | true =>
          rw [hbefore, hafter] at hnodes hclamp hput
          refine h.up o.originNodeId hnodes (fun k => ?_) hclamp
          have := hput k
          simp only [Bool.true_and, Bool.false_and, Bool.toNat_false] at this
          rw [hheld, held]
          omega
      | false =>
          rw [hbefore, hafter] at hnodes hclamp hput
          refine h.same hnodes (fun k => ?_) hclamp
          have := hput k
          rw [hheld, held]
          omega

/-- **Every effect moves the counter with the count.** -/
theorem Counted.keep (hs : InStep s) (hb : Balanced s) (h : Counted s)
    (he : Effect recalls answers s s') :
    Counted s' := by
  cases he with
  | still hstill =>
      exact h.same hstill.nodes (fun k => by rw [held, held, hstill.intents, hstill.orders])
        hstill.clampHits
  | book hbooked => exact h.book hbooked
  | refer intentId hr =>
      cases hr
      refine h.same rfl (fun k => ?_) rfl
      rw [held, held]
      congr 1
      exact countP_update_of_keep _ fun _ _ _ => rfl
  | pay hanswer hpayable hc => exact h.pay hb hpayable hc
  | @expire intent hmem hpending heq =>
      refine h.down intent.originNodeId (by rw [heq]; rfl) (fun k => ?_)
        (by rw [heq]; rfl)
      have hput := pending_put hb hmem hpending { intent with status := .expired } rfl
        (fun he => by cases he) k
      rw [heq]
      change _ + _ + _ = _
      rw [held]
      change (put PaymentIntentRow.id { intent with status := .expired } s.intents).countP _ +
        s.orders.countP _ + _ = _
      omega
  | move hm => exact h.move hs hm.toShift

theorem counted_change {d : Deployment} (hs : Aligned s) (h : Balanced s ∧ Counted s)
    (hc : Change d recalls answers s s') : Balanced s' ∧ Counted s' := by
  have heffect := effect_of_change hs.inStep hc
  exact ⟨h.1.keep hs.inStep heffect, h.2.keep hs.inStep h.1 heffect⟩

theorem counted_of_initial (h : Initial s) : Counted s where
  nodeIds := h.nodes
  count := by
    intro n hn
    rw [h.nodes_idle n hn, held, h.intents, h.orders]
    rfl
  clamp := h.clampHits

theorem run_counted (d : Deployment) (h : Initial s) (as : List Action) :
    Aligned (run d s as) ∧ Balanced (run d s as) ∧ Counted (run d s as) :=
  run_keeps counted_change (aligned_of_initial h) ⟨balanced_of_initial h, counted_of_initial h⟩ as

/-- A reservation that takes a slot stays within the Node's capacity. -/
theorem reserve_le_capacity (h : Counted s) {nodeId : Nat} {s' : State} {r : Bool}
    (hr : (reserveCapacitySlot nodeId).run s = .ok (r, s')) :
    (r = false → s' = s) ∧
      (r = true → ∀ n ∈ s'.nodes, n.id = nodeId → n.currentCount ≤ n.capacity) := by
  obtain ⟨m, hm, hmid, hcase⟩ := reserveCapacitySlot_ok hr
  rcases hcase with ⟨rfl, -, rfl⟩ | ⟨rfl, hroom, rfl⟩
  · exact ⟨fun _ => rfl, fun he => by cases he⟩
  · refine ⟨fun he => (by cases he), fun _ n hn hnid => ?_⟩
    obtain ⟨n₀, hn₀, rfl⟩ := mem_update.mp hn
    have hid : n₀.id = nodeId := by
      revert hnid
      split <;> exact fun h => h
    have heq : n₀ = m := h.nodeIds.eq_of_key hn₀ hm (hid.trans hmid.symm)
    subst heq
    simp only [hid, decide_true, if_true]
    omega

/-- **Node capacity.** In every reachable state the audit finds nothing, the
clamp has never been needed, and no reservation overbooks a Node. -/
theorem node_counters_match_audit (d : Deployment) {s₀ : State} (h : Initial s₀)
    (as : List Action) :
    let s := run d s₀ as
    (∀ n ∈ s.nodes, n.currentCount = expectedCount s n.id) ∧ auditNodes s = [] ∧
      s.clampHits = 0 ∧
      ∀ nodeId r s', (reserveCapacitySlot nodeId).run s = .ok (r, s') →
        (r = false → s' = s) ∧
          (r = true → ∀ n ∈ s'.nodes, n.id = nodeId → n.currentCount ≤ n.capacity) := by
  intro s
  obtain ⟨-, hb, hcounted⟩ := run_counted d h as
  have hcount : ∀ n ∈ s.nodes, n.currentCount = expectedCount s n.id := by
    intro n hn
    rw [expectedCount_eq hb]
    exact hcounted.count n hn
  refine ⟨hcount, ?_, hcounted.clamp, fun nodeId r s' hr => reserve_le_capacity hcounted hr⟩
  have hnone : (s.nodes.filter fun n => n.currentCount ≠ expectedCount s n.id) = [] := by
    rw [List.filter_eq_nil_iff]
    intro n hn
    simpa using hcount n hn
  rw [auditNodes, hnone, List.map_nil]

/-- A parcel dropped off at Node 1 still counts there, and one that left does not. -/
theorem demo_node_counters :
    let s := run demo demoState (demoBooking ++ [.webhook 10 (some demoPayment) ["LOC1"]] ++
      demoBooked ++ [.createIntent 6 ⟨1, 2, .motorbike, some 3, 2⟩,
        .syncFromSnapshot "sendii" (demoSnapshot .pickedUp 1)])
    s.nodes.map NodeRow.currentCount = [1, 0] ∧ auditNodes s = [] ∧ s.clampHits = 0 := by
  intro s
  have h := node_counters_match_audit demo demoState_initial (demoBooking ++
    [.webhook 10 (some demoPayment) ["LOC1"]] ++ demoBooked ++
      [.createIntent 6 ⟨1, 2, .motorbike, some 3, 2⟩,
        .syncFromSnapshot "sendii" (demoSnapshot .pickedUp 1)])
  exact ⟨by decide +kernel, h.2.1, h.2.2.1⟩

end Locoomo.NodeCapacity
