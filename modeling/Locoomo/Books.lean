import Locoomo.Effects
import Locoomo.LockstepRuns

/-! Intents and orders: every order was paid for by one intent, every paid
intent has its order, and both carry the same amounts. -/

namespace Locoomo.Books

open Locoomo.Delivery Locoomo.Pricing Locoomo.Database Locoomo.Routing Locoomo.Payments
  Locoomo.System
  Locoomo.OrderMoves Locoomo.Lockstep Locoomo.Frames Locoomo.Changes Locoomo.Effects
  Locoomo.Transactions Relational

/-- The intent that paid for an order. -/
structure Funds (i : PaymentIntentRow) (o : OrderRow) : Prop where
  id : i.id = o.paymentIntentId
  paid : i.status = .paid
  originNodeId : i.originNodeId = o.originNodeId
  amountKobo : i.amountKobo = o.amountKobo
  destinationFeeKobo : i.feeBreakdown.destinationFeeKobo = o.destinationFeeKobo

structure Balanced (s : State) : Prop where
  intentIds : Distinct PaymentIntentRow.id s.intents
  intentIds_lt : ∀ i ∈ s.intents, i.id < s.nextId
  reference : ∀ i ∈ s.intents, ∀ r, i.providerReference = some r → r = i.id
  priced : ∀ i ∈ s.intents, i.feeBreakdown.Sound ∧ i.amountKobo = i.feeBreakdown.totalKobo
  funded : ∀ o ∈ s.orders, ∃ i ∈ s.intents, Funds i o
  oneOrder : Distinct OrderRow.paymentIntentId s.orders
  placed : ∀ i ∈ s.intents, i.status = .paid → ∃ o ∈ s.orders, o.paymentIntentId = i.id

variable {recalls : Bool} {answers : Answers} {s s' : State}

theorem Funds.of_core {i : PaymentIntentRow} {o o' : OrderRow} (h : Funds i o)
    (hcore : core o' = core o) : Funds i o' where
  id := h.id.trans (by simpa [core] using (congrArg OrderRow.paymentIntentId hcore).symm)
  paid := h.paid
  originNodeId := h.originNodeId.trans (originNodeId_of_core hcore).symm
  amountKobo := h.amountKobo.trans (by simpa [core] using (congrArg OrderRow.amountKobo hcore).symm)
  destinationFeeKobo :=
    h.destinationFeeKobo.trans
      (by simpa [core] using (congrArg OrderRow.destinationFeeKobo hcore).symm)

/-- A move changes no column fixed at checkout. -/
theorem cores_of_shift {o o' : OrderRow} (hs : InStep s) (h : Shift s s' o o') :
    s'.orders.map core = s.orders.map core := by
  rw [h.orders]
  refine map_update fun r hr hkey => ?_
  have hid : r.id = o.id := (of_decide_eq_true hkey).trans (core_id h.same)
  rw [hs.orderIds.eq_of_key hr h.mem hid]
  exact h.same

theorem exists_of_cores {l l' : List OrderRow} (h : l'.map core = l.map core) {p : OrderRow}
    (hp : p ∈ l') : ∃ q ∈ l, core p = core q := by
  have hmem : core p ∈ l.map core := h ▸ List.mem_map_of_mem hp
  obtain ⟨q, hq, heq⟩ := List.mem_map.mp hmem
  exact ⟨q, hq, heq.symm⟩

theorem paymentIntentId_of_core {o o' : OrderRow} (h : core o' = core o) :
    o'.paymentIntentId = o.paymentIntentId := by
  simpa [core] using congrArg OrderRow.paymentIntentId h

/-- The invariant reads the intents, the cores of the orders and the id counter. -/
theorem Balanced.of_cores (h : Balanced s) (hintents : s'.intents = s.intents)
    (hcores : s'.orders.map core = s.orders.map core) (hnext : s.nextId ≤ s'.nextId) :
    Balanced s' where
  intentIds := hintents ▸ h.intentIds
  intentIds_lt := fun i hi => Nat.lt_of_lt_of_le (h.intentIds_lt i (hintents ▸ hi)) hnext
  reference := by rw [hintents]; exact h.reference
  priced := by rw [hintents]; exact h.priced
  funded := by
    intro p hp
    obtain ⟨q, hq, heq⟩ := exists_of_cores hcores hp
    obtain ⟨i, hi, hf⟩ := h.funded q hq
    exact ⟨i, hintents ▸ hi, hf.of_core heq⟩
  oneOrder := by
    have hcol : ∀ l : List OrderRow,
        l.map OrderRow.paymentIntentId = (l.map core).map OrderRow.paymentIntentId := by
      intro l
      rw [List.map_map]
      rfl
    rw [Distinct, hcol, hcores, ← hcol]
    exact h.oneOrder
  placed := by
    intro i hi hpaid
    obtain ⟨q, hq, heq⟩ := h.placed i (hintents ▸ hi) hpaid
    obtain ⟨p, hp, hcore⟩ := exists_of_cores hcores.symm hq
    exact ⟨p, hp, (paymentIntentId_of_core hcore).symm.trans heq⟩

/-- A booking. -/
theorem Balanced.book (h : Balanced s) {intent : PaymentIntentRow} (hb : Booked s s' intent) :
    Balanced s' := by
  have hintents : s'.intents = s.intents ++ [intent] := by rw [hb.eq]
  have horders : s'.orders = s.orders := by rw [hb.eq]; rfl
  have hnext : s'.nextId = s.nextId + 1 := by rw [hb.eq]
  have hmem : ∀ {i}, i ∈ s'.intents ↔ i ∈ s.intents ∨ i = intent := by
    intro i
    rw [hintents, List.mem_append, List.mem_singleton]
  refine
    { intentIds := ?_, intentIds_lt := ?_, reference := ?_, priced := ?_, funded := ?_
      oneOrder := by rw [horders]; exact h.oneOrder, placed := ?_ }
  · rw [hintents]
    refine h.intentIds.append_singleton fun i hi => ?_
    rw [hb.id]
    exact Nat.ne_of_lt (h.intentIds_lt i hi)
  · intro i hi
    rw [hnext]
    rcases hmem.mp hi with hi | rfl
    · exact Nat.lt_succ_of_lt (h.intentIds_lt i hi)
    · rw [hb.id]
      exact Nat.lt_succ_self _
  · intro i hi r hr
    rcases hmem.mp hi with hi | rfl
    · exact h.reference i hi r hr
    · rw [hb.reference] at hr
      cases hr
  · intro i hi
    rcases hmem.mp hi with hi | rfl
    · exact h.priced i hi
    · exact ⟨hb.fee, hb.amount⟩
  · intro o ho
    rw [horders] at ho
    obtain ⟨i, hi, hf⟩ := h.funded o ho
    exact ⟨i, hmem.mpr (Or.inl hi), hf⟩
  · intro i hi hpaid
    rw [horders]
    rcases hmem.mp hi with hi | rfl
    · exact h.placed i hi hpaid
    · rw [hb.status] at hpaid
      cases hpaid

/-- The reference of an intent is its own id. -/
theorem Balanced.refer (h : Balanced s) {intentId : Nat}
    (hr : (setProviderReference intentId).run s = .ok ((), s')) : Balanced s' := by
  cases hr
  let set := fun i : PaymentIntentRow => { i with providerReference := some intentId }
  let p : PaymentIntentRow → Bool := fun i => i.id = intentId
  have hmem : ∀ {i'}, i' ∈ update p set s.intents →
      ∃ i ∈ s.intents, i' = i ∨ i' = set i ∧ i.id = intentId := by
    intro i' hi'
    obtain ⟨i, hi, rfl⟩ := mem_update.mp hi'
    by_cases hp : p i = true
    · exact ⟨i, hi, Or.inr ⟨by rw [if_pos hp], of_decide_eq_true hp⟩⟩
    · exact ⟨i, hi, Or.inl (by rw [if_neg hp])⟩
  refine
    { intentIds := h.intentIds.update fun _ _ _ => rfl, intentIds_lt := ?_, reference := ?_
      priced := ?_, funded := ?_, oneOrder := h.oneOrder, placed := ?_ }
  · intro i' hi'
    obtain ⟨i, hi, rfl | ⟨rfl, -⟩⟩ := hmem hi'
    · exact h.intentIds_lt _ hi
    · exact h.intentIds_lt i hi
  · intro i' hi' r hr
    obtain ⟨i, hi, rfl | ⟨rfl, hid⟩⟩ := hmem hi'
    · exact h.reference _ hi r hr
    · cases hr
      exact hid.symm
  · intro i' hi'
    obtain ⟨i, hi, rfl | ⟨rfl, -⟩⟩ := hmem hi'
    · exact h.priced _ hi
    · exact h.priced i hi
  · intro o ho
    obtain ⟨i, hi, hf⟩ := h.funded o ho
    refine ⟨if p i then set i else i, mem_update.mpr ⟨i, hi, rfl⟩, ?_⟩
    split
    · exact ⟨hf.id, hf.paid, hf.originNodeId, hf.amountKobo, hf.destinationFeeKobo⟩
    · exact hf
  · intro i' hi' hpaid
    obtain ⟨i, hi, rfl | ⟨rfl, -⟩⟩ := hmem hi'
    · exact h.placed _ hi hpaid
    · exact h.placed i hi hpaid

/-- A pending intent has no order yet. -/
theorem Balanced.unplaced (h : Balanced s) {intent : PaymentIntentRow} (hmem : intent ∈ s.intents)
    (hpending : intent.status ≠ .paid) : ∀ o ∈ s.orders, o.paymentIntentId ≠ intent.id := by
  intro o ho heq
  obtain ⟨i, hi, hf⟩ := h.funded o ho
  rw [h.intentIds.eq_of_key hi hmem (hf.id.trans heq)] at hf
  exact hpending hf.paid

/-- Storing over an intent that has no order keeps what the orders rest on. -/
theorem Balanced.funded_put (h : Balanced s) {intent intent' : PaymentIntentRow}
    (hmem : intent ∈ s.intents) (hpending : intent.status ≠ .paid) (hid : intent'.id = intent.id) :
    ∀ o ∈ s.orders, ∃ i ∈ put PaymentIntentRow.id intent' s.intents, Funds i o := by
  intro o ho
  obtain ⟨i, hi, hf⟩ := h.funded o ho
  refine ⟨i, mem_put.mpr (Or.inr ⟨hi, fun heq => ?_⟩), hf⟩
  exact h.unplaced hmem hpending o ho (hf.id.symm.trans (heq.trans hid))

theorem Balanced.pay (h : Balanced s) {intent : PaymentIntentRow}
    {verification : PaymentVerificationResult} {order : OrderRow}
    (hpayable : Payable s intent verification) (hc : Confirmed s s' intent verification order) :
    Balanced s' := by
  have hpending : intent.status ≠ .paid := by
    rw [hpayable.pending]
    decide
  have hmem : ∀ {i}, i ∈ s'.intents → i = paidIntent intent verification s.now ∨ i ∈ s.intents := by
    intro i hi
    rw [hc.intents] at hi
    exact (mem_put.mp hi).imp And.left And.left
  refine
    { intentIds := by rw [hc.intents]; exact h.intentIds.put _
      intentIds_lt := ?_, reference := ?_, priced := ?_, funded := ?_, oneOrder := ?_
      placed := ?_ }
  · intro i hi
    rw [hc.nextId]
    rcases hmem hi with rfl | hi
    · exact Nat.lt_succ_of_lt (h.intentIds_lt intent hpayable.stored)
    · exact Nat.lt_succ_of_lt (h.intentIds_lt i hi)
  · intro i hi
    rcases hmem hi with rfl | hi
    · exact h.reference intent hpayable.stored
    · exact h.reference i hi
  · intro i hi
    rcases hmem hi with rfl | hi
    · exact h.priced intent hpayable.stored
    · exact h.priced i hi
  · intro o ho
    rw [hc.orders, List.mem_append, List.mem_singleton] at ho
    rw [hc.intents]
    rcases ho with ho | rfl
    · have hid : (paidIntent intent verification s.now).id = intent.id := rfl
      exact h.funded_put hpayable.stored hpending hid o ho
    · refine ⟨_, mem_put.mpr (Or.inl ⟨rfl, intent, hpayable.stored, rfl⟩), ?_⟩
      exact ⟨hc.placed.paymentIntentId.symm, rfl, hc.placed.originNodeId.symm,
        hc.placed.amountKobo.symm, hc.placed.destinationFeeKobo.symm⟩
  · rw [hc.orders]
    refine h.oneOrder.append_singleton fun o ho => ?_
    rw [hc.placed.paymentIntentId]
    exact hc.placed.only o ho
  · intro i hi hpaid
    rw [hc.orders]
    rcases hmem hi with rfl | hi
    · exact ⟨order, List.mem_append_right _ (List.mem_singleton.mpr rfl),
        hc.placed.paymentIntentId⟩
    · obtain ⟨o, ho, heq⟩ := h.placed i hi hpaid
      exact ⟨o, List.mem_append_left _ ho, heq⟩

theorem Balanced.expire (h : Balanced s) {intent : PaymentIntentRow} (hmem : intent ∈ s.intents)
    (hpending : intent.status = .pending) :
    Balanced (putIntent s { intent with status := .expired }) := by
  have hne : intent.status ≠ .paid := by
    rw [hpending]
    decide
  have hstored : ∀ {i}, i ∈ put PaymentIntentRow.id { intent with status := .expired } s.intents →
      i = { intent with status := .expired } ∨ i ∈ s.intents :=
    fun hi => (mem_put.mp hi).imp And.left And.left
  refine
    { intentIds := h.intentIds.put _, intentIds_lt := ?_, reference := ?_, priced := ?_
      funded := h.funded_put hmem hne rfl, oneOrder := h.oneOrder, placed := ?_ }
  · intro i hi
    rcases hstored hi with rfl | hi
    · exact h.intentIds_lt intent hmem
    · exact h.intentIds_lt i hi
  · intro i hi
    rcases hstored hi with rfl | hi
    · exact h.reference intent hmem
    · exact h.reference i hi
  · intro i hi
    rcases hstored hi with rfl | hi
    · exact h.priced intent hmem
    · exact h.priced i hi
  · intro i hi hpaid
    rcases hstored hi with rfl | hi
    · cases hpaid
    · exact h.placed i hi hpaid

/-- **Every effect keeps intents and orders balanced.** -/
theorem Balanced.keep (hs : InStep s) (h : Balanced s) (he : Effect recalls answers s s') :
    Balanced s' := by
  cases he with
  | still hstill => exact h.of_cores hstill.intents (by rw [hstill.orders]) hstill.nextId
  | book hb => exact h.book hb
  | refer intentId hr => exact h.refer hr
  | pay hanswer hpayable hc => exact h.pay hpayable hc
  | expire hmem hpending heq =>
      rw [heq]
      exact (h.expire hmem hpending).of_cores rfl rfl le_rfl
  | move hm => exact h.of_cores hm.intents (cores_of_shift hs hm.toShift) hm.nextId

theorem balanced_change {d : Deployment} (hs : Aligned s) (h : Balanced s)
    (hc : Change d recalls answers s s') : Balanced s' :=
  h.keep hs.inStep (effect_of_change hs.inStep hc)

/-! ## Runs from the start -/

theorem aligned_of_initial (h : Initial s) : Aligned s :=
  FreshlyPaid.aligned
    { orderIds := by rw [h.orders]; exact List.nodup_nil
      orderIds_lt := by simp [h.orders]
      placed := by simp [h.orders]
      legs := h.legs }

theorem balanced_of_initial (h : Initial s) : Balanced s where
  intentIds := by rw [h.intents]; exact List.nodup_nil
  intentIds_lt := by simp [h.intents]
  reference := by simp [h.intents]
  priced := by simp [h.intents]
  funded := by simp [h.orders]
  oneOrder := by rw [h.orders]; exact List.nodup_nil
  placed := by simp [h.intents]

theorem run_balanced (d : Deployment) (h : Initial s) (as : List Action) :
    Aligned (run d s as) ∧ Balanced (run d s as) :=
  run_keeps balanced_change (aligned_of_initial h) (balanced_of_initial h) as

end Locoomo.Books
