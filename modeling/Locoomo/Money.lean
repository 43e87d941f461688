import Mathlib.Data.List.Induction
import Locoomo.Books

/-! Money is conserved: what the provider verified is the intent's amount, the
order's amount, and what the earnings of a completed order add up to. -/

namespace Locoomo.Money

open Locoomo.Delivery Locoomo.Pricing Locoomo.Database Locoomo.Routing Locoomo.Handoffs
  Locoomo.Payments Locoomo.System Locoomo.OrderMoves Locoomo.Lockstep Locoomo.Frames
  Locoomo.Changes Locoomo.Effects Locoomo.Books Locoomo.Transactions Relational

/-! ## The entries of an order -/

def entriesOf (s : State) (orderId : Nat) : List RevenueSplitEntryRow :=
  s.entries.filter fun e => e.orderId = orderId

/-- Who is paid for carrying the parcel. -/
def carrierParty (o : OrderRow) : RevenueSplitPartyType :=
  if o.riderId.isSome then .rider else .courierAllocation

def isCarrier (e : RevenueSplitEntryRow) : Bool :=
  e.partyType ∈ [RevenueSplitPartyType.rider, .courierAllocation]

theorem orderId_of_splitEntries {o : OrderRow} {rule : RevenueSplitRule} :
    ∀ e ∈ splitEntries o rule, e.orderId = o.id := by
  intro e he
  simp only [splitEntries, List.mem_cons, List.not_mem_nil, or_false] at he
  rcases he with rfl | rfl | rfl | rfl
  · split <;> rfl
  all_goals rfl

structure Earned (s : State) : Prop where
  known : ∀ e ∈ s.entries, e.orderId < s.nextId
  complete : ∀ o ∈ s.orders, o.status = .completed →
    ∃ rule, entriesOf s o.id = splitEntries o rule
  none : ∀ o ∈ s.orders, o.status ≠ .completed → entriesOf s o.id = []

variable {recalls : Bool} {answers : Answers} {s s' : State}

/-- Nothing here but the id counter has moved. -/
theorem Earned.same (h : Earned s) (horders : s'.orders = s.orders)
    (hentries : s'.entries = s.entries) (hnext : s.nextId ≤ s'.nextId) : Earned s' where
  known := fun e he => Nat.lt_of_lt_of_le (h.known e (hentries ▸ he)) hnext
  complete := by
    rw [horders]
    simpa only [entriesOf, hentries] using h.complete
  none := by
    rw [horders]
    simpa only [entriesOf, hentries] using h.none

theorem Earned.pay (h : Earned s) {intent : PaymentIntentRow}
    {verification : PaymentVerificationResult} {order : OrderRow}
    (hc : Confirmed s s' intent verification order) : Earned s' := by
  have hentries : s'.entries = s.entries := by rw [hc.frame]
  refine ⟨?_, ?_, ?_⟩
  · intro e he
    rw [hc.nextId]
    exact Nat.lt_succ_of_lt (h.known e (hentries ▸ he))
  · intro o ho hcompleted
    rw [hc.orders, List.mem_append, List.mem_singleton] at ho
    rcases ho with ho | rfl
    · simpa only [entriesOf, hentries] using h.complete o ho hcompleted
    · rw [hc.placed.status] at hcompleted
      cases hcompleted
  · intro o ho hne
    rw [hc.orders, List.mem_append, List.mem_singleton] at ho
    rcases ho with ho | rfl
    · simpa only [entriesOf, hentries] using h.none o ho hne
    · -- the id of a new order is on no entry yet
      rw [entriesOf, hentries, List.filter_eq_nil_iff]
      intro e he heq
      have hlt := h.known e he
      rw [of_decide_eq_true heq, hc.placed.id] at hlt
      exact Nat.lt_irrefl _ hlt

theorem Earned.move (h : Earned s) (hs : InStep s) {o o' : OrderRow} (hm : Shift s s' o o') :
    Earned s' := by
  have hid : o'.id = o.id := core_id hm.same
  have hmem : ∀ {p}, p ∈ s'.orders → p = o' ∨ (p ∈ s.orders ∧ p.id ≠ o'.id) := by
    intro p hp
    rw [hm.orders] at hp
    exact (mem_put.mp hp).imp And.left fun hp => hp
  have hempty : entriesOf s o.id = [] := h.none o hm.mem hm.unfinished
  cases hm.entries with
  | keep hne hentries =>
      refine ⟨?_, ?_, ?_⟩
      · exact fun e he => Nat.lt_of_lt_of_le (h.known e (hentries ▸ he)) hm.nextId
      · intro p hp hcompleted
        rcases hmem hp with rfl | ⟨hp, -⟩
        · exact absurd hcompleted hne
        · simpa only [entriesOf, hentries] using h.complete p hp hcompleted
      · intro p hp hpne
        rcases hmem hp with rfl | ⟨hp, -⟩
        · rw [entriesOf, hentries, hid]
          exact hempty
        · simpa only [entriesOf, hentries] using h.none p hp hpne
  | @record rule hcompleted hentries =>
      have hother : ∀ p : OrderRow, p.id ≠ o'.id → entriesOf s' p.id = entriesOf s p.id := by
        intro p hp
        have hnil : ((splitEntries o' rule).filter fun e => e.orderId = p.id) = [] := by
          rw [List.filter_eq_nil_iff]
          intro e he heq
          exact hp ((of_decide_eq_true heq).symm.trans (orderId_of_splitEntries e he))
        rw [entriesOf, hentries, List.filter_append, hnil, List.append_nil]
        rfl
      refine ⟨?_, ?_, ?_⟩
      · intro e he
        rw [hentries, List.mem_append] at he
        rcases he with he | he
        · exact Nat.lt_of_lt_of_le (h.known e he) hm.nextId
        · rw [orderId_of_splitEntries e he, hid]
          exact Nat.lt_of_lt_of_le (hs.orderIds_lt o hm.mem) hm.nextId
      · intro p hp hpc
        rcases hmem hp with rfl | ⟨hp, hne⟩
        · refine ⟨rule, ?_⟩
          have hall : ((splitEntries p rule).filter fun e => e.orderId = p.id)
              = splitEntries p rule := by
            rw [List.filter_eq_self]
            exact fun e he => decide_eq_true (orderId_of_splitEntries e he)
          have hempty' : (s.entries.filter fun e => e.orderId = p.id) = [] := by
            rw [hid]
            exact hempty
          rw [entriesOf, hentries, List.filter_append, hempty', hall, List.nil_append]
        · rw [hother p hne]
          exact h.complete p hp hpc
      · intro p hp hpne
        rcases hmem hp with rfl | ⟨hp, hne⟩
        · exact absurd hcompleted hpne
        · rw [hother p hne]
          exact h.none p hp hpne

/-- **Every effect records earnings exactly when it completes an order.** -/
theorem Earned.keep (hs : InStep s) (h : Earned s) (he : Effect recalls answers s s') :
    Earned s' := by
  cases he with
  | still hstill => exact h.same hstill.orders hstill.entries hstill.nextId
  | book hb =>
      exact h.same (by rw [hb.eq]; rfl) (by rw [hb.eq]; rfl) (by rw [hb.eq]; exact Nat.le_succ _)
  | refer intentId hr =>
      cases hr
      exact h.same rfl rfl le_rfl
  | pay hanswer hpayable hc => exact h.pay hc
  | expire hmem hpending heq =>
      exact h.same (by rw [heq]; rfl) (by rw [heq]; rfl) (by rw [heq]; rfl)
  | move hm => exact h.move hs hm.toShift

/-! ## What the provider verified -/

/-- What the provider said of an intent in the course of an action. -/
def verified (intentId : Nat) : Action → VerifyAnswer
  | .webhook reference answer _ => if reference = intentId then answer else none
  | .pollIntent polledId answer _ => if polledId = intentId then answer else none
  | _ => none

/-- A success of the order's full amount was verified for its intent. -/
def Verified (seen : List Action) (o : OrderRow) : Prop :=
  ∃ a ∈ seen, ∃ verification, verified o.paymentIntentId a = some verification ∧
    verification.status = .success ∧ verification.amountKobo = o.amountKobo

theorem Verified.of_core {seen : List Action} {o o' : OrderRow} (h : Verified seen o)
    (hcore : core o' = core o) : Verified seen o' := by
  have hamount : o'.amountKobo = o.amountKobo := by
    simpa [core] using congrArg OrderRow.amountKobo hcore
  obtain ⟨a, ha, verification, hv⟩ := h
  refine ⟨a, ha, verification, ?_⟩
  rw [paymentIntentId_of_core hcore, hamount]
  exact hv

theorem Balanced.amounts (hb : Balanced s) {o : OrderRow} (ho : o ∈ s.orders) :
    ∃ i ∈ s.intents, i.id = o.paymentIntentId ∧ i.amountKobo = o.amountKobo ∧
      o.amountKobo = i.feeBreakdown.deliveryFeeKobo + i.feeBreakdown.destinationFeeKobo ∧
      0 ≤ o.amountKobo - o.destinationFeeKobo ∧ 0 ≤ o.destinationFeeKobo := by
  obtain ⟨i, hi, hf⟩ := hb.funded o ho
  obtain ⟨hsound, hamount⟩ := hb.priced i hi
  have htotal := hsound.total
  have hdelivery := hsound.delivery_nonneg
  have hdestination := hsound.destination_nonneg
  have ho' := hf.amountKobo
  have hd := hf.destinationFeeKobo
  exact ⟨i, hi, hf.id, ho', by omega, by omega, by omega⟩

theorem earned_of_initial (h : Initial s) : Earned s where
  known := by simp [h.entries]
  complete := by simp [h.orders]
  none := by simp [h.orders]

end Locoomo.Money
