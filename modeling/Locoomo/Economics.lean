import Locoomo.Lib.Reports
import Locoomo.Money

/-! The economics report of the orders that used an external courier, beside
the earnings that a completed order recorded. -/

namespace Locoomo.Economics

open Locoomo.Delivery Locoomo.Pricing Locoomo.Database Locoomo.Routing Locoomo.Handoffs
  Locoomo.System Locoomo.OrderMoves Locoomo.Frames Locoomo.Money Relational

/-! ## The query -/

/-- The pages an admin may ask for. -/
structure PaginationQueryDto where
  page : Nat
  limit : Nat
  page_pos : 1 ≤ page
  limit_pos : 1 ≤ limit
  limit_le : limit ≤ 100

/-- `from` and `to` bound the order's `createdAt`. -/
structure EconomicsQueryDto extends PaginationQueryDto where
  provider : Option String
  fromTime : Option Int
  toTime : Option Int

/-- A row of the `perOrder` query. -/
structure PerOrderRow where
  orderId : Nat
  orderTrackingCode : String
  orderStatus : OrderStatus
  customerPaidKobo : Int
  deliveryFeeKobo : Int
  createdAt : Int
  providers : List String
  courierCostKobo : Int
  settled : Bool
  recordedAllocationKobo : Option Int

structure EconomicsRow where
  orderId : Nat
  orderTrackingCode : String
  orderStatus : OrderStatus
  providers : List String
  customerPaidKobo : Int
  deliveryFeeKobo : Int
  courierCostKobo : Int
  settled : Bool
  createdAt : Int
  courierAllocationKobo : Int
  allocationEstimated : Bool
  marginKobo : Int

structure EconomicsTotals where
  orders : Nat
  customerPaidKobo : Int
  courierCostKobo : Int
  courierAllocationKobo : Int
  marginKobo : Int
  deriving DecidableEq, Repr

structure EconomicsReport where
  items : List EconomicsRow
  page : Nat
  limit : Nat
  total : Nat
  totals : EconomicsTotals

/-! ## The report -/

section
variable (createdAt : Nat → Int) (s : State) (q : EconomicsQueryDto)

/-- The `WHERE` of the query; `createdAt` is the order's column. -/
def conditions (r : OrderRow × DeliveryLegRow) : Bool :=
  decide (r.2.providerKey ≠ inHouseProviderKey) &&
    (q.provider.all fun provider =>
      decide (provider = "") || decide (r.2.providerKey = provider)) &&
    (q.fromTime.all fun t => decide (t ≤ createdAt r.1.id)) &&
    q.toTime.all fun t => decide (createdAt r.1.id < t)

/-- What a leg cost: the charge, or the quote while it is in progress. -/
def legCost (l : DeliveryLegRow) : Int :=
  (match l.actualKobo with
    | some actual => actual
    | none => if isActive l.status then l.quotedKobo.getD 0 else 0) + l.surchargeKobo

/-- The subquery for `recordedAllocationKobo`. -/
def recordedAllocation (orderId : Nat) : Option Int :=
  (s.entries.find? fun e => decide (e.orderId = orderId) &&
    decide (e.partyType = .courierAllocation)).map RevenueSplitEntryRow.amountKobo

/-- The columns of one group; those of the order are the same in all its rows.
`array_agg(DISTINCT …)` sorts, here by code points. -/
def groupRow (o : OrderRow) (legs : List DeliveryLegRow) : PerOrderRow where
  orderId := o.id
  orderTrackingCode := o.trackingCode
  orderStatus := o.status
  customerPaidKobo := o.amountKobo
  deliveryFeeKobo := o.amountKobo - o.destinationFeeKobo
  createdAt := createdAt o.id
  providers := (legs.map DeliveryLegRow.providerKey).dedup.insertionSort fun a b => a ≤ b
  courierCostKobo := (legs.map legCost).sum
  settled := legs.any fun l => l.actualKobo.isSome
  recordedAllocationKobo := recordedAllocation s o.id

/-- One row per order that used an external courier. -/
def perOrder : List PerOrderRow :=
  let joined := Reports.join (fun o l => decide (l.orderId = o.id)) s.orders s.legs
  let groups := Reports.groupBy (fun r => r.1.id) (joined.filter (conditions createdAt q))
  groups.filterMap fun g => g.2.head?.map fun r =>
    groupRow createdAt s r.1 (g.2.map Prod.snd)

/-- `rule?.riderPercent ?? 60`, of the rule in force. -/
def riderPercent : Nat :=
  ((currentRule RevenueSplitRule.effectiveFrom s.splitRules s.now).map
    RevenueSplitRule.riderPercent).getD 60

def riderShare : ℚ := (riderPercent s : ℚ) / 100

/-- `Math.floor(r.deliveryFeeKobo * riderShare)`, the product being exact. -/
def estimate (deliveryFeeKobo : Int) : Int := ⌊(deliveryFeeKobo : ℚ) * riderShare s⌋

def toRow (r : PerOrderRow) : EconomicsRow :=
  let allocation := r.recordedAllocationKobo.getD (estimate s r.deliveryFeeKobo)
  { orderId := r.orderId
    orderTrackingCode := r.orderTrackingCode
    orderStatus := r.orderStatus
    providers := r.providers
    customerPaidKobo := r.customerPaidKobo
    deliveryFeeKobo := r.deliveryFeeKobo
    courierCostKobo := r.courierCostKobo
    settled := r.settled
    createdAt := r.createdAt
    courierAllocationKobo := allocation
    allocationEstimated := r.recordedAllocationKobo.isNone
    marginKobo := allocation - r.courierCostKobo }
end

/-- `ORDER BY o."createdAt" DESC`, whatever the database does with orders of
one instant. -/
structure NewestFirst where
  sort : List PerOrderRow → List PerOrderRow
  perm : ∀ rows, (sort rows).Perm rows
  newest : ∀ rows, (sort rows).Pairwise fun a b => b.createdAt ≤ a.createdAt

section
variable (order : NewestFirst) (createdAt : Nat → Int) (s : State)
  (q : EconomicsQueryDto)

/-- The rows of all pages. -/
def listed : List EconomicsRow := (order.sort (perOrder createdAt s q)).map (toRow s)

def totalsOf (rows : List EconomicsRow) : EconomicsTotals where
  orders := rows.length
  customerPaidKobo := (rows.map EconomicsRow.customerPaidKobo).sum
  courierCostKobo := (rows.map EconomicsRow.courierCostKobo).sum
  courierAllocationKobo := (rows.map EconomicsRow.courierAllocationKobo).sum
  marginKobo := (rows.map EconomicsRow.marginKobo).sum

/-- `AdminLogisticsService.economics`. -/
def economics : EconomicsReport :=
  let all := listed order createdAt s q
  { items := Reports.page q.limit q.page all
    page := q.page
    limit := q.limit
    total := all.length
    totals := totalsOf all }
end

/-! ## What is listed -/

variable {d : Deployment} {order : NewestFirst} {createdAt : Nat → Int} {s s' : State}
  {q : EconomicsQueryDto}

/-- The report is to list the order: one of its legs meets the conditions. -/
def Matches (createdAt : Nat → Int) (s : State) (q : EconomicsQueryDto) (o : OrderRow) : Prop :=
  ∃ l ∈ s.legs, l.orderId = o.id ∧ conditions createdAt q (o, l) = true

instance (o : OrderRow) : Decidable (Matches createdAt s q o) :=
  inferInstanceAs (Decidable (∃ l ∈ s.legs, _))

/-- The legs that count for the order. -/
def legsFor (createdAt : Nat → Int) (s : State) (q : EconomicsQueryDto) (o : OrderRow) :
    List DeliveryLegRow :=
  s.legs.filter fun l => decide (l.orderId = o.id) && conditions createdAt q (o, l)

/-- The groups of the query: one for each order that is to be listed. -/
theorem mem_groups (hids : Distinct OrderRow.id s.orders)
    {g : Nat × List (OrderRow × DeliveryLegRow)} :
    g ∈ Reports.groupBy (fun r => r.1.id)
        ((Reports.join (fun o l => decide (l.orderId = o.id)) s.orders s.legs).filter
          (conditions createdAt q)) ↔
      ∃ o ∈ s.orders, g.1 = o.id ∧ Matches createdAt s q o ∧
        g.2 = (legsFor createdAt s q o).map fun l => (o, l) := by
  rw [Reports.filter_join, Reports.mem_groupBy_join hids]
  simp only [Bool.and_eq_true, decide_eq_true_eq, Matches, legsFor]

theorem groupRow_head {o : OrderRow} (h : Matches createdAt s q o)
    {g : Nat × List (OrderRow × DeliveryLegRow)}
    (hg : g.2 = (legsFor createdAt s q o).map fun l => (o, l)) :
    (g.2.head?.map fun r => groupRow createdAt s r.1 (g.2.map Prod.snd))
      = some (groupRow createdAt s o (legsFor createdAt s q o)) := by
  obtain ⟨l, hl, horder, hcond⟩ := h
  have hmem : l ∈ legsFor createdAt s q o := by
    simp [legsFor, hl, horder, hcond]
  have hlegs : g.2.map Prod.snd = legsFor createdAt s q o := by
    simp [hg, Function.comp_def]
  rw [hlegs, hg]
  cases hfor : legsFor createdAt s q o with
  | nil =>
      rw [hfor] at hmem
      cases hmem
  | cons l' ls => rfl

theorem mem_perOrder (hids : Distinct OrderRow.id s.orders) {r : PerOrderRow} :
    r ∈ perOrder createdAt s q ↔
      ∃ o ∈ s.orders, Matches createdAt s q o ∧
        r = groupRow createdAt s o (legsFor createdAt s q o) := by
  simp only [perOrder, List.mem_filterMap]
  constructor
  · rintro ⟨g, hg, hr⟩
    obtain ⟨o, ho, -, hmatches, hmembers⟩ := (mem_groups hids).mp hg
    rw [groupRow_head hmatches hmembers] at hr
    exact ⟨o, ho, hmatches, (Option.some.inj hr).symm⟩
  · rintro ⟨o, ho, hmatches, rfl⟩
    let g : Nat × List (OrderRow × DeliveryLegRow) :=
      (o.id, (legsFor createdAt s q o).map fun l => (o, l))
    exact ⟨g, (mem_groups hids).mpr ⟨o, ho, rfl, hmatches, rfl⟩, groupRow_head hmatches rfl⟩

/-- **Each order once**, however many legs it has had. -/
theorem perOrder_nodup (hids : Distinct OrderRow.id s.orders) :
    ((perOrder createdAt s q).map PerOrderRow.orderId).Nodup := by
  have hkeys : (perOrder createdAt s q).map PerOrderRow.orderId =
      (Reports.groupBy (fun r : OrderRow × DeliveryLegRow => r.1.id)
        ((Reports.join (fun o l => decide (l.orderId = o.id)) s.orders s.legs).filter
          (conditions createdAt q))).map Prod.fst := by
    rw [perOrder, List.map_filterMap, ← List.filterMap_eq_map (f := Prod.fst)]
    refine List.filterMap_congr fun g hg => ?_
    obtain ⟨o, -, hid, hmatches, hmembers⟩ := (mem_groups hids).mp hg
    rw [groupRow_head hmatches hmembers]
    simp [groupRow, hid]
  rw [hkeys]
  exact Reports.groupBy_nodup _ _

theorem mem_listed (hids : Distinct OrderRow.id s.orders) {row : EconomicsRow} :
    row ∈ listed order createdAt s q ↔
      ∃ o ∈ s.orders, Matches createdAt s q o ∧
        row = toRow s (groupRow createdAt s o (legsFor createdAt s q o)) := by
  simp only [listed, List.mem_map, (order.perm _).mem_iff, mem_perOrder hids]
  constructor
  · rintro ⟨r, ⟨o, ho, hmatches, rfl⟩, rfl⟩
    exact ⟨o, ho, hmatches, rfl⟩
  · rintro ⟨o, ho, hmatches, rfl⟩
    exact ⟨_, ⟨o, ho, hmatches, rfl⟩, rfl⟩

theorem listed_nodup (hids : Distinct OrderRow.id s.orders) :
    ((listed order createdAt s q).map EconomicsRow.orderId).Nodup := by
  have hids' : (listed order createdAt s q).map EconomicsRow.orderId =
      (order.sort (perOrder createdAt s q)).map PerOrderRow.orderId := by
    rw [listed, List.map_map]
    rfl
  rw [hids', ((order.perm _).map PerOrderRow.orderId).nodup_iff]
  exact perOrder_nodup hids

/-! ## One figure, computed twice -/

/-- With exact products the estimate is the share that `calculateSplit` gives. -/
theorem estimate_eq (s : State) (deliveryFeeKobo : Int) (nodePercent : Nat) :
    estimate s deliveryFeeKobo
      = (calculateSplit deliveryFeeKobo (riderPercent s) nodePercent).riderShareKobo := by
  have hproduct : (deliveryFeeKobo : ℚ) * riderShare s
      = ((deliveryFeeKobo * riderPercent s : Int) : ℚ) / (100 : Nat) := by
    rw [riderShare]
    push_cast
    ring
  rw [estimate, hproduct, Rat.floor_intCast_div_natCast]
  rfl

/-! ## What completion records -/

/-- The entry for carrying the parcel, and its place in the four. -/
theorem splitEntries_courier (o : OrderRow) (rule : RevenueSplitRule) :
    ∃ e, (splitEntries o rule).filter isCarrier = [e] ∧ e.partyType = carrierParty o ∧
      e.amountKobo = (calculateSplit (o.amountKobo - o.destinationFeeKobo) rule.riderPercent
        rule.nodePercent).riderShareKobo ∧
      (splitEntries o rule).find? (fun e => decide (e.partyType = .courierAllocation))
        = if o.riderId = none then some e else none := by
  cases h : o.riderId with
  | none =>
      refine ⟨⟨o.id, .courierAllocation, none, _, rule.id, .notPayable⟩, ?_, ?_, rfl, ?_⟩
      · simp [splitEntries, h, isCarrier]
      · simp [carrierParty, h]
      · simp [splitEntries, h]
  | some riderId =>
      refine ⟨⟨o.id, .rider, some riderId, _, rule.id, .pending⟩, ?_, ?_, rfl, ?_⟩
      · simp [splitEntries, h, isCarrier]
      · simp [carrierParty, h]
      · simp [splitEntries, h]

theorem mem_splitEntries_courier {o : OrderRow} {rule : RevenueSplitRule}
    {e : RevenueSplitEntryRow} (he : e ∈ splitEntries o rule)
    (hparty : e.partyType = .courierAllocation) :
    e.amountKobo = (calculateSplit (o.amountKobo - o.destinationFeeKobo) rule.riderPercent
      rule.nodePercent).riderShareKobo := by
  obtain ⟨carrier, hcarrier, -, hamount, -⟩ := splitEntries_courier o rule
  have hmem : e ∈ (splitEntries o rule).filter isCarrier := by
    simp [List.mem_filter, he, isCarrier, hparty]
  rw [hcarrier, List.mem_singleton] at hmem
  rw [hmem, hamount]

theorem recordedAllocation_eq (s : State) (orderId : Nat) :
    recordedAllocation s orderId =
      ((entriesOf s orderId).find? fun e => decide (e.partyType = .courierAllocation)).map
        RevenueSplitEntryRow.amountKobo := by
  rw [recordedAllocation, entriesOf, List.find?_filter]
  simp only [decide_eq_true_eq, Bool.decide_and]

/-- `record` splits by the rule in force. -/
theorem record_current {o : OrderRow} (h : (record o).run s = .ok ((), s')) :
    ∃ rule, currentRule RevenueSplitRule.effectiveFrom s.splitRules s.now = some rule ∧
      s'.entries = s.entries ++ splitEntries o rule := by
  rw [record, Tx.run_read_bind] at h
  obtain ⟨rule, s₁, hexpect, hrest⟩ := Tx.run_bind_eq_ok.mp h
  obtain ⟨hrule, rfl⟩ := Tx.run_expect_eq_ok.mp hexpect
  simp only [Tx.run_read_bind] at hrest
  obtain ⟨_, s₂, hensure, hwrite⟩ := Tx.run_bind_eq_ok.mp hrest
  obtain ⟨-, rfl⟩ := Tx.run_ensure_eq_ok.mp hensure
  cases hwrite
  exact ⟨rule, hrule, rfl⟩

/-- **What a collection records**: the split of its order by the rule in force. -/
theorem collection_records {orderId : Nat} {args : ConfirmArgs} {e : RevenueSplitEntryRow}
    (he : e ∈ (System.exec d s (.confirm .collection orderId args)).entries)
    (hnew : e ∉ s.entries) :
    ∃ o ∈ s.orders, o.id = orderId ∧ ∃ o' rule, core o' = core o ∧ e ∈ splitEntries o' rule ∧
      currentRule RevenueSplitRule.effectiveFrom s.splitRules s.now = some rule := by
  rcases exec_cases d s (.confirm .collection orderId args) with ⟨s', h, heq⟩ | ⟨e', -, heq⟩
  · rw [heq] at he
    obtain ⟨o', s₁, hconfirm, hret⟩ := Tx.run_bind_eq_ok.mp h
    cases hret
    rcases confirm_ok hconfirm with ⟨-, -, rfl⟩ | ⟨-, hbody⟩
    · exact absurd he hnew
    · obtain ⟨_, s₂, hvalidate, hrest⟩ := Tx.run_bind_eq_ok.mp hbody
      obtain ⟨o', s₃, hmove, hrest⟩ := Tx.run_bind_eq_ok.mp hrest
      obtain ⟨_, s₄, hrecord, hret⟩ := Tx.run_bind_eq_ok.mp hrest
      cases hret
      have hnoted := validate_noted _ _ _ _ _ _ _ hvalidate
      obtain ⟨o, hmoved, -⟩ := (markCollected_moves orderId _).ok hmove
      obtain ⟨rule, hrule, hentries⟩ := record_current hrecord
      have hframe := hmoved.frame
      have hold : s₃.entries = s.entries := by
        rw [hframe]
        exact hnoted.clerical.entries
      have ho : o ∈ s.orders := by
        have hmem := hmoved.mem
        rw [hnoted.clerical.orders] at hmem
        exact hmem
      refine ⟨o, ho, hmoved.id_eq, o', rule, hmoved.same, ?_, ?_⟩
      · rw [hentries, hold, List.mem_append] at he
        exact he.resolve_left hnew
      · rw [hframe, hnoted.frame] at hrule
        exact hrule
  · rw [heq] at he
    exact absurd ((rollback_clerical s e').entries ▸ he) hnew

/-! ## Agreement -/

/-- The pages 1 to `count`, one behind the other. -/
def pages (order : NewestFirst) (createdAt : Nat → Int) (s : State) (q : EconomicsQueryDto)
    (count : Nat) : List EconomicsRow :=
  (List.range count).flatMap fun i =>
    (economics order createdAt s { q with page := i + 1, page_pos := Nat.le_add_left 1 i }).items

/-- An external courier has the order. -/
def IsCarried (s : State) (orderId : Nat) : Prop :=
  ∃ l ∈ s.legs, l.orderId = orderId ∧ l.providerKey ≠ inHouseProviderKey ∧ isActive l.status = true

/-- The report says what the earnings say. -/
structure AgreesWithEarnings (d : Deployment) (order : NewestFirst) (createdAt : Nat → Int)
    (s : State) (q : EconomicsQueryDto) : Prop where
  -- the one entry for carrying the parcel is the courier's, or a rider's
  completed : ∀ row ∈ listed order createdAt s q, row.orderStatus = .completed →
    ∃ e, (entriesOf s row.orderId).filter isCarrier = [e] ∧
      row.courierAllocationKobo = if e.partyType = .courierAllocation then e.amountKobo else 0
  -- whenever the order is collected, by the rule of now
  estimated : ∀ row ∈ listed order createdAt s q, IsCarried s row.orderId →
    ∀ (as : List Action) (args : ConfirmArgs),
      let before := run d s as
      let after := System.exec d before (.confirm .collection row.orderId args)
      currentRule RevenueSplitRule.effectiveFrom before.splitRules before.now
          = currentRule RevenueSplitRule.effectiveFrom s.splitRules s.now →
        ∀ e ∈ after.entries, e ∉ before.entries → e.partyType = .courierAllocation →
          row.courierAllocationKobo = e.amountKobo
  totals : ∀ count, (economics order createdAt s q).total ≤ count * q.limit →
    let rows := pages order createdAt s q count
    (economics order createdAt s q).totals = totalsOf rows ∧
      (economics order createdAt s q).total = rows.length ∧
      (rows.map EconomicsRow.orderId).Nodup ∧
      ∀ orderId, orderId ∈ rows.map EconomicsRow.orderId ↔
        ∃ o ∈ s.orders, o.id = orderId ∧ Matches createdAt s q o

/-- No completed order of the report paid a Locoomo rider, or his share is under
one kobo. -/
def OnlyCouriersPaid (createdAt : Nat → Int) (s : State) (q : EconomicsQueryDto) : Prop :=
  ∀ o ∈ s.orders, Matches createdAt s q o → o.status = .completed → o.riderId ≠ none →
    (o.amountKobo - o.destinationFeeKobo) * riderPercent s < 100

instance : Decidable (OnlyCouriersPaid createdAt s q) :=
  inferInstanceAs (Decidable (∀ o ∈ s.orders, _))

/-- **The totals are the sums over all pages.** -/
theorem totals_hold (hids : Distinct OrderRow.id s.orders) (count : Nat)
    (h : (economics order createdAt s q).total ≤ count * q.limit) :
    let rows := pages order createdAt s q count
    (economics order createdAt s q).totals = totalsOf rows ∧
      (economics order createdAt s q).total = rows.length ∧
      (rows.map EconomicsRow.orderId).Nodup ∧
      ∀ orderId, orderId ∈ rows.map EconomicsRow.orderId ↔
        ∃ o ∈ s.orders, o.id = orderId ∧ Matches createdAt s q o := by
  have hpages : pages order createdAt s q count = listed order createdAt s q :=
    Reports.pages_all h
  intro rows
  have hrows : rows = listed order createdAt s q := hpages
  rw [hrows]
  refine ⟨rfl, rfl, listed_nodup hids, fun orderId => ?_⟩
  simp only [List.mem_map, mem_listed hids]
  constructor
  · rintro ⟨row, ⟨o, ho, hmatches, rfl⟩, rfl⟩
    exact ⟨o, ho, rfl, hmatches⟩
  · rintro ⟨o, ho, rfl, hmatches⟩
    exact ⟨_, ⟨o, ho, hmatches, rfl⟩, rfl⟩

/-- What a row shows of a completed order. -/
theorem allocation_completed (h : Earned s) {o : OrderRow} (ho : o ∈ s.orders)
    (hcompleted : o.status = .completed) :
    ∃ e, (entriesOf s o.id).filter isCarrier = [e] ∧ e.partyType = carrierParty o ∧
      recordedAllocation s o.id = if o.riderId = none then some e.amountKobo else none := by
  obtain ⟨rule, hrule⟩ := h.complete o ho hcompleted
  obtain ⟨e, hcarrier, hparty, -, hfind⟩ := splitEntries_courier o rule
  refine ⟨e, hrule ▸ hcarrier, hparty, ?_⟩
  rw [recordedAllocation_eq, hrule, hfind]
  split <;> rfl

/-- An order's columns of the checkout stay as they are. -/
theorem core_run (hs : Changes.Aligned s) {o : OrderRow} (ho : o ∈ s.orders) (as : List Action)
    {o' : OrderRow} (ho' : o' ∈ (run d s as).orders) (hid : o'.id = o.id) : core o' = core o := by
  have hkeeps := Transactions.run_keeps (d := d) (P := fun t => ∃ p ∈ t.orders, core p = core o)
    (fun {answers t t'} ht hp hc => by
      obtain ⟨p, hp, hcore⟩ := hp
      cases Effects.effect_of_change ht.inStep hc with
      | still hstill => exact ⟨p, hstill.orders ▸ hp, hcore⟩
      | book hbooked =>
          have horders : t'.orders = t.orders := by rw [hbooked.eq]; rfl
          exact ⟨p, horders ▸ hp, hcore⟩
      | refer intentId hr =>
          cases hr
          exact ⟨p, hp, hcore⟩
      | pay hanswer hpayable hconfirmed =>
          rw [hconfirmed.orders]
          exact ⟨p, List.mem_append_left _ hp, hcore⟩
      | expire hmem hpending heq =>
          have horders : t'.orders = t.orders := by rw [heq]; rfl
          exact ⟨p, horders ▸ hp, hcore⟩
      | move hm =>
          obtain ⟨p', hp', hcore'⟩ :=
            Books.exists_of_cores (Books.cores_of_shift ht.inStep hm.toShift).symm hp
          exact ⟨p', hp', hcore'.symm.trans hcore⟩)
    hs ⟨o, ho, rfl⟩ as
  obtain ⟨hs', p, hp, hcore⟩ := hkeeps
  have hpid : p.id = o'.id := (core_id hcore).trans hid.symm
  rw [← hs'.inStep.orderIds.eq_of_key hp ho' hpid]
  exact hcore

/-- What the earnings and the legs of a reachable database are like. -/
structure Reached (s : State) : Prop where
  aligned : Changes.Aligned s
  balanced : Books.Balanced s
  earned : Earned s

theorem reached (d : Deployment) {s₀ : State} (h : Initial s₀) (as : List Action) :
    Reached (run d s₀ as) := by
  obtain ⟨haligned, hbalanced⟩ := Books.run_balanced d h as
  have hearned := (Transactions.run_keeps (d := d) (P := Earned)
    (fun {answers s s'} hs hp hc => hp.keep hs.inStep (Effects.effect_of_change hs.inStep hc))
    (Books.aligned_of_initial h) (earned_of_initial h) as).2
  exact ⟨haligned, hbalanced, hearned⟩

/-- **The estimate is what completion will record.** -/
theorem estimate_records (hs : Reached s) {o : OrderRow} (ho : o ∈ s.orders)
    (hcarried : IsCarried s o.id) (as : List Action) (args : ConfirmArgs)
    (hrules : currentRule RevenueSplitRule.effectiveFrom (run d s as).splitRules (run d s as).now
      = currentRule RevenueSplitRule.effectiveFrom s.splitRules s.now)
    {e : RevenueSplitEntryRow}
    (he : e ∈ (System.exec d (run d s as) (.confirm .collection o.id args)).entries)
    (hnew : e ∉ (run d s as).entries) (hparty : e.partyType = .courierAllocation) :
    (toRow s (groupRow createdAt s o (legsFor createdAt s q o))).courierAllocationKobo
      = e.amountKobo := by
  -- nothing is recorded of an order that is under way
  have hnone : recordedAllocation s o.id = none := by
    obtain ⟨l, hl, horder, -, hactive⟩ := hcarried
    have hstatus := (hs.aligned.inStep.paired l hl hactive o ho horder.symm).1
    have hopen : o.status ≠ .completed := by
      rw [hstatus]
      exact Effects.pairedStatus_ne_completed l.status
    rw [recordedAllocation_eq, hs.earned.none o ho hopen]
    rfl
  obtain ⟨o₁, ho₁, hid, o', rule, hsame, hsplit, hrule⟩ := collection_records he hnew
  have hcore : core o' = core o := hsame.trans (core_run hs.aligned ho as ho₁ hid)
  have hamount : o'.amountKobo = o.amountKobo := by
    simpa [core] using congrArg OrderRow.amountKobo hcore
  have hdestination : o'.destinationFeeKobo = o.destinationFeeKobo := by
    simpa [core] using congrArg OrderRow.destinationFeeKobo hcore
  have hpercent : riderPercent s = rule.riderPercent := by
    rw [riderPercent, ← hrules, hrule]
    rfl
  calc (toRow s (groupRow createdAt s o (legsFor createdAt s q o))).courierAllocationKobo
      = estimate s (o.amountKobo - o.destinationFeeKobo) := by simp [toRow, groupRow, hnone]
    _ = (calculateSplit (o.amountKobo - o.destinationFeeKobo) rule.riderPercent
          rule.nodePercent).riderShareKobo := by rw [estimate_eq s _ rule.nodePercent, hpercent]
    _ = e.amountKobo := by rw [mem_splitEntries_courier hsplit hparty, hamount, hdestination]

/-- A share is under one kobo. -/
theorem estimate_eq_zero {deliveryFeeKobo : Int} (h : 0 ≤ deliveryFeeKobo) :
    estimate s deliveryFeeKobo = 0 ↔ deliveryFeeKobo * riderPercent s < 100 := by
  have hproduct : 0 ≤ deliveryFeeKobo * riderPercent s := by positivity
  rw [estimate_eq s deliveryFeeKobo 0]
  simp only [calculateSplit]
  omega

/-- **The report agrees with the earnings** exactly when no completed order on it
paid a Locoomo rider. -/
theorem economics_agrees_iff (d : Deployment) (order : NewestFirst) (createdAt : Nat → Int)
    {s₀ : State} (h : Initial s₀) (as : List Action) (q : EconomicsQueryDto) :
    AgreesWithEarnings d order createdAt (run d s₀ as) q ↔
      OnlyCouriersPaid createdAt (run d s₀ as) q := by
  have hs := reached d h as
  generalize run d s₀ as = s at hs
  have hids := hs.aligned.inStep.orderIds
  constructor
  · intro hagrees o ho hmatches hcompleted hrider
    obtain ⟨i, -, -, -, -, hfee, -⟩ := Balanced.amounts hs.balanced ho
    obtain ⟨e, hcarrier, hparty, hrecorded⟩ := allocation_completed hs.earned ho hcompleted
    let row := toRow s (groupRow createdAt s o (legsFor createdAt s q o))
    have hrow : row ∈ listed order createdAt s q := (mem_listed hids).mpr ⟨o, ho, hmatches, rfl⟩
    obtain ⟨e', hcarrier', hshown⟩ := hagrees.completed row hrow hcompleted
    obtain rfl : e = e' := List.singleton_inj.mp (hcarrier.symm.trans hcarrier')
    have hpaid : e.partyType ≠ .courierAllocation := by
      rw [hparty, carrierParty, if_pos (Option.isSome_iff_ne_none.mpr hrider)]
      decide
    have hestimate : row.courierAllocationKobo
        = estimate s (o.amountKobo - o.destinationFeeKobo) := by
      simp [row, toRow, groupRow, hrecorded, hrider]
    rw [if_neg hpaid, hestimate, estimate_eq_zero hfee] at hshown
    exact hshown
  · intro hpaid
    refine ⟨?_, ?_, fun count hcount => totals_hold hids count hcount⟩
    · intro row hrow hcompleted
      obtain ⟨o, ho, hmatches, rfl⟩ := (mem_listed hids).mp hrow
      obtain ⟨i, -, -, -, -, hfee, -⟩ := Balanced.amounts hs.balanced ho
      obtain ⟨e, hcarrier, hparty, hrecorded⟩ := allocation_completed hs.earned ho hcompleted
      refine ⟨e, hcarrier, ?_⟩
      by_cases hrider : o.riderId = none
      · simp [toRow, groupRow, hrecorded, hrider, hparty, carrierParty]
      · have hzero := (estimate_eq_zero hfee).mpr (hpaid o ho hmatches hcompleted hrider)
        have hisSome := Option.isSome_iff_ne_none.mpr hrider
        simp [toRow, groupRow, hrecorded, hrider, hparty, carrierParty, hisSome, hzero]
    · intro row hrow hcarried as' args before after hrules e he hnew hparty
      obtain ⟨o, ho, -, rfl⟩ := (mem_listed hids).mp hrow
      exact estimate_records hs ho hcarried as' args hrules he hnew hparty

/-- Orders of one instant stay as they came. -/
def demoOrder : NewestFirst where
  sort := List.insertionSort fun a b => b.createdAt ≤ a.createdAt
  perm rows := List.perm_insertionSort _ rows
  newest rows := by
    have : IsTrans PerOrderRow fun a b => b.createdAt ≤ a.createdAt :=
      ⟨fun _ _ _ hab hbc => hbc.trans hab⟩
    have : Std.Total fun a b : PerOrderRow => b.createdAt ≤ a.createdAt :=
      ⟨fun a b => le_total b.createdAt a.createdAt⟩
    exact List.pairwise_insertionSort _ rows

def demoQuery : EconomicsQueryDto :=
  ⟨⟨1, 20, by decide, by decide, by decide⟩, none, none, none⟩

/-- A parcel that its courier delivered, collected. -/
theorem demo_agrees :
    AgreesWithEarnings demo demoOrder (fun _ => 0)
      (run demo demoState (demoBooking ++ [.webhook 10 (some demoPayment) ["LOC1"]] ++ demoBooked ++
        [.syncFromSnapshot "sendii" (demoSnapshot .delivered 1), .confirm .intake 11 (demoArgs ""),
          .confirm .collection 11 (demoArgs "code")])) demoQuery := by
  refine (economics_agrees_iff demo demoOrder (fun _ => 0) demoState_initial _ demoQuery).mpr ?_
  decide +kernel

/-- A parcel taken back from its courier and carried by a Locoomo rider, collected. -/
def demoFallback : List Action :=
  demoBooking ++ [.webhook 10 (some demoPayment) ["LOC1"]] ++ demoBooked ++
    [.fallbackToInHouse 12, .accept 11 3, .requestCode 11 3 .riderPickup "p",
      .confirm .pickup 11 (demoArgs "p"), .requestCode 11 3 .riderArrival "a",
      .confirm .arrival 11 (demoArgs "a"), .confirm .intake 11 (demoArgs ""),
      .confirm .collection 11 (demoArgs "code")]

/-- The rider got his 78 kobo, and the report shows them as an allocation that
is still an estimate. -/
theorem not_agrees :
    ¬ ∀ (d : Deployment) (order : NewestFirst) (createdAt : Nat → Int) (s₀ : State)
      (as : List Action) (q : EconomicsQueryDto), Initial s₀ →
      AgreesWithEarnings d order createdAt (run d s₀ as) q := by
  intro h
  have hagrees := h demo demoOrder (fun _ => 0) demoState demoFallback demoQuery demoState_initial
  let rows := listed demoOrder (fun _ => 0) (run demo demoState demoFallback) demoQuery
  have hshown : rows.map (fun r => (r.orderId, r.orderStatus, r.courierAllocationKobo,
      r.allocationEstimated)) = [(11, .completed, 78, true)] := by decide +kernel
  have hcarriers : (entriesOf (run demo demoState demoFallback) 11).filter isCarrier
      = [⟨11, .rider, some 3, 78, 5, .pending⟩] := by decide +kernel
  obtain ⟨row, hrow, hcolumns⟩ : ∃ row ∈ rows, (row.orderId, row.orderStatus,
      row.courierAllocationKobo, row.allocationEstimated) = (11, .completed, 78, true) := by
    rw [← List.mem_map, hshown]
    exact List.mem_singleton.mpr rfl
  obtain ⟨hid, hstatus, hallocation, -⟩ : row.orderId = 11 ∧ row.orderStatus = .completed ∧
      row.courierAllocationKobo = 78 ∧ row.allocationEstimated = true := by simpa using hcolumns
  obtain ⟨e, hcarrier, hagreed⟩ := hagrees.completed row hrow hstatus
  rw [hid, hcarriers] at hcarrier
  obtain rfl := List.singleton_inj.mp hcarrier
  rw [hallocation] at hagreed
  revert hagreed
  decide

end Locoomo.Economics
