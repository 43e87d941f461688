import Locoomo.Lib.Paging
import Locoomo.Economics

/-! The paged lists of earnings: the admin's, a Node operator's and a rider's. All
are sorted by `createdAt`, which the entries of one order share. -/

namespace Locoomo.EarningsPages

open Locoomo.Pricing Locoomo.Database Locoomo.Handoffs Relational Paging
open Locoomo.Economics (PaginationQueryDto)

/-! ## Tables -/

/-- A stored entry; `createdAt` is when its transaction began. -/
structure EntryRow extends RevenueSplitEntryRow where
  id : Nat
  paidAt : Option Nat
  paidByAdminId : Option Nat
  createdAt : Nat
  deriving DecidableEq, Repr

structure OrderRef where
  id : Nat
  trackingCode : String

structure UserRef where
  id : Nat
  email : String

structure NodeRef where
  id : Nat
  name : String

structure PayoutAccount where
  payoutBankCode : Option String
  payoutBankName : Option String
  payoutAccountNumber : Option String
  payoutAccountName : Option String
  payoutAccountVerifiedAt : Option Nat

def PayoutAccount.unset : PayoutAccount := ⟨none, none, none, none, none⟩

structure RiderProfileRef where
  userId : Nat
  account : PayoutAccount

inductive NodeMembershipRole
  | owner | staff
  deriving DecidableEq

inductive NodeMembershipStatus
  | active | removed
  deriving DecidableEq

structure NodeMembershipRow where
  userId : Nat
  nodeId : Nat
  roleAtNode : NodeMembershipRole
  status : NodeMembershipStatus
  account : PayoutAccount

structure World where
  orders : List OrderRef
  users : List UserRef
  nodes : List NodeRef
  riderProfiles : List RiderProfileRef
  memberships : List NodeMembershipRow
  entries : List EntryRow
  nextId : Nat

def empty : World := ⟨[], [], [], [], [], [], 1⟩

/-! ## Writing them -/

/-- `MarkRevenueSplitPaidService` on the entry; paid or not payable, it stays as it is. -/
def markedPaid (adminId now : Nat) (e : EntryRow) : EntryRow :=
  { e with payoutStatus := .paid, paidAt := some now, paidByAdminId := some adminId }

/-- The four rows of one `record`, in one transaction. -/
def recorded (order : OrderRow) (rule : RevenueSplitRule) (startedAt nextId : Nat) :
    List EntryRow :=
  (splitEntries order rule).mapIdx fun i e =>
    { e with id := nextId + i, paidAt := none, paidByAdminId := none, createdAt := startedAt }

inductive Action
  | register (email : String)
  | onboardRider (userId : Nat)
  | setRiderPayoutAccount (userId : Nat) (account : PayoutAccount)
  | createNode (name : String)
  | onboardNode (userId : Nat) (name : String)
  | setNodePayoutAccount (userId nodeId : Nat) (account : PayoutAccount)
  | inviteStaff (nodeId : Nat) (email : String)
  | removeStaff (userId nodeId : Nat)
  | placeOrder (trackingCode : String)
  | record (order : OrderRow) (rule : RevenueSplitRule) (startedAt : Nat)
  | markPaid (entryId adminId now : Nat)

def exec (w : World) : Action → World
  | .register email => { w with users := w.users ++ [⟨w.nextId, email⟩], nextId := w.nextId + 1 }
  | .onboardRider userId =>
      -- `userId` is unique among the profiles
      if w.riderProfiles.any fun rp => rp.userId = userId then w
      else { w with riderProfiles := w.riderProfiles ++ [⟨userId, .unset⟩] }
  | .setRiderPayoutAccount userId account =>
      { w with
        riderProfiles := update (fun rp => rp.userId = userId) ({ · with account })
          w.riderProfiles }
  | .createNode name => { w with nodes := w.nodes ++ [⟨w.nextId, name⟩], nextId := w.nextId + 1 }
  | .onboardNode userId name =>
      { w with
        nodes := w.nodes ++ [⟨w.nextId, name⟩]
        memberships := w.memberships ++ [⟨userId, w.nextId, .owner, .active, .unset⟩]
        nextId := w.nextId + 1 }
  | .setNodePayoutAccount userId nodeId account =>
      { w with
        memberships := update (fun m => m.userId = userId ∧ m.nodeId = nodeId ∧
            m.status = .active ∧ m.roleAtNode = .owner)
          ({ · with account }) w.memberships }
  | .inviteStaff nodeId email =>
      { w with
        users := w.users ++ [⟨w.nextId, email⟩]
        memberships := w.memberships ++ [⟨w.nextId, nodeId, .staff, .active, .unset⟩]
        nextId := w.nextId + 1 }
  | .removeStaff userId nodeId =>
      { w with
        memberships := update (fun m => m.userId = userId ∧ m.nodeId = nodeId ∧
            m.status = .active ∧ m.roleAtNode = .staff)
          ({ · with status := .removed }) w.memberships }
  | .placeOrder trackingCode =>
      { w with orders := w.orders ++ [⟨w.nextId, trackingCode⟩], nextId := w.nextId + 1 }
  | .record order rule startedAt =>
      -- the foreign key on the order, and one entry per order and party
      if (w.orders.any fun o => o.id = order.id) &&
          (splitEntries order rule).all fun e =>
            !(w.entries.any fun x => x.orderId = order.id ∧ x.partyType = e.partyType) then
        { w with
          entries := w.entries ++ recorded order rule startedAt w.nextId
          nextId := w.nextId + (recorded order rule startedAt w.nextId).length }
      else w
  | .markPaid entryId adminId now =>
      { w with
        entries := update (fun e => e.id = entryId ∧ e.payoutStatus = .pending)
          (markedPaid adminId now) w.entries }

/-! ## Reading them -/

structure PaginatedResultDto (α : Type) where
  items : List α
  page : Nat
  limit : Nat
  total : Nat

/-- A row of the party's own view. -/
structure OwnEntryRow where
  id : Nat
  orderId : Nat
  orderTrackingCode : String
  partyType : RevenueSplitPartyType
  amountKobo : Int
  payoutStatus : PayoutStatus
  paidAt : Option Nat
  createdAt : Nat

structure AdminRevenueSplitEntryRow where
  id : Nat
  orderId : Nat
  orderTrackingCode : String
  partyType : RevenueSplitPartyType
  partyId : Option Nat
  partyLabel : Option String
  amountKobo : Int
  payoutStatus : PayoutStatus
  paidAt : Option Nat
  paidByAdminId : Option Nat
  paidByAdminEmail : Option String
  payoutBankCode : Option String
  payoutBankName : Option String
  payoutAccountNumber : Option String
  payoutAccountName : Option String
  payoutAccountConfigured : Bool
  createdAt : Nat

structure ListRevenueSplitEntriesQueryDto extends PaginationQueryDto where
  partyType : Option RevenueSplitPartyType
  payoutStatus : Option PayoutStatus

section
variable (w : World)

/-- The `WHERE` of `listForParty`. -/
def ofParty (partyTypes : List RevenueSplitPartyType) (partyIds : List Nat) (e : EntryRow) : Bool :=
  e.partyType ∈ partyTypes && e.partyId.any fun partyId => partyId ∈ partyIds

def ownView (e : EntryRow) (o : OrderRef) : OwnEntryRow :=
  ⟨e.id, e.orderId, o.trackingCode, e.partyType, e.amountKobo, e.payoutStatus, e.paidAt,
    e.createdAt⟩

def ownRows (partyTypes : List RevenueSplitPartyType) (partyIds : List Nat) : List OwnEntryRow :=
  (w.entries.filter (ofParty partyTypes partyIds)).flatMap fun e =>
    (w.orders.filter fun o => decide (o.id = e.orderId)).map (ownView e)

def listForParty (arrange : Arrangement OwnEntryRow.createdAt)
    (partyTypes : List RevenueSplitPartyType) (partyIds : List Nat) (query : PaginationQueryDto) :
    PaginatedResultDto OwnEntryRow where
  items := Reports.page query.limit query.page (arrange.apply (ownRows w partyTypes partyIds))
  page := query.page
  limit := query.limit
  total := (w.entries.filter (ofParty partyTypes partyIds)).length

def listForRider (arrange : Arrangement OwnEntryRow.createdAt) (riderId : Nat)
    (query : PaginationQueryDto) : PaginatedResultDto OwnEntryRow :=
  listForParty w arrange [.rider] [riderId] query

/-- A Node earns as the origin and as the destination. -/
def listForNode (arrange : Arrangement OwnEntryRow.createdAt) (nodeIds : List Nat)
    (query : PaginationQueryDto) : PaginatedResultDto OwnEntryRow :=
  listForParty w arrange [.node, .destinationNode] nodeIds query

/-- The `WHERE` of `listAll`. -/
def wanted (partyType : Option RevenueSplitPartyType) (payoutStatus : Option PayoutStatus)
    (e : EntryRow) : Bool :=
  (partyType.all fun t => e.partyType = t) && payoutStatus.all fun status => e.payoutStatus = status

def isRider (e : EntryRow) : Bool := e.partyType = .rider

def isNode (e : EntryRow) : Bool := e.partyType ∈ [RevenueSplitPartyType.node, .destinationNode]

def isActiveOwner (m : NodeMembershipRow) : Bool := m.roleAtNode = .owner && m.status = .active

def partyLabel (e : EntryRow) (u : Option UserRef) (n : Option NodeRef) : Option String :=
  match e.partyType with
  | .rider => u.map UserRef.email
  | .node | .destinationNode => n.map NodeRef.name
  | .courierAllocation => some "Courier allocation (not payable)"
  | .platform => some "Platform"

/-- Of the two payout accounts `COALESCE` takes each column that is there. -/
def adminView (e : EntryRow) (o : OrderRef) (u : Option UserRef) (n : Option NodeRef)
    (paidByAdmin : Option UserRef) (rp : Option RiderProfileRef) (nop : Option NodeMembershipRow) :
    AdminRevenueSplitEntryRow :=
  let coalesce {α : Type} (column : PayoutAccount → Option α) : Option α :=
    (rp.bind fun rp => column rp.account).or (nop.bind fun nop => column nop.account)
  { id := e.id
    orderId := e.orderId
    orderTrackingCode := o.trackingCode
    partyType := e.partyType
    partyId := e.partyId
    partyLabel := partyLabel e u n
    amountKobo := e.amountKobo
    payoutStatus := e.payoutStatus
    paidAt := e.paidAt
    paidByAdminId := e.paidByAdminId
    paidByAdminEmail := paidByAdmin.map UserRef.email
    payoutBankCode := coalesce PayoutAccount.payoutBankCode
    payoutBankName := coalesce PayoutAccount.payoutBankName
    payoutAccountNumber := coalesce PayoutAccount.payoutAccountNumber
    payoutAccountName := coalesce PayoutAccount.payoutAccountName
    payoutAccountConfigured := (coalesce PayoutAccount.payoutAccountVerifiedAt).isSome
    createdAt := e.createdAt }

/-- The joins of `listAll`. -/
def adminRows (partyType : Option RevenueSplitPartyType) (payoutStatus : Option PayoutStatus) :
    List AdminRevenueSplitEntryRow :=
  (w.entries.filter (wanted partyType payoutStatus)).flatMap fun e =>
    (w.orders.filter fun o => decide (o.id = e.orderId)).flatMap fun o =>
    (Reports.leftMatches (fun u : UserRef => isRider e && decide (some u.id = e.partyId))
      w.users).flatMap fun u =>
    (Reports.leftMatches (fun n : NodeRef => isNode e && decide (some n.id = e.partyId))
      w.nodes).flatMap fun n =>
    (Reports.leftMatches (fun a : UserRef => decide (some a.id = e.paidByAdminId))
      w.users).flatMap fun paidByAdmin =>
    (Reports.leftMatches (fun rp : RiderProfileRef =>
      isRider e && decide (some rp.userId = e.partyId)) w.riderProfiles).flatMap fun rp =>
    (Reports.leftMatches (fun m : NodeMembershipRow =>
      isNode e && decide (some m.nodeId = e.partyId) && isActiveOwner m)
      w.memberships).map fun nop =>
    adminView e o u n paidByAdmin rp nop

def listAll (arrange : Arrangement AdminRevenueSplitEntryRow.createdAt)
    (query : ListRevenueSplitEntriesQueryDto) : PaginatedResultDto AdminRevenueSplitEntryRow where
  items := Reports.page query.limit query.page
    (arrange.apply (adminRows w query.partyType query.payoutStatus))
  page := query.page
  limit := query.limit
  total := (w.entries.filter (wanted query.partyType query.payoutStatus)).length
end

/-! ## What the tables keep -/

/-- Generated ids, the unique indexes, the foreign key on the order, and one owner for
a Node. -/
structure Kept (w : World) : Prop where
  orders : Serial OrderRef.id w.nextId w.orders
  users : Serial UserRef.id w.nextId w.users
  nodes : Serial NodeRef.id w.nextId w.nodes
  entries : Serial EntryRow.id w.nextId w.entries
  riders : Distinct RiderProfileRef.userId w.riderProfiles
  owners : Serial NodeMembershipRow.nodeId w.nextId (w.memberships.filter isActiveOwner)
  placed : ∀ e ∈ w.entries, ∃ o ∈ w.orders, o.id = e.orderId

theorem kept_empty : Kept empty where
  orders := Serial.nil _ _
  users := Serial.nil _ _
  nodes := Serial.nil _ _
  entries := Serial.nil _ _
  riders := List.nodup_nil
  owners := Serial.nil _ _
  placed := by simp [empty]

variable {w : World}

theorem recorded_ids (order : OrderRow) (rule : RevenueSplitRule) (startedAt nextId : Nat) :
    (recorded order rule startedAt nextId).map EntryRow.id
      = List.range' nextId (recorded order rule startedAt nextId).length := by
  refine List.ext_getElem (by simp) fun i _ _ => ?_
  simp [recorded]

theorem recorded_orderId {order : OrderRow} {rule : RevenueSplitRule} {startedAt nextId : Nat}
    {e : EntryRow} (he : e ∈ recorded order rule startedAt nextId) :
    e.orderId = order.id ∧ e.createdAt = startedAt := by
  obtain ⟨i, hi, rfl⟩ := List.mem_mapIdx.mp he
  exact ⟨Money.orderId_of_splitEntries _ (List.getElem_mem hi), rfl⟩

/-- Ids may be left out. -/
theorem Kept.next (h : Kept w) {nextId : Nat} (hle : w.nextId ≤ nextId) :
    Kept { w with nextId } where
  orders := h.orders.mono hle
  users := h.users.mono hle
  nodes := h.nodes.mono hle
  entries := h.entries.mono hle
  riders := h.riders
  owners := h.owners.mono hle
  placed := h.placed

/-- **Every write keeps the tables so.** -/
theorem Kept.step (h : Kept w) (a : Action) : Kept (exec w a) := by
  have hnext : Kept { w with nextId := w.nextId + 1 } := h.next (Nat.le_succ _)
  cases a with
  | register email => exact { hnext with users := h.users.insert rfl }
  | onboardRider userId =>
      simp only [exec]
      split
      · exact h
      · next hnew =>
          refine { h with riders := h.riders.append_singleton fun rp hrp hid => ?_ }
          exact hnew (List.any_eq_true.mpr ⟨rp, hrp, by simpa using hid⟩)
  | setRiderPayoutAccount userId account =>
      exact { h with riders := h.riders.update fun _ _ _ => rfl }
  | createNode name => exact { hnext with nodes := h.nodes.insert rfl }
  | onboardNode userId name =>
      refine { hnext with nodes := h.nodes.insert rfl, owners := ?_ }
      simp only [exec, List.filter_append]
      exact h.owners.insert rfl
  | setNodePayoutAccount userId nodeId account =>
      refine { h with owners := ?_ }
      refine (filter_update_of_keep (q := isActiveOwner) (f := ({ · with account })) w.memberships
        fun _ _ _ => rfl) ▸ ?_
      exact h.owners.update fun _ => rfl
  | inviteStaff nodeId email =>
      refine { hnext with users := h.users.insert rfl, owners := ?_ }
      have hstaff : [(⟨w.nextId, nodeId, .staff, .active, .unset⟩ : NodeMembershipRow)].filter
          isActiveOwner = [] := rfl
      simp only [exec, List.filter_append, hstaff, List.append_nil]
      exact hnext.owners
  | removeStaff userId nodeId =>
      refine { h with owners := ?_ }
      simp only [exec]
      rw [filter_update_of_drop fun m _ hm => ?_]
      · exact h.owners
      · have hstaff : m.roleAtNode = .staff := (of_decide_eq_true hm).2.2.2
        simp [isActiveOwner, hstaff]
  | placeOrder trackingCode =>
      refine { hnext with orders := h.orders.insert rfl, placed := fun e he => ?_ }
      obtain ⟨o, ho, hid⟩ := h.placed e he
      exact ⟨o, List.mem_append_left _ ho, hid⟩
  | record order rule startedAt =>
      simp only [exec]
      split
      · next hallowed =>
          have hrows := h.next
            (Nat.le_add_right w.nextId (recorded order rule startedAt w.nextId).length)
          refine { hrows with
            entries := h.entries.append (recorded_ids order rule startedAt w.nextId)
            placed := fun e he => ?_ }
          rcases List.mem_append.mp he with he | he
          · exact h.placed e he
          · obtain ⟨o, ho, hid⟩ := List.any_eq_true.mp (Bool.and_eq_true_iff.mp hallowed).1
            exact ⟨o, ho, (of_decide_eq_true hid).trans (recorded_orderId he).1.symm⟩
      · exact h
  | markPaid entryId adminId now =>
      refine { h with entries := h.entries.update fun _ => rfl, placed := fun e he => ?_ }
      obtain ⟨e', he', rfl⟩ := mem_update.mp he
      obtain ⟨o, ho, hid⟩ := h.placed e' he'
      refine ⟨o, ho, ?_⟩
      split
      · exact hid
      · exact hid

theorem kept_run (as : List Action) : Kept (Runs.run exec empty as) :=
  Runs.run_invariant (fun _ a h => h.step a) kept_empty as

/-! ## One row for each entry -/

theorem Kept.order_of (h : Kept w) {e : EntryRow} (he : e ∈ w.entries) :
    ∃ o, (w.orders.filter fun o => decide (o.id = e.orderId)) = [o] := by
  obtain ⟨o, ho, hid⟩ := h.placed e he
  refine ⟨o, ?_⟩
  rw [← hid]
  exact h.orders.distinct.filter_key ho

/-- A left join on a distinct key, where the entry has one, gives one row. -/
theorem leftMatches_key {ρ : Type} {key : ρ → Nat} {t : List ρ} (ht : Distinct key t)
    (applies : Bool) (k : Option Nat) :
    ∃ found, Reports.leftMatches (fun r => applies && decide (some (key r) = k)) t = [found] := by
  refine ⟨_, Reports.leftMatches_of_unique ?_⟩
  match k with
  | none => simp
  | some k => simpa using ht.filter_key_length (fun _ => applies) k

theorem Kept.ownRows_columns (h : Kept w) (partyTypes : List RevenueSplitPartyType)
    (partyIds : List Nat) :
    (ownRows w partyTypes partyIds).map (fun r => (r.id, r.createdAt))
      = (w.entries.filter (ofParty partyTypes partyIds)).map fun e => (e.id, e.createdAt) := by
  refine Reports.map_flatMap_of_single fun e he => ?_
  obtain ⟨o, ho⟩ := h.order_of (List.mem_of_mem_filter he)
  simp [ho, ownView]

/-- The joins of the admin's list neither drop an entry nor fan out. -/
theorem Kept.adminRows_columns (h : Kept w) (partyType : Option RevenueSplitPartyType)
    (payoutStatus : Option PayoutStatus) :
    (adminRows w partyType payoutStatus).map (fun r => (r.id, r.createdAt))
      = (w.entries.filter (wanted partyType payoutStatus)).map fun e => (e.id, e.createdAt) := by
  refine Reports.map_flatMap_of_single fun e he => ?_
  obtain ⟨o, ho⟩ := h.order_of (List.mem_of_mem_filter he)
  obtain ⟨u, hu⟩ := leftMatches_key h.users.distinct (isRider e) e.partyId
  obtain ⟨n, hn⟩ := leftMatches_key h.nodes.distinct (isNode e) e.partyId
  obtain ⟨a, ha⟩ := leftMatches_key h.users.distinct true e.paidByAdminId
  obtain ⟨rp, hrp⟩ := leftMatches_key h.riders (isRider e) e.partyId
  obtain ⟨nop, hnop⟩ := leftMatches_key h.owners.distinct (isNode e) e.partyId
  rw [← Reports.leftMatches_and] at hnop
  simp only [Bool.true_and] at ha
  simp [ho, hu, hn, ha, hrp, hnop, adminView]

/-! ## Paging through a list -/

/-- The pages of a listing, each fetched by a query of its own, hold every matching
entry once and report how many there are. -/
structure ListsExactly {α : Type} (fetch : Nat → PaginatedResultDto α) (id : α → Nat)
    (matching : List EntryRow) (limit : Nat) : Prop where
  total : ∀ i, (fetch i).total = matching.length
  exact : ∀ count, matching.length ≤ count * limit →
    ((List.range count).flatMap fun i => (fetch i).items.map id).Perm (matching.map EntryRow.id)

/-- The query for a page, its other parameters as they are. -/
def nthPage (query : PaginationQueryDto) (i : Nat) : PaginationQueryDto :=
  { query with page := i + 1, page_pos := Nat.succ_pos i }

def ListRevenueSplitEntriesQueryDto.nthPage (query : ListRevenueSplitEntriesQueryDto) (i : Nat) :
    ListRevenueSplitEntriesQueryDto :=
  { query with toPaginationQueryDto := EarningsPages.nthPage query.toPaginationQueryDto i }

/-- Paging through the admin's list, with the filters and the page size of `query`. -/
def AdminPagesExact (w : World) (query : ListRevenueSplitEntriesQueryDto) : Prop :=
  ∀ arrange : Nat → Arrangement AdminRevenueSplitEntryRow.createdAt,
    ListsExactly (fun i => listAll w (arrange i) (query.nthPage i)) AdminRevenueSplitEntryRow.id
      (w.entries.filter (wanted query.partyType query.payoutStatus)) query.limit

def NodePagesExact (w : World) (nodeIds : List Nat) (query : PaginationQueryDto) : Prop :=
  ∀ arrange : Nat → Arrangement OwnEntryRow.createdAt,
    ListsExactly (fun i => listForNode w (arrange i) nodeIds (nthPage query i)) OwnEntryRow.id
      (w.entries.filter (ofParty [.node, .destinationNode] nodeIds)) query.limit

def RiderPagesExact (w : World) (riderId : Nat) (query : PaginationQueryDto) : Prop :=
  ∀ arrange : Nat → Arrangement OwnEntryRow.createdAt,
    ListsExactly (fun i => listForRider w (arrange i) riderId (nthPage query i)) OwnEntryRow.id
      (w.entries.filter (ofParty [.rider] [riderId])) query.limit

/-- **A listing with the columns of the matching entries** is exact, however the database
orders each page, exactly when no page ends in a tie. -/
theorem listsExactly_iff {α : Type} {id createdAt : α → Nat} {rows : List α}
    {matching : List EntryRow} {limit : Nat} (hlimit : 0 < limit)
    (hids : (matching.map EntryRow.id).Nodup)
    (hrows : rows.map (fun r => (id r, createdAt r))
      = matching.map fun e => (e.id, e.createdAt))
    {fetch : (Nat → Arrangement createdAt) → Nat → PaginatedResultDto α}
    (htotal : ∀ arrange i, (fetch arrange i).total = matching.length)
    (hitems : ∀ arrange i,
      (fetch arrange i).items = Reports.page limit (i + 1) ((arrange i).apply rows)) :
    (∀ arrange, ListsExactly (fetch arrange) id matching limit)
      ↔ ¬ SplitsTie EntryRow.createdAt matching limit := by
  have hrows_ids : rows.map id = matching.map EntryRow.id := by
    simpa [Function.comp_def] using congrArg (List.map Prod.fst) hrows
  have hrows_keys : rows.map createdAt = matching.map EntryRow.createdAt := by
    simpa [Function.comp_def] using congrArg (List.map Prod.snd) hrows
  have hlength : rows.length = matching.length := by
    simpa using congrArg List.length hrows
  have hpages : ∀ arrange count,
      ((List.range count).flatMap fun i => (fetch arrange i).items.map id)
        = (pages arrange rows limit count).map id := by
    intro arrange count
    simp [pages, hitems, List.map_flatMap]
  rw [← splitsTie_of_keys hrows_keys, ← pages_exact_iff (hrows_ids ▸ hids) hlimit, hrows_ids,
    hlength]
  constructor
  · intro h arrange count hcount
    rw [← hpages]
    exact (h arrange).exact count hcount
  · intro h arrange
    refine ⟨htotal arrange, fun count hcount => ?_⟩
    rw [hpages]
    exact h arrange count hcount

theorem Kept.matching_ids (h : Kept w) (p : EntryRow → Bool) :
    ((w.entries.filter p).map EntryRow.id).Nodup :=
  h.entries.distinct.sublist (List.filter_sublist.map _)

theorem Kept.adminPages_exact_iff (h : Kept w) (query : ListRevenueSplitEntriesQueryDto) :
    AdminPagesExact w query ↔ ¬ SplitsTie EntryRow.createdAt
      (w.entries.filter (wanted query.partyType query.payoutStatus)) query.limit :=
  listsExactly_iff query.limit_pos (h.matching_ids _) (h.adminRows_columns _ _)
    (fun _ _ => rfl) fun _ _ => rfl

theorem Kept.nodePages_exact_iff (h : Kept w) (nodeIds : List Nat) (query : PaginationQueryDto) :
    NodePagesExact w nodeIds query ↔ ¬ SplitsTie EntryRow.createdAt
      (w.entries.filter (ofParty [.node, .destinationNode] nodeIds)) query.limit :=
  listsExactly_iff query.limit_pos (h.matching_ids _) (h.ownRows_columns _ _)
    (fun _ _ => rfl) fun _ _ => rfl

theorem Kept.riderPages_exact_iff (h : Kept w) (riderId : Nat) (query : PaginationQueryDto) :
    RiderPagesExact w riderId query ↔ ¬ SplitsTie EntryRow.createdAt
      (w.entries.filter (ofParty [.rider] [riderId])) query.limit :=
  listsExactly_iff query.limit_pos (h.matching_ids _) (h.ownRows_columns _ _)
    (fun _ _ => rfl) fun _ _ => rfl

/-- **When paging pays everyone once.** After any run of writes, for every filter and
page size: exactly when no page ends between two entries of one time. -/
theorem earnings_pages_exact_iff (as : List Action) :
    let w := Runs.run exec empty as
    (∀ query, AdminPagesExact w query ↔ ¬ SplitsTie EntryRow.createdAt
      (w.entries.filter (wanted query.partyType query.payoutStatus)) query.limit) ∧
    (∀ nodeIds query, NodePagesExact w nodeIds query ↔ ¬ SplitsTie EntryRow.createdAt
      (w.entries.filter (ofParty [.node, .destinationNode] nodeIds)) query.limit) ∧
    ∀ riderId query, RiderPagesExact w riderId query ↔ ¬ SplitsTie EntryRow.createdAt
      (w.entries.filter (ofParty [.rider] [riderId])) query.limit := by
  intro w
  have hkept : Kept w := kept_run as
  exact ⟨hkept.adminPages_exact_iff, hkept.nodePages_exact_iff, hkept.riderPages_exact_iff⟩

/-- An order collected from its destination; its four entries have one time. -/
def collectedOrder : List Action :=
  let order : OrderRow :=
    { id := 1, trackingCode := "LCM-7K3M-9XQ2", paymentIntentId := 5, consumerId := 6,
      originNodeId := 7, destinationNodeId := 8, riderId := some 9, vehicleClass := none,
      amountKobo := 160000, destinationFeeKobo := 10000, status := .readyForCollection,
      shelfNodeId := none, shelfNumber := none }
  [.placeOrder "LCM-7K3M-9XQ2", .record order ⟨3, 50, 30, 20, 0, rfl⟩ 1000]

def twoOfAll : ListRevenueSplitEntriesQueryDto where
  page := 1
  limit := 2
  page_pos := le_rfl
  limit_pos := by decide
  limit_le := by decide
  partyType := none
  payoutStatus := none

theorem order_split_between_pages :
    ¬ AdminPagesExact (Runs.run exec empty collectedOrder) twoOfAll := by
  rw [(kept_run collectedOrder).adminPages_exact_iff, not_not]
  decide

end Locoomo.EarningsPages
