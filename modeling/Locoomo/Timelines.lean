import Locoomo.HistorySteps
import Locoomo.Lib.Logs
import Mathlib.Data.List.Chain

/-! The timeline a sender or receiver is shown. Events are appended in the
order things happen, but read back by the time their transactions began and,
where those are equal, by id. -/

namespace Locoomo.Timelines

open Locoomo.Delivery Locoomo.Database Locoomo.Routing Locoomo.Logistics Locoomo.System
  Locoomo.Histories Relational

/-! ## Public words -/

inductive PublicStatus
  | awaitingDropOff | atOriginStation | onTheWay | arrivedAtDestination | readyForCollection
  | collected | returningToSender | returnedToSender | returnCompleted
  deriving DecidableEq, Repr

/-- `none` stands for `'order_placed'`. -/
structure TimelineEntry where
  status : Option PublicStatus
  label : String
  deriving DecidableEq, Repr

structure StationNames where
  origin : String
  destination : String
  deriving DecidableEq, Repr

def timelineEntryFor (eventType : OrderEventType) (names : StationNames) : Option TimelineEntry :=
  match eventType with
  | .orderPlaced => some ⟨none, "Order placed"⟩
  | .parcelReceivedAtOrigin => some ⟨some .atOriginStation, "Dropped off at " ++ names.origin⟩
  | .riderAssigned => some ⟨some .atOriginStation, "Rider assigned"⟩
  | .pickedUpByRider => some ⟨some .onTheWay, "On the way to " ++ names.destination⟩
  | .arrivedAtDestination =>
      some ⟨some .arrivedAtDestination, "Arrived at " ++ names.destination⟩
  | .readyForCollection => some ⟨some .readyForCollection, "Ready for collection"⟩
  | .collectedByReceiver => some ⟨some .collected, "Collected"⟩
  | .returnInitiated => some ⟨some .returningToSender, "Delivery couldn't be completed"⟩
  | .returnInTransit => some ⟨some .returningToSender, "Returning to " ++ names.origin⟩
  | .returnedToOrigin => some ⟨some .returnedToSender, "Back at " ++ names.origin⟩
  | .readyForSenderCollection =>
      some ⟨some .returnedToSender, "Ready for the sender to collect"⟩
  | .collectedBySender => some ⟨some .returnCompleted, "Collected by the sender"⟩
  | .courierReleased => none

/-! ## Reading the timeline -/

def ofOrder (orderId : Nat) (event : OrderEventRow) : Bool := decide (event.orderId = orderId)

/-- `WHERE "orderId" = $1 ORDER BY "createdAt" ASC, id ASC`; the `i`-th event
of the table has the id `uuid i`. -/
def timelineEvents (uuid : Nat → Nat) (s : State) (orderId : Nat) :
    List (Logs.Stored OrderEventRow) :=
  Logs.readBack OrderEventRow.createdAt uuid (ofOrder orderId) s.orderEvents

/-- The events of the order as they were appended. -/
def appendedEvents (uuid : Nat → Nat) (s : State) (orderId : Nat) :
    List (Logs.Stored OrderEventRow) :=
  Logs.appended uuid (ofOrder orderId) s.orderEvents

/-- What an event adds to the timeline, with its time. -/
def timelineItem (names : StationNames) (event : Logs.Stored OrderEventRow) :
    Option (TimelineEntry × Nat) :=
  (timelineEntryFor event.row.type names).map fun entry => (entry, event.row.createdAt)

/-- `stored` are the stations the orders table names. -/
def timelineFor (uuid : Nat → Nat) (s : State) (orderId : Nat)
    (names stored : Option StationNames) : List (TimelineEntry × Nat) :=
  match names.or stored with
  | none => []
  | some stations => (timelineEvents uuid s orderId).filterMap (timelineItem stations)

/-! ## The order an event leads to -/

/-- The status of an order whose newest event has this type. -/
def statusAfter : OrderEventType → OrderStatus
  | .orderPlaced => .awaitingDropOff
  | .parcelReceivedAtOrigin | .courierReleased => .parcelReceivedAtOrigin
  | .riderAssigned => .riderAssigned
  | .pickedUpByRider => .inTransit
  | .arrivedAtDestination => .arrivedAtDestination
  | .readyForCollection => .readyForCollection
  | .collectedByReceiver => .completed
  | .returnInitiated => .returnInitiated
  | .returnInTransit => .returnInTransit
  | .returnedToOrigin => .returnedToOrigin
  | .readyForSenderCollection => .readyForSenderCollection
  | .collectedBySender => .returnCompleted

/-- A path of the order state machine from its first status. -/
structure IsPath (statuses : List OrderStatus) : Prop where
  first : ∀ status ∈ statuses.head?, status = .awaitingDropOff
  steps : statuses.IsChain fun source target => target ∈ orderTransitions source

def statuses (s : State) (orderId : Nat) : List OrderStatus :=
  (s.orderEvents.filter (ofOrder orderId)).map fun event => statusAfter event.type

@[simp] theorem statusAfter_type (m : OrderMove) : statusAfter m.type = m.target := by
  cases m <;> rfl

theorem target_mem_transitions (m : OrderMove) : m.target ∈ orderTransitions m.source := by
  cases m <;> simp [OrderMove.target, OrderMove.source, orderTransitions]

theorem IsPath.append {l : List OrderStatus} {source target : OrderStatus} (h : IsPath l)
    (hlast : l.getLast? = some source) (hstep : target ∈ orderTransitions source) :
    IsPath (l ++ [target]) := by
  constructor
  · intro status hstatus
    cases l with
    | nil => cases hlast
    | cons first rest => exact h.first status hstatus
  · rw [List.isChain_append]
    refine ⟨h.steps, List.isChain_singleton _, ?_⟩
    intro x hx y hy
    rw [hlast, Option.mem_some_iff] at hx
    rw [List.head?_singleton, Option.mem_some_iff] at hy
    rw [← hx, ← hy]
    exact hstep

/-! ## What the log says -/

/-- Each order's events lead from its first status to the one it has. -/
structure Told (s : State) : Prop where
  orderIds_lt : ∀ o ∈ s.orders, o.id < s.nextId
  events_lt : ∀ event ∈ s.orderEvents, event.orderId < s.nextId
  path : ∀ orderId, IsPath (statuses s orderId)
  last : ∀ o ∈ s.orders, (statuses s o.id).getLast? = some o.status

variable {d : Deployment} {s s' : State}

theorem statuses_append {event : OrderEventRow}
    (h : s'.orderEvents = s.orderEvents ++ [event]) (orderId : Nat) :
    statuses s' orderId
      = statuses s orderId ++ if event.orderId = orderId then [statusAfter event.type] else [] := by
  rw [statuses, h, List.filter_append, List.map_append, statuses]
  congr 1
  by_cases hid : event.orderId = orderId
  · simp [ofOrder, hid]
  · simp [ofOrder, hid]

theorem statuses_eq_nil (h : ∀ event ∈ s.orderEvents, event.orderId < s.nextId) :
    statuses s s.nextId = [] := by
  rw [statuses, List.map_eq_nil_iff, List.filter_eq_nil_iff]
  intro event hevent hid
  exact absurd (of_decide_eq_true hid) (Nat.ne_of_lt (h event hevent))

theorem Told.opened (ht : Told s) {o : OrderRow} {payload : OrderEventPayload}
    (h : Opened s s' o payload) : Told s' := by
  have horders : s'.orders = s.orders ++ [o] := by rw [h.eq]
  have hnext : s'.nextId = s.nextId + 1 := by rw [h.eq]
  have hevents : s'.orderEvents = s.orderEvents ++ [⟨o.id, .orderPlaced, payload, s.now⟩] := by
    rw [h.eq]
  have hnone : statuses s o.id = [] := by
    rw [h.id]
    exact statuses_eq_nil ht.events_lt
  constructor
  · intro x hx
    rw [horders, List.mem_append, List.mem_singleton] at hx
    rw [hnext]
    rcases hx with hx | rfl
    · exact Nat.lt_succ_of_lt (ht.orderIds_lt x hx)
    · rw [h.id]
      exact Nat.lt_succ_self _
  · intro event hevent
    rw [hevents, List.mem_append, List.mem_singleton] at hevent
    rw [hnext]
    rcases hevent with hevent | rfl
    · exact Nat.lt_succ_of_lt (ht.events_lt event hevent)
    · change o.id < _
      rw [h.id]
      exact Nat.lt_succ_self _
  · intro orderId
    rw [statuses_append hevents]
    split
    · rename_i hid
      rw [← hid, hnone]
      exact ⟨by simp [statusAfter], List.isChain_singleton _⟩
    · rw [List.append_nil]
      exact ht.path orderId
  · intro x hx
    rw [horders, List.mem_append, List.mem_singleton] at hx
    rw [statuses_append hevents]
    rcases hx with hx | rfl
    · have hne : o.id ≠ x.id := by
        rw [h.id]
        exact (Nat.ne_of_lt (ht.orderIds_lt x hx)).symm
      rw [if_neg hne, List.append_nil]
      exact ht.last x hx
    · rw [if_pos rfl, hnone, h.status]
      rfl

theorem Told.stepped (ht : Told s) {m : OrderMove} {o : OrderRow} (h : Stepped s s' m o) :
    Told s' := by
  have ho : o ∈ s.orders := (get_some h.found).1
  have horders : s'.orders = put OrderRow.id (m.row s.orders o) s.orders := by rw [h.eq]
  have hnext : s'.nextId = s.nextId := by rw [h.eq]
  have hevents : s'.orderEvents = s.orderEvents ++ [m.event o s.now] := by rw [h.eq]
  have hid : (m.row s.orders o).id = o.id := m.row_id s.orders o
  have hstatus : (m.row s.orders o).status = m.target := m.row_status s.orders o
  have hlast : (statuses s o.id).getLast? = some m.source := by
    rw [ht.last o ho, h.source]
  constructor
  · intro x hx
    rw [hnext]
    rw [horders] at hx
    rcases mem_put.mp hx with ⟨rfl, -⟩ | ⟨hx, -⟩
    · rw [hid]
      exact ht.orderIds_lt o ho
    · exact ht.orderIds_lt x hx
  · intro event hevent
    rw [hevents, List.mem_append, List.mem_singleton] at hevent
    rw [hnext]
    rcases hevent with hevent | rfl
    · exact ht.events_lt event hevent
    · exact ht.orderIds_lt o ho
  · intro orderId
    rw [statuses_append hevents]
    split
    · rename_i horder
      obtain rfl : o.id = orderId := horder
      rw [OrderMove.event, statusAfter_type]
      exact (ht.path o.id).append hlast (target_mem_transitions m)
    · rw [List.append_nil]
      exact ht.path orderId
  · intro x hx
    rw [horders] at hx
    rw [statuses_append hevents]
    rcases mem_put.mp hx with ⟨rfl, -⟩ | ⟨hx, hne⟩
    · rw [hid, hstatus, OrderMove.event, if_pos rfl, statusAfter_type]
      exact List.getLast?_concat
    · rw [hid] at hne
      have horder : (m.event o s.now).orderId ≠ x.id := fun heq => hne heq.symm
      rw [if_neg horder, List.append_nil]
      exact ht.last x hx

/-- **Every entry extends the path** of one order at most. -/
theorem Told.entry {asks : Bool} (ht : Told s) (h : Entry asks s s') : Told s' := by
  cases h with
  | aside h =>
      have hstatuses : ∀ orderId, statuses s' orderId = statuses s orderId := by
        intro orderId
        rw [statuses, h.orderEvents, statuses]
      constructor
      · rw [h.orders]
        exact fun o ho => (ht.orderIds_lt o ho).trans_le h.nextId
      · rw [h.orderEvents]
        exact fun event hevent => (ht.events_lt event hevent).trans_le h.nextId
      · intro orderId
        rw [hstatuses]
        exact ht.path orderId
      · rw [h.orders]
        intro o ho
        rw [hstatuses]
        exact ht.last o ho
  | opened h => exact ht.opened h
  | stepped h => exact ht.stepped h

/-! ## Transactions that take time -/

/-- A transaction and the time at which it began. -/
structure Timed where
  start : Nat
  action : System.Action

/-- What `now()` is in the transaction. -/
def Timed.began (t : Timed) (s : State) : Nat := min t.start s.now

/-- The events the transaction appends. -/
def newEvents (d : Deployment) (s : State) (a : System.Action) : List OrderEventRow :=
  (System.exec d s a).orderEvents.drop s.orderEvents.length

/-- One transaction, committed now; its events bear the time it began. -/
def exec (d : Deployment) (s : State) (t : Timed) : State :=
  { System.exec d s t.action with
    orderEvents := s.orderEvents ++ (newEvents d s t.action).map fun event =>
      { event with createdAt := t.began s } }

theorem history_appends {asks : Bool} (h : History asks s s') :
    s.orderEvents <+: s'.orderEvents := by
  induction h with
  | refl => exact List.prefix_refl _
  | tail _ hentry ih =>
      refine ih.trans ?_
      cases hentry with
      | aside h => simp only [h.orderEvents, List.prefix_rfl]
      | opened h =>
          rw [h.eq]
          exact List.prefix_append _ _
      | stepped h =>
          rw [h.eq]
          exact List.prefix_append _ _

theorem exec_orderEvents (d : Deployment) (s : State) (a : System.Action) :
    (System.exec d s a).orderEvents = s.orderEvents ++ newEvents d s a := by
  obtain ⟨l, hl⟩ := history_appends (exec_history d s a)
  rw [newEvents, ← hl, List.drop_left]

theorem statuses_exec (d : Deployment) (s : State) (t : Timed) (orderId : Nat) :
    statuses (exec d s t) orderId = statuses (System.exec d s t.action) orderId := by
  simp only [statuses, exec, exec_orderEvents, List.filter_append, List.map_append,
    List.filter_map, List.map_map]
  rfl

theorem Told.exec (ht : Told s) (t : Timed) : Told (Timelines.exec d s t) := by
  have ht' : Told (System.exec d s t.action) :=
    (exec_history d s t.action).keeps Told.entry ht
  constructor
  · exact ht'.orderIds_lt
  · intro event hevent
    have hlt := ht'.events_lt
    rw [exec_orderEvents] at hlt
    rcases List.mem_append.mp hevent with hevent | hevent
    · exact hlt event (List.mem_append_left _ hevent)
    · obtain ⟨event₀, hevent₀, rfl⟩ := List.mem_map.mp hevent
      exact hlt event₀ (List.mem_append_right _ hevent₀)
  · intro orderId
    rw [statuses_exec]
    exact ht'.path orderId
  · intro o ho
    rw [statuses_exec]
    exact ht'.last o ho

/-! ## In order -/

/-- Every order's timeline is read as it was appended, whatever the ids, so
that it follows a path of the state machine and is shown in that order. -/
structure InOrder (s : State) : Prop where
  rows : ∀ uuid orderId, Function.Injective uuid →
    timelineEvents uuid s orderId = appendedEvents uuid s orderId
  path : ∀ uuid orderId, Function.Injective uuid →
    IsPath ((timelineEvents uuid s orderId).map fun event => statusAfter event.row.type)
  items : ∀ uuid orderId names stored stations, Function.Injective uuid →
    names.or stored = some stations →
      timelineFor uuid s orderId names stored
        = (appendedEvents uuid s orderId).filterMap (timelineItem stations)

/-- The transaction adds one event at most to a timeline, and began later than
those that added the ones before it. -/
structure Paced (d : Deployment) (s : State) (t : Timed) : Prop where
  single : ((newEvents d s t.action).map OrderEventRow.orderId).Nodup
  later : ∀ event ∈ s.orderEvents, ∀ new ∈ newEvents d s t.action,
    event.orderId = new.orderId → event.createdAt < t.began s

instance (d : Deployment) (s : State) (t : Timed) : Decidable (Paced d s t) :=
  decidable_of_iff
    (((newEvents d s t.action).map OrderEventRow.orderId).Nodup ∧
      ∀ event ∈ s.orderEvents, ∀ new ∈ newEvents d s t.action,
        event.orderId = new.orderId → event.createdAt < t.began s)
    ⟨fun h => ⟨h.1, h.2⟩, fun h => ⟨h.single, h.later⟩⟩

/-- The timestamps of every order's events increase. -/
def Increasing (s : State) : Prop :=
  s.orderEvents.Pairwise fun a b => a.orderId = b.orderId → a.createdAt < b.createdAt

theorem increasing_iff : Increasing s ↔ ∀ orderId,
    (s.orderEvents.filter (ofOrder orderId)).Pairwise fun a b => a.createdAt < b.createdAt := by
  simp only [Increasing, List.pairwise_filter, ofOrder, decide_eq_true_eq]
  constructor
  · intro h orderId
    exact h.imp fun hab ha hb => hab (ha.trans hb.symm)
  · intro h
    rw [List.pairwise_iff_getElem]
    intro i j hi hj hij hid
    exact List.pairwise_iff_getElem.mp (h _) i j hi hj hij hid rfl

theorem inOrder_iff (ht : Told s) : InOrder s ↔ Increasing s := by
  rw [increasing_iff]
  constructor
  · intro h orderId
    exact Logs.readBack_iff.mp fun uuid huuid => h.rows uuid orderId huuid
  · intro h
    have hrows : ∀ uuid orderId, Function.Injective uuid →
        timelineEvents uuid s orderId = appendedEvents uuid s orderId :=
      fun uuid orderId huuid => Logs.readBack_iff.mpr (h orderId) uuid huuid
    constructor
    · exact hrows
    · intro uuid orderId huuid
      have hstatuses : (appendedEvents uuid s orderId).map (fun event => statusAfter event.row.type)
          = statuses s orderId := by
        rw [statuses, ← Logs.appended_rows uuid, List.map_map]
        rfl
      rw [hrows uuid orderId huuid, hstatuses]
      exact ht.path orderId
    · intro uuid orderId names stored stations huuid hstations
      rw [timelineFor, hstations, ← hrows uuid orderId huuid]

/-- **One transaction** keeps the timestamps increasing just when it is paced. -/
theorem increasing_exec_iff {t : Timed} (h : Increasing s) :
    Increasing (exec d s t) ↔ Paced d s t := by
  rw [Increasing, exec, List.pairwise_append, List.pairwise_map]
  -- the new events bear one time, so no two may be of one order
  have hnew : (newEvents d s t.action).Pairwise
        (fun a b => a.orderId = b.orderId → t.began s < t.began s) ↔
      ((newEvents d s t.action).map OrderEventRow.orderId).Nodup := by
    simp only [Nat.lt_irrefl, imp_false, List.Nodup, List.pairwise_map]
  constructor
  · rintro ⟨-, hsingle, hlater⟩
    refine ⟨hnew.mp hsingle, fun event hevent new hmem hid => ?_⟩
    exact hlater event hevent { new with createdAt := t.began s }
      (List.mem_map.mpr ⟨new, hmem, rfl⟩) hid
  · intro hpaced
    refine ⟨h, hnew.mpr hpaced.single, fun event hevent stamped hstamped hid => ?_⟩
    obtain ⟨new, hmem, rfl⟩ := List.mem_map.mp hstamped
    exact hpaced.later event hevent new hmem hid

/-! ## Runs -/

/-- A database before any booking; with no order there is no event either. -/
structure Blank (s : State) : Prop where
  initial : Initial s
  orderEvents : s.orderEvents = []

theorem told_of_blank (h : Blank s) : Told s := by
  have hnone : ∀ orderId, statuses s orderId = [] := by
    intro orderId
    rw [statuses, h.orderEvents, List.filter_nil, List.map_nil]
  constructor
  · rw [h.initial.orders]
    exact fun o ho => absurd ho List.not_mem_nil
  · rw [h.orderEvents]
    exact fun event hevent => absurd hevent List.not_mem_nil
  · intro orderId
    rw [hnone]
    exact ⟨by simp, List.isChain_nil⟩
  · rw [h.initial.orders]
    exact fun o ho => absurd ho List.not_mem_nil

/-- **Timelines and time.** Every order's timeline comes out in order in every
state of a run if and only if the run's transactions are paced. -/
theorem timelines_in_order_iff (d : Deployment) {s₀ : State} (h : Blank s₀) (ts : List Timed) :
    Runs.Always (exec d) InOrder s₀ ts ↔ Runs.Meets (exec d) (Paced d) s₀ ts := by
  have hincreasing : Increasing s₀ := by
    rw [Increasing, h.orderEvents]
    exact List.Pairwise.nil
  have htold := told_of_blank h
  refine Runs.always_iff_meets (I := Told) (fun _ t ht => ht.exec t) (fun s t ht hs => ?_) htold
    ((inOrder_iff htold).mpr hincreasing) ts
  rw [inOrder_iff (ht.exec t)]
  exact increasing_exec_iff ((inOrder_iff ht).mp hs)

/-- A minute passes between one action and the next. -/
def minutely (as : List System.Action) : List Timed :=
  as.zipIdx.flatMap fun x => [⟨x.2 * 60000, x.1⟩, ⟨x.2 * 60000, .tick 60000⟩]

/-- An order booked, paid for, dropped off and booked with the remote courier. -/
def demoOrder : List System.Action :=
  demoBooking ++ [.webhook 10 (some demoPayment) ["LOC1"]] ++ demoBooked

theorem demo_timelines :
    Runs.Always (exec demo) InOrder demoState (minutely demoOrder) :=
  (timelines_in_order_iff demo ⟨demoState_initial, rfl⟩ _).mpr (by decide +kernel)

/-- The courier's first report finds the parcel picked up already. Both events
of that catch-up bear one time, and these ids put the later one first. -/
theorem catch_up_runs_backwards :
    let s := Runs.run (exec demo) demoState
      (minutely (demoOrder ++ [.syncFromSnapshot "sendii" (demoSnapshot .pickedUp 1)]))
    (timelineFor (Logs.countdown 4) s 11 (some ⟨"Ikeja", "Yaba"⟩) none).map
          (fun item => item.1.label)
        = ["Order placed", "Dropped off at Ikeja", "On the way to Yaba", "Rider assigned"] ∧
      s.orderEvents.map OrderEventRow.type
        = [.orderPlaced, .parcelReceivedAtOrigin, .riderAssigned, .pickedUpByRider] ∧
      ¬ InOrder s := by
  refine ⟨by decide +kernel, by decide +kernel, fun h => ?_⟩
  have hrows := h.rows (Logs.countdown 4) 11 (Logs.countdown_injective 4)
  revert hrows
  decide +kernel

end Locoomo.Timelines
