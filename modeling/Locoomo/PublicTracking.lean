import Mathlib.Data.Prod.Lex
import Locoomo.Edits
import Locoomo.Lib.Buffers
import Locoomo.Lib.Paging
import Locoomo.Timelines
import Locoomo.TrackingInput

/-! Public tracking: what somebody without an account learns about a parcel. -/

namespace Locoomo.PublicTracking

open Locoomo.Delivery Locoomo.Database Locoomo.TrackingInput Utf16 PercentEncoding Relational
open Locoomo.Timelines (PublicStatus TimelineEntry StationNames timelineEntryFor)
open Locoomo.Histories (OrderMove)
open Locoomo.Edits (OpeningHours)

/-! ## Public words -/

def PUBLIC_STATUS_LABELS : PublicStatus → String
  | .awaitingDropOff => "Awaiting drop-off"
  | .atOriginStation => "At origin station"
  | .onTheWay => "On the way"
  | .arrivedAtDestination => "Arrived at destination station"
  | .readyForCollection => "Ready for collection"
  | .collected => "Collected"
  | .returningToSender => "Returning to sender"
  | .returnedToSender => "Returned — ready for sender collection"
  | .returnCompleted => "Returned to sender"

/-- No public meaning: the parcel is then not found. -/
def toPublicStatus : OrderStatus → Option PublicStatus
  | .awaitingDropOff => some .awaitingDropOff
  | .parcelReceivedAtOrigin | .riderAssigned => some .atOriginStation
  | .inTransit => some .onTheWay
  | .arrivedAtDestination => some .arrivedAtDestination
  | .readyForCollection => some .readyForCollection
  | .completed => some .collected
  | .returnInitiated | .returnInTransit => some .returningToSender
  | .returnedToOrigin | .readyForSenderCollection => some .returnedToSender
  | .returnCompleted => some .returnCompleted
  | .cancelled | .disputed => none

def RETURN_PUBLIC_STATUSES : List PublicStatus :=
  [.returningToSender, .returnedToSender, .returnCompleted]

def FINAL_PUBLIC_STATUSES : List PublicStatus := [.collected, .returnCompleted]

def nextStepFor (status : PublicStatus) (names : StationNames) : String :=
  match status with
  | .awaitingDropOff =>
      "Waiting for the sender to drop the parcel off at " ++ names.origin ++ "."
  | .atOriginStation =>
      "The parcel is at " ++ names.origin ++ " and will be on its way to " ++ names.destination
        ++ " soon."
  | .onTheWay =>
      "The parcel is on its way to " ++ names.destination
        ++ ". We'll email the receiver a collection code when it's ready."
  | .arrivedAtDestination =>
      "The parcel has reached " ++ names.destination
        ++ " and is being checked in. The receiver will get a collection code by email shortly."
  | .readyForCollection =>
      "Ready at " ++ names.destination
        ++ ". Bring the collection code from the email and a form of ID."
  | .collected => "The parcel has been collected."
  | .returningToSender =>
      "The delivery couldn't be completed, so the parcel is going back to " ++ names.origin
        ++ ". We'll email the sender when it's ready to collect."
  | .returnedToSender =>
      "The parcel is back at " ++ names.origin ++ ". The sender has been emailed a collection code."
  | .returnCompleted => "The sender has collected the parcel."

/-! ## Tables -/

/-- An order, with the columns that tracking reads; times in milliseconds. -/
structure OrderRow where
  id : Nat
  trackingCode : Units
  originNodeId : Nat
  destinationNodeId : Nat
  status : OrderStatus
  receiverPhone : Units
  updatedAt : Nat

structure NodeRow where
  id : Nat
  name : String
  address : String
  city : String
  state : String
  openingHours : Option OpeningHours

structure LegRow where
  orderId : Nat
  providerKey : String
  status : DeliveryLegStatus
  createdAt : Nat

structure ProviderRow where
  key : String
  label : String

structure World where
  orders : List OrderRow
  nodes : List NodeRow
  orderEvents : List (Logs.Stored OrderEventRow)
  legs : List LegRow
  providers : List ProviderRow
  nextId : Nat
  now : Nat

/-! ## The request and the answer -/

def isDigit (u : Nat) : Bool := unit '0' ≤ u && u ≤ unit '9'

/-- A query that passed its own checks. -/
structure TrackQueryDto where
  t : Option Units
  phoneLast4 : Option Units
  t_units : ∀ token ∈ t, ∀ u ∈ token, u < 0x10000
  phoneLast4_digits : ∀ digits ∈ phoneLast4, digits.length = 4 ∧ ∀ u ∈ digits, isDigit u = true

structure ValidationDetail where
  field : String
  constraint : String
  message : String
  deriving DecidableEq

structure EntityNotFoundException where
  message : Units
  entity : String
  id : Units
  deriving DecidableEq

def EntityNotFoundException.of (entity : String) (id : Units) : EntityNotFoundException :=
  ⟨text entity ++ text " with id " ++ id ++ text " was not found", entity, id⟩

inductive Thrown
  | badRequest (message : String) (details : List ValidationDetail)
  | notFound (e : EntityNotFoundException)
  | uri (e : URIError)
  deriving DecidableEq

structure StationDetail where
  address : String
  state : String
  openingHours : Option OpeningHours

structure OriginDto where
  name : String
  city : String
  detail : Option StationDetail

structure DestinationDto extends StationDetail where
  name : String
  city : String

structure PublicTrackingResponseDto where
  trackingCode : Units
  status : PublicStatus
  statusLabel : String
  isFinal : Bool
  timeline : List (TimelineEntry × Nat)
  origin : OriginDto
  destination : DestinationDto
  courierLabel : Option String
  etaMinutes : Option Nat
  nextStep : String
  updatedAt : Nat

/-! ## Links -/

/-- `createHmac('sha256', secret).update(message).digest()` with the configured secret. -/
structure TrackingLink where
  TRACKING_LINK_SECRET : Units
  hmacSha256 : Units → Units → List UInt8

def TOKEN_LENGTH : Nat := 22

def tokenFor (link : TrackingLink) (trackingCode : Units) : Units :=
  (Buffers.base64url (link.hmacSha256 link.TRACKING_LINK_SECRET
    (text "tracking-link:" ++ trackingCode))).take TOKEN_LENGTH

/-- It throws on buffers of different lengths, so those are compared first. -/
def timingSafeEqual (expected actual : List UInt8) : Bool := expected = actual

def isValidToken (link : TrackingLink) (trackingCode token : Units) : Bool :=
  let expected := Buffers.fromString (tokenFor link trackingCode)
  let actual := Buffers.fromString token
  expected.length = actual.length && timingSafeEqual expected actual

/-! ## Tracking -/

def RETENTION_DAYS_AFTER_FINAL : Nat := 30

structure TrackedOrderRow where
  order : OrderRow
  origin : NodeRow
  destination : NodeRow

def withNodes (w : World) (o : OrderRow) : List TrackedOrderRow :=
  (w.nodes.filter fun n => decide (n.id = o.originNodeId)).flatMap fun origin =>
    (w.nodes.filter fun n => decide (n.id = o.destinationNodeId)).map fun destination =>
      ⟨o, origin, destination⟩

def findOrder (w : World) (trackingCode : Units) : Option TrackedOrderRow :=
  ((w.orders.filter fun o => decide (o.trackingCode = trackingCode)).flatMap (withNodes w)).head?

def isAuthorised (link : TrackingLink) (order : OrderRow) (query : TrackQueryDto) : Bool :=
  match query.t with
  | some t => isValidToken link order.trackingCode t
  | none =>
      let expected := Buffers.fromString ((order.receiverPhone.filter isDigit).rtake 4)
      let actual := Buffers.fromString (query.phoneLast4.getD [])
      expected.length = actual.length && timingSafeEqual expected actual

def isExpired (status : PublicStatus) (updatedAt now : Nat) : Bool :=
  if status ∉ FINAL_PUBLIC_STATUSES then false
  else
    let cutoff : Int := now - RETENTION_DAYS_AFTER_FINAL * 24 * 60 * 60000
    updatedAt < cutoff

/-- The active leg before the others, then the newest. -/
def courierKey (row : LegRow × ProviderRow) : Lex (Nat × Nat) :=
  toLex ((decide (row.1.status ∈ activeLegStatuses)).toNat, row.1.createdAt)

def courierLabelFor (w : World) (arrange : Paging.Arrangement courierKey) (orderId : Nat) :
    Option String :=
  let rows := Reports.join (fun l p => decide (p.key = l.providerKey))
    (w.legs.filter fun l => decide (l.orderId = orderId)) w.providers
  (arrange.apply rows).head?.map fun row => row.2.label

/-- `ORDER BY "createdAt" ASC, id ASC`. -/
def timelineFor (w : World) (orderId : Nat) (names : StationNames) : List (TimelineEntry × Nat) :=
  ((w.orderEvents.filter fun event => Timelines.ofOrder orderId event.row).insertionSort
    (Logs.Earlier OrderEventRow.createdAt)).filterMap (Timelines.timelineItem names)

def detailOf (node : NodeRow) : StationDetail := ⟨node.address, node.state, node.openingHours⟩

def responseFor (w : World) (arrange : Paging.Arrangement courierKey) (row : TrackedOrderRow)
    (status : PublicStatus) : PublicTrackingResponseDto :=
  let names : StationNames := ⟨row.origin.name, row.destination.name⟩
  { trackingCode := row.order.trackingCode
    status
    statusLabel := PUBLIC_STATUS_LABELS status
    isFinal := status ∈ FINAL_PUBLIC_STATUSES
    timeline := timelineFor w row.order.id names
    -- on a return the origin is where the parcel goes
    origin := ⟨row.origin.name, row.origin.city,
      if status ∈ RETURN_PUBLIC_STATUSES then some (detailOf row.origin) else none⟩
    destination := ⟨detailOf row.destination, row.destination.name, row.destination.city⟩
    courierLabel :=
      if row.order.status ∈
          [OrderStatus.riderAssigned, .inTransit, .returnInitiated, .returnInTransit] then
        courierLabelFor w arrange row.order.id
      else none
    etaMinutes := none
    nextStep := nextStepFor status names
    updatedAt := row.order.updatedAt }

def track (link : TrackingLink) (upper : UpperCase) (w : World)
    (arrange : Paging.Arrangement courierKey) (rawCode : Units) (query : TrackQueryDto) :
    Except Thrown PublicTrackingResponseDto :=
  if query.t.isNone = query.phoneLast4.isNone then
    .error (.badRequest "Validation failed"
      [⟨"t", "exactlyOne", "send exactly one of t or phoneLast4"⟩])
  else
    let notFound := Thrown.notFound (.of "Parcel" rawCode)
    match normalizeTrackingCode upper rawCode with
    | .error e => .error (.uri e)
    | .ok none => .error notFound
    | .ok (some trackingCode) =>
        match (findOrder w trackingCode).filter fun row => isAuthorised link row.order query with
        | none => .error notFound
        | some row =>
            match toPublicStatus row.order.status with
            | none => .error notFound
            | some status =>
                if isExpired status row.order.updatedAt w.now then .error notFound
                else .ok (responseFor w arrange row status)

/-! ## What a request may see -/

/-- The request has the token of the order's link, or the last four digits of its
receiver's phone. -/
def Carries (link : TrackingLink) (query : TrackQueryDto) (order : OrderRow) : Prop :=
  query.t = some (tokenFor link order.trackingCode) ∨
    ∃ digits ∈ query.phoneLast4, digits <:+ order.receiverPhone.filter isDigit

/-- Final, and for more than thirty days. -/
def LongFinal (now : Nat) (order : OrderRow) : Prop :=
  (order.status = .completed ∨ order.status = .returnCompleted) ∧
    order.updatedAt + 30 * 24 * 60 * 60 * 1000 < now

/-- No order with the code that was sent is for this request to see. -/
def Unauthorised (link : TrackingLink) (upper : UpperCase) (w : World) (rawCode : Units)
    (query : TrackQueryDto) : Prop :=
  ∀ trackingCode, normalizeTrackingCode upper rawCode = .ok (some trackingCode) →
    ∀ order ∈ w.orders, order.trackingCode = trackingCode →
      ¬ Carries link query order ∨ toPublicStatus order.status = none ∨ LongFinal w.now order

/-- What a refused request is told; no table is asked. -/
def refusal (upper : UpperCase) (rawCode : Units) (query : TrackQueryDto) : Thrown :=
  if query.t.isNone = query.phoneLast4.isNone then
    .badRequest "Validation failed" [⟨"t", "exactlyOne", "send exactly one of t or phoneLast4"⟩]
  else
    match normalizeTrackingCode upper rawCode with
    | .error e => .uri e
    | .ok _ => .notFound (.of "Parcel" rawCode)

variable {link : TrackingLink} {upper : UpperCase} {w : World} {order : OrderRow}
  {row : TrackedOrderRow} {status : PublicStatus} {trackingCode rawCode : Units}
  {query : TrackQueryDto} {arrange : Paging.Arrangement courierKey}
  {dto : PublicTrackingResponseDto} {e : Thrown}

/-! ## Authorisation -/

theorem isDigit_ascii {u : Nat} (h : isDigit u = true) : u < 128 := by
  have h9 : unit '9' = 57 := rfl
  simp only [isDigit, Bool.and_eq_true, decide_eq_true_eq] at h
  omega

theorem tokenFor_ascii (link : TrackingLink) (trackingCode : Units) :
    ∀ u ∈ tokenFor link trackingCode, u < 128 :=
  fun u hu => Buffers.base64url_ascii _ u (List.mem_of_mem_take hu)

/-- Comparing the bytes compares the texts. -/
theorem sameBytes_iff {expected actual : Units} (hexpected : ∀ u ∈ expected, u < 128)
    (hactual : ∀ u ∈ actual, u < 0x10000) :
    (decide ((Buffers.fromString expected).length = (Buffers.fromString actual).length) &&
      timingSafeEqual (Buffers.fromString expected) (Buffers.fromString actual)) = true
        ↔ actual = expected := by
  simp only [timingSafeEqual, Bool.and_eq_true, decide_eq_true_eq]
  constructor
  · rintro ⟨-, hbytes⟩
    exact Buffers.eq_of_fromString hexpected hactual hbytes.symm
  · rintro rfl
    exact ⟨rfl, rfl⟩

/-- **The check is the rule**, for a query with exactly one of the two. -/
theorem isAuthorised_iff (hone : ¬ (query.t.isNone = query.phoneLast4.isNone)) :
    isAuthorised link order query = true ↔ Carries link query order := by
  unfold isAuthorised Carries
  cases ht : query.t with
  | some t =>
      have hphone : query.phoneLast4 = none := by
        rw [ht] at hone
        simpa using hone
      have htoken := sameBytes_iff (tokenFor_ascii link order.trackingCode) (query.t_units t ht)
      simpa [hphone, isValidToken] using htoken
  | none =>
      obtain ⟨digits, hdigits⟩ : ∃ digits, query.phoneLast4 = some digits := by
        rw [ht] at hone
        refine Option.ne_none_iff_exists'.mp fun hnone => hone ?_
        rw [hnone]
      obtain ⟨hlength, hall⟩ := query.phoneLast4_digits digits hdigits
      have hexpected : ∀ u ∈ (order.receiverPhone.filter isDigit).rtake 4, u < 128 := by
        intro u hu
        exact isDigit_ascii (List.mem_filter.mp (List.mem_of_mem_drop hu)).2
      have hactual : ∀ u ∈ digits, u < 0x10000 := by
        intro u hu
        have := isDigit_ascii (hall u hu)
        omega
      have hsuffix : digits <:+ order.receiverPhone.filter isDigit ↔
          digits = (order.receiverPhone.filter isDigit).rtake 4 := by
        rw [List.suffix_iff_eq_drop, hlength, List.rtake]
      have hphone := sameBytes_iff hexpected hactual
      simpa [hdigits, hsuffix] using hphone

theorem findOrder_some (h : findOrder w trackingCode = some row) :
    row.order ∈ w.orders ∧ row.order.trackingCode = trackingCode ∧
      (withNodes w row.order).head? = some row := by
  rw [findOrder, List.head?_flatMap] at h
  obtain ⟨order, horder, hrow⟩ := List.exists_of_findSome?_eq_some h
  have hself : row.order = order := by
    have hmem := List.mem_of_mem_head? (Option.mem_def.mpr hrow)
    simp only [withNodes, List.mem_flatMap, List.mem_map] at hmem
    obtain ⟨origin, -, destination, -, rfl⟩ := hmem
    rfl
  obtain ⟨hmem, hcode⟩ := List.mem_filter.mp horder
  exact ⟨hself ▸ hmem, hself ▸ of_decide_eq_true hcode, hself ▸ hrow⟩

theorem isExpired_iff {now : Nat} (h : toPublicStatus order.status = some status) :
    isExpired status order.updatedAt now = true ↔ LongFinal now order := by
  have hfinal : status ∈ FINAL_PUBLIC_STATUSES ↔
      order.status = .completed ∨ order.status = .returnCompleted := by
    cases hstatus : order.status
    all_goals
      simp only [hstatus, toPublicStatus, Option.some.injEq, reduceCtorEq] at h
      try subst h
      try decide
  unfold isExpired LongFinal
  rw [← hfinal]
  split
  · next hnot => simp [hnot]
  · next hin =>
      have hdays : (RETENTION_DAYS_AFTER_FINAL : Int) = 30 := rfl
      rw [decide_eq_true_eq, hdays, and_iff_right (not_not.mp hin)]
      omega

/-! ## Answers -/

/-- An answer passed every check. -/
theorem track_ok (h : track link upper w arrange rawCode query = .ok dto) :
    ¬ (query.t.isNone = query.phoneLast4.isNone) ∧
      ∃ row status, normalizeTrackingCode upper rawCode = .ok (some row.order.trackingCode) ∧
        findOrder w row.order.trackingCode = some row ∧
        isAuthorised link row.order query = true ∧
        toPublicStatus row.order.status = some status ∧
        isExpired status row.order.updatedAt w.now = false ∧
        dto = responseFor w arrange row status := by
  unfold track at h
  split at h
  · cases h
  · next hone =>
      refine ⟨hone, ?_⟩
      split at h
      · cases h
      · cases h
      · next trackingCode hcode =>
          split at h
          · cases h
          · next row hrow =>
              obtain ⟨hfound, hauth⟩ := Option.filter_eq_some_iff.mp hrow
              obtain ⟨-, rfl, -⟩ := findOrder_some hfound
              split at h
              · cases h
              · next status hstatus =>
                  split at h
                  · cases h
                  · next hexpired =>
                      refine ⟨row, status, hcode, hfound, hauth, hstatus, ?_, ?_⟩
                      · simpa using hexpired
                      · exact (Except.ok.inj h).symm

/-- **Every refusal is the same one**, whichever check fails. -/
theorem track_error (h : track link upper w arrange rawCode query = .error e) :
    e = refusal upper rawCode query := by
  unfold track at h
  unfold refusal
  split at h
  · next hboth =>
      rw [if_pos hboth]
      exact (Except.error.inj h).symm
  · next hone =>
      rw [if_neg hone]
      split at h
      · next uri huri =>
          rw [huri]
          exact (Except.error.inj h).symm
      · next huri =>
          rw [huri]
          exact (Except.error.inj h).symm
      · next trackingCode hcode =>
          rw [hcode]
          split at h
          · exact (Except.error.inj h).symm
          · split at h
            · exact (Except.error.inj h).symm
            · split at h
              · exact (Except.error.inj h).symm
              · cases h

/-- The tables without the other orders. -/
def World.only (w : World) (order : OrderRow) : World :=
  { w with
    orders := [order]
    orderEvents := w.orderEvents.filter fun event => Timelines.ofOrder order.id event.row
    legs := w.legs.filter fun l => decide (l.orderId = order.id) }

theorem track_of_checks (hone : ¬ (query.t.isNone = query.phoneLast4.isNone))
    (hcode : normalizeTrackingCode upper rawCode = .ok (some trackingCode))
    (hfound : findOrder w trackingCode = some row)
    (hauth : isAuthorised link row.order query = true)
    (hstatus : toPublicStatus row.order.status = some status)
    (hexpired : isExpired status row.order.updatedAt w.now = false) :
    track link upper w arrange rawCode query = .ok (responseFor w arrange row status) := by
  rw [track, if_neg hone]
  simp [hcode, hfound, Option.filter, hauth, hstatus, hexpired]

/-- **An answer is made of the rows of its order.** -/
theorem track_only (h : track link upper w arrange rawCode query = .ok dto) :
    ∃ order ∈ w.orders, normalizeTrackingCode upper rawCode = .ok (some order.trackingCode) ∧
      Carries link query order ∧
      track link upper (w.only order) arrange rawCode query = .ok dto := by
  obtain ⟨hone, row, status, hcode, hfound, hauth, hstatus, hexpired, rfl⟩ := track_ok h
  obtain ⟨hmem, -, hrow⟩ := findOrder_some hfound
  refine ⟨row.order, hmem, hcode, (isAuthorised_iff hone).mp hauth, ?_⟩
  have honly : findOrder (w.only row.order) row.order.trackingCode = some row := by
    simpa [findOrder, World.only, withNodes] using hrow
  rw [track_of_checks hone hcode honly hauth hstatus hexpired]
  simp [responseFor, timelineFor, courierLabelFor, World.only, List.filter_filter]

/-- **The unauthorised are refused.** -/
theorem Unauthorised.refused (h : Unauthorised link upper w rawCode query)
    (arrange : Paging.Arrangement courierKey) :
    track link upper w arrange rawCode query = .error (refusal upper rawCode query) := by
  cases hanswer : track link upper w arrange rawCode query with
  | error e => rw [track_error hanswer]
  | ok dto =>
      obtain ⟨hone, row, status, hcode, hfound, hauth, hstatus, hexpired, -⟩ := track_ok hanswer
      obtain ⟨hmem, -, -⟩ := findOrder_some hfound
      rcases h _ hcode row.order hmem rfl with hcarries | hnone | hfinal
      · exact absurd ((isAuthorised_iff hone).mp hauth) hcarries
      · rw [hnone] at hstatus
        cases hstatus
      · rw [(isExpired_iff hstatus).mpr hfinal] at hexpired
        cases hexpired

/-! ## Since when an order is final -/

def empty : World := ⟨[], [], [], [], [], 1, 0⟩

/-- Transactions on orders and their events, and what happens to the other tables. The
shelf of an order changes without its `updatedAt`. -/
inductive Action
  | tick (ms : Nat)
  | createFromPaidIntent (trackingCode receiverPhone : Units) (originNodeId destinationNodeId : Nat)
      (eventId : Nat) (payload : OrderEventPayload)
  | transition (orderId : Nat) (move : OrderMove) (eventId : Nat)
  | elsewhere (nodes : List NodeRow) (legs : List LegRow) (providers : List ProviderRow)

def exec (w : World) : Action → World
  | .tick ms => { w with now := w.now + ms }
  | .createFromPaidIntent trackingCode receiverPhone originNodeId destinationNodeId eventId
      payload =>
      { w with
        orders := w.orders ++ [⟨w.nextId, trackingCode, originNodeId, destinationNodeId,
          .awaitingDropOff, receiverPhone, w.now⟩]
        orderEvents := w.orderEvents ++ [⟨eventId, ⟨w.nextId, .orderPlaced, payload, w.now⟩⟩]
        nextId := w.nextId + 1 }
  | .transition orderId move eventId =>
      if w.orders.any fun o => o.id = orderId ∧ o.status = move.source then
        { w with
          orders := update (fun o => o.id = orderId ∧ o.status = move.source)
            (fun o => { o with status := move.target, updatedAt := w.now }) w.orders
          orderEvents := w.orderEvents ++
            [⟨eventId, ⟨orderId, move.type, move.payload, w.now⟩⟩] }
      else w
  | .elsewhere nodes legs providers => { w with nodes, legs, providers }

def isFinal (status : OrderStatus) : Bool := status = .completed || status = .returnCompleted

/-- The parcel was collected, by the receiver or by the sender. -/
def isEnding (type : OrderEventType) : Bool :=
  type = .collectedByReceiver || type = .collectedBySender

/-- The times at which an order became final. -/
def endedAt (w : World) (orderId : Nat) : List Nat :=
  (w.orderEvents.filter fun event =>
    Timelines.ofOrder orderId event.row && isEnding event.row.type).map
    fun event => event.row.createdAt

/-- `updatedAt` of a final order is when it became final, and it did so once. -/
structure Dated (w : World) : Prop where
  ids : Serial OrderRow.id w.nextId w.orders
  events : ∀ event ∈ w.orderEvents, event.row.orderId < w.nextId
  ended : ∀ o ∈ w.orders, endedAt w o.id = if isFinal o.status then [o.updatedAt] else []

theorem source_not_final (move : OrderMove) : isFinal move.source = false := by
  cases move <;> rfl

theorem isFinal_target (move : OrderMove) : isFinal move.target = isEnding move.type := by
  cases move <;> rfl

theorem endedAt_append {w' : World} {event : Logs.Stored OrderEventRow}
    (h : w'.orderEvents = w.orderEvents ++ [event]) (orderId : Nat) :
    endedAt w' orderId = endedAt w orderId ++
      if event.row.orderId = orderId ∧ isEnding event.row.type then [event.row.createdAt]
      else [] := by
  unfold endedAt
  rw [h, List.filter_append, List.map_append]
  congr 1
  by_cases hcounts : event.row.orderId = orderId ∧ isEnding event.row.type = true
  · simp [Timelines.ofOrder, hcounts]
  · rw [if_neg hcounts]
    simpa [Timelines.ofOrder] using hcounts

theorem Dated.createFromPaidIntent (h : Dated w) (trackingCode receiverPhone : Units)
    (originNodeId destinationNodeId eventId : Nat) (payload : OrderEventPayload) :
    Dated (exec w (.createFromPaidIntent trackingCode receiverPhone originNodeId destinationNodeId
      eventId payload)) where
  ids := h.ids.insert rfl
  events := by
    intro event hevent
    rcases List.mem_append.mp hevent with hevent | hevent
    · exact Nat.lt_succ_of_lt (h.events event hevent)
    · rw [List.mem_singleton.mp hevent]
      exact Nat.lt_succ_self _
  ended := by
    intro o ho
    have hplaced : isEnding .orderPlaced = false := rfl
    rw [endedAt_append rfl]
    simp only [hplaced, Bool.false_eq_true, and_false, if_false, List.append_nil]
    rcases List.mem_append.mp ho with ho | ho
    · exact h.ended o ho
    · -- no event has the new order's id yet
      rw [List.mem_singleton.mp ho]
      refine List.map_eq_nil_iff.mpr (List.filter_eq_nil_iff.mpr fun event hevent hof => ?_)
      have hid : event.row.orderId = w.nextId :=
        of_decide_eq_true (Bool.and_eq_true_iff.mp hof).1
      exact absurd hid (h.events event hevent).ne

theorem Dated.transition (h : Dated w) (orderId : Nat) (move : OrderMove) (eventId : Nat) :
    Dated (exec w (.transition orderId move eventId)) := by
  simp only [exec]
  split
  · next hany =>
      obtain ⟨moved, hmoved, hcond⟩ := List.any_eq_true.mp hany
      obtain ⟨rfl, hsource⟩ := of_decide_eq_true hcond
      have hnever : endedAt w moved.id = [] := by
        simpa [hsource, source_not_final] using h.ended moved hmoved
      refine ⟨h.ids.update fun _ => rfl, ?_, ?_⟩
      · intro event hevent
        rcases List.mem_append.mp hevent with hevent | hevent
        · exact h.events event hevent
        · rw [List.mem_singleton.mp hevent]
          exact h.ids.below moved hmoved
      · intro o ho
        obtain ⟨old, hold, rfl⟩ := mem_update.mp ho
        rw [endedAt_append rfl]
        by_cases hid : old.id = moved.id
        · obtain rfl : old = moved := h.ids.distinct.eq_of_key hold hmoved hid
          simp [hsource, hnever, isFinal_target]
        · simpa [hid, Ne.symm hid, endedAt] using h.ended old hold
  · exact h

theorem Dated.step (h : Dated w) (a : Action) : Dated (exec w a) := by
  cases a with
  | tick ms => exact ⟨h.ids, h.events, h.ended⟩
  | createFromPaidIntent trackingCode receiverPhone originNodeId destinationNodeId eventId
      payload =>
      exact h.createFromPaidIntent _ _ _ _ _ _
  | transition orderId move eventId => exact h.transition orderId move eventId
  | elsewhere nodes legs providers => exact ⟨h.ids, h.events, h.ended⟩

theorem dated_run (as : List Action) : Dated (Runs.run exec empty as) :=
  Runs.run_invariant (fun _ a h => h.step a) ⟨Serial.nil _ _, by simp [empty], by simp [empty]⟩ as

/-! ## Nothing revealed -/

/-- **Public tracking reveals nothing to the unauthorised**: their answer is the same
from any two databases, and any answer that shows an order is to a request that carries
its token or digits and shows that order alone. The time that counts for a final order
is, in every run, the one at which it was collected. -/
theorem tracking_reveals_nothing (link : TrackingLink) (upper : UpperCase) (rawCode : Units)
    (query : TrackQueryDto) :
    (∀ w w' arrange arrange', Unauthorised link upper w rawCode query →
      Unauthorised link upper w' rawCode query →
      track link upper w arrange rawCode query = track link upper w' arrange' rawCode query) ∧
    (∀ w arrange, track link upper w arrange rawCode query = .error (refusal upper rawCode query) ∨
      ∃ order ∈ w.orders, ∃ dto,
        normalizeTrackingCode upper rawCode = .ok (some order.trackingCode) ∧
        Carries link query order ∧
        track link upper w arrange rawCode query = .ok dto ∧
        track link upper (w.only order) arrange rawCode query = .ok dto) ∧
    ∀ as, ∀ order ∈ (Runs.run exec empty as).orders,
      order.status = .completed ∨ order.status = .returnCompleted →
        endedAt (Runs.run exec empty as) order.id = [order.updatedAt] := by
  refine ⟨fun w w' arrange arrange' h h' => ?_, fun w arrange => ?_,
    fun as order horder hfinal => ?_⟩
  · rw [h.refused, h'.refused]
  · cases hanswer : track link upper w arrange rawCode query with
    | error e => exact Or.inl (by rw [track_error hanswer])
    | ok dto =>
        obtain ⟨order, hmem, hcode, hcarries, honly⟩ := track_only hanswer
        exact Or.inr ⟨order, hmem, dto, hcode, hcarries, rfl, honly⟩
  · have hended := (dated_run as).ended order horder
    have hisFinal : isFinal order.status = true := by
      rcases hfinal with hfinal | hfinal
      · rw [hfinal]
        rfl
      · rw [hfinal]
        rfl
    rwa [hisFinal, if_pos rfl] at hended

/-- The digest of the one message that is asked for below. -/
def demoLink : TrackingLink where
  TRACKING_LINK_SECRET := text "demo-tracking-secret-0123456789ab"
  hmacSha256 secret message :=
    if secret = text "demo-tracking-secret-0123456789ab" ∧
        message = text "tracking-link:LCM-7K3M-9XQ2" then
      [196, 38, 235, 208, 50, 218, 231, 51, 48, 189, 31, 76, 201, 169, 189, 132, 182, 10, 159, 156,
        68, 193, 209, 125, 227, 90, 61, 90, 25, 137, 198, 246]
    else []

def demoUpper : UpperCase := ⟨fun s => s.map upperAscii, fun _ _ => rfl⟩

def demoArrange : Paging.Arrangement courierKey :=
  ⟨Paging.sortDesc courierKey, Paging.sortDesc_arranged courierKey⟩

def demoWorld : World :=
  { empty with
    orders := [⟨1, text "LCM-7K3M-9XQ2", 2, 3, .awaitingDropOff, text "+2348012345678", 0⟩]
    nodes := [⟨2, "Yaba Node", "1 Herbert Macaulay Way", "Yaba", "Lagos", none⟩,
      ⟨3, "Lekki Node", "2 Admiralty Way", "Lekki", "Lagos", none⟩] }

def wrongDigits : TrackQueryDto := ⟨none, some (text "5679"), by simp, by decide⟩

def ownToken : TrackQueryDto := ⟨some (text "xCbr0DLa5zMwvR9Myam9hL"), none, by decide, by simp⟩

/-- Wrong digits do not tell a parcel from none; its token shows it. -/
theorem demo_tracking :
    track demoLink demoUpper demoWorld demoArrange (text "lcm 7k3m 9xq2") wrongDigits
      = track demoLink demoUpper empty demoArrange (text "lcm 7k3m 9xq2") wrongDigits ∧
    ∃ order ∈ demoWorld.orders, Carries demoLink ownToken order := by
  constructor
  · refine (tracking_reveals_nothing _ _ _ _).1 _ _ _ _ ?_ ?_
    · intro trackingCode _ order horder _
      rw [List.mem_singleton.mp horder]
      refine Or.inl ?_
      rintro (htoken | ⟨digits, hdigits, hsuffix⟩)
      · cases htoken
      · rw [← Option.mem_some.mp hdigits] at hsuffix
        exact absurd hsuffix (by decide)
    · intro trackingCode _ order horder
      cases horder
  · have hshown : (track demoLink demoUpper demoWorld demoArrange (text "lcm 7k3m 9xq2")
        ownToken).isOk = true := by decide
    rcases (tracking_reveals_nothing demoLink demoUpper (text "lcm 7k3m 9xq2") ownToken).2.1
      demoWorld demoArrange with hrefused | ⟨order, horder, -, -, hcarries, -⟩
    · rw [hrefused] at hshown
      cases hshown
    · exact ⟨order, horder, hcarries⟩

end Locoomo.PublicTracking
