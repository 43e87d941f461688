import Mathlib.Algebra.Order.BigOperators.Group.List
import Locoomo.Lib.Reports
import Locoomo.Outbox
import Locoomo.RouteDistances

/-! The refresh of the route distances: an outbox job that measures twenty pairs of
Nodes and enqueues itself for the next ones. -/

namespace Locoomo.RouteRefresh

open Locoomo.Edits Locoomo.Routing Relational
open Locoomo.Outbox (OutboxEventRow OUTBOX_MAX_ATTEMPTS)
open Locoomo.RouteDistances (NodePair RouteRow Outcome PAIRS_PER_RUN pairs record)

/-! ## Rows -/

structure RefreshPayload where
  providerKey : String
  includePending : Bool
  offset : Nat
  deriving DecidableEq

/-- `JSON.stringify` of it. -/
def RefreshPayload.json (payload : RefreshPayload) : String :=
  "\x7b\"providerKey\":" ++ payload.providerKey.quote ++ ",\"includePending\":"
    ++ toString payload.includePending ++ ",\"offset\":" ++ toString payload.offset ++ "\x7d"

def REFRESH_ROUTES_EVENT_TYPE : String := "logistics.refresh_routes"

/-- A refresh in the outbox, with what its column `payload` says. -/
structure RefreshEvent where
  row : OutboxEventRow
  payload : RefreshPayload

def RefreshEvent.id (e : RefreshEvent) : Nat := e.row.id

structure LogisticsProvider where
  key : String
  measureRoute : Bool
  measureRoutePacingMs : Option Nat

/-- The couriers that run here; the database orders their keys. -/
structure Registry where
  providers : List LogisticsProvider
  keyLe : String → String → Bool

structure World where
  now : Nat
  nextId : Nat
  tables : RouteDistances.World
  events : List RefreshEvent

/-! ## The service -/

def Registry.get (registry : Registry) (key : String) : Option LogisticsProvider :=
  registry.providers.find? fun provider => provider.key = key

/-- `registry.get(key)`, if it can measure routes. -/
def Registry.measuring (registry : Registry) (key : String) : Option LogisticsProvider :=
  (registry.get key).filter LogisticsProvider.measureRoute

def isRunning (w : World) : Bool := w.events.any fun e => e.row.status = .pending

def enqueue (payload : RefreshPayload) (w : World) : World :=
  { w with
    events := w.events ++
      [⟨Outbox.enqueue w.nextId REFRESH_ROUTES_EVENT_TYPE payload.json w.now, payload⟩]
    nextId := w.nextId + 1 }

structure RouteRefreshStarted where
  queued : Bool
  alreadyRunning : Bool
  providerKey : String
  pairs : Nat
  estimatedSeconds : Nat

structure IllegalDeliveryActionException where
  message : String

def ids (pair : NodePair) : Nat × Nat := (pair.originNodeId, pair.destinationNodeId)

/-- One turn of the loop over a chunk, with the count of failures. -/
def measurePair (source : String) (outcome : Nat × Nat → Outcome) (acc : List RouteRow × Nat)
    (pair : NodePair) : List RouteRow × Nat :=
  match outcome (ids pair) with
  | .distance (some meters) => (record acc.1 pair meters source, acc.2)
  | .distance none => acc
  | .failed => (acc.1, acc.2 + 1)

section
variable (stDistance : Coordinates → Coordinates → ℚ) (registry : Registry)

def measuringProvider (w : World) : Option LogisticsProvider :=
  (w.tables.providers.mergeSort fun a b =>
      a.priority < b.priority || a.priority = b.priority && registry.keyLe a.key b.key).findSome?
    fun config => registry.measuring config.key

def start (includePending : Bool) (w : World) :
    World × Except IllegalDeliveryActionException RouteRefreshStarted :=
  match measuringProvider registry w with
  | none =>
      (w, .error
        ⟨"No courier that can measure routes is running here (Sendii needs SENDII_API_KEY)"⟩)
  | some provider =>
      let count := (pairs stDistance w.tables provider.key includePending).length
      let estimatedSeconds := (count * provider.measureRoutePacingMs.getD 0 + 999) / 1000
      if isRunning w then (w, .ok ⟨false, true, provider.key, count, estimatedSeconds⟩)
      else (enqueue ⟨provider.key, includePending, 0⟩ w,
        .ok ⟨true, false, provider.key, count, estimatedSeconds⟩)

/-- The distances as it leaves them, and the exception or the job for the next pairs. What
was recorded before an exception stays. -/
def measureChunk (tables : RouteDistances.World) (payload : RefreshPayload)
    (outcome : Nat × Nat → Outcome) : List RouteRow × Except String (Option RefreshPayload) :=
  match registry.measuring payload.providerKey with
  | none => (tables.routes, .ok none)
  | some provider =>
      let listed := pairs stDistance tables provider.key payload.includePending
      let chunk := (listed.drop payload.offset).take PAIRS_PER_RUN
      let (routes, failures) := chunk.foldl (measurePair provider.key outcome) (tables.routes, 0)
      if 0 < chunk.length ∧ failures = chunk.length then
        (routes, .error ("Route refresh: all " ++ toString failures ++ " measurements failed"))
      else
        let next := payload.offset + PAIRS_PER_RUN
        (routes, .ok (if next < listed.length then some { payload with offset := next } else none))

/-! ## Runs -/

/-- What comes of measuring a pair in a try of its chunk, counted from 0. -/
abbrev Pattern := Nat × Nat → Nat → Outcome

variable (outcome : Pattern)

/-- The handler and what the outbox notes of it. -/
def process (w : World) (e : RefreshEvent) : World :=
  let (routes, result) :=
    measureChunk stDistance registry w.tables e.payload fun pair => outcome pair e.row.attempts
  let measured := { w with tables := { w.tables with routes } }
  match result with
  | .error error =>
      { measured with
        events := update (fun x => x.id = e.id)
          (fun x => { x with row := Outbox.registerFailure w.now x.row error }) measured.events }
  | .ok next =>
      let handled := next.elim measured fun payload => enqueue payload measured
      { handled with
        events := update (fun x => x.id = e.id)
          (fun x => { x with row := Outbox.succeed w.now x.row }) handled.events }

/-- Time passes, other calls write the tables, a refresh is started, a due one processed. -/
inductive Action
  | tick (ms : Nat)
  | elsewhere (tables : RouteDistances.World)
  | start (includePending : Bool)
  | process (id : Nat)

def isDue (w : World) (id : Nat) (e : RefreshEvent) : Bool :=
  e.id = id && e.row.status = .pending && e.row.nextAttemptAt ≤ w.now

def exec (w : World) : Action → World
  | .tick ms => { w with now := w.now + ms }
  | .elsewhere tables => { w with tables }
  | .start includePending => (start stDistance registry includePending w).1
  | .process id =>
      match w.events.find? (isDue w id) with
      | none => w
      | some e => process stDistance registry outcome w e

end

/-! ## The property -/

/-- The pairs with a stored distance. -/
def storedPairs (routes : List RouteRow) : List (Nat × Nat) :=
  routes.map fun r => (r.originNodeId, r.destinationNodeId)

def Measured (outcome : Outcome) : Prop := ∃ meters, outcome = .distance (some meters)

/-- The chunk at that offset. -/
def chunkAt (listed : List (Nat × Nat)) (offset : Nat) : List (Nat × Nat) :=
  (listed.drop offset).take PAIRS_PER_RUN

/-- `max(1, ceil(n / 20))`. -/
def chunkCount (n : Nat) : Nat := max 1 ((n + 19) / 20)

/-- The chunk failed as a whole in that try. -/
def AllFailed (outcome : Pattern) (chunk : List (Nat × Nat)) (t : Nat) : Prop :=
  chunk ≠ [] ∧ ∀ p ∈ chunk, outcome p t = .failed

instance (outcome : Pattern) (chunk : List (Nat × Nat)) (t : Nat) :
    Decidable (AllFailed outcome chunk t) := inferInstanceAs (Decidable (_ ∧ _))

/-! ## Measuring a chunk -/

section Loop

variable {outcome : Nat × Nat → Outcome} {source : String} {chunk : List NodePair}

theorem mem_stored_record {routes : List RouteRow} {pair : NodePair} {meters : ℚ} {p : Nat × Nat} :
    p ∈ storedPairs (record routes pair meters source) ↔ p ∈ storedPairs routes ∨ p = ids pair := by
  simp only [storedPairs, record, List.map_append, List.mem_append, List.mem_map, List.mem_filter,
    List.map_cons, List.map_nil, List.mem_singleton]
  constructor
  · rintro (⟨r, ⟨hr, -⟩, rfl⟩ | rfl)
    · exact Or.inl ⟨r, hr, rfl⟩
    · exact Or.inr rfl
  · rintro (⟨r, hr, rfl⟩ | rfl)
    · by_cases hsame : r.originNodeId = pair.originNodeId ∧
          r.destinationNodeId = pair.destinationNodeId
      · exact Or.inr (Prod.ext hsame.1 hsame.2)
      · exact Or.inl ⟨r, ⟨hr, by simpa using not_and_or.mp hsame⟩, rfl⟩
    · exact Or.inr rfl

/-- Every turn of the loop stores the pair it measures, and no other. -/
theorem mem_stored_fold (source : String) {routes : List RouteRow} (failures : Nat)
    {p : Nat × Nat} :
    p ∈ storedPairs (chunk.foldl (measurePair source outcome) (routes, failures)).1 ↔
      p ∈ storedPairs routes ∨ p ∈ chunk.map ids ∧ Measured (outcome p) := by
  induction chunk generalizing routes failures with
  | nil => simp
  | cons pair chunk ih =>
      rw [List.foldl_cons, List.map_cons, List.mem_cons]
      cases houtcome : outcome (ids pair) with
      | failed =>
          have hturn : measurePair source outcome (routes, failures) pair
              = (routes, failures + 1) := by simp [measurePair, houtcome]
          have hnot : p = ids pair → ¬ Measured (outcome p) := by
            rintro rfl ⟨meters, hmeters⟩
            simp [houtcome] at hmeters
          rw [hturn, ih]
          tauto
      | distance distanceMeters =>
          cases distanceMeters with
          | none =>
              have hturn : measurePair source outcome (routes, failures) pair
                  = (routes, failures) := by simp [measurePair, houtcome]
              have hnot : p = ids pair → ¬ Measured (outcome p) := by
                rintro rfl ⟨meters, hmeters⟩
                simp [houtcome] at hmeters
              rw [hturn, ih]
              tauto
          | some meters =>
              have hturn : measurePair source outcome (routes, failures) pair
                  = (record routes pair meters source, failures) := by simp [measurePair, houtcome]
              have hmeasured : p = ids pair → Measured (outcome p) := by
                rintro rfl
                exact ⟨meters, houtcome⟩
              rw [hturn, ih, mem_stored_record]
              tauto

theorem fold_failures {routes : List RouteRow} {failures : Nat} :
    (chunk.foldl (measurePair source outcome) (routes, failures)).2
      = failures + (chunk.map ids).countP fun p => outcome p = .failed := by
  induction chunk generalizing routes failures with
  | nil => simp
  | cons pair chunk ih =>
      rw [List.foldl_cons, List.map_cons, List.countP_cons]
      cases houtcome : outcome (ids pair) with
      | failed => simp [measurePair, houtcome, ih, Nat.add_assoc, Nat.add_comm 1]
      | distance distanceMeters =>
          cases distanceMeters with
          | none => simp [measurePair, houtcome, ih]
          | some meters => simp [measurePair, houtcome, ih]

end Loop

/-! ## One try -/

section Try

variable {stDistance : Coordinates → Coordinates → ℚ} {registry : Registry}
  {provider : LogisticsProvider} {tables : RouteDistances.World} {payload : RefreshPayload}
  {listed : List (Nat × Nat)}

theorem Registry.measuring_key {key : String} (h : registry.measuring key = some provider) :
    provider.key = key := by
  obtain ⟨hget, -⟩ := Option.filter_eq_some_iff.mp h
  simpa using List.find?_some hget

/-- What a try stores. -/
theorem stored_measureChunk (outcome : Nat × Nat → Outcome)
    (hprovider : registry.measuring payload.providerKey = some provider)
    (hlisted : (pairs stDistance tables payload.providerKey payload.includePending).map ids
      = listed) (p : Nat × Nat) :
    p ∈ storedPairs (measureChunk stDistance registry tables payload outcome).1 ↔
      p ∈ storedPairs tables.routes ∨ p ∈ chunkAt listed payload.offset ∧ Measured (outcome p) := by
  rw [← Registry.measuring_key hprovider] at hlisted
  have hchunk : (((pairs stDistance tables provider.key payload.includePending).drop
      payload.offset).take PAIRS_PER_RUN).map ids = chunkAt listed payload.offset := by
    rw [chunkAt, ← hlisted, List.map_take, List.map_drop]
  rw [← hchunk, ← mem_stored_fold provider.key 0]
  simp only [measureChunk, hprovider]
  split <;> rfl

/-- A try throws when all of its chunk failed; otherwise it enqueues the rest, if any. -/
theorem measureChunk_result (pattern : Pattern) (t : Nat)
    (hprovider : registry.measuring payload.providerKey = some provider)
    (hlisted : (pairs stDistance tables payload.providerKey payload.includePending).map ids
      = listed) :
    (AllFailed pattern (chunkAt listed payload.offset) t → ∃ error,
      (measureChunk stDistance registry tables payload fun pair => pattern pair t).2
        = .error error) ∧
    (¬ AllFailed pattern (chunkAt listed payload.offset) t →
      (measureChunk stDistance registry tables payload fun pair => pattern pair t).2
        = .ok (if payload.offset + PAIRS_PER_RUN < listed.length then
            some { payload with offset := payload.offset + PAIRS_PER_RUN } else none)) := by
  have hkey := Registry.measuring_key hprovider
  let chunk := ((pairs stDistance tables provider.key payload.includePending).drop
    payload.offset).take PAIRS_PER_RUN
  have hchunk : chunk.map ids = chunkAt listed payload.offset := by
    rw [chunkAt, ← hlisted, ← hkey, List.map_take, List.map_drop]
  have hlength : (pairs stDistance tables provider.key payload.includePending).length
      = listed.length := by
    rw [← hlisted, hkey, List.length_map]
  have hfailures : (chunk.foldl (measurePair provider.key fun pair => pattern pair t)
      (tables.routes, 0)).2
        = (chunkAt listed payload.offset).countP fun p => pattern p t = .failed := by
    rw [fold_failures, hchunk, Nat.zero_add]
  have hall : AllFailed pattern (chunkAt listed payload.offset) t ↔ 0 < chunk.length ∧
      (chunk.foldl (measurePair provider.key fun pair => pattern pair t) (tables.routes, 0)).2
        = chunk.length := by
    have hlen : chunk.length = (chunkAt listed payload.offset).length := by
      rw [← hchunk, List.length_map]
    rw [hfailures, hlen, List.countP_eq_length, AllFailed, List.length_pos_iff]
    simp
  simp only [measureChunk, hprovider]
  constructor
  · intro hfailed
    rw [if_pos (hall.mp hfailed)]
    exact ⟨_, rfl⟩
  · intro hsome
    rw [if_neg fun hfailed => hsome (hall.mpr hfailed), hlength]

end Try

/-! ## The chain -/

/-- A refresh as it was started, and what comes of it. -/
structure Plan where
  providerKey : String
  includePending : Bool
  listed : List (Nat × Nat)
  outcome : Pattern

def Plan.chunk (plan : Plan) (k : Nat) : List (Nat × Nat) :=
  chunkAt plan.listed (k * PAIRS_PER_RUN)

/-- The eligible pairs are those that the refresh began with. -/
def Plan.Lists (plan : Plan) (stDistance : Coordinates → Coordinates → ℚ)
    (tables : RouteDistances.World) : Prop :=
  (pairs stDistance tables plan.providerKey plan.includePending).map ids = plan.listed

/-- No chunk fails as a whole more often than it is tried. -/
def Plan.Retried (plan : Plan) : Prop :=
  ∀ k, ∃ t < OUTBOX_MAX_ATTEMPTS, ¬ AllFailed plan.outcome (plan.chunk k) t

/-- The event of that chunk; every try so far but perhaps the last one failed. -/
structure Plan.IsChunk (plan : Plan) (k : Nat) (e : RefreshEvent) : Prop where
  payload : e.payload = ⟨plan.providerKey, plan.includePending, k * PAIRS_PER_RUN⟩
  attempts : e.row.attempts < OUTBOX_MAX_ATTEMPTS
  failed : ∀ t < e.row.attempts, AllFailed plan.outcome (plan.chunk k) t

/-- The chunks behind the refresh and the one it is at, after the events from before. -/
structure Plan.Chained (plan : Plan) (stDistance : Coordinates → Coordinates → ℚ) (w₀ w : World)
    (done : List RefreshEvent) (current : Option RefreshEvent) : Prop where
  events : w.events = w₀.events ++ (done ++ current.toList)
  serial : Serial RefreshEvent.id w.nextId w.events
  lists : plan.Lists stDistance w.tables
  passed : ∀ k e, done[k]? = some e → plan.IsChunk k e ∧ e.row.status = .sent ∧
    ¬ AllFailed plan.outcome (plan.chunk k) e.row.attempts
  waiting : ∀ e ∈ current, plan.IsChunk done.length e ∧ e.row.status = .pending ∧
    done.length < chunkCount plan.listed.length
  ended : current = none → done.length = chunkCount plan.listed.length

/-- The distances are those from before and those that the chunks behind the refresh gave. -/
def Plan.Stores (plan : Plan) (w₀ w : World) (done : List RefreshEvent) : Prop :=
  ∀ p, p ∈ storedPairs w.tables.routes ↔ p ∈ storedPairs w₀.tables.routes ∨
    ∃ k e, done[k]? = some e ∧ p ∈ plan.chunk k ∧ Measured (plan.outcome p e.row.attempts)

section Chain

variable {stDistance : Coordinates → Coordinates → ℚ} {registry : Registry} {plan : Plan}
  {provider : LogisticsProvider} {w₀ w : World} {done : List RefreshEvent}
  {current : Option RefreshEvent} {e : RefreshEvent}

theorem not_pending_of_idle (hidle : isRunning w₀ = false) (he : e ∈ w₀.events) :
    e.row.status ≠ .pending := by
  intro hpending
  have hrunning : isRunning w₀ = true := List.any_eq_true.mpr ⟨e, he, by simpa using hpending⟩
  rw [hidle] at hrunning
  cases hrunning

theorem Plan.Chained.sent (h : plan.Chained stDistance w₀ w done current) (he : e ∈ done) :
    e.row.status = .sent := by
  obtain ⟨k, hk⟩ := List.getElem?_of_mem he
  exact (h.passed k e hk).2.1

/-- **Only the current chunk's event is ever due.** -/
theorem Plan.Chained.due (h : plan.Chained stDistance w₀ w done current)
    (hidle : isRunning w₀ = false) {id : Nat} (hdue : w.events.find? (isDue w id) = some e) :
    current = some e := by
  have hmem := List.mem_of_find?_eq_some hdue
  have hpending : e.row.status = .pending := by
    have := List.find?_some hdue
    simp only [isDue, Bool.and_eq_true, decide_eq_true_eq] at this
    exact this.1.2
  rw [h.events, List.mem_append, List.mem_append] at hmem
  rcases hmem with hold | hdone | hcurrent
  · exact absurd hpending (not_pending_of_idle hidle hold)
  · rw [h.sent hdone] at hpending
    cases hpending
  · simpa using hcurrent

theorem Plan.Chained.isRunning_iff (h : plan.Chained stDistance w₀ w done current)
    (hidle : isRunning w₀ = false) : isRunning w = true ↔ current.isSome = true := by
  constructor
  · intro hrunning
    obtain ⟨e, hmem, hpending⟩ := List.any_eq_true.mp hrunning
    rw [h.events, List.mem_append, List.mem_append] at hmem
    rcases hmem with hold | hdone | hcurrent
    · exact absurd (of_decide_eq_true hpending) (not_pending_of_idle hidle hold)
    · rw [h.sent hdone] at hpending
      cases hpending
    · rw [Option.mem_toList.mp hcurrent]
      rfl
  · intro hsome
    obtain ⟨e, rfl⟩ := Option.isSome_iff_exists.mp hsome
    refine List.any_eq_true.mpr ⟨e, ?_, decide_eq_true (h.waiting e rfl).2.1⟩
    rw [h.events]
    simp

/-- A pattern that leaves a chunk a good try leaves it one behind each failed one. -/
theorem Plan.IsChunk.retry {k : Nat} (h : plan.IsChunk k e) (hretried : plan.Retried)
    (hfailed : AllFailed plan.outcome (plan.chunk k) e.row.attempts) :
    e.row.attempts + 1 < OUTBOX_MAX_ATTEMPTS := by
  obtain ⟨t, ht, hgood⟩ := hretried k
  have hlater : e.row.attempts < t := by
    by_contra hnot
    rcases Nat.lt_or_eq_of_le (Nat.le_of_not_lt hnot) with hlt | rfl
    · exact hgood (h.failed t hlt)
    · exact hgood hfailed
  omega

/-- What a try of a chunk of the refresh does. -/
theorem Plan.IsChunk.measured {k : Nat} {tables : RouteDistances.World}
    {routes : List RouteRow} {result : Except String (Option RefreshPayload)}
    (h : plan.IsChunk k e) (hprovider : registry.measuring plan.providerKey = some provider)
    (hlists : plan.Lists stDistance tables)
    (hrun : measureChunk stDistance registry tables e.payload
      (fun pair => plan.outcome pair e.row.attempts) = (routes, result)) :
    (∀ p, p ∈ storedPairs routes ↔ p ∈ storedPairs tables.routes ∨
      p ∈ plan.chunk k ∧ Measured (plan.outcome p e.row.attempts)) ∧
    (AllFailed plan.outcome (plan.chunk k) e.row.attempts → ∃ error, result = .error error) ∧
    (¬ AllFailed plan.outcome (plan.chunk k) e.row.attempts →
      result = .ok (if (k + 1) * PAIRS_PER_RUN < plan.listed.length then
        some ⟨plan.providerKey, plan.includePending, (k + 1) * PAIRS_PER_RUN⟩ else none)) := by
  have hkey : registry.measuring e.payload.providerKey = some provider := by
    rw [h.payload]
    exact hprovider
  have hpairs : (pairs stDistance tables e.payload.providerKey e.payload.includePending).map ids
      = plan.listed := by
    rw [h.payload]
    exact hlists
  have hchunk : chunkAt plan.listed e.payload.offset = plan.chunk k := by
    rw [h.payload]
    rfl
  have hstored := stored_measureChunk (fun pair => plan.outcome pair e.row.attempts) hkey hpairs
  have hresult := measureChunk_result plan.outcome e.row.attempts hkey hpairs
  rw [hrun, hchunk] at hstored hresult
  refine ⟨hstored, hresult.1, fun hsome => (hresult.2 hsome).trans ?_⟩
  rw [h.payload, Nat.succ_mul]

/-- An update by the current event's id leaves the events before it. -/
theorem Plan.Chained.update_current (h : plan.Chained stDistance w₀ w done (some e))
    (f : RefreshEvent → RefreshEvent) (after : List RefreshEvent)
    (hafter : Distinct RefreshEvent.id (w.events ++ after)) :
    update (fun x => decide (x.id = e.id)) f (w.events ++ after)
      = w₀.events ++ (done ++ f e :: after) := by
  have hevents : w.events ++ after = (w₀.events ++ done) ++ e :: after := by
    rw [h.events]
    simp
  rw [hevents] at hafter ⊢
  rw [hafter.update_append_cons, List.append_assoc]

/-- **A chunk that failed as a whole** stays the current one, with one more attempt. -/
theorem Plan.Chained.process_failed (h : plan.Chained stDistance w₀ w done (some e))
    (hprovider : registry.measuring plan.providerKey = some provider) (hretried : plan.Retried)
    (hfailed : AllFailed plan.outcome (plan.chunk done.length) e.row.attempts) :
    ∃ e', e'.payload = e.payload ∧ e'.row.status = .pending ∧
      e'.row.attempts = e.row.attempts + 1 ∧
      plan.Chained stDistance w₀ (process stDistance registry plan.outcome w e) done (some e') ∧
      (plan.Stores w₀ w done →
        plan.Stores w₀ (process stDistance registry plan.outcome w e) done) := by
  obtain ⟨hchunk, hpending, hlt⟩ := h.waiting e rfl
  have hmore := hchunk.retry hretried hfailed
  rcases hrun : measureChunk stDistance registry w.tables e.payload
    (fun pair => plan.outcome pair e.row.attempts) with ⟨routes, result⟩
  obtain ⟨hstored, herror, -⟩ := hchunk.measured hprovider h.lists hrun
  obtain ⟨error, rfl⟩ := herror hfailed
  let fail (x : RefreshEvent) : RefreshEvent :=
    { x with row := Outbox.registerFailure w.now x.row error }
  have hrow : (fail e).row = { e.row with
      attempts := e.row.attempts + 1
      lastError := some error
      nextAttemptAt := w.now + Outbox.computeBackoffMs (e.row.attempts + 1) } :=
    if_neg (Nat.not_le.mpr hmore)
  have hfail : ∀ x, (fail x).id = x.id := fun x => Outbox.registerFailure_id w.now x.row error
  have hupdate := h.update_current fail [] (by simpa using h.serial.distinct)
  rw [List.append_nil] at hupdate
  have hprocess : process stDistance registry plan.outcome w e =
      { w with
        tables := { w.tables with routes }
        events := update (fun x => decide (x.id = e.id)) fail w.events } := by
    simp only [process, hrun]
    rfl
  refine ⟨fail e, rfl, by rw [hrow]; exact hpending, by rw [hrow], ?_, ?_⟩
  · rw [hprocess]
    refine { h with
      events := hupdate
      serial := h.serial.update hfail
      waiting := ?_
      ended := fun hnone => by cases hnone }
    intro x hx
    rw [← Option.mem_some.mp hx]
    refine ⟨⟨hchunk.payload, by rw [hrow]; exact hmore, ?_⟩, by rw [hrow]; exact hpending, hlt⟩
    intro t ht
    rw [hrow] at ht
    rcases Nat.lt_succ_iff_lt_or_eq.mp ht with ht | rfl
    · exact hchunk.failed t ht
    · exact hfailed
  · intro hstores p
    rw [hprocess, ← hstores p]
    -- a chunk that failed as a whole stores nothing
    have hnot : p ∈ plan.chunk done.length → ¬ Measured (plan.outcome p e.row.attempts) := by
      rintro hp ⟨meters, hmeters⟩
      rw [hfailed.2 p hp] at hmeters
      cases hmeters
    have := hstored p
    tauto

theorem getElem?_snoc {l : List RefreshEvent} {x y : RefreshEvent} {k : Nat} :
    (l ++ [x])[k]? = some y ↔ l[k]? = some y ∨ k = l.length ∧ x = y := by
  rw [List.getElem?_append]
  split
  · next hlt => simp [hlt.ne]
  · next hge =>
      rcases Nat.eq_or_lt_of_le (Nat.le_of_not_lt hge) with rfl | hlt
      · simp
      · have hnone : [x][k - l.length]? = none := by
          rw [List.getElem?_eq_none_iff, List.length_singleton]
          omega
        simp [hnone, hlt.ne', List.getElem?_eq_none hlt.le]

theorem next_chunk_iff {k n : Nat} :
    (k + 1) * PAIRS_PER_RUN < n ↔ k + 1 < chunkCount n := by
  unfold PAIRS_PER_RUN chunkCount
  omega

/-- The first event of the next chunk. -/
def Plan.first (plan : Plan) (w : World) (k : Nat) : RefreshEvent :=
  let payload : RefreshPayload := ⟨plan.providerKey, plan.includePending, k * PAIRS_PER_RUN⟩
  ⟨Outbox.enqueue w.nextId REFRESH_ROUTES_EVENT_TYPE payload.json w.now, payload⟩

theorem Plan.isChunk_first (plan : Plan) (w : World) (k : Nat) :
    plan.IsChunk k (plan.first w k) where
  payload := rfl
  attempts := by
    show 0 < OUTBOX_MAX_ATTEMPTS
    decide
  failed := fun t ht => absurd ht (Nat.not_lt_zero t)

/-- With one more chunk behind the refresh, what it gave is stored as well. -/
theorem Plan.Stores.append (h : plan.Stores w₀ w done) {w' : World}
    (hstored : ∀ p, p ∈ storedPairs w'.tables.routes ↔ p ∈ storedPairs w.tables.routes ∨
      p ∈ plan.chunk done.length ∧ Measured (plan.outcome p e.row.attempts)) :
    plan.Stores w₀ w' (done ++ [e]) := by
  intro p
  rw [hstored p, h p, or_assoc]
  refine or_congr_right ?_
  constructor
  · rintro (⟨k, x, hx, hp, hmeasured⟩ | ⟨hp, hmeasured⟩)
    · exact ⟨k, x, getElem?_snoc.mpr (Or.inl hx), hp, hmeasured⟩
    · exact ⟨done.length, e, getElem?_snoc.mpr (Or.inr ⟨rfl, rfl⟩), hp, hmeasured⟩
  · rintro ⟨k, x, hx, hp, hmeasured⟩
    rcases getElem?_snoc.mp hx with hx | ⟨rfl, rfl⟩
    · exact Or.inl ⟨k, x, hx, hp, hmeasured⟩
    · exact Or.inr ⟨hp, hmeasured⟩

/-- **A chunk of which some pair did not fail** is behind, and the next one is enqueued, if
there is any. -/
theorem Plan.Chained.process_sent (h : plan.Chained stDistance w₀ w done (some e))
    (hprovider : registry.measuring plan.providerKey = some provider)
    (hgood : ¬ AllFailed plan.outcome (plan.chunk done.length) e.row.attempts) :
    ∃ e' next, e'.row.status = .sent ∧ e'.row.attempts = e.row.attempts ∧
      (∀ x ∈ next, x.row.attempts = 0 ∧ x.row.status = .pending) ∧
      plan.Chained stDistance w₀ (process stDistance registry plan.outcome w e) (done ++ [e'])
        next ∧
      (plan.Stores w₀ w done →
        plan.Stores w₀ (process stDistance registry plan.outcome w e) (done ++ [e'])) := by
  obtain ⟨hchunk, hpending, hlt⟩ := h.waiting e rfl
  rcases hrun : measureChunk stDistance registry w.tables e.payload
    (fun pair => plan.outcome pair e.row.attempts) with ⟨routes, result⟩
  obtain ⟨hstored, -, hresult⟩ := hchunk.measured hprovider h.lists hrun
  have hresult := hresult hgood
  let succeed (x : RefreshEvent) : RefreshEvent := { x with row := Outbox.succeed w.now x.row }
  -- what holds of the chunks behind the refresh, the new one included
  have hpassed : ∀ k x, (done ++ [succeed e])[k]? = some x → plan.IsChunk k x ∧
      x.row.status = .sent ∧ ¬ AllFailed plan.outcome (plan.chunk k) x.row.attempts := by
    intro k x hx
    rcases getElem?_snoc.mp hx with hx | ⟨rfl, rfl⟩
    · exact h.passed k x hx
    · exact ⟨⟨hchunk.payload, hchunk.attempts, hchunk.failed⟩, rfl, hgood⟩
  have hall (w' : World) (hroutes : w'.tables.routes = routes) (hstores : plan.Stores w₀ w done) :
      plan.Stores w₀ w' (done ++ [succeed e]) := by
    refine hstores.append fun p => ?_
    rw [hroutes]
    exact hstored p
  by_cases hnext : (done.length + 1) * PAIRS_PER_RUN < plan.listed.length
  · rw [if_pos hnext] at hresult
    have hserial : Serial RefreshEvent.id (w.nextId + 1)
        (w.events ++ [plan.first w (done.length + 1)]) := h.serial.insert rfl
    have hprocess : process stDistance registry plan.outcome w e =
        { w with
          tables := { w.tables with routes }
          events := update (fun x => decide (x.id = e.id)) succeed
            (w.events ++ [plan.first w (done.length + 1)])
          nextId := w.nextId + 1 } := by
      simp only [process, hrun, hresult]
      rfl
    refine ⟨succeed e, some (plan.first w (done.length + 1)), rfl, rfl, ?_, ?_,
      hall _ (by rw [hprocess])⟩
    · rintro x ⟨⟩
      exact ⟨rfl, rfl⟩
    · rw [hprocess]
      refine { h with
        events := ?_
        serial := hserial.update fun _ => rfl
        passed := hpassed
        waiting := ?_
        ended := fun hnone => by cases hnone }
      · simpa using h.update_current succeed _ hserial.distinct
      · intro x hx
        rw [← Option.mem_some.mp hx, List.length_append]
        exact ⟨plan.isChunk_first w _, rfl, next_chunk_iff.mp hnext⟩
  · rw [if_neg hnext] at hresult
    have hprocess : process stDistance registry plan.outcome w e =
        { w with
          tables := { w.tables with routes }
          events := update (fun x => decide (x.id = e.id)) succeed w.events } := by
      simp only [process, hrun, hresult]
      rfl
    refine ⟨succeed e, none, rfl, rfl, fun x hx => (by cases hx), ?_, hall _ (by rw [hprocess])⟩
    rw [hprocess]
    refine { h with
      events := ?_
      serial := h.serial.update fun _ => rfl
      passed := hpassed
      waiting := fun x hx => by cases hx
      ended := fun _ => ?_ }
    · have hupdate := h.update_current succeed [] (by simpa using h.serial.distinct)
      simpa using hupdate
    · rw [next_chunk_iff] at hnext
      rw [List.length_append, List.length_singleton]
      omega

/-- How often the event's chunk was tried. -/
def RefreshEvent.tries (e : RefreshEvent) : Nat :=
  e.row.attempts + if e.row.status = .sent then 1 else 0

/-- The events of the refresh. -/
def chain (w₀ w : World) : List RefreshEvent := w.events.drop w₀.events.length

def tries (w₀ w : World) : Nat := ((chain w₀ w).map RefreshEvent.tries).sum

/-- The distances are those from before and those measured in some try. -/
def StoresMeasured (plan : Plan) (w₀ w : World) : Prop :=
  ∀ p, p ∈ storedPairs w.tables.routes ↔ p ∈ storedPairs w₀.tables.routes ∨
    ∃ e ∈ chain w₀ w, ∃ t < e.tries, p ∈ chunkAt plan.listed e.payload.offset ∧
      Measured (plan.outcome p t)

theorem Plan.Chained.chain_eq (h : plan.Chained stDistance w₀ w done current) :
    chain w₀ w = done ++ current.toList := by
  rw [chain, h.events, List.drop_left]

/-- **One try** goes on with the chain. -/
theorem Plan.Chained.process (h : plan.Chained stDistance w₀ w done (some e))
    (hprovider : registry.measuring plan.providerKey = some provider) (hretried : plan.Retried) :
    ∃ done' current', plan.Chained stDistance w₀
        (RouteRefresh.process stDistance registry plan.outcome w e) done' current' ∧
      (plan.Stores w₀ w done →
        plan.Stores w₀ (RouteRefresh.process stDistance registry plan.outcome w e) done') ∧
      tries w₀ (RouteRefresh.process stDistance registry plan.outcome w e) = tries w₀ w + 1 := by
  obtain ⟨-, hpending, -⟩ := h.waiting e rfl
  by_cases hfailed : AllFailed plan.outcome (plan.chunk done.length) e.row.attempts
  · obtain ⟨e', -, hpending', hattempts, h', hstores⟩ := h.process_failed hprovider hretried hfailed
    refine ⟨done, some e', h', hstores, ?_⟩
    rw [tries, tries, h.chain_eq, h'.chain_eq]
    simp [RefreshEvent.tries, hpending, hpending', hattempts, Nat.add_assoc]
  · obtain ⟨e', next, hsent, hattempts, hnext, h', hstores⟩ := h.process_sent hprovider hfailed
    refine ⟨done ++ [e'], next, h', hstores, ?_⟩
    have hnone : (next.toList.map RefreshEvent.tries).sum = 0 := by
      cases next with
      | none => rfl
      | some x => simp [RefreshEvent.tries, hnext x rfl]
    rw [tries, tries, h.chain_eq, h'.chain_eq, List.map_append, List.sum_append, hnone]
    simp [RefreshEvent.tries, hpending, hsent, hattempts, Nat.add_assoc]

end Chain

/-! ## Runs of the refresh -/

/-- Other calls leave the eligible pairs, and nobody starts a refresh behind this one. -/
def Steady (stDistance : Coordinates → Coordinates → ℚ) (plan : Plan) (w : World) : Action → Prop
  | .elsewhere tables => plan.Lists stDistance tables
  | .start _ => isRunning w = true
  | .tick _ | .process _ => True

/-- Other calls write no distance. -/
def Alone (w : World) : Action → Prop
  | .elsewhere tables => tables.routes = w.tables.routes
  | .tick _ | .start _ | .process _ => True

section Run

variable {stDistance : Coordinates → Coordinates → ℚ} {registry : Registry} {plan : Plan}
  {provider : LogisticsProvider} {w₀ w : World} {done : List RefreshEvent}
  {current : Option RefreshEvent} {e : RefreshEvent}

/-- A second start is answered, and changes nothing. -/
theorem start_of_running (hrunning : isRunning w = true) (includePending : Bool) :
    (start stDistance registry includePending w).1 = w := by
  unfold start
  split
  · rfl
  · simp [hrunning]

/-- **Every step** leaves a chain. -/
theorem Plan.Chained.step (h : plan.Chained stDistance w₀ w done current)
    (hidle : isRunning w₀ = false)
    (hprovider : registry.measuring plan.providerKey = some provider) (hretried : plan.Retried)
    {a : Action} (ha : Steady stDistance plan w a) :
    ∃ done' current',
      plan.Chained stDistance w₀ (exec stDistance registry plan.outcome w a) done' current' ∧
      (Alone w a → plan.Stores w₀ w done →
        plan.Stores w₀ (exec stDistance registry plan.outcome w a) done') := by
  cases a with
  | tick ms => exact ⟨done, current, { h with }, fun _ hstores => hstores⟩
  | elsewhere tables =>
      refine ⟨done, current, { h with lists := ha }, fun halone hstores => ?_⟩
      unfold Plan.Stores at hstores ⊢
      rw [← halone] at hstores
      exact hstores
  | start includePending =>
      refine ⟨done, current, ?_⟩
      rw [exec, start_of_running ha]
      exact ⟨h, fun _ hstores => hstores⟩
  | process id =>
      rw [exec]
      split
      · exact ⟨done, current, h, fun _ hstores => hstores⟩
      · next e hdue =>
          obtain rfl := h.due hidle hdue
          obtain ⟨done', current', h', hstores, -⟩ := h.process hprovider hretried
          exact ⟨done', current', h', fun _ => hstores⟩

theorem Plan.Chained.isChunk (h : plan.Chained stDistance w₀ w done current) {k : Nat}
    (hk : (chain w₀ w)[k]? = some e) : plan.IsChunk k e := by
  rw [h.chain_eq] at hk
  cases current with
  | none =>
      rw [Option.toList_none, List.append_nil] at hk
      exact (h.passed k e hk).1
  | some x =>
      rcases getElem?_snoc.mp hk with hk | ⟨rfl, rfl⟩
      · exact (h.passed k e hk).1
      · exact (h.waiting x rfl).1

theorem Plan.Chained.offsets (h : plan.Chained stDistance w₀ w done current) :
    (chain w₀ w).map (fun e => e.payload.offset)
      = (List.range (chain w₀ w).length).map fun k => k * PAIRS_PER_RUN := by
  refine List.ext_getElem (by simp) fun k hk _ => ?_
  rw [List.length_map] at hk
  have hchunk := h.isChunk (List.getElem?_eq_getElem hk)
  simp [hchunk.payload]

/-- The chunks of the whole chain are the list of pairs. -/
theorem Plan.Chained.covers (h : plan.Chained stDistance w₀ w done current)
    (hlength : (chain w₀ w).length = chunkCount plan.listed.length) :
    (chain w₀ w).flatMap (fun e => chunkAt plan.listed e.payload.offset) = plan.listed := by
  have hcount : plan.listed.length ≤ (chain w₀ w).length * PAIRS_PER_RUN := by
    rw [hlength]
    unfold chunkCount PAIRS_PER_RUN
    omega
  calc (chain w₀ w).flatMap (fun e => chunkAt plan.listed e.payload.offset)
      = ((chain w₀ w).map fun e => e.payload.offset).flatMap (chunkAt plan.listed) := by
        rw [List.flatMap_map]
    _ = (List.range (chain w₀ w).length).flatMap
          fun k => Reports.page PAIRS_PER_RUN (k + 1) plan.listed := by
        rw [h.offsets, List.flatMap_map]
        rfl
    _ = plan.listed := Reports.pages_all hcount

/-- Its event is waiting, or was sent in a try that did not fail as a whole. -/
theorem Plan.Chained.sent_or_pending (h : plan.Chained stDistance w₀ w done current)
    (he : e ∈ chain w₀ w) :
    (∃ k : Nat, done[k]? = some e ∧ e.row.status = .sent ∧ plan.IsChunk k e ∧
      ¬ AllFailed plan.outcome (plan.chunk k) e.row.attempts) ∨
    current = some e ∧ e.row.status = .pending ∧ plan.IsChunk done.length e := by
  rw [h.chain_eq, List.mem_append] at he
  rcases he with hdone | hcurrent
  · obtain ⟨k, hk⟩ := List.getElem?_of_mem hdone
    obtain ⟨hchunk, hsent, hgood⟩ := h.passed k e hk
    exact Or.inl ⟨k, hk, hsent, hchunk, hgood⟩
  · have hsome := Option.mem_toList.mp hcurrent
    obtain ⟨hchunk, hpending, -⟩ := h.waiting e hsome
    exact Or.inr ⟨hsome, hpending, hchunk⟩

theorem Plan.IsChunk.chunkAt {k : Nat} (h : plan.IsChunk k e) :
    RouteRefresh.chunkAt plan.listed e.payload.offset = plan.chunk k := by
  rw [h.payload]
  rfl

/-- The tries before the last are those that failed as a whole. -/
theorem Plan.Chained.failed_iff (h : plan.Chained stDistance w₀ w done current)
    (he : e ∈ chain w₀ w) {t : Nat} (ht : t < e.tries) :
    AllFailed plan.outcome (chunkAt plan.listed e.payload.offset) t ↔ t < e.row.attempts := by
  rcases h.sent_or_pending he with ⟨k, -, hsent, hchunk, hgood⟩ | ⟨-, hpending, hchunk⟩
  · rw [hchunk.chunkAt]
    refine ⟨fun hfailed => ?_, hchunk.failed t⟩
    rw [RefreshEvent.tries, if_pos hsent] at ht
    refine lt_of_le_of_ne (Nat.lt_succ_iff.mp ht) ?_
    rintro rfl
    exact hgood hfailed
  · rw [hchunk.chunkAt]
    have hlt : t < e.row.attempts := by simpa [RefreshEvent.tries, hpending] using ht
    exact ⟨fun _ => hlt, hchunk.failed t⟩

theorem Plan.Chained.storesMeasured (h : plan.Chained stDistance w₀ w done current)
    (hstores : plan.Stores w₀ w done) : StoresMeasured plan w₀ w := by
  intro p
  rw [hstores p]
  refine or_congr_right ⟨?_, ?_⟩
  · rintro ⟨k, e, hk, hp, hmeasured⟩
    obtain ⟨hchunk, hsent, -⟩ := h.passed k e hk
    refine ⟨e, ?_, e.row.attempts, ?_, ?_, hmeasured⟩
    · rw [h.chain_eq]
      exact List.mem_append_left _ (List.mem_of_getElem? hk)
    · rw [RefreshEvent.tries, if_pos hsent]
      exact Nat.lt_succ_self _
    · rw [hchunk.chunkAt]
      exact hp
  · rintro ⟨e, he, t, ht, hp, hmeasured⟩
    have hlast : ¬ t < e.row.attempts := by
      intro hlt
      obtain ⟨meters, hmeters⟩ := hmeasured
      rw [((h.failed_iff he ht).mpr hlt).2 p hp] at hmeters
      cases hmeters
    rcases h.sent_or_pending he with ⟨k, hk, hsent, hchunk, -⟩ | ⟨-, hpending, -⟩
    · rw [RefreshEvent.tries, if_pos hsent] at ht
      obtain rfl : t = e.row.attempts := by omega
      rw [hchunk.chunkAt] at hp
      exact ⟨k, e, hk, hp, hmeasured⟩
    · simp [RefreshEvent.tries, hpending, hlast] at ht

theorem Plan.Chained.tries_le (h : plan.Chained stDistance w₀ w done current) :
    tries w₀ w ≤ OUTBOX_MAX_ATTEMPTS * chunkCount plan.listed.length := by
  have hlength : (chain w₀ w).length ≤ chunkCount plan.listed.length := by
    rw [h.chain_eq, List.length_append]
    cases current with
    | none => simpa using (h.ended rfl).le
    | some e =>
        rw [Option.toList_some, List.length_singleton]
        exact (h.waiting e rfl).2.2
  have heach : ∀ n ∈ (chain w₀ w).map RefreshEvent.tries, n ≤ OUTBOX_MAX_ATTEMPTS := by
    intro n hn
    obtain ⟨e, he, rfl⟩ := List.mem_map.mp hn
    obtain ⟨k, hk⟩ := List.getElem?_of_mem he
    have hattempts := (h.isChunk hk).attempts
    unfold RefreshEvent.tries
    split <;> omega
  calc tries w₀ w ≤ (chain w₀ w).length * OUTBOX_MAX_ATTEMPTS := by
        simpa [tries] using List.sum_le_card_nsmul _ _ heach
    _ ≤ OUTBOX_MAX_ATTEMPTS * chunkCount plan.listed.length := by
        rw [Nat.mul_comm]
        exact Nat.mul_le_mul_left _ hlength

/-- While it runs, a try can be made, after a wait. -/
theorem Plan.Chained.goesOn (h : plan.Chained stDistance w₀ w done current)
    (hidle : isRunning w₀ = false)
    (hprovider : registry.measuring plan.providerKey = some provider) (hretried : plan.Retried)
    (hrunning : isRunning w = true) : ∃ ms id,
      tries w₀ (exec stDistance registry plan.outcome
        (exec stDistance registry plan.outcome w (.tick ms)) (.process id)) = tries w₀ w + 1 := by
  obtain ⟨e, rfl⟩ := Option.isSome_iff_exists.mp ((h.isRunning_iff hidle).mp hrunning)
  refine ⟨e.row.nextAttemptAt, e.id, ?_⟩
  let waited : World := { w with now := w.now + e.row.nextAttemptAt }
  have hwaited : plan.Chained stDistance w₀ waited done (some e) := { h with }
  have hdue : isDue waited e.id e = true := by
    have hpending := (h.waiting e rfl).2.1
    have htime : e.row.nextAttemptAt ≤ w.now + e.row.nextAttemptAt := Nat.le_add_left _ _
    simp [isDue, hpending, waited, htime]
  have hmem : e ∈ waited.events := by
    rw [hwaited.events]
    simp
  obtain ⟨e', hfound⟩ := Option.isSome_iff_exists.mp (List.find?_isSome.mpr ⟨e, hmem, hdue⟩)
  obtain rfl : e = e' := Option.some.inj (hwaited.due hidle hfound)
  obtain ⟨-, -, -, -, htries⟩ := hwaited.process hprovider hretried
  have hexec : exec stDistance registry plan.outcome waited (.process e.id)
      = RouteRefresh.process stDistance registry plan.outcome waited e := by
    simp only [exec, hfound]
  exact (congrArg (tries w₀) hexec).trans htries

/-- A try that fails as a whole leaves the chain at its offset. -/
theorem Plan.Chained.again (h : plan.Chained stDistance w₀ w done current)
    (hidle : isRunning w₀ = false)
    (hprovider : registry.measuring plan.providerKey = some provider) (hretried : plan.Retried)
    {id : Nat} (hdue : w.events.find? (isDue w id) = some e)
    (hfailed : AllFailed plan.outcome (chunkAt plan.listed e.payload.offset) e.row.attempts) :
    isRunning (exec stDistance registry plan.outcome w (.process id)) = true ∧
      (chain w₀ (exec stDistance registry plan.outcome w (.process id))).map RefreshEvent.payload
        = (chain w₀ w).map RefreshEvent.payload := by
  obtain rfl := h.due hidle hdue
  rw [(h.waiting e rfl).1.chunkAt] at hfailed
  obtain ⟨e', hpayload, -, -, h', -⟩ := h.process_failed hprovider hretried hfailed
  simp only [exec, hdue]
  refine ⟨(h'.isRunning_iff hidle).mpr rfl, ?_⟩
  rw [h'.chain_eq, h.chain_eq]
  simp [hpayload]

end Run

/-- What holds of a refresh at any moment. -/
structure Refreshed (stDistance : Coordinates → Coordinates → ℚ) (registry : Registry)
    (plan : Plan) (w₀ w : World) : Prop where
  -- one event for each chunk, from offset 0 on
  offsets : (chain w₀ w).map (fun e => e.payload.offset)
    = (List.range (chain w₀ w).length).map fun k => k * PAIRS_PER_RUN
  running : isRunning w = true → ∃ done e, chain w₀ w = done ++ [e] ∧
    (∀ x ∈ done, x.row.status = .sent) ∧ e.row.status = .pending ∧
    done.length < chunkCount plan.listed.length
  ended : isRunning w = false → (∀ e ∈ chain w₀ w, e.row.status = .sent) ∧
    (chain w₀ w).length = chunkCount plan.listed.length ∧
    (chain w₀ w).flatMap (fun e => chunkAt plan.listed e.payload.offset) = plan.listed
  -- only its last try can end a chunk
  failed : ∀ e ∈ chain w₀ w, ∀ t < e.tries,
    AllFailed plan.outcome (chunkAt plan.listed e.payload.offset) t ↔ t < e.row.attempts
  again : ∀ id, ∀ e ∈ w.events.find? (isDue w id),
    AllFailed plan.outcome (chunkAt plan.listed e.payload.offset) e.row.attempts →
      isRunning (exec stDistance registry plan.outcome w (.process id)) = true ∧
      (chain w₀ (exec stDistance registry plan.outcome w (.process id))).map RefreshEvent.payload
        = (chain w₀ w).map RefreshEvent.payload
  -- it ends: there are so many tries at most, and while it runs there is another one
  bounded : tries w₀ w ≤ OUTBOX_MAX_ATTEMPTS * chunkCount plan.listed.length
  goesOn : isRunning w = true → ∃ ms id, tries w₀ (exec stDistance registry plan.outcome
    (exec stDistance registry plan.outcome w (.tick ms)) (.process id)) = tries w₀ w + 1

theorem Plan.Chained.refreshed {stDistance : Coordinates → Coordinates → ℚ} {registry : Registry}
    {plan : Plan} {provider : LogisticsProvider} {w₀ w : World} {done : List RefreshEvent}
    {current : Option RefreshEvent} (h : plan.Chained stDistance w₀ w done current)
    (hidle : isRunning w₀ = false)
    (hprovider : registry.measuring plan.providerKey = some provider) (hretried : plan.Retried) :
    Refreshed stDistance registry plan w₀ w where
  offsets := h.offsets
  running := by
    intro hrunning
    obtain ⟨e, rfl⟩ := Option.isSome_iff_exists.mp ((h.isRunning_iff hidle).mp hrunning)
    exact ⟨done, e, h.chain_eq, fun x hx => h.sent hx, (h.waiting e rfl).2⟩
  ended := by
    intro hended
    have hnone : current = none := by
      cases current with
      | none => rfl
      | some e =>
          rw [(h.isRunning_iff hidle).mpr rfl] at hended
          cases hended
    have hchain : chain w₀ w = done := by
      rw [h.chain_eq, hnone, Option.toList_none, List.append_nil]
    have hlength : (chain w₀ w).length = chunkCount plan.listed.length := by
      rw [hchain]
      exact h.ended hnone
    refine ⟨fun e he => ?_, hlength, h.covers hlength⟩
    rw [hchain] at he
    exact h.sent he
  failed e he t ht := h.failed_iff he ht
  again id e he := h.again hidle hprovider hretried he
  bounded := h.tries_le
  goesOn := h.goesOn hidle hprovider hretried

/-! ## The list of pairs -/

/-- The database lists every ordered pair once. -/
theorem pairs_nodup (stDistance : Coordinates → Coordinates → ℚ) {tables : RouteDistances.World}
    (hnodes : Distinct NodeRow.id (Ledgers.rows tables.edits.nodes)) (providerKey : String)
    (includePending : Bool) :
    ((pairs stDistance tables providerKey includePending).map ids).Nodup := by
  let listed := (Ledgers.rows tables.edits.nodes).filter fun n =>
    n.status = .active ∨ includePending ∧ n.status = .pending
  let nodes := listed.mergeSort fun a b => a.id ≤ b.id
  have hids : (nodes.map NodeRow.id).Nodup :=
    ((List.mergeSort_perm listed _).map _).nodup_iff.mpr
      (hnodes.sublist (List.filter_sublist.map _))
  have hpairs : (pairs stDistance tables providerKey includePending).map ids
      = nodes.flatMap fun a =>
        (nodes.filter fun b => b.id ≠ a.id ∧
            RouteDistances.withinLimits stDistance tables providerKey a b).map
          fun b => (a.id, b.id) := by
    rw [pairs, List.map_flatMap]
    refine List.flatMap_congr fun a _ => ?_
    rw [List.map_map]
    rfl
  rw [hpairs, List.nodup_flatMap]
  constructor
  · intro a _
    have hsub : ((nodes.filter fun b => b.id ≠ a.id ∧ RouteDistances.withinLimits stDistance tables
        providerKey a b).map NodeRow.id).Nodup := hids.sublist (List.filter_sublist.map _)
    have hinjective : Function.Injective fun id : Nat => (a.id, id) :=
      fun x y h => (Prod.mk.inj h).2
    simpa [Function.comp_def] using hsub.map hinjective
  · refine (List.pairwise_map.mp hids).imp fun {a b} hne p hp hp' => ?_
    obtain ⟨x, -, rfl⟩ := List.mem_map.mp hp
    obtain ⟨y, -, hsame⟩ := List.mem_map.mp hp'
    exact hne (Prod.mk.inj hsame).1.symm

/-! ## From the start on -/

section Start

variable {stDistance : Coordinates → Coordinates → ℚ} {registry : Registry}
  {includePending : Bool} {w₀ w₁ : World} {started : RouteRefreshStarted}

/-- A refresh that was queued found a courier, and no other refresh. -/
theorem start_queued
    (hstart : start stDistance registry includePending w₀ = (w₁, .ok started))
    (hqueued : started.queued = true) :
    (∃ provider, registry.measuring started.providerKey = some provider) ∧
      isRunning w₀ = false ∧ w₁ = enqueue ⟨started.providerKey, includePending, 0⟩ w₀ := by
  unfold start at hstart
  split at hstart
  · cases (Prod.mk.inj hstart).2
  · next provider hprovider =>
      simp only at hstart
      split at hstart
      · obtain ⟨-, hok⟩ := Prod.mk.inj hstart
        rw [← Except.ok.inj hok] at hqueued
        cases hqueued
      · next hidle =>
          obtain ⟨hworld, hok⟩ := Prod.mk.inj hstart
          rw [← Except.ok.inj hok]
          obtain ⟨config, -, hconfig⟩ := List.exists_of_findSome?_eq_some hprovider
          have hkey := Registry.measuring_key hconfig
          refine ⟨⟨provider, ?_⟩, by simpa using hidle, hworld.symm⟩
          rw [hkey]
          exact hconfig

/-- The refresh that this start queues. -/
def planOf (stDistance : Coordinates → Coordinates → ℚ) (outcome : Pattern) (includePending : Bool)
    (w₀ : World) (started : RouteRefreshStarted) : Plan where
  providerKey := started.providerKey
  includePending
  listed := (pairs stDistance w₀.tables started.providerKey includePending).map ids
  outcome

/-- **A refresh measures every pair once, and ends**: whatever comes of each pair in each
try, as long as no chunk fails as a whole in every try the outbox makes. Where no other
call writes distances, those it has measured are stored, and no others but the old ones. -/
theorem refresh_measures_every_pair_once {outcome : Pattern}
    (hids : Serial RefreshEvent.id w₀.nextId w₀.events)
    (hnodes : Distinct NodeRow.id (Ledgers.rows w₀.tables.edits.nodes))
    (hstart : start stDistance registry includePending w₀ = (w₁, .ok started))
    (hqueued : started.queued = true)
    (hretried : (planOf stDistance outcome includePending w₀ started).Retried) (as : List Action)
    (hsteady : Runs.Meets (exec stDistance registry outcome)
      (Steady stDistance (planOf stDistance outcome includePending w₀ started)) w₁ as) :
    (planOf stDistance outcome includePending w₀ started).listed.Nodup ∧
      Runs.Always (exec stDistance registry outcome)
        (Refreshed stDistance registry (planOf stDistance outcome includePending w₀ started) w₀)
        w₁ as ∧
      (Runs.Meets (exec stDistance registry outcome) Alone w₁ as →
        Runs.Always (exec stDistance registry outcome)
          (StoresMeasured (planOf stDistance outcome includePending w₀ started) w₀) w₁ as) := by
  obtain ⟨⟨provider, hprovider⟩, hidle, rfl⟩ := start_queued hstart hqueued
  let plan := planOf stDistance outcome includePending w₀ started
  have hpositive : 0 < chunkCount plan.listed.length :=
    Nat.lt_of_lt_of_le Nat.one_pos (le_max_left _ _)
  have hfirst : plan.Chained stDistance w₀ (enqueue ⟨started.providerKey, includePending, 0⟩ w₀) []
      (some (plan.first w₀ 0)) := by
    refine ⟨rfl, hids.insert rfl, rfl, by simp, ?_, by simp⟩
    rintro e ⟨⟩
    exact ⟨plan.isChunk_first w₀ 0, rfl, hpositive⟩
  have hnone : plan.Stores w₀ (enqueue ⟨started.providerKey, includePending, 0⟩ w₀) [] := by
    simp [Plan.Stores, enqueue]
  refine ⟨pairs_nodup stDistance hnodes _ _, ?_, fun halone => ?_⟩
  · have hchained : Runs.Always (exec stDistance registry outcome)
        (fun w => ∃ done current, plan.Chained stDistance w₀ w done current)
        (enqueue ⟨started.providerKey, includePending, 0⟩ w₀) as := by
      refine Runs.always_of_meets ?_ ⟨[], _, hfirst⟩ hsteady
      rintro w a ⟨done, current, h⟩ ha
      obtain ⟨done', current', h', -⟩ := h.step hidle hprovider hretried ha
      exact ⟨done', current', h'⟩
    refine hchained.mono ?_
    rintro w ⟨done, current, h⟩
    exact h.refreshed hidle hprovider hretried
  · have hchained : Runs.Always (exec stDistance registry outcome)
        (fun w => ∃ done current, plan.Chained stDistance w₀ w done current ∧
          plan.Stores w₀ w done)
        (enqueue ⟨started.providerKey, includePending, 0⟩ w₀) as := by
      refine Runs.always_of_meets ?_ ⟨[], _, hfirst, hnone⟩ (hsteady.and halone)
      rintro w a ⟨done, current, h, hstores⟩ ⟨ha, halone⟩
      obtain ⟨done', current', h', hstores'⟩ := h.step hidle hprovider hretried ha
      exact ⟨done', current', h', hstores' halone hstores⟩
    refine hchained.mono ?_
    rintro w ⟨done, current, h, hstores⟩
    exact h.storesMeasured hstores

end Start

/-! ## A run -/

/-- Two Nodes and one courier. -/
def demoStart : World where
  now := 0
  nextId := 1
  tables :=
    { RouteDistances.twoStations with
      providers := [⟨"sendii", true, 1, 3, none, none, none, []⟩] }
  events := []

def demoRegistry : Registry := ⟨[⟨"sendii", true, some 2100⟩], fun a b => a ≤ b⟩

/-- The courier cannot be reached at first, and then refuses one of the two ways. -/
def demoOutcome : Pattern := fun pair t =>
  if t = 0 then .failed else if pair = (1, 2) then .distance (some 12000) else .distance none

def demoStarted : RouteRefreshStarted := ⟨true, false, "sendii", 2, 5⟩

theorem demo_start : start (fun _ _ => 0) demoRegistry false demoStart
    = (enqueue ⟨"sendii", false, 0⟩ demoStart, .ok demoStarted) := by
  have hprovider : measuringProvider demoRegistry demoStart
      = some ⟨"sendii", true, some 2100⟩ := by
    simp [measuringProvider, demoStart, demoRegistry, Registry.measuring, Registry.get]
  have hcount : (pairs (fun _ _ => 0) demoStart.tables "sendii" false).length = 2 := by
    have hsorted : ([RouteDistances.station 1 6, RouteDistances.station 2 7].mergeSort
        fun a b => a.id ≤ b.id) = [RouteDistances.station 1 6, RouteDistances.station 2 7] :=
      List.mergeSort_of_pairwise (by decide)
    have hlisted : ((Ledgers.rows demoStart.tables.edits.nodes).filter fun n =>
        n.status = .active ∨ false = true ∧ n.status = .pending)
          = [RouteDistances.station 1 6, RouteDistances.station 2 7] := rfl
    simp only [pairs, hlisted, hsorted]
    rfl
  rw [start, hprovider]
  simp only [hcount]
  rfl

/-- Two tries, the first of which fails as a whole. -/
theorem demo_refresh :
    Runs.Always (exec (fun _ _ => 0) demoRegistry demoOutcome)
        (Refreshed (fun _ _ => 0) demoRegistry
          (planOf (fun _ _ => 0) demoOutcome false demoStart demoStarted) demoStart)
        (enqueue ⟨"sendii", false, 0⟩ demoStart) [.process 1, .tick 30000, .process 1] ∧
      Runs.Always (exec (fun _ _ => 0) demoRegistry demoOutcome)
        (StoresMeasured (planOf (fun _ _ => 0) demoOutcome false demoStart demoStarted) demoStart)
        (enqueue ⟨"sendii", false, 0⟩ demoStart) [.process 1, .tick 30000, .process 1] := by
  have hretried : (planOf (fun _ _ => 0) demoOutcome false demoStart demoStarted).Retried := by
    intro k
    refine ⟨1, by decide, ?_⟩
    rintro ⟨hchunk, hall⟩
    obtain ⟨p, hp⟩ := List.exists_mem_of_ne_nil _ hchunk
    have hfailed : demoOutcome p 1 = .failed := hall p hp
    unfold demoOutcome at hfailed
    split at hfailed
    · contradiction
    · split at hfailed
      · cases hfailed
      · cases hfailed
  have hmeasured := refresh_measures_every_pair_once (Serial.nil _ _) (by decide) demo_start rfl
    hretried [.process 1, .tick 30000, .process 1] ⟨trivial, trivial, trivial, trivial⟩
  exact ⟨hmeasured.2.1, hmeasured.2.2 ⟨trivial, trivial, trivial, trivial⟩⟩

end Locoomo.RouteRefresh
