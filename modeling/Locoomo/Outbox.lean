import Mathlib.Data.List.Sort
import Locoomo.Lib.Runs
import Locoomo.Lib.Table
import Locoomo.Lib.Holders
import Locoomo.Lib.Saves

/-! The outbox: any number of poller instances claim due events under a lease,
run their handlers one after the other, and write each outcome back by saving
the entity they claimed. -/

namespace Locoomo.Outbox

open Relational

/-! ## Events -/

inductive OutboxEventStatus
  | pending
  | sent
  | failed
  deriving DecidableEq

/-- A row of `outbox_events`. The `payload` is JSON text. -/
structure OutboxEventRow where
  id : Nat
  eventType : String
  payload : String
  status : OutboxEventStatus
  attempts : Nat
  lastError : Option String
  nextAttemptAt : Nat
  processedAt : Option Nat
  createdAt : Nat
  deriving DecidableEq

def OUTBOX_BATCH_SIZE : Nat := 10
def OUTBOX_MAX_ATTEMPTS : Nat := 5
def OUTBOX_CLAIM_LEASE_MS : Nat := 5 * 60000
def BASE_BACKOFF_MS : Nat := 30000
def MAX_BACKOFF_MS : Nat := 15 * 60000

def computeBackoffMs (attempts : Nat) : Nat :=
  min (BASE_BACKOFF_MS * 2 ^ (attempts - 1)) MAX_BACKOFF_MS

/-- `enqueue`: a new row with the columns' defaults. `since` is the start of the
transaction it is part of. -/
def enqueue (id : Nat) (eventType payload : String) (since : Nat) : OutboxEventRow where
  id := id
  eventType := eventType
  payload := payload
  status := .pending
  attempts := 0
  lastError := none
  nextAttemptAt := since
  processedAt := none
  createdAt := since

/-- What `processEvent` sets on the entity once the handler has resolved. -/
def succeed (now : Nat) (event : OutboxEventRow) : OutboxEventRow :=
  { event with status := .sent, processedAt := some now, lastError := none }

/-- What `registerFailure` sets on the entity. -/
def registerFailure (now : Nat) (event : OutboxEventRow) (error : String) : OutboxEventRow :=
  let attempts := event.attempts + 1
  if OUTBOX_MAX_ATTEMPTS ≤ attempts then
    { event with attempts, lastError := some error, status := .failed }
  else
    { event with
      attempts, lastError := some error, nextAttemptAt := now + computeBackoffMs attempts }

/-- The save of an entity: it sets the columns that differ from the re-read row. -/
def save (entity reread current : OutboxEventRow) : OutboxEventRow where
  id := current.id
  eventType := Saves.column entity.eventType reread.eventType current.eventType
  payload := Saves.column entity.payload reread.payload current.payload
  status := Saves.column entity.status reread.status current.status
  attempts := Saves.column entity.attempts reread.attempts current.attempts
  lastError := Saves.column entity.lastError reread.lastError current.lastError
  nextAttemptAt := Saves.column entity.nextAttemptAt reread.nextAttemptAt current.nextAttemptAt
  processedAt := Saves.column entity.processedAt reread.processedAt current.processedAt
  createdAt := Saves.column entity.createdAt reread.createdAt current.createdAt

/-! ## Pollers -/

/-- Where `processEvent` stands: in the handler since some moment, done with the
handler, or past the re-read of the save. -/
inductive Stage
  | handling (since : Nat)
  | settled (entity : OutboxEventRow)
  | reread (entity row : OutboxEventRow)
  deriving DecidableEq

/-- The event being processed, as it was claimed. -/
structure Task where
  event : OutboxEventRow
  stage : Stage
  deriving DecidableEq

structure Poller where
  queue : List OutboxEventRow
  current : Option Task
  deriving DecidableEq

/-- The claimed events a poller is not done with. -/
def Poller.hands (p : Poller) : List OutboxEventRow :=
  (p.current.map Task.event).toList ++ p.queue

/-- The event whose handler is running. -/
def Poller.running (p : Poller) : Option OutboxEventRow :=
  match p.current with
  | some ⟨event, .handling _⟩ => some event
  | _ => none

/-- `handlers` are the registered event types. `resolved` is no table: it
collects the events whose handler has resolved. -/
structure World where
  now : Nat
  nextId : Nat
  handlers : List String
  rows : List OutboxEventRow
  pollers : List Poller
  resolved : List Nat
  deriving DecidableEq

/-- The rows `claimDueEvents` selects; it skips the `locked` ones. -/
def dueEvents (w : World) (locked : List Nat) : List OutboxEventRow :=
  let due := w.rows.filter fun r =>
    r.status = .pending ∧ r.nextAttemptAt ≤ w.now ∧ r.id ∉ locked
  (due.insertionSort fun a b => a.createdAt ≤ b.createdAt).take OUTBOX_BATCH_SIZE

def lease (now : Nat) (event : OutboxEventRow) : OutboxEventRow :=
  { event with nextAttemptAt := now + OUTBOX_CLAIM_LEASE_MS }

/-- Time passes, a transaction that enqueued an event `age` ago commits, and
poller `i` claims a batch, starts the next event of its queue, has its handler
resolve or reject, re-reads the row to save the outcome, or writes it. -/
inductive Action
  | tick (ms : Nat)
  | enqueue (eventType payload : String) (age : Nat)
  | claim (i : Nat) (locked : List Nat)
  | start (i : Nat)
  | finish (i : Nat) (error : Option String)
  | reread (i : Nat)
  | write (i : Nat)
  deriving DecidableEq

def claim (w : World) (i : Nat) (locked : List Nat) : World :=
  let due := dueEvents w locked
  { w with
    rows := update (fun r => r.id ∈ due.map OutboxEventRow.id) (lease w.now) w.rows
    pollers := w.pollers.set i ⟨due.map (lease w.now), none⟩ }

/-- `dispatch`: an event type that nobody handles is a failure at once. -/
def start (w : World) (i : Nat) (event : OutboxEventRow) (queue : List OutboxEventRow) : World :=
  let stage : Stage :=
    if event.eventType ∈ w.handlers then .handling w.now
    else .settled (registerFailure w.now event s!"Unknown outbox event type: {event.eventType}")
  { w with pollers := w.pollers.set i ⟨queue, some ⟨event, stage⟩⟩ }

def finish (w : World) (i : Nat) (event : OutboxEventRow) (queue : List OutboxEventRow) :
    Option String → World
  | none =>
      { w with
        pollers := w.pollers.set i ⟨queue, some ⟨event, .settled (succeed w.now event)⟩⟩
        resolved := event.id :: w.resolved }
  | some error =>
      { w with
        pollers :=
          w.pollers.set i ⟨queue, some ⟨event, .settled (registerFailure w.now event error)⟩⟩ }

def write (w : World) (i : Nat) (queue : List OutboxEventRow)
    (entity row : OutboxEventRow) : World :=
  { w with
    rows := update (fun r => r.id = entity.id) (save entity row) w.rows
    pollers := w.pollers.set i ⟨queue, none⟩ }

def exec (w : World) : Action → World
  | .tick ms => { w with now := w.now + ms }
  | .enqueue eventType payload age =>
      { w with
        nextId := w.nextId + 1
        rows := w.rows ++ [enqueue w.nextId eventType payload (w.now - age)] }
  | .claim i locked =>
      match w.pollers[i]? with
      | some ⟨[], none⟩ => claim w i locked
      | _ => w
  | .start i =>
      match w.pollers[i]? with
      | some ⟨event :: queue, none⟩ => start w i event queue
      | _ => w
  | .finish i error =>
      match w.pollers[i]? with
      | some ⟨queue, some ⟨event, .handling _⟩⟩ => finish w i event queue error
      | _ => w
  | .reread i =>
      match w.pollers[i]? with
      | some ⟨queue, some ⟨event, .settled entity⟩⟩ =>
          match get OutboxEventRow.id entity.id w.rows with
          | some row =>
              { w with pollers := w.pollers.set i ⟨queue, some ⟨event, .reread entity row⟩⟩ }
          | none => w
      | _ => w
  | .write i =>
      match w.pollers[i]? with
      | some ⟨queue, some ⟨_, .reread entity row⟩⟩ => write w i queue entity row
      | _ => w

/-! ## The law -/

/-- Neither runs a handler for an event that the other runs one for or has queued. -/
def Apart (p q : Poller) : Prop :=
  (∀ e ∈ p.running, e.id ∉ (q.running.toList ++ q.queue).map OutboxEventRow.id) ∧
    ∀ e ∈ q.running, e.id ∉ (p.running.toList ++ p.queue).map OutboxEventRow.id

instance (p q : Poller) : Decidable (Apart p q) := inferInstanceAs (Decidable (_ ∧ _))

/-- Handlers exclude each other, and none runs for an event already resolved. -/
def Exclusive (w : World) : Prop :=
  w.pollers.Pairwise Apart ∧ ∀ p ∈ w.pollers, ∀ e ∈ p.running, e.id ∉ w.resolved

instance (w : World) : Decidable (Exclusive w) := inferInstanceAs (Decidable (_ ∧ _))

/-- A row that is SENT stays so, with its attempts. -/
def SentFinal (w w' : World) : Prop :=
  ∀ r ∈ w.rows, r.status = .sent →
    ∃ r' ∈ w'.rows, r'.id = r.id ∧ r'.status = .sent ∧ r'.attempts = r.attempts

instance (w w' : World) : Decidable (SentFinal w w') :=
  inferInstanceAs (Decidable (∀ r ∈ w.rows, _ → _))

def World.held (w : World) : List OutboxEventRow := Holders.held Poller.hands w.pollers

/-- A claim finds no event that a poller still has in hand under a lapsed lease. -/
def InLease (w : World) : Action → Prop
  | .claim i locked =>
      w.pollers[i]? = some ⟨[], none⟩ → ∀ d ∈ dueEvents w locked, ∀ e ∈ w.held,
        e.id = d.id → w.now < e.nextAttemptAt
  | _ => True

instance (w : World) : ∀ a, Decidable (InLease w a)
  | .claim i _ => inferInstanceAs (Decidable (w.pollers[i]? = some ⟨[], none⟩ → _))
  | .tick _ | .enqueue .. | .start _ | .finish .. | .reread _ | .write _ => isTrue trivial

def Stage.inTime (now : Nat) : Stage → Bool
  | .handling since => now < since + OUTBOX_CLAIM_LEASE_MS
  | .settled _ | .reread .. => true

/-- A handler resolves or rejects before a lease has passed. -/
def Prompt (w : World) : Action → Prop
  | .finish i _ => ∀ p ∈ w.pollers[i]?, ∀ t ∈ p.current, t.stage.inTime w.now = true
  | _ => True

instance (w : World) : ∀ a, Decidable (Prompt w a)
  | .finish i _ => inferInstanceAs (Decidable (∀ p ∈ w.pollers[i]?, _))
  | .tick _ | .enqueue .. | .claim .. | .start _ | .reread _ | .write _ => isTrue trivial

/-- No poller has an event in hand. -/
structure Idle (w : World) : Prop where
  distinct : Distinct OutboxEventRow.id w.rows
  ids_lt : ∀ r ∈ w.rows, r.id < w.nextId
  pollers : ∀ p ∈ w.pollers, p = ⟨[], none⟩
  resolved : w.resolved = []

/-! ## What is in hand -/

def Task.Fits (t : Task) : Prop :=
  match t.stage with
  | .handling _ => True
  | .settled entity => entity.id = t.event.id
  | .reread entity row => entity.id = t.event.id ∧ row = t.event

def Task.entity (t : Task) : Option OutboxEventRow :=
  match t.stage with
  | .handling _ => none
  | .settled entity | .reread entity _ => some entity

/-- The event's row is SENT, or a poller is about to save it so. -/
def Delivered (w : World) (id : Nat) : Prop :=
  (∃ r ∈ w.rows, r.id = id ∧ r.status = .sent) ∨
    ∃ p ∈ w.pollers, ∃ t ∈ p.current, t.event.id = id ∧ ∃ x ∈ t.entity, x.status = .sent

/-- A claimed event is in one poller's hands, and its row is as it was claimed. -/
structure Kept (w : World) : Prop where
  distinct : Distinct OutboxEventRow.id w.rows
  ids_lt : ∀ r ∈ w.rows, r.id < w.nextId
  once : Distinct OutboxEventRow.id w.held
  claimed : ∀ e ∈ w.held, e ∈ w.rows ∧ e.status = .pending
  fits : ∀ p ∈ w.pollers, ∀ t ∈ p.current, t.Fits
  resolved : ∀ id ∈ w.resolved, Delivered w id

variable {w : World} {i : Nat} {p q : Poller}

theorem Idle.kept (h : Idle w) : Kept w := by
  have hheld : w.held = [] := by
    rw [World.held, Holders.held, List.flatMap_eq_nil_iff]
    intro p hp
    rw [h.pollers p hp]
    rfl
  refine ⟨h.distinct, h.ids_lt, ?_, ?_, ?_, ?_⟩
  · rw [hheld]
    exact List.nodup_nil
  · simp [hheld]
  · intro p hp t ht
    simp [h.pollers p hp] at ht
  · simp [h.resolved]

theorem distinct_perm {l l' : List OutboxEventRow} (h : l.Perm l') :
    Distinct OutboxEventRow.id l ↔ Distinct OutboxEventRow.id l' := (h.map _).nodup_iff

theorem Delivered.move {id : Nat} (h : Delivered w id) (hp : w.pollers[i]? = some p)
    (hq : ∀ t ∈ p.current, ∀ x ∈ t.entity, ∃ t' ∈ q.current, t'.event = t.event ∧ x ∈ t'.entity) :
    Delivered { w with pollers := w.pollers.set i q } id := by
  rcases h with hrow | ⟨p', hp', t, ht, hid, x, hx, hsent⟩
  · exact Or.inl hrow
  · rcases Holders.mem_set_of_mem hp hp' q with rfl | hmem
    · obtain ⟨t', ht', hevent, hx'⟩ := hq t ht x hx
      exact Or.inr ⟨q, Holders.self_mem_set hp q, t', ht', by rw [hevent, hid], x, hx', hsent⟩
    · exact Or.inr ⟨p', hmem, t, ht, hid, x, hx, hsent⟩

/-- A poller moves on with the same events in hand. -/
theorem Kept.move (hw : Kept w) (hp : w.pollers[i]? = some p) (hhands : q.hands = p.hands)
    (hfits : ∀ t ∈ q.current, t.Fits)
    (hq : ∀ t ∈ p.current, ∀ x ∈ t.entity, ∃ t' ∈ q.current, t'.event = t.event ∧ x ∈ t'.entity) :
    Kept { w with pollers := w.pollers.set i q } := by
  have hheld : (Holders.held Poller.hands (w.pollers.set i q)).Perm w.held :=
    Holders.held_set_same hp hhands
  refine ⟨hw.distinct, hw.ids_lt, ?_, ?_, ?_, ?_⟩
  · exact (distinct_perm hheld).mpr hw.once
  · intro e he
    exact hw.claimed e (hheld.mem_iff.mp he)
  · intro p' hp' t ht
    rcases Holders.mem_set hp' with rfl | hp'
    · exact hfits t ht
    · exact hw.fits p' hp' t ht
  · intro id hid
    exact (hw.resolved id hid).move hp hq

theorem registerFailure_id (now : Nat) (event : OutboxEventRow) (error : String) :
    (registerFailure now event error).id = event.id := by
  simp only [registerFailure]
  split <;> rfl

theorem Kept.start {event : OutboxEventRow} {queue : List OutboxEventRow} (hw : Kept w)
    (hp : w.pollers[i]? = some ⟨event :: queue, none⟩) : Kept (start w i event queue) := by
  refine hw.move hp rfl ?_ (by simp)
  intro t ht
  obtain rfl := Option.some.inj ht
  split
  · trivial
  · exact registerFailure_id ..

theorem Kept.finish {event : OutboxEventRow} {queue : List OutboxEventRow} {since : Nat}
    (hw : Kept w) (hp : w.pollers[i]? = some ⟨queue, some ⟨event, .handling since⟩⟩)
    (error : Option String) : Kept (finish w i event queue error) := by
  have hmove : ∀ entity : OutboxEventRow, entity.id = event.id →
      Kept { w with pollers := w.pollers.set i ⟨queue, some ⟨event, .settled entity⟩⟩ } := by
    intro entity hid
    refine hw.move hp rfl ?_ ?_
    · rintro t ht
      obtain rfl := Option.some.inj ht
      exact hid
    · rintro t ht x hx
      obtain rfl := Option.some.inj ht
      simp [Task.entity] at hx
  cases error with
  | some error => exact hmove _ (registerFailure_id ..)
  | none =>
      have hsettled := hmove (succeed w.now event) rfl
      refine { hsettled with resolved := ?_ }
      intro id hid
      rcases List.mem_cons.mp hid with rfl | hid
      · exact Or.inr ⟨_, Holders.self_mem_set hp _, _, rfl, rfl, _, rfl, rfl⟩
      · exact hsettled.resolved id hid

theorem hands_mem_held (hp : p ∈ w.pollers) {e : OutboxEventRow} (he : e ∈ p.hands) :
    e ∈ w.held := Holders.mem_held.mpr ⟨p, hp, he⟩

theorem Kept.reread {event entity row : OutboxEventRow} {queue : List OutboxEventRow}
    (hw : Kept w) (hp : w.pollers[i]? = some ⟨queue, some ⟨event, .settled entity⟩⟩)
    (hrow : get OutboxEventRow.id entity.id w.rows = some row) :
    Kept { w with pollers := w.pollers.set i ⟨queue, some ⟨event, .reread entity row⟩⟩ } := by
  have hmem := List.mem_of_getElem? hp
  have hid : entity.id = event.id := hw.fits _ hmem _ rfl
  have hevent : event ∈ w.rows :=
    (hw.claimed event (hands_mem_held hmem (by simp [Poller.hands]))).1
  refine hw.move hp rfl ?_ ?_
  · rintro t ht
    obtain rfl := Option.some.inj ht
    obtain ⟨hmem', hkey⟩ := get_some hrow
    exact ⟨hid, hw.distinct.eq_of_key hmem' hevent (hkey.trans hid)⟩
  · rintro t ht x hx
    obtain rfl := Option.some.inj ht
    exact ⟨_, rfl, rfl, hx⟩

/-! ## Claims -/

theorem dueEvents_due {w : World} {locked : List Nat} {d : OutboxEventRow}
    (h : d ∈ dueEvents w locked) : d ∈ w.rows ∧ d.status = .pending ∧ d.nextAttemptAt ≤ w.now := by
  have hmem := (List.perm_insertionSort _ _).mem_iff.mp (List.mem_of_mem_take h)
  obtain ⟨hrow, hdue⟩ := List.mem_filter.mp hmem
  have hdue' := of_decide_eq_true hdue
  exact ⟨hrow, hdue'.1, hdue'.2.1⟩

theorem dueEvents_distinct (h : Distinct OutboxEventRow.id w.rows) (locked : List Nat) :
    Distinct OutboxEventRow.id (dueEvents w locked) := by
  have hsorted :=
    (distinct_perm (List.perm_insertionSort (fun a b => a.createdAt ≤ b.createdAt) _)).mpr
    (h.filter fun r => r.status = .pending ∧ r.nextAttemptAt ≤ w.now ∧ r.id ∉ locked)
  exact List.Nodup.sublist ((List.take_sublist _ _).map _) hsorted

/-- A row that is not due is left alone by the claim. -/
theorem claim_keeps {locked : List Nat} {r : OutboxEventRow} (hr : r ∈ w.rows)
    (hfree : ∀ d ∈ dueEvents w locked, d.id ≠ r.id) : r ∈ (claim w i locked).rows := by
  refine mem_update_of_neg hr (decide_eq_false ?_)
  rintro hmem
  obtain ⟨d, hd, hid⟩ := List.mem_map.mp hmem
  exact hfree d hd hid

/-- A row that is not pending is not due. -/
theorem done_not_due (h : Distinct OutboxEventRow.id w.rows) {locked : List Nat}
    {r : OutboxEventRow} (hr : r ∈ w.rows) (hdone : r.status ≠ .pending) :
    ∀ d ∈ dueEvents w locked, d.id ≠ r.id := by
  rintro d hd hid
  obtain ⟨hrow, hpending, -⟩ := dueEvents_due hd
  rw [h.eq_of_key hrow hr hid] at hpending
  exact hdone hpending

/-- Under its lease an event in hand is not due. -/
theorem Kept.not_due (hw : Kept w) {locked : List Nat}
    (hlease : ∀ d ∈ dueEvents w locked, ∀ e ∈ w.held, e.id = d.id → w.now < e.nextAttemptAt)
    {e : OutboxEventRow} (he : e ∈ w.held) : ∀ d ∈ dueEvents w locked, d.id ≠ e.id := by
  rintro d hd hid
  obtain ⟨hrow, -, hdue⟩ := dueEvents_due hd
  have hlt := hlease d hd e he hid.symm
  rw [hw.distinct.eq_of_key hrow (hw.claimed e he).1 hid] at hdue
  omega

theorem Kept.claim {locked : List Nat} (hw : Kept w) (hp : w.pollers[i]? = some ⟨[], none⟩)
    (hlease : ∀ d ∈ dueEvents w locked, ∀ e ∈ w.held, e.id = d.id → w.now < e.nextAttemptAt) :
    Kept (claim w i locked) := by
  obtain ⟨rest, hbefore, hafter⟩ := Holders.held_set Poller.hands hp
  have hrest : w.held.Perm rest := hbefore
  have hheld : (Outbox.claim w i locked).held.Perm
      ((dueEvents w locked).map (lease w.now) ++ rest) := hafter _
  have hids : ((dueEvents w locked).map (lease w.now)).map OutboxEventRow.id
      = (dueEvents w locked).map OutboxEventRow.id := by
    rw [List.map_map]
    rfl
  refine ⟨?_, ?_, ?_, ?_, ?_, ?_⟩
  · exact hw.distinct.update fun _ _ _ => rfl
  · intro r hr
    obtain ⟨x, hx, rfl⟩ := mem_update.mp hr
    have hlt := hw.ids_lt x hx
    split
    · exact hlt
    · exact hlt
  · rw [distinct_perm hheld, Distinct, List.map_append, hids]
    refine List.nodup_append.mpr ⟨dueEvents_distinct hw.distinct locked, ?_, ?_⟩
    · exact (distinct_perm hrest).mp hw.once
    · intro a ha b hb hab
      obtain ⟨d, hd, rfl⟩ := List.mem_map.mp ha
      obtain ⟨e, he, rfl⟩ := List.mem_map.mp hb
      exact hw.not_due hlease (hrest.mem_iff.mpr he) d hd hab
  · intro e he
    rcases List.mem_append.mp (hheld.mem_iff.mp he) with he | he
    · obtain ⟨d, hd, rfl⟩ := List.mem_map.mp he
      obtain ⟨hrow, hpending, -⟩ := dueEvents_due hd
      exact ⟨mem_update_of_pos hrow (decide_eq_true (List.mem_map_of_mem hd)), hpending⟩
    · have he' := hrest.mem_iff.mpr he
      obtain ⟨hrow, hpending⟩ := hw.claimed e he'
      exact ⟨claim_keeps hrow (hw.not_due hlease he'), hpending⟩
  · intro q hq t ht
    rcases Holders.mem_set hq with rfl | hq
    · simp at ht
    · exact hw.fits q hq t ht
  · intro id hid
    rcases hw.resolved id hid with ⟨r, hr, hrid, hsent⟩ | ⟨q, hq, t, ht, hdone⟩
    · exact Or.inl ⟨r, claim_keeps hr (done_not_due hw.distinct hr (by simp [hsent])), hrid,
        hsent⟩
    · rcases Holders.mem_set_of_mem hp hq ⟨(dueEvents w locked).map (lease w.now), none⟩ with
        rfl | hmem
      · simp at ht
      · exact Or.inr ⟨q, hmem, t, ht, hdone⟩

/-! ## Writes -/

/-- With no other write to the row since it was claimed, the save stores the entity. -/
theorem write_rows {event entity : OutboxEventRow} (h : Distinct OutboxEventRow.id w.rows)
    (hevent : event ∈ w.rows) (hid : entity.id = event.id) (queue : List OutboxEventRow) :
    (write w i queue entity event).rows = put OutboxEventRow.id entity w.rows := by
  have hsave : save entity event event = entity := by
    simp [save, ← hid]
  have hput := update_key_eq_put (f := save entity event) h hevent rfl
  rw [hsave, ← hid] at hput
  exact hput

theorem Kept.write {event entity row : OutboxEventRow} {queue : List OutboxEventRow} (hw : Kept w)
    (hp : w.pollers[i]? = some ⟨queue, some ⟨event, .reread entity row⟩⟩) :
    Kept (write w i queue entity row) := by
  have hmem := List.mem_of_getElem? hp
  obtain ⟨hid, rfl⟩ : entity.id = event.id ∧ row = event := hw.fits _ hmem _ rfl
  obtain ⟨hevent, hpending⟩ := hw.claimed row (hands_mem_held hmem (by simp [Poller.hands]))
  have hrows := write_rows (i := i) hw.distinct hevent hid queue
  obtain ⟨rest, hbefore, hafter⟩ := Holders.held_set Poller.hands hp
  have hheld : w.held.Perm (row :: (queue ++ rest)) := hbefore
  have hheld' : (Outbox.write w i queue entity row).held.Perm (queue ++ rest) := hafter _
  have honce : Distinct OutboxEventRow.id (row :: (queue ++ rest)) :=
    (distinct_perm hheld).mp hw.once
  obtain ⟨hfree, honce'⟩ := List.nodup_cons.mp honce
  have hkeeps : ∀ r ∈ w.rows, r.id ≠ row.id → r ∈ (Outbox.write w i queue entity row).rows := by
    intro r hr hne
    rw [hrows]
    exact mem_put.mpr (Or.inr ⟨hr, by rwa [hid]⟩)
  refine ⟨?_, ?_, ?_, ?_, ?_, ?_⟩
  · rw [hrows]
    exact hw.distinct.put entity
  · intro r hr
    rw [hrows] at hr
    rcases mem_put.mp hr with ⟨rfl, -⟩ | ⟨hr, -⟩
    · rw [hid]
      exact hw.ids_lt row hevent
    · exact hw.ids_lt r hr
  · exact (distinct_perm hheld').mpr honce'
  · intro e he
    have he' := hheld'.mem_iff.mp he
    obtain ⟨hrow, hstatus⟩ := hw.claimed e (hheld.mem_iff.mpr (List.mem_cons_of_mem _ he'))
    have hne : e.id ≠ row.id := by
      rintro heq
      exact hfree (heq ▸ List.mem_map_of_mem he')
    exact ⟨hkeeps e hrow hne, hstatus⟩
  · intro q hq t ht
    rcases Holders.mem_set hq with rfl | hq
    · simp at ht
    · exact hw.fits q hq t ht
  · intro id hdone
    rcases hw.resolved id hdone with ⟨r, hr, hrid, hsent⟩ | ⟨q, hq, t, ht, htid, x, hx, hsent⟩
    · have hne : r.id ≠ row.id := by
        rintro heq
        rw [hw.distinct.eq_of_key hr hevent heq, hpending] at hsent
        cases hsent
      exact Or.inl ⟨r, hkeeps r hr hne, hrid, hsent⟩
    · rcases Holders.mem_set_of_mem hp hq ⟨queue, none⟩ with rfl | hmem
      · obtain rfl := Option.some.inj ht
        obtain rfl := Option.some.inj hx
        have hstored : entity ∈ (Outbox.write w i queue entity row).rows := by
          rw [hrows]
          exact mem_put.mpr (Or.inl ⟨rfl, row, hevent, hid.symm⟩)
        exact Or.inl ⟨entity, hstored, hid.trans htid, hsent⟩
      · exact Or.inr ⟨q, hmem, t, ht, htid, x, hx, hsent⟩

/-! ## Runs -/

/-- **Every action** whose claim is in lease keeps every event in one poller's hands. -/
theorem Kept.step (hw : Kept w) {a : Action} (ha : InLease w a) : Kept (exec w a) := by
  cases a with
  | tick ms => exact ⟨hw.distinct, hw.ids_lt, hw.once, hw.claimed, hw.fits, hw.resolved⟩
  | enqueue eventType payload age =>
      have hfresh : ∀ r ∈ w.rows, r.id ≠ w.nextId := fun r hr => (hw.ids_lt r hr).ne
      refine ⟨hw.distinct.append_singleton hfresh, ?_, hw.once, ?_, hw.fits, ?_⟩
      · intro r hr
        rcases List.mem_append.mp hr with hr | hr
        · exact Nat.lt_succ_of_lt (hw.ids_lt r hr)
        · rw [List.mem_singleton] at hr
          subst hr
          exact Nat.lt_succ_self _
      · intro e he
        obtain ⟨hrow, hpending⟩ := hw.claimed e he
        exact ⟨List.mem_append_left _ hrow, hpending⟩
      · intro id hid
        rcases hw.resolved id hid with ⟨r, hr, hdone⟩ | htask
        · exact Or.inl ⟨r, List.mem_append_left _ hr, hdone⟩
        · exact Or.inr htask
  | claim i locked =>
      simp only [exec]
      split
      · next hp => exact hw.claim hp (ha hp)
      · exact hw
  | start i =>
      simp only [exec]
      split
      · next hp => exact hw.start hp
      · exact hw
  | finish i error =>
      simp only [exec]
      split
      · next hp => exact hw.finish hp error
      · exact hw
  | reread i =>
      simp only [exec]
      split
      · next hp =>
          split
          · next hrow => exact hw.reread hp hrow
          · exact hw
      · exact hw
  | write i =>
      simp only [exec]
      split
      · next hp => exact hw.write hp
      · exact hw

/-- A row that is SENT or FAILED is left as it is. -/
theorem Kept.final (hw : Kept w) (a : Action) {r : OutboxEventRow} (hr : r ∈ w.rows)
    (hdone : r.status ≠ .pending) : r ∈ (exec w a).rows := by
  cases a with
  | tick ms => exact hr
  | enqueue eventType payload age => exact List.mem_append_left _ hr
  | claim i locked =>
      simp only [exec]
      split
      · exact claim_keeps hr (done_not_due hw.distinct hr hdone)
      · exact hr
  | start i =>
      simp only [exec]
      split
      · exact hr
      · exact hr
  | finish i error =>
      simp only [exec]
      split
      · cases error <;> exact hr
      · exact hr
  | reread i =>
      simp only [exec]
      split
      · split <;> exact hr
      · exact hr
  | write i =>
      simp only [exec]
      split
      · next queue event entity row hp =>
          have hmem := List.mem_of_getElem? hp
          obtain ⟨hid, rfl⟩ : entity.id = event.id ∧ row = event := hw.fits _ hmem _ rfl
          obtain ⟨hrow, hpending⟩ := hw.claimed row (hands_mem_held hmem (by simp [Poller.hands]))
          rw [write_rows hw.distinct hrow hid]
          refine mem_put.mpr (Or.inr ⟨hr, ?_⟩)
          rintro heq
          rw [hw.distinct.eq_of_key hr hrow (heq.trans hid)] at hdone
          exact hdone hpending
      · exact hr

theorem Kept.sentFinal (hw : Kept w) (a : Action) : SentFinal w (exec w a) := by
  intro r hr hsent
  exact ⟨r, hw.final a hr (by simp [hsent]), rfl, hsent, rfl⟩

theorem running_mem_hands {e : OutboxEventRow} (he : e ∈ p.running) : e ∈ p.hands := by
  simp only [Poller.running] at he
  split at he
  · next hcurrent =>
      obtain rfl := Option.some.inj he
      simp [Poller.hands, hcurrent]
  · cases he

theorem runnable_mem_hands {e : OutboxEventRow} (he : e ∈ p.running.toList ++ p.queue) :
    e ∈ p.hands := by
  rcases List.mem_append.mp he with he | he
  · exact running_mem_hands (Option.mem_toList.mp he)
  · exact List.mem_append_right _ he

def Poller.ids (p : Poller) : List Nat := p.hands.map OutboxEventRow.id

theorem Kept.ids_nodup (hw : Kept w) : (Holders.held Poller.ids w.pollers).Nodup := by
  have honce := hw.once
  rwa [Distinct, World.held, Holders.held, List.map_flatMap] at honce

/-- Pollers with no event in common are apart. -/
theorem apart_of_disjoint (h : List.Disjoint p.ids q.ids) : Apart p q := by
  constructor
  · intro e he hmem
    obtain ⟨e', he', hid⟩ := List.mem_map.mp hmem
    have hp : e.id ∈ p.ids := List.mem_map_of_mem (running_mem_hands he)
    have hq : e'.id ∈ q.ids := List.mem_map_of_mem (runnable_mem_hands he')
    exact h hp (hid ▸ hq)
  · intro e he hmem
    obtain ⟨e', he', hid⟩ := List.mem_map.mp hmem
    have hp : e'.id ∈ p.ids := List.mem_map_of_mem (runnable_mem_hands he')
    have hq : e.id ∈ q.ids := List.mem_map_of_mem (running_mem_hands he)
    exact h hp (hid ▸ hq)

theorem Kept.exclusive (hw : Kept w) : Exclusive w := by
  refine ⟨(Holders.pairwise_of_nodup hw.ids_nodup).imp apart_of_disjoint, ?_⟩
  intro p hp e he hresolved
  have hhands : e ∈ p.hands := running_mem_hands he
  obtain ⟨hrow, hpending⟩ := hw.claimed e (hands_mem_held hp hhands)
  rcases hw.resolved e.id hresolved with ⟨r, hr, hid, hsent⟩ | ⟨q, hq, t, ht, hid, x, hx, -⟩
  · rw [hw.distinct.eq_of_key hr hrow hid, hpending] at hsent
    cases hsent
  · have htask : t.event ∈ q.hands := by
      rw [Option.mem_def] at ht
      simp [Poller.hands, ht]
    by_cases hpq : p = q
    · subst hpq
      rw [Option.mem_def] at ht
      obtain ⟨event, stage⟩ := t
      cases stage <;> simp [Poller.running, Task.entity, ht] at he hx
    · have hdisjoint := Holders.disjoint_of_nodup hw.ids_nodup hp hq hpq
      exact hdisjoint (List.mem_map_of_mem hhands) (hid ▸ List.mem_map_of_mem htask)

/-- **The outbox handles an event exclusively and SENT is final** in every run
whose claims find no event in hand under a lapsed lease. -/
theorem exclusive_in_lease (w : World) (as : List Action) (h : Idle w)
    (hlease : Runs.Meets exec InLease w as) :
    Runs.Always exec Exclusive w as ∧
      Runs.Meets exec (fun w a => SentFinal w (exec w a)) w as := by
  have hstep : ∀ w a, Kept w → InLease w a → Kept (exec w a) := fun _ _ hw ha => hw.step ha
  constructor
  · exact (Runs.always_of_meets hstep h.kept hlease).mono fun _ hw => hw.exclusive
  · exact hlease.of_invariant hstep (fun _ a hw _ => hw.sentFinal a) h.kept

/-- Two instances and two e-mails that are due. -/
def twoEmails : World where
  now := 0
  nextId := 2
  handlers := ["email"]
  rows := [enqueue 0 "email" "welcome" 0, enqueue 1 "email" "reset" 0]
  pollers := [⟨[], none⟩, ⟨[], none⟩]
  resolved := []

theorem twoEmails_idle : Idle twoEmails :=
  ⟨by decide, by decide, by decide, rfl⟩

/-- One e-mail takes four minutes; the other instance polls meanwhile. -/
def quickBatch : List Action :=
  [.claim 0 [], .start 0, .tick 240000, .claim 1 [], .finish 0 none, .reread 0, .write 0, .start 0,
    .finish 0 (some "timeout"), .reread 0, .write 0, .tick 30000, .claim 1 [], .start 1,
    .finish 1 none, .reread 1, .write 1]

theorem quickBatch_exclusive :
    Runs.Always exec Exclusive twoEmails quickBatch ∧
      Runs.Meets exec (fun w a => SentFinal w (exec w a)) twoEmails quickBatch :=
  exclusive_in_lease twoEmails quickBatch twoEmails_idle (by decide +kernel)

/-- The first e-mail takes one millisecond less than the lease. One later the
second instance claims the second e-mail, whose handler is running; the first
instance saves it as SENT, the second runs the handler again and fails. -/
def slowBatch : List Action :=
  [.claim 0 [], .start 0, .tick 299999, .finish 0 none, .reread 0, .write 0, .start 0, .tick 1,
    .claim 1 [], .finish 0 none, .reread 0, .write 0, .start 1, .finish 1 (some "timeout"),
    .reread 1, .write 1]

/-- Each handler takes less than a lease. Yet one poller has the event queued
that another runs, the handler is run again once it has resolved, and the row
goes from SENT back to pending with an attempt more. -/
theorem slowBatch_overlaps :
    Idle twoEmails ∧ Runs.Meets exec Prompt twoEmails slowBatch ∧
      ¬ (Runs.run exec twoEmails (slowBatch.take 9)).pollers.Pairwise Apart ∧
      ¬ Exclusive (Runs.run exec twoEmails (slowBatch.take 13)) ∧
      (Runs.run exec twoEmails (slowBatch.take 12)).rows.map
        (fun r => (r.status, r.attempts)) = [(.sent, 0), (.sent, 0)] ∧
      (Runs.run exec twoEmails slowBatch).rows.map
        (fun r => (r.status, r.attempts)) = [(.sent, 0), (.pending, 1)] ∧
      ¬ Runs.Always exec Exclusive twoEmails slowBatch ∧
      ¬ Runs.Meets exec (fun w a => SentFinal w (exec w a)) twoEmails slowBatch := by
  refine ⟨twoEmails_idle, ?_, ?_, ?_, ?_, ?_, ?_, ?_⟩ <;> decide +kernel

/-- A claimed event is in the hands of one poller throughout a run just when
every claim is in lease. -/
theorem claimed_once_iff (w : World) (as : List Action) (h : Idle w) :
    Runs.Always exec (fun w => Distinct OutboxEventRow.id w.held) w as
      ↔ Runs.Meets exec InLease w as := by
  constructor
  · intro honce
    refine Runs.meets_of_always ?_ honce
    intro w a hafter
    cases a with
    | claim i locked =>
        intro hp d hd e he hid
        obtain ⟨rest, hbefore, hheld⟩ := Holders.held_set Poller.hands hp
        have hrest : w.held.Perm rest := hbefore
        simp only [exec, hp] at hafter
        have hafter' := (distinct_perm (hheld _)).mp hafter
        rw [Distinct, List.map_append, List.nodup_append] at hafter'
        have hd' : d.id ∈ (Poller.hands ⟨(dueEvents w locked).map (lease w.now), none⟩).map
            OutboxEventRow.id := List.mem_map.mpr ⟨lease w.now d, List.mem_map_of_mem hd, rfl⟩
        have he' : e.id ∈ rest.map OutboxEventRow.id := List.mem_map_of_mem (hrest.mem_iff.mp he)
        exact absurd hid.symm (hafter'.2.2 d.id hd' e.id he')
    | tick _ => trivial
    | enqueue _ _ _ => trivial
    | start _ => trivial
    | finish _ _ => trivial
    | reread _ => trivial
    | write _ => trivial
  · intro hlease
    have hstep : ∀ w a, Kept w → InLease w a → Kept (exec w a) := fun _ _ hw ha => hw.step ha
    exact (Runs.always_of_meets hstep h.kept hlease).mono fun _ hw => hw.once

/-! ## Batches done in time -/

/-- When each poller claimed what it has in hand. -/
def claimedAt (since : Nat → Nat) (w : World) : Action → Nat → Nat
  | .claim i _ => if w.pollers[i]? = some ⟨[], none⟩ then Function.update since i w.now else since
  | _ => since

/-- The system, with a note of the claims. -/
def timed (t : World × (Nat → Nat)) (a : Action) : World × (Nat → Nat) :=
  (exec t.1 a, claimedAt t.2 t.1 a)

/-- No poller has an event in hand a lease after it claimed its batch. -/
def InTime (t : World × (Nat → Nat)) : Prop :=
  ∀ i p, t.1.pollers[i]? = some p → p.hands ≠ [] → t.1.now < t.2 i + OUTBOX_CLAIM_LEASE_MS

/-- The lease of an event in hand began with the claim of its batch. -/
def Leased (since : Nat → Nat) (w : World) : Prop :=
  ∀ i p, w.pollers[i]? = some p → ∀ e ∈ p.hands, e.nextAttemptAt = since i + OUTBOX_CLAIM_LEASE_MS

variable {since since' : Nat → Nat}

theorem Idle.leased (h : Idle w) (since : Nat → Nat) : Leased since w := by
  intro i p hp e he
  rw [h.pollers p (List.mem_of_getElem? hp)] at he
  simp [Poller.hands] at he

/-- One poller moves, and the note is kept of the others. -/
theorem Leased.set (h : Leased since w)
    (hq : ∀ e ∈ q.hands, e.nextAttemptAt = since' i + OUTBOX_CLAIM_LEASE_MS)
    (hsince : ∀ j, j ≠ i → since' j = since j) {w' : World}
    (hset : w'.pollers = w.pollers.set i q) : Leased since' w' := by
  intro j p hp e he
  rw [hset] at hp
  by_cases hij : j = i
  · subst hij
    obtain ⟨hlt, -⟩ := List.getElem?_eq_some_iff.mp hp
    rw [List.getElem?_set_self (List.length_set ▸ hlt)] at hp
    obtain rfl := Option.some.inj hp
    exact hq e he
  · rw [List.getElem?_set_ne (Ne.symm hij)] at hp
    rw [hsince j hij]
    exact h j p hp e he

theorem Leased.move (h : Leased since w) (hp : w.pollers[i]? = some p) {w' : World}
    (hset : w'.pollers = w.pollers.set i q) (hsub : ∀ e ∈ q.hands, e ∈ p.hands) :
    Leased since w' :=
  h.set (fun e he => h i p hp e (hsub e he)) (fun _ _ => rfl) hset

theorem Leased.step (h : Leased since w) (a : Action) :
    Leased (claimedAt since w a) (exec w a) := by
  cases a with
  | tick ms => exact h
  | enqueue eventType payload age => exact h
  | claim i locked =>
      rw [exec, claimedAt]
      by_cases hp : w.pollers[i]? = some ⟨[], none⟩
      · simp only [hp, if_true]
        refine h.set (i := i) (fun e he => ?_) (fun j hj => Function.update_of_ne hj ..) rfl
        obtain ⟨d, -, rfl⟩ := List.mem_map.mp he
        rw [Function.update_self]
        rfl
      · rw [if_neg hp]
        split
        · next hidle => exact absurd hidle hp
        · exact h
  | start i =>
      rw [exec]
      split
      · next hp => exact h.move hp rfl fun _ he => he
      · exact h
  | finish i error =>
      rw [exec]
      split
      · next hp =>
          cases error with
          | none => exact h.move hp rfl fun _ he => he
          | some error => exact h.move hp rfl fun _ he => he
      · exact h
  | reread i =>
      rw [exec]
      split
      · next hp =>
          split
          · exact h.move hp rfl fun _ he => he
          · exact h
      · exact h
  | write i =>
      rw [exec]
      split
      · next hp => exact h.move hp rfl fun _ he => List.mem_cons_of_mem _ he
      · exact h

theorem Leased.meets {as : List Action} (h : Leased since w)
    (htime : Runs.Always timed InTime (w, since) as) : Runs.Meets exec InLease w as := by
  induction as generalizing w since with
  | nil => trivial
  | cons a as ih =>
      refine ⟨?_, ih (h.step a) htime.2⟩
      cases a with
      | claim i locked =>
          intro _ d _ e he _
          obtain ⟨p, hp, hhands⟩ := Holders.mem_held.mp he
          obtain ⟨j, hj⟩ := List.mem_iff_getElem?.mp hp
          rw [h j p hj e hhands]
          exact htime.1 j p hj (List.ne_nil_of_mem hhands)
      | tick _ => trivial
      | enqueue _ _ _ => trivial
      | start _ => trivial
      | finish _ _ => trivial
      | reread _ => trivial
      | write _ => trivial

/-- **Batches done in time** are enough: no poller is at its batch, the saves
included, when a lease has passed since it claimed it. -/
theorem in_lease_of_in_time (h : Idle w) (since : Nat → Nat) (as : List Action)
    (htime : Runs.Always timed InTime (w, since) as) : Runs.Meets exec InLease w as :=
  (h.leased since).meets htime

end Locoomo.Outbox
