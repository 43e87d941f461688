import Locoomo.Outbox

/-! The outbox of a process that may crash. One poller claims, handles and saves;
a crash empties its hands at any point, and what was claimed comes due again when
its lease has lapsed. Every failure that a save has recorded is counted. -/

namespace Locoomo.OutboxCrashes

open Locoomo.Outbox Relational

/-! ## Runs with crashes -/

/-- A failure that a save has recorded, and how long the event waits after it. The
failure that makes the event FAILED has no wait. -/
structure Failure where
  id : Nat
  wait : Option Nat
  deriving DecidableEq

/-- `latest` is the largest reading of the clock so far, `settled` the one at
which the outcome in hand was settled. -/
structure Run where
  outbox : World
  latest : Nat
  settled : Nat
  failures : List Failure
  deriving DecidableEq

/-- An action at some reading of the clock, which need not be later than the one
before, or a crash. -/
inductive Action
  | act (now : Nat) (a : Outbox.Action)
  | crash
  deriving DecidableEq

/-- The handler's outcome is known at this action. -/
def settles (w : World) : Outbox.Action → Bool
  | .start i =>
      match w.pollers[i]? with
      | some ⟨_ :: _, none⟩ => true
      | _ => false
  | .finish i _ =>
      match w.pollers[i]? with
      | some ⟨_, some ⟨_, .handling _⟩⟩ => true
      | _ => false
  | _ => false

/-- What the save of the entity records. -/
def failureOf (settled : Nat) (entity : OutboxEventRow) : List Failure :=
  match entity.status with
  | .sent => []
  | .pending => [⟨entity.id, some (entity.nextAttemptAt - settled)⟩]
  | .failed => [⟨entity.id, none⟩]

def recorded (settled : Nat) (w : World) : Outbox.Action → List Failure
  | .write i =>
      match w.pollers[i]? with
      | some ⟨_, some ⟨_, .reread entity _⟩⟩ => failureOf settled entity
      | _ => []
  | _ => []

def readClock (s : Run) (now : Nat) : Run :=
  { s with outbox := { s.outbox with now }, latest := max s.latest now }

def step (s : Run) (a : Outbox.Action) : Run where
  outbox := Outbox.exec s.outbox a
  latest := s.latest
  settled := if settles s.outbox a then s.outbox.now else s.settled
  failures := s.failures ++ recorded s.settled s.outbox a

/-- The process that starts after the crash has nothing in hand. -/
def crash (s : Run) : Run :=
  { s with outbox := { s.outbox with pollers := s.outbox.pollers.map fun _ => ⟨[], none⟩ } }

def exec (s : Run) : Action → Run
  | .act now a => step (readClock s now) a
  | .crash => crash s

/-- No event yet, and one poller. -/
def boot (now nextId : Nat) (handlers : List String) : Run where
  outbox := { now, nextId, handlers, rows := [], pollers := [⟨[], none⟩], resolved := [] }
  latest := now
  settled := now
  failures := []

/-! ## The property -/

def Run.failuresOf (s : Run) (id : Nat) : List Failure := s.failures.filter fun f => f.id = id

/-- How long the event waited after each of its failures, the last one at the end. -/
def Run.waits (s : Run) (id : Nat) : List Nat := (s.failuresOf id).filterMap Failure.wait

structure Counts (s : Run) (r : OutboxEventRow) : Prop where
  attempts : r.attempts = (s.failuresOf r.id).length
  sent : r.status = .sent → r.id ∈ s.outbox.resolved
  failed : r.status = .failed ↔ (s.failuresOf r.id).length = 5
  due : r.status ≠ .sent → r.status ≠ .failed →
    r.status = .pending ∧ ∀ now, s.latest + 15 * 60000 ≤ now → r.nextAttemptAt ≤ now
  waits : (s.waits r.id).Pairwise (· ≤ ·)
  waits_le : ∀ ms ∈ s.waits r.id, ms ≤ 15 * 60000

/-- Every event is counted right, and those in hand are still pending. -/
structure Delivers (s : Run) : Prop where
  counts : ∀ r ∈ s.outbox.rows, Counts s r
  hands : ∀ e ∈ s.outbox.held, ∀ r ∈ s.outbox.rows, r.id = e.id → r.status = .pending

/-- No event is lost, and one that is SENT or FAILED is left as it is. -/
structure Advances (s s' : Run) : Prop where
  stays : ∀ r ∈ s.outbox.rows, ∃ r' ∈ s'.outbox.rows, r'.id = r.id
  final : ∀ r ∈ s.outbox.rows, r.status ≠ .pending → r ∈ s'.outbox.rows

/-! ## Backoff -/

theorem computeBackoffMs_mono {a b : Nat} (h : a ≤ b) :
    computeBackoffMs a ≤ computeBackoffMs b := by
  have hpow : 2 ^ (a - 1) ≤ 2 ^ (b - 1) := Nat.pow_le_pow_right (by omega) (by omega)
  have hmul := Nat.mul_le_mul_left BASE_BACKOFF_MS hpow
  simp only [computeBackoffMs]
  omega

theorem computeBackoffMs_le (attempts : Nat) : computeBackoffMs attempts ≤ MAX_BACKOFF_MS :=
  Nat.min_le_right _ _

/-- The wait after the failure that is the event's `k`-th. -/
def waitAfter (k : Nat) : Option Nat :=
  if k < OUTBOX_MAX_ATTEMPTS then some (computeBackoffMs k) else none

def schedule (attempts : Nat) : List (Option Nat) :=
  (List.range attempts).map fun j => waitAfter (j + 1)

theorem schedule_succ (k : Nat) : schedule (k + 1) = schedule k ++ [waitAfter (k + 1)] := by
  simp [schedule, List.range_succ]

theorem waitAfter_some {k ms : Nat} (h : waitAfter k = some ms) : ms = computeBackoffMs k := by
  simp only [waitAfter] at h
  split at h
  · exact (Option.some.inj h).symm
  · cases h

/-- The backoff grows until it reaches its limit. -/
theorem schedule_pairwise (k : Nat) : ((schedule k).filterMap id).Pairwise (· ≤ ·) := by
  rw [List.pairwise_filterMap, schedule, List.pairwise_map]
  refine List.pairwise_lt_range.imp ?_
  intro a b hab x hx y hy
  rw [waitAfter_some hx, waitAfter_some hy]
  exact computeBackoffMs_mono (by omega)

theorem schedule_le {k ms : Nat} (h : ms ∈ (schedule k).filterMap id) : ms ≤ MAX_BACKOFF_MS := by
  obtain ⟨wait, hwait, hms⟩ := List.mem_filterMap.mp h
  obtain ⟨j, -, rfl⟩ := List.mem_map.mp hwait
  rw [waitAfter_some hms]
  exact computeBackoffMs_le _

/-! ## What every run keeps -/

/-- The row's attempts are its recorded failures, each followed by the wait due to it. -/
structure Tallied (s : Run) (r : OutboxEventRow) : Prop where
  attempts_le : r.attempts ≤ OUTBOX_MAX_ATTEMPTS
  waits : (s.failuresOf r.id).map Failure.wait = schedule r.attempts
  sent : r.status = .sent → r.id ∈ s.outbox.resolved
  failed : r.status = .failed ↔ r.attempts = OUTBOX_MAX_ATTEMPTS
  due : r.nextAttemptAt ≤ s.latest + MAX_BACKOFF_MS

/-- What the poller is about to save for an event in hand. -/
inductive Outcome (s : Run) (event entity : OutboxEventRow) : Prop
  | resolved (now : Nat) (h : event.id ∈ s.outbox.resolved) (he : entity = succeed now event)
  | rejected (error : String) (he : entity = registerFailure s.settled event error)

/-- The outbox without the memory of what was resolved: a crash may lose a
delivery, so `Kept` holds of the rest only. -/
def bare (w : World) : World := { w with resolved := [] }

structure Inv (s : Run) : Prop where
  kept : Kept (bare s.outbox)
  one : s.outbox.pollers.length = 1
  tallied : ∀ r ∈ s.outbox.rows, Tallied s r
  outcomes : ∀ p ∈ s.outbox.pollers, ∀ t ∈ p.current, ∀ x ∈ t.entity, Outcome s t.event x
  failures : ∀ f ∈ s.failures, f.id < s.outbox.nextId
  settled : s.settled ≤ s.latest

variable {s s' : Run} {w : World} {r : OutboxEventRow}

theorem Inv.delivers (h : Inv s) : Delivers s := by
  constructor
  · intro r hr
    have ht := h.tallied r hr
    have hlength : (s.failuresOf r.id).length = r.attempts := by
      have := congrArg List.length ht.waits
      simpa [schedule] using this
    have hwaits : s.waits r.id = (schedule r.attempts).filterMap id := by
      rw [← ht.waits, List.filterMap_map]
      rfl
    refine ⟨hlength.symm, ht.sent, ?_, ?_, ?_, ?_⟩
    · rw [hlength]
      exact ht.failed
    · intro hsent hfailed
      refine ⟨?_, fun now hnow => ht.due.trans hnow⟩
      cases hstatus : r.status with
      | pending => rfl
      | sent => exact absurd hstatus hsent
      | failed => exact absurd hstatus hfailed
    · rw [hwaits]
      exact schedule_pairwise _
    · intro ms hms
      rw [hwaits] at hms
      exact schedule_le hms
  · intro e he r hr hid
    obtain ⟨hrow, hpending⟩ := h.kept.claimed e he
    rwa [h.kept.distinct.eq_of_key hr hrow hid]

theorem Tallied.mono (h : Tallied s r) (hfailures : s'.failuresOf r.id = s.failuresOf r.id)
    (hresolved : r.id ∈ s.outbox.resolved → r.id ∈ s'.outbox.resolved)
    (hlatest : s.latest ≤ s'.latest) : Tallied s' r := by
  refine ⟨h.attempts_le, ?_, fun hsent => hresolved (h.sent hsent), h.failed, ?_⟩
  · rw [hfailures]
    exact h.waits
  · have := h.due
    omega

theorem Outcome.mono {event entity : OutboxEventRow} (h : Outcome s event entity)
    (hresolved : event.id ∈ s.outbox.resolved → event.id ∈ s'.outbox.resolved)
    (hsettled : s'.settled = s.settled) : Outcome s' event entity := by
  cases h with
  | resolved now hid he => exact .resolved now (hresolved hid) he
  | rejected error he => exact .rejected error (hsettled ▸ he)

/-! ## One poller -/

/-- Nothing the outbox does depends on the memory of what was resolved. -/
theorem bare_exec (w : World) (a : Outbox.Action) :
    bare (Outbox.exec (bare w) a) = bare (Outbox.exec w a) := by
  cases a with
  | tick ms => rfl
  | enqueue eventType payload age => rfl
  | claim i locked =>
      simp only [Outbox.exec, bare]
      split <;> rfl
  | start i =>
      simp only [Outbox.exec, bare]
      split <;> rfl
  | finish i error =>
      simp only [Outbox.exec, bare]
      split
      · cases error <;> rfl
      · rfl
  | reread i =>
      simp only [Outbox.exec, bare]
      split
      · split <;> rfl
      · rfl
  | write i =>
      simp only [Outbox.exec, bare]
      split <;> rfl

theorem kept_bare (h : Kept w) : Kept (bare w) :=
  ⟨h.distinct, h.ids_lt, h.once, h.claimed, h.fits, by simp [bare]⟩

theorem length_exec (w : World) (a : Outbox.Action) :
    (Outbox.exec w a).pollers.length = w.pollers.length := by
  cases a with
  | tick ms => rfl
  | enqueue eventType payload age => rfl
  | claim i locked =>
      simp only [Outbox.exec]
      split <;> simp [Outbox.claim]
  | start i =>
      simp only [Outbox.exec]
      split <;> simp [Outbox.start]
  | finish i error =>
      simp only [Outbox.exec]
      split
      · cases error <;> simp [Outbox.finish]
      · rfl
  | reread i =>
      simp only [Outbox.exec]
      split
      · split <;> simp
      · rfl
  | write i =>
      simp only [Outbox.exec]
      split <;> simp [Outbox.write]

theorem only_poller (h : w.pollers.length = 1) {i : Nat} {p : Poller}
    (hp : w.pollers[i]? = some p) : w.pollers = [p] ∧ i = 0 := by
  obtain ⟨q, hq⟩ := List.length_eq_one_iff.mp h
  rw [hq] at hp ⊢
  cases i with
  | zero => simpa using hp
  | succ i => simp at hp

/-- The one poller claims with nothing in hand, so under no lapsed lease. -/
theorem inLease_of_one (h : w.pollers.length = 1) (a : Outbox.Action) : InLease w a := by
  cases a with
  | claim i locked =>
      intro hp d hd e he
      rw [World.held, (only_poller h hp).1] at he
      simp [Holders.held, Poller.hands] at he
  | tick _ | enqueue _ _ _ | start _ | finish _ _ | reread _ | write _ => trivial

theorem Inv.kept_step (h : Inv s) (a : Outbox.Action) : Kept (bare (step s a).outbox) := by
  have hone : (bare s.outbox).pollers.length = 1 := h.one
  have hkept := kept_bare (h.kept.step (inLease_of_one hone a))
  rwa [bare_exec] at hkept

/-! ## Steps -/

theorem failuresOf_append {fs : List Failure} (h : s'.failures = s.failures ++ fs) (id : Nat) :
    s'.failuresOf id = s.failuresOf id ++ fs.filter fun f => f.id = id := by
  rw [Run.failuresOf, h, List.filter_append]
  rfl

theorem failureOf_succeed (settled now : Nat) (event : OutboxEventRow) :
    failureOf settled (succeed now event) = [] := rfl

theorem failureOf_registerFailure {event : OutboxEventRow} (hpending : event.status = .pending)
    (settled : Nat) (error : String) :
    failureOf settled (registerFailure settled event error) =
      [⟨event.id, waitAfter (event.attempts + 1)⟩] := by
  by_cases hlast : OUTBOX_MAX_ATTEMPTS ≤ event.attempts + 1
  · have hwait : waitAfter (event.attempts + 1) = none := if_neg (by omega)
    simp [failureOf, registerFailure, hlast, hwait]
  · have hwait : waitAfter (event.attempts + 1) = some (computeBackoffMs (event.attempts + 1)) :=
      if_pos (by omega)
    simp [failureOf, registerFailure, hlast, hwait, hpending]

/-- Every row that a step leaves as it was stays tallied. -/
theorem Inv.tallied_of_mem (h : Inv s) (hr : r ∈ s.outbox.rows)
    (hfailures : s'.failures = s.failures) (hlatest : s'.latest = s.latest)
    (hresolved : ∀ id ∈ s.outbox.resolved, id ∈ s'.outbox.resolved) : Tallied s' r := by
  refine (h.tallied r hr).mono ?_ (hresolved r.id) hlatest.ge
  rw [Run.failuresOf, Run.failuresOf, hfailures]

/-- The poller, which no other is beside, goes on to `q`. -/
theorem outcomes_set (hone : s.outbox.pollers.length = 1) {i : Nat} {p q : Poller}
    (hp : s.outbox.pollers[i]? = some p)
    (hpollers : s'.outbox.pollers = s.outbox.pollers.set i q)
    (hq : ∀ t ∈ q.current, ∀ x ∈ t.entity, Outcome s' t.event x) :
    ∀ p ∈ s'.outbox.pollers, ∀ t ∈ p.current, ∀ x ∈ t.entity, Outcome s' t.event x := by
  obtain ⟨hall, rfl⟩ := only_poller hone hp
  intro p' hp' t ht x hx
  rw [hpollers, hall, List.set_cons_zero, List.mem_singleton] at hp'
  subst hp'
  exact hq t ht x hx

/-- A lease keeps to the limit that the backoff has. -/
theorem Tallied.lease (h : Tallied s r) (hnow : s.outbox.now ≤ s.latest) :
    Tallied s (lease s.outbox.now r) := by
  refine ⟨h.attempts_le, h.waits, h.sent, h.failed, ?_⟩
  simp only [Outbox.lease, OUTBOX_CLAIM_LEASE_MS, MAX_BACKOFF_MS]
  omega

/-- The poller goes on; rows are leased at most, and nothing is recorded. -/
theorem Inv.move_leased (h : Inv s) {a : Outbox.Action} (hnow : s.outbox.now ≤ s.latest) {i : Nat}
    {p q : Poller} (hp : s.outbox.pollers[i]? = some p) (hexec : Outbox.exec s.outbox a = w)
    (hpollers : w.pollers = s.outbox.pollers.set i q)
    (hrows : ∀ r ∈ w.rows, ∃ x ∈ s.outbox.rows, r = x ∨ r = lease s.outbox.now x)
    (hnext : w.nextId = s.outbox.nextId) (hrecorded : recorded s.settled s.outbox a = [])
    (hresolved : ∀ id ∈ s.outbox.resolved, id ∈ w.resolved)
    (hq : ∀ t ∈ q.current, ∀ x ∈ t.entity, Outcome (step s a) t.event x) : Inv (step s a) := by
  subst hexec
  have hfailures : (step s a).failures = s.failures := by
    simp [step, hrecorded]
  have houtcomes := outcomes_set h.one hp hpollers hq
  refine ⟨h.kept_step a, (length_exec _ a).trans h.one, ?_, houtcomes, ?_, ?_⟩
  · intro r hr
    obtain ⟨x, hx, hrx⟩ := hrows r hr
    have htallied : Tallied s r := by
      rcases hrx with rfl | rfl
      · exact h.tallied r hx
      · exact (h.tallied x hx).lease hnow
    refine htallied.mono ?_ (hresolved r.id) (Nat.le_refl _)
    rw [Run.failuresOf, Run.failuresOf, hfailures]
  · intro f hf
    rw [hfailures] at hf
    exact (h.failures f hf).trans_eq hnext.symm
  · simp only [step]
    split
    · exact hnow
    · exact h.settled

theorem Inv.move (h : Inv s) {a : Outbox.Action} (hnow : s.outbox.now ≤ s.latest) {i : Nat}
    {p q : Poller} (hp : s.outbox.pollers[i]? = some p) (hexec : Outbox.exec s.outbox a = w)
    (hpollers : w.pollers = s.outbox.pollers.set i q) (hrows : w.rows = s.outbox.rows)
    (hnext : w.nextId = s.outbox.nextId) (hrecorded : recorded s.settled s.outbox a = [])
    (hresolved : ∀ id ∈ s.outbox.resolved, id ∈ w.resolved)
    (hq : ∀ t ∈ q.current, ∀ x ∈ t.entity, Outcome (step s a) t.event x) : Inv (step s a) := by
  have hsame : ∀ r ∈ w.rows, ∃ x ∈ s.outbox.rows, r = x ∨ r = lease s.outbox.now x :=
    fun r hr => ⟨r, hrows ▸ hr, Or.inl rfl⟩
  exact h.move_leased hnow hp hexec hpollers hsame hnext hrecorded hresolved hq

/-- An action that the poller is in no state for. -/
theorem Inv.idle (h : Inv s) {a : Outbox.Action} (hexec : Outbox.exec s.outbox a = s.outbox)
    (hsettles : settles s.outbox a = false) (hrecorded : recorded s.settled s.outbox a = []) :
    Inv (step s a) := by
  have hs : step s a = s := by
    simp [step, hexec, hsettles, hrecorded]
  rwa [hs]

variable {i : Nat}

theorem Inv.start (h : Inv s) (hnow : s.outbox.now ≤ s.latest) : Inv (step s (.start i)) := by
  match hp : s.outbox.pollers[i]? with
  | some ⟨event :: queue, none⟩ =>
      have hexec : Outbox.exec s.outbox (.start i) = Outbox.start s.outbox i event queue := by
        simp [Outbox.exec, hp]
      have hsettled : (step s (.start i)).settled = s.outbox.now := by
        simp [step, settles, hp]
      refine h.move hnow hp hexec rfl rfl rfl rfl (fun _ hid => hid) ?_
      intro t ht x hx
      obtain rfl := Option.some.inj ht
      by_cases hknown : event.eventType ∈ s.outbox.handlers
      · simp [Task.entity, hknown] at hx
      · simp only [Task.entity, hknown, if_false, Option.mem_some_iff] at hx ⊢
        exact .rejected _ (hsettled ▸ hx.symm)
  | some ⟨[], none⟩ => exact h.idle (by simp [Outbox.exec, hp]) (by simp [settles, hp]) rfl
  | some ⟨_, some _⟩ => exact h.idle (by simp [Outbox.exec, hp]) (by simp [settles, hp]) rfl
  | none => exact h.idle (by simp [Outbox.exec, hp]) (by simp [settles, hp]) rfl

theorem Inv.finish (h : Inv s) (hnow : s.outbox.now ≤ s.latest) (error : Option String) :
    Inv (step s (.finish i error)) := by
  match hp : s.outbox.pollers[i]? with
  | some ⟨queue, some ⟨event, .handling since⟩⟩ =>
      have hexec : Outbox.exec s.outbox (.finish i error)
          = Outbox.finish s.outbox i event queue error := by
        simp [Outbox.exec, hp]
      have hsettled : (step s (.finish i error)).settled = s.outbox.now := by
        simp [step, settles, hp]
      cases error with
      | none =>
          refine h.move hnow hp hexec rfl rfl rfl rfl (fun _ => List.mem_cons_of_mem _) ?_
          intro t ht x hx
          obtain rfl := Option.some.inj ht
          obtain rfl := Option.some.inj hx
          exact .resolved s.outbox.now (by simp [step, hexec, Outbox.finish]) rfl
      | some error =>
          refine h.move hnow hp hexec rfl rfl rfl rfl (fun _ hid => hid) ?_
          intro t ht x hx
          obtain rfl := Option.some.inj ht
          obtain rfl := Option.some.inj hx
          exact .rejected error (by rw [hsettled])
  | some ⟨_, none⟩ => exact h.idle (by simp [Outbox.exec, hp]) (by simp [settles, hp]) rfl
  | some ⟨_, some ⟨_, .settled _⟩⟩ =>
      exact h.idle (by simp [Outbox.exec, hp]) (by simp [settles, hp]) rfl
  | some ⟨_, some ⟨_, .reread _ _⟩⟩ =>
      exact h.idle (by simp [Outbox.exec, hp]) (by simp [settles, hp]) rfl
  | none => exact h.idle (by simp [Outbox.exec, hp]) (by simp [settles, hp]) rfl

theorem Inv.reread (h : Inv s) (hnow : s.outbox.now ≤ s.latest) : Inv (step s (.reread i)) := by
  match hp : s.outbox.pollers[i]? with
  | some ⟨queue, some ⟨event, .settled entity⟩⟩ =>
      cases hrow : get OutboxEventRow.id entity.id s.outbox.rows with
      | none => exact h.idle (by simp [Outbox.exec, hp, hrow]) rfl rfl
      | some row =>
          have hexec : Outbox.exec s.outbox (.reread i) = { s.outbox with
              pollers := s.outbox.pollers.set i ⟨queue, some ⟨event, .reread entity row⟩⟩ } := by
            simp [Outbox.exec, hp, hrow]
          refine h.move hnow hp hexec rfl rfl rfl rfl (fun _ hid => hid) ?_
          intro t ht x hx
          obtain rfl := Option.some.inj ht
          have houtcome := h.outcomes _ (List.mem_of_getElem? hp) _ rfl x hx
          exact houtcome.mono (by simp [step, hexec]) rfl
  | some ⟨_, none⟩ => exact h.idle (by simp [Outbox.exec, hp]) rfl rfl
  | some ⟨_, some ⟨_, .handling _⟩⟩ => exact h.idle (by simp [Outbox.exec, hp]) rfl rfl
  | some ⟨_, some ⟨_, .reread _ _⟩⟩ => exact h.idle (by simp [Outbox.exec, hp]) rfl rfl
  | none => exact h.idle (by simp [Outbox.exec, hp]) rfl rfl

/-- The claim moves the next attempt of its rows to the end of the lease. -/
theorem Inv.claim (h : Inv s) (hnow : s.outbox.now ≤ s.latest) (locked : List Nat) :
    Inv (step s (.claim i locked)) := by
  match hp : s.outbox.pollers[i]? with
  | some ⟨[], none⟩ =>
      have hexec : Outbox.exec s.outbox (.claim i locked) = Outbox.claim s.outbox i locked := by
        simp [Outbox.exec, hp]
      refine h.move_leased hnow hp hexec rfl ?_ rfl rfl (fun _ hid => hid) (by simp)
      intro r hr
      obtain ⟨x, hx, rfl⟩ := mem_update.mp hr
      refine ⟨x, hx, ?_⟩
      split
      · exact Or.inr rfl
      · exact Or.inl rfl
  | some ⟨_ :: _, none⟩ => exact h.idle (by simp [Outbox.exec, hp]) rfl rfl
  | some ⟨_, some _⟩ => exact h.idle (by simp [Outbox.exec, hp]) rfl rfl
  | none => exact h.idle (by simp [Outbox.exec, hp]) rfl rfl

/-- No failure has been recorded for an event that is new. -/
theorem Inv.enqueue (h : Inv s) (hnow : s.outbox.now ≤ s.latest) (eventType payload : String)
    (age : Nat) : Inv (step s (.enqueue eventType payload age)) := by
  have hfailures : (step s (.enqueue eventType payload age)).failures = s.failures := by
    simp [step, recorded]
  refine ⟨h.kept_step _, h.one, ?_, ?_, ?_, h.settled⟩
  · intro r hr
    rcases List.mem_append.mp hr with hr | hr
    · exact h.tallied_of_mem hr hfailures rfl fun _ hid => hid
    · rw [List.mem_singleton] at hr
      subst hr
      have hnone : s.failuresOf s.outbox.nextId = [] := by
        rw [Run.failuresOf, List.filter_eq_nil_iff]
        intro f hf
        have := h.failures f hf
        simp only [decide_eq_true_eq]
        omega
      refine ⟨Nat.zero_le _, ?_, ?_, ?_, ?_⟩
      · rw [Run.failuresOf, hfailures]
        exact congrArg (List.map Failure.wait) hnone
      · intro hsent
        cases hsent
      · simp [Outbox.enqueue, OUTBOX_MAX_ATTEMPTS]
      · have hage : s.outbox.now - age ≤ s.latest + MAX_BACKOFF_MS := by
          omega
        exact hage
  · intro p hp t ht x hx
    exact (h.outcomes p hp t ht x hx).mono (fun hid => hid) rfl
  · intro f hf
    rw [hfailures] at hf
    exact (h.failures f hf).trans (Nat.lt_succ_self _)

/-- The saved entity is tallied together with the failure that its save records. -/
theorem Tallied.save {row entity : OutboxEventRow} (h : Tallied s row)
    (hpending : row.status = .pending) (houtcome : Outcome s row entity)
    (hsettled : s.settled ≤ s.latest) (hlatest : s'.latest = s.latest)
    (hresolved : s'.outbox.resolved = s.outbox.resolved)
    (hfailures : s'.failures = s.failures ++ failureOf s.settled entity) : Tallied s' entity := by
  have hmore : row.attempts ≠ OUTBOX_MAX_ATTEMPTS := by
    intro hfive
    rw [h.failed.mpr hfive] at hpending
    cases hpending
  have hle := h.attempts_le
  have hof := failuresOf_append hfailures
  cases houtcome with
  | resolved now hid he =>
      subst he
      refine ⟨hle, ?_, fun _ => hresolved ▸ hid, ?_, ?_⟩
      · rw [hof, failureOf_succeed, List.filter_nil, List.append_nil]
        exact h.waits
      · simpa [succeed] using hmore
      · rw [hlatest]
        exact h.due
  | rejected error he =>
      have hrecord := failureOf_registerFailure hpending s.settled error
      have hid := registerFailure_id s.settled row error
      rw [← he] at hrecord hid
      have hattempts : entity.attempts = row.attempts + 1 := by
        rw [he, registerFailure]
        split <;> rfl
      refine ⟨?_, ?_, ?_, ?_, ?_⟩
      · omega
      · rw [hof, hid, hrecord, List.map_append, h.waits, hattempts, schedule_succ]
        simp
      · intro hsent
        rw [he, registerFailure] at hsent
        split at hsent <;> simp [hpending] at hsent
      · rw [hattempts, he, registerFailure]
        by_cases hlast : OUTBOX_MAX_ATTEMPTS ≤ row.attempts + 1
        · simp only [hlast, if_true, true_iff]
          omega
        · simp only [hlast, if_false, hpending]
          constructor
          · intro hfailed
            cases hfailed
          · omega
      · have hbackoff := computeBackoffMs_le (row.attempts + 1)
        have hdue := h.due
        rw [hlatest, he, registerFailure]
        split
        · exact hdue
        · simp only
          omega

theorem failureOf_id {settled : Nat} {entity : OutboxEventRow} {f : Failure}
    (h : f ∈ failureOf settled entity) : f.id = entity.id := by
  simp only [failureOf] at h
  split at h <;> simp at h <;> rw [h]

theorem Inv.write (h : Inv s) : Inv (step s (.write i)) := by
  match hp : s.outbox.pollers[i]? with
  | some ⟨queue, some ⟨event, .reread entity row⟩⟩ =>
      have hmem := List.mem_of_getElem? hp
      obtain ⟨hid, rfl⟩ : entity.id = event.id ∧ row = event := h.kept.fits _ hmem _ rfl
      obtain ⟨hrow, hpending⟩ :=
        h.kept.claimed row (hands_mem_held hmem (by simp [Poller.hands]))
      have hrow' : row ∈ s.outbox.rows := hrow
      have hexec : Outbox.exec s.outbox (.write i)
          = Outbox.write s.outbox i queue entity row := by
        simp [Outbox.exec, hp]
      have hrows : (step s (.write i)).outbox.rows
          = put OutboxEventRow.id entity s.outbox.rows := by
        simp only [step, hexec]
        exact write_rows (i := i) h.kept.distinct hrow hid queue
      have hresolved : (step s (.write i)).outbox.resolved = s.outbox.resolved := by
        simp only [step, hexec]
        rfl
      have hnext : (step s (.write i)).outbox.nextId = s.outbox.nextId := by
        simp only [step, hexec]
        rfl
      have hpollers : (step s (.write i)).outbox.pollers
          = s.outbox.pollers.set i ⟨queue, none⟩ := by
        simp only [step, hexec]
        rfl
      have hfailures : (step s (.write i)).failures
          = s.failures ++ failureOf s.settled entity := by
        simp [step, recorded, hp]
      refine ⟨h.kept_step _, (length_exec _ _).trans h.one, ?_, ?_, ?_, h.settled⟩
      · intro r hr
        rw [hrows] at hr
        rcases mem_put.mp hr with ⟨rfl, -⟩ | ⟨hr, hne⟩
        · have houtcome := h.outcomes _ hmem _ rfl r rfl
          exact (h.tallied row hrow').save hpending houtcome h.settled rfl hresolved hfailures
        · refine (h.tallied r hr).mono ?_ (by simp [hresolved]) (Nat.le_refl _)
          have hothers : (failureOf s.settled entity).filter (fun f => f.id = r.id) = [] := by
            rw [List.filter_eq_nil_iff]
            intro f hf
            simp only [decide_eq_true_eq]
            intro hfr
            exact hne (hfr.symm.trans (failureOf_id hf))
          rw [failuresOf_append hfailures, hothers, List.append_nil]
      · exact outcomes_set h.one hp hpollers (by simp)
      · intro f hf
        rw [hfailures] at hf
        rw [hnext]
        rcases List.mem_append.mp hf with hf | hf
        · exact h.failures f hf
        · rw [failureOf_id hf, hid]
          exact h.kept.ids_lt row hrow
  | some ⟨_, none⟩ => exact h.idle (by simp [Outbox.exec, hp]) rfl (by simp [recorded, hp])
  | some ⟨_, some ⟨_, .handling _⟩⟩ =>
      exact h.idle (by simp [Outbox.exec, hp]) rfl (by simp [recorded, hp])
  | some ⟨_, some ⟨_, .settled _⟩⟩ =>
      exact h.idle (by simp [Outbox.exec, hp]) rfl (by simp [recorded, hp])
  | none => exact h.idle (by simp [Outbox.exec, hp]) rfl (by simp [recorded, hp])

theorem Inv.step (h : Inv s) (hnow : s.outbox.now ≤ s.latest) (a : Outbox.Action) :
    Inv (step s a) := by
  cases a with
  | tick ms =>
      have hfailures : (OutboxCrashes.step s (.tick ms)).failures = s.failures := by
        simp [OutboxCrashes.step, recorded]
      refine ⟨h.kept_step _, h.one, ?_, ?_, ?_, h.settled⟩
      · intro r hr
        exact h.tallied_of_mem hr hfailures rfl fun _ hid => hid
      · intro p hp t ht x hx
        exact (h.outcomes p hp t ht x hx).mono (fun hid => hid) rfl
      · rw [hfailures]
        exact h.failures
  | enqueue eventType payload age => exact h.enqueue hnow eventType payload age
  | claim i locked => exact h.claim hnow locked
  | start i => exact h.start hnow
  | finish i error => exact h.finish hnow error
  | reread i => exact h.reread hnow
  | write i => exact h.write

theorem Inv.readClock (h : Inv s) (now : Nat) : Inv (readClock s now) := by
  have hkept : Kept (bare (OutboxCrashes.readClock s now).outbox) :=
    ⟨h.kept.distinct, h.kept.ids_lt, h.kept.once, h.kept.claimed, h.kept.fits, by simp [bare]⟩
  refine ⟨hkept, h.one, ?_, ?_, h.failures, ?_⟩
  · intro r hr
    exact (h.tallied r hr).mono rfl (fun hid => hid) (Nat.le_max_left _ _)
  · intro p hp t ht x hx
    exact (h.outcomes p hp t ht x hx).mono (fun hid => hid) rfl
  · exact h.settled.trans (Nat.le_max_left _ _)

/-- **A crash at any point** loses what is in hand and nothing else. -/
theorem Inv.crash (h : Inv s) : Inv (crash s) := by
  have hidle : ∀ p ∈ (OutboxCrashes.crash s).outbox.pollers, p = ⟨[], none⟩ := by
    intro p hp
    obtain ⟨_, -, rfl⟩ := List.mem_map.mp hp
    rfl
  have hkept : Kept (bare (OutboxCrashes.crash s).outbox) :=
    Idle.kept ⟨h.kept.distinct, h.kept.ids_lt, hidle, rfl⟩
  refine ⟨hkept, ?_, ?_, ?_, h.failures, h.settled⟩
  · simpa [OutboxCrashes.crash] using h.one
  · intro r hr
    exact (h.tallied r hr).mono rfl (fun hid => hid) (Nat.le_refl _)
  · intro p hp t ht
    rw [hidle p hp] at ht
    cases ht

theorem Inv.exec (h : Inv s) (a : Action) : Inv (exec s a) := by
  cases a with
  | crash => exact h.crash
  | act now a => exact (h.readClock now).step (Nat.le_max_right _ _) a

theorem boot_inv (now nextId : Nat) (handlers : List String) : Inv (boot now nextId handlers) := by
  have hidle : Idle (bare (boot now nextId handlers).outbox) :=
    ⟨by simp [bare, boot, Distinct], by simp [bare, boot], by simp [bare, boot], rfl⟩
  exact ⟨hidle.kept, rfl, by simp [boot], by simp [boot], by simp [boot], Nat.le_refl _⟩

/-! ## Runs -/

/-- No action deletes an event. -/
theorem ids_exec (hr : r ∈ w.rows) (a : Outbox.Action) :
    ∃ r' ∈ (Outbox.exec w a).rows, r'.id = r.id := by
  have hupdate : ∀ (p : OutboxEventRow → Bool) (f : OutboxEventRow → OutboxEventRow),
      (∀ x, (f x).id = x.id) → ∃ r' ∈ update p f w.rows, r'.id = r.id := by
    intro p f hf
    refine ⟨_, mem_update.mpr ⟨r, hr, rfl⟩, ?_⟩
    split
    · exact hf r
    · rfl
  cases a with
  | tick ms => exact ⟨r, hr, rfl⟩
  | enqueue eventType payload age => exact ⟨r, List.mem_append_left _ hr, rfl⟩
  | claim i locked =>
      simp only [Outbox.exec]
      split
      · exact hupdate _ _ fun _ => rfl
      · exact ⟨r, hr, rfl⟩
  | start i =>
      simp only [Outbox.exec]
      split <;> exact ⟨r, hr, rfl⟩
  | finish i error =>
      simp only [Outbox.exec]
      split
      · cases error <;> exact ⟨r, hr, rfl⟩
      · exact ⟨r, hr, rfl⟩
  | reread i =>
      simp only [Outbox.exec]
      split
      · split <;> exact ⟨r, hr, rfl⟩
      · exact ⟨r, hr, rfl⟩
  | write i =>
      simp only [Outbox.exec]
      split
      · exact hupdate _ _ fun _ => rfl
      · exact ⟨r, hr, rfl⟩

theorem Inv.advances (h : Inv s) (a : Action) : Advances s (OutboxCrashes.exec s a) := by
  cases a with
  | crash => exact ⟨fun r hr => ⟨r, hr, rfl⟩, fun r hr _ => hr⟩
  | act now a =>
      refine ⟨fun r hr => ids_exec (w := (OutboxCrashes.readClock s now).outbox) hr a, ?_⟩
      intro r hr hdone
      have hr' : r ∈ (bare (OutboxCrashes.readClock s now).outbox).rows := hr
      have hfinal := (h.readClock now).kept.final a hr' hdone
      have hrows := congrArg World.rows (bare_exec (OutboxCrashes.readClock s now).outbox a)
      exact hrows ▸ hfinal

/-- **With one poller the outbox counts and delivers right**, whatever its handlers
do, wherever it crashes and whatever the clock reads. -/
theorem outbox_delivers (now nextId : Nat) (handlers : List String) (as : List Action) :
    Runs.Always exec Delivers (boot now nextId handlers) as ∧
      Runs.Meets exec (fun s a => Advances s (exec s a)) (boot now nextId handlers) as := by
  have hinv := boot_inv now nextId handlers
  have hstep : ∀ s a, Inv s → Inv (exec s a) := fun _ a h => h.exec a
  constructor
  · exact (Runs.always_invariant hstep hinv as).mono fun _ h => h.delivers
  · have hall : Runs.Meets exec (fun _ _ => True) (boot now nextId handlers) as :=
      Runs.meets_of_forall (fun _ _ => trivial) _ as
    exact hall.of_invariant (fun s a h _ => hstep s a h) (fun _ a h _ => h.advances a) hinv

/-- The handler resolves, the process crashes before the save, and the event is
handled again once its lease has lapsed, this time with a failure. -/
def crashes : List Action :=
  [.act 0 (.enqueue "email" "welcome" 0), .act 0 (.claim 0 []), .act 0 (.start 0),
    .act 1000 (.finish 0 none), .crash, .act 400000 (.claim 0 []), .act 400000 (.start 0),
    .act 401000 (.finish 0 (some "timeout")), .act 401000 (.reread 0), .act 401000 (.write 0)]

example : ((Runs.run exec (boot 0 0 ["email"]) crashes).outbox.rows.map fun r =>
    (r.status, r.attempts, r.nextAttemptAt)) = [(.pending, 1, 431000)] := by
  decide +kernel

end Locoomo.OutboxCrashes
