import Locoomo.Interleaved
import Locoomo.LockstepEvents
import Locoomo.Lib.Queues

/-! The reconciliation of stale legs. Each run polls the legs that nobody has heard
about for longest, and whatever it has asked about should go behind the others. A
leg stays in front when its courier gives no answer, and when the answer has no
sequence and nothing new in it: the save then writes nothing, `updatedAt` included. -/

namespace Locoomo.Reconciliation

open Locoomo.Delivery Locoomo.Database Locoomo.Handoffs Locoomo.Logistics Relational

/-! ## Legs and runs -/

def STALE_AFTER_MINUTES : Nat := 5
def BATCH_SIZE : Nat := Interleaved.batchSize

/-- A row of `delivery_legs` with its `updatedAt`. -/
structure Leg where
  row : DeliveryLegRow
  updatedAt : Nat
  deriving DecidableEq

def Leg.id (leg : Leg) : Nat := leg.row.id

structure LegToCheck where
  id : Nat
  providerKey : String
  externalId : Option String
  deriving DecidableEq

def Leg.check (leg : Leg) : LegToCheck := ⟨leg.row.id, leg.row.providerKey, leg.row.externalId⟩

/-- `examined` is no table: it collects the legs that `syncLeg` was called for. -/
structure World where
  now : Nat
  legs : List Leg
  examined : List Nat

/-- What a run meets: the adapters' `getDelivery`, each of which answers for the
delivery it is asked about, the transactions that commit, how long it takes to
sync each leg, and how long it then is to the next run. -/
structure Round where
  getDelivery : String → Option (String → Except String ProviderDeliverySnapshot)
  asked : ∀ key ask externalId snapshot, getDelivery key = some ask →
    ask externalId = .ok snapshot → snapshot.externalId = externalId
  commits : Nat → Bool
  latency : Nat → Nat
  pause : Nat

/-- The `WHERE` of `pollStale`, at some time. -/
def isQuiet (now : Nat) (leg : Leg) : Bool :=
  isActive leg.row.status && leg.row.externalId.isSome &&
    decide (leg.updatedAt + STALE_AFTER_MINUTES * minute < now)

def byUpdatedAt (a b : Leg) : Prop := a.updatedAt ≤ b.updatedAt

instance : DecidableRel byUpdatedAt := fun a b =>
  inferInstanceAs (Decidable (a.updatedAt ≤ b.updatedAt))

/-- Legs with one `updatedAt` come in the order of the table, which PostgreSQL leaves
open. -/
def staleLegs (w : World) : List Leg := (w.legs.filter (isQuiet w.now)).insertionSort byUpdatedAt

def pollStale (w : World) : List LegToCheck := ((staleLegs w).take BATCH_SIZE).map Leg.check

/-! ## Syncing a leg -/

def findByExternalId (w : World) (providerKey externalId : String) : Option Leg :=
  w.legs.find? fun leg => leg.row.providerKey = providerKey ∧ leg.row.externalId = some externalId

/-- The save of a leg: `updatedAt` moves when some other column does. -/
def save (now : Nat) (entity : DeliveryLegRow) (stored : Leg) : Leg :=
  if entity = stored.row then stored else ⟨entity, now⟩

/-- The catch-up: `apply` saves the entity after each event. What an event does
beside the leg is left to the order. -/
def applyAll (now : Nat) (entity : DeliveryLegRow) (stored : Leg) : List DeliveryEventType → Leg
  | [] => stored
  | event :: events =>
      match nextLegStatus entity.status event with
      | none => applyAll now entity stored events
      | some next =>
          let moved := movedLeg entity event next now
          applyAll now moved (save now moved stored) events

/-- What `syncFromSnapshot` leaves of the leg that it has found and not ignored. -/
def withAnswer (now : Nat) (leg : Leg) (snapshot : ProviderDeliverySnapshot) : Leg :=
  match eventsToReach leg.row.status snapshot.status with
  | [] => save now (withSnapshot leg.row snapshot) leg
  | steps => applyAll now (withSnapshot leg.row snapshot) leg steps

def syncFromSnapshot (w : World) (providerKey : String) (snapshot : ProviderDeliverySnapshot) :
    Bool × World :=
  match findByExternalId w providerKey snapshot.externalId with
  | none => (false, w)
  | some leg =>
      if isStale leg.row snapshot then (false, w)
      else (true, { w with legs := put Leg.id (withAnswer w.now leg snapshot) w.legs })

/-- `UPDATE delivery_legs SET "updatedAt" = now() WHERE id = $1`. -/
def touch (w : World) (id : Nat) : World :=
  { w with
    legs := update (fun leg => leg.id = id) (fun leg => { leg with updatedAt := w.now }) w.legs }

/-- What `getDelivery` returns for the leg, if it is called and does not throw. -/
def answer (round : Round) (leg : LegToCheck) : Option ProviderDeliverySnapshot :=
  match round.getDelivery leg.providerKey, leg.externalId with
  | some ask, some externalId =>
      if externalId = "" then none
      else
        match ask externalId with
        | .ok snapshot => some snapshot
        | .error _ => none
  | _, _ => none

def syncLeg (round : Round) (w : World) (leg : LegToCheck) : World :=
  let w := { w with now := w.now + round.latency leg.id, examined := leg.id :: w.examined }
  match answer round leg with
  | none => w
  | some snapshot =>
      if round.commits leg.id then
        match syncFromSnapshot w leg.providerKey snapshot with
        | (true, w') => w'
        | (false, w') => touch w' leg.id
      else w

/-- A run, and the time until the next one. -/
def reconcile (w : World) (round : Round) : World :=
  let w := (pollStale w).foldl (syncLeg round) w
  { w with now := w.now + round.pause }

/-! ## The property -/

/-- What has been examined is behind all of `legs` that has not. -/
def Behind (legs : List Leg) (w : World) : Prop :=
  ∀ a ∈ w.legs, a.id ∈ w.examined → ∀ b ∈ w.legs, b.id ∈ legs.map Leg.id → b.id ∉ w.examined →
    a.updatedAt > b.updatedAt

instance (legs : List Leg) (w : World) : Decidable (Behind legs w) :=
  inferInstanceAs (Decidable (∀ a ∈ w.legs, _))

/-- The stale legs take their turns, and all have had one in the end. -/
def Rotates (w : World) (rounds : List Round) : Prop :=
  Runs.Always reconcile (Behind (staleLegs w)) w rounds ∧
    ∀ leg ∈ staleLegs w, leg.id ∈ (Runs.run reconcile w rounds).examined

instance (w : World) (rounds : List Round) : Decidable (Rotates w rounds) :=
  inferInstanceAs (Decidable (_ ∧ _))

/-- The courier answers, and its answer is old or has something new for the leg:
an event or a column that differs. -/
def Moves (round : Round) (leg : Leg) : Prop :=
  ∃ snapshot, answer round leg.check = some snapshot ∧ round.commits leg.id = true ∧
    (isStale leg.row snapshot = true ∨ eventsToReach leg.row.status snapshot.status ≠ [] ∨
      withSnapshot leg.row snapshot ≠ leg.row)

/-- The keys of the table: the id, and the courier with its own id. -/
structure Keyed (legs : List Leg) : Prop where
  ids : Distinct Leg.id legs
  externals : ∀ a ∈ legs, ∀ b ∈ legs, a.row.providerKey = b.row.providerKey →
    a.row.externalId = b.row.externalId → a.row.externalId ≠ none → a.id = b.id

/-! ## One leg -/

variable {round : Round} {now : Nat} {leg : Leg} {w : World}

/-- What a sync leaves of its leg. -/
def after (round : Round) (now : Nat) (leg : Leg) : Leg :=
  match answer round leg.check with
  | none => leg
  | some snapshot =>
      if round.commits leg.id then
        if isStale leg.row snapshot then { leg with updatedAt := now }
        else withAnswer now leg snapshot
      else leg

theorem save_row (now : Nat) (entity : DeliveryLegRow) (stored : Leg) :
    (save now entity stored).row = entity := by
  unfold save
  split
  · next h => exact h.symm
  · rfl

/-- A save that leaves a leg other than it was has moved its `updatedAt`. -/
theorem save_stamped (now : Nat) (entity : DeliveryLegRow) (stored : Leg) :
    save now entity stored = stored ∨ (save now entity stored).updatedAt = now := by
  unfold save
  split
  · exact Or.inl rfl
  · exact Or.inr rfl

/-- The keys of a leg, which no sync changes. -/
def Leg.keys (row : DeliveryLegRow) : Nat × String × Option String :=
  (row.id, row.providerKey, row.externalId)

theorem keys_movedLeg (entity : DeliveryLegRow) (event : DeliveryEventType)
    (next : DeliveryLegStatus) : Leg.keys (movedLeg entity event next now) = Leg.keys entity := by
  simp [Leg.keys]

theorem keys_applyAll (now : Nat) {entity : DeliveryLegRow} {stored : Leg}
    (h : Leg.keys stored.row = Leg.keys entity) (events : List DeliveryEventType) :
    Leg.keys (applyAll now entity stored events).row = Leg.keys entity := by
  induction events generalizing entity stored with
  | nil => exact h
  | cons event events ih =>
      rw [applyAll]
      split
      · exact ih h
      · rw [ih (by rw [save_row]), keys_movedLeg]

theorem applyAll_stamped (now : Nat) (entity : DeliveryLegRow) (stored : Leg)
    (events : List DeliveryEventType) :
    applyAll now entity stored events = stored ∨
      (applyAll now entity stored events).updatedAt = now := by
  induction events generalizing entity stored with
  | nil => exact Or.inl rfl
  | cons event events ih =>
      rw [applyAll]
      split
      · exact ih entity stored
      · next next _ =>
          rcases ih (movedLeg entity event next now)
            (save now (movedLeg entity event next now) stored) with hsame | hnow
          · rw [hsame]
            exact save_stamped now _ stored
          · exact Or.inr hnow

theorem applyAll_status (now : Nat) {entity : DeliveryLegRow} {stored : Leg}
    (hstatus : stored.row.status = entity.status) {events : List DeliveryEventType}
    {final : DeliveryLegStatus} (h : follow entity.status events = some final) :
    (applyAll now entity stored events).row.status = final := by
  induction events generalizing entity stored with
  | nil =>
      rw [applyAll, hstatus]
      exact Option.some.inj h
  | cons event events ih =>
      obtain ⟨next, hnext, hrest⟩ := Option.bind_eq_some_iff.mp h
      rw [applyAll, hnext]
      exact ih (by rw [save_row]) (by simpa using hrest)

/-- A catch-up with an event in it moves `updatedAt`, for the status is another. -/
theorem applyAll_moves (now : Nat) {entity : DeliveryLegRow} {stored : Leg}
    (hstatus : stored.row.status = entity.status) {goal : DeliveryLegStatus}
    (hsteps : eventsToReach stored.row.status goal ≠ []) :
    (applyAll now entity stored (eventsToReach stored.row.status goal)).updatedAt = now := by
  have hfollow := follow_eventsToReach hsteps
  have hgoal : stored.row.status ≠ goal := by
    intro heq
    rw [heq] at hsteps
    exact hsteps (eventsToReach_self _)
  rcases applyAll_stamped now entity stored (eventsToReach stored.row.status goal) with h | h
  · have hreached := applyAll_status now hstatus (hstatus ▸ hfollow)
    rw [← hstatus, h] at hreached
    exact absurd hreached hgoal
  · exact h

theorem keys_after (round : Round) (now : Nat) (leg : Leg) :
    Leg.keys (after round now leg).row = Leg.keys leg.row := by
  simp only [after]
  split
  · rfl
  · split
    · split
      · rfl
      · simp only [withAnswer]
        split
        · rw [save_row]
          rfl
        · next snapshot _ _ _ _ _ =>
            have hkeys : Leg.keys leg.row = Leg.keys (withSnapshot leg.row snapshot) := rfl
            exact keys_applyAll now hkeys _
    · rfl

/-- **A sync moves its leg's `updatedAt`** when the answer is old or new to the leg. -/
theorem Moves.after (h : Moves round leg) (now : Nat) :
    (after round now leg).updatedAt = now := by
  obtain ⟨snapshot, hanswer, hcommits, hnews⟩ := h
  simp only [Reconciliation.after, hanswer, hcommits, if_true]
  split
  · rfl
  · next hfresh =>
      simp only [withAnswer]
      split
      · next hsteps =>
          rw [Bool.not_eq_true] at hfresh
          have hother : withSnapshot leg.row snapshot ≠ leg.row := by
            simpa [hfresh, hsteps] using hnews
          rw [save, if_neg hother]
      · next hsteps =>
          have hstatus : leg.row.status = (withSnapshot leg.row snapshot).status := rfl
          exact applyAll_moves now hstatus hsteps

/-- Otherwise the leg stays as it is. -/
theorem after_of_not_moves (h : ¬ Moves round leg) (now : Nat) : after round now leg = leg := by
  simp only [after]
  split
  · rfl
  · next snapshot hanswer =>
      split
      · next hcommits =>
          have hnone : isStale leg.row snapshot = false ∧
              eventsToReach leg.row.status snapshot.status = [] ∧
              withSnapshot leg.row snapshot = leg.row := by
            by_contra hnews
            refine h ⟨snapshot, hanswer, hcommits, ?_⟩
            simp only [ne_eq]
            cases hstale : isStale leg.row snapshot with
            | true => exact Or.inl rfl
            | false => exact Or.inr (not_and_or.mp fun hboth => hnews ⟨hstale, hboth⟩)
          obtain ⟨hfresh, hsteps, hsame⟩ := hnone
          simp [hfresh, withAnswer, hsteps, save, hsame]
      · rfl

/-! ## One sync -/

theorem Keyed.put {legs : List Leg} (h : Keyed legs) {leg leg' : Leg} (hleg : leg ∈ legs)
    (hkeys : Leg.keys leg'.row = Leg.keys leg.row) : Keyed (put Leg.id leg' legs) := by
  have hid : leg'.id = leg.id := congrArg Prod.fst hkeys
  have hsame : ∀ a ∈ Relational.put Leg.id leg' legs,
      ∃ a₀ ∈ legs, Leg.keys a.row = Leg.keys a₀.row := by
    intro a ha
    rcases mem_put.mp ha with ⟨rfl, -⟩ | ⟨ha, -⟩
    · exact ⟨leg, hleg, hkeys⟩
    · exact ⟨a, ha, rfl⟩
  refine ⟨h.ids.put leg', ?_⟩
  intro a ha b hb hkey hext hsome
  obtain ⟨a₀, ha₀, hka⟩ := hsame a ha
  obtain ⟨b₀, hb₀, hkb⟩ := hsame b hb
  simp only [Leg.keys, Prod.mk.injEq] at hka hkb
  obtain ⟨hia, hpa, hea⟩ := hka
  obtain ⟨hib, hpb, heb⟩ := hkb
  have hids : a₀.id = b₀.id :=
    h.externals a₀ ha₀ b₀ hb₀ (hpa ▸ hpb ▸ hkey) (hea ▸ heb ▸ hext) (hea ▸ hsome)
  exact hia.trans (hids.trans hib.symm)

theorem Keyed.find (h : Keyed w.legs) (hleg : leg ∈ w.legs) {externalId : String}
    (hext : leg.row.externalId = some externalId) :
    findByExternalId w leg.row.providerKey externalId = some leg := by
  unfold findByExternalId
  cases hfind : w.legs.find? fun l =>
      l.row.providerKey = leg.row.providerKey ∧ l.row.externalId = some externalId with
  | none =>
      have := List.find?_eq_none.mp hfind leg hleg
      simp [hext] at this
  | some found =>
      have hmem := List.mem_of_find?_eq_some hfind
      obtain ⟨hkey, hfext⟩ : found.row.providerKey = leg.row.providerKey ∧
          found.row.externalId = some externalId := by simpa using List.find?_some hfind
      have hid := h.externals found hmem leg hleg hkey (hfext.trans hext.symm) (by simp [hfext])
      rw [h.ids.eq_of_key hmem hleg hid]

/-- Replacing a leg by itself changes nothing. -/
theorem put_self {legs : List Leg} (h : Distinct Leg.id legs) (hleg : leg ∈ legs) :
    put Leg.id leg legs = legs :=
  update_eq_self fun _ hx hid => (h.eq_of_key hx hleg (of_decide_eq_true hid)).symm

/-- The courier answers for the leg it has been asked about. -/
theorem answer_externalId {snapshot : ProviderDeliverySnapshot}
    (h : answer round leg.check = some snapshot) :
    leg.row.externalId = some snapshot.externalId := by
  simp only [answer, Leg.check] at h
  split at h
  · next ask externalId hask hext =>
      split at h
      · cases h
      · split at h
        · next hok =>
            obtain rfl := Option.some.inj h
            rw [hext, round.asked _ _ _ _ hask hok]
        · cases h
  · cases h

/-- **A sync stores what it leaves of the leg**, and nothing else. -/
theorem syncLeg_eq (h : Keyed w.legs) (hleg : leg ∈ w.legs) (round : Round) :
    syncLeg round w leg.check =
      { now := w.now + round.latency leg.id
        legs := put Leg.id (after round (w.now + round.latency leg.id) leg) w.legs
        examined := leg.id :: w.examined } := by
  have hself := put_self h.ids hleg
  have hid : leg.check.id = leg.id := rfl
  cases hanswer : answer round leg.check with
  | none => simp [syncLeg, after, hanswer, hself, hid]
  | some snapshot =>
      cases hcommits : round.commits leg.id with
      | false => simp [syncLeg, after, hanswer, hself, hid, hcommits]
      | true =>
          have hfind : ∀ now examined, findByExternalId { w with now, examined }
              leg.row.providerKey snapshot.externalId = some leg :=
            fun now examined => Keyed.find (w := { w with now, examined }) h hleg
              (answer_externalId hanswer)
          have hkey : leg.check.providerKey = leg.row.providerKey := rfl
          cases hstale : isStale leg.row snapshot with
          | false =>
              simp [syncLeg, after, hanswer, hid, hcommits, syncFromSnapshot, hkey, hfind, hstale]
          | true =>
              have htouch : update (fun l => l.id = leg.id)
                  (fun l => { l with updatedAt := w.now + round.latency leg.id }) w.legs =
                  put Leg.id { leg with updatedAt := w.now + round.latency leg.id } w.legs :=
                update_key_eq_put h.ids hleg rfl
              simp [syncLeg, after, hanswer, hid, hcommits, syncFromSnapshot, hkey, hfind, hstale,
                touch, htouch]

/-! ## The whole transaction -/

section Transaction

variable {d : Routing.Deployment} {s s' : State} {entity : DeliveryLegRow}

@[simp] theorem sideEffect_now (notice : DeliveryEventNotice) (o : OrderRow) (s : State) :
    (LegMoves.sideEffect notice o s).now = s.now := by
  obtain ⟨orderId, legId, legType, providerKey, event, courierUserId, reason⟩ := notice
  cases event <;> cases courierUserId <;> rfl

/-- What an event does beside the leg leaves all legs alone. -/
theorem onDeliveryEvent_legs {notice : DeliveryEventNotice} (hf : notice.legType = .forward)
    (h : (onDeliveryEvent notice).run s = .ok ((), s')) :
    s'.legs = s.legs ∧ s'.now = s.now ∧ s'.nextId = s.nextId := by
  rcases LegMoves.onDeliveryEvent_ok hf h with ⟨rfl, -⟩ | ⟨o, o', s₁, hmoved, -, -, -, -, rfl, -⟩
  · exact ⟨rfl, rfl, rfl⟩
  · rw [Lockstep.sideEffect_legs, sideEffect_now, Lockstep.sideEffect_nextId, hmoved.frame]
    exact ⟨rfl, rfl, rfl⟩

/-- A dispatch adds one leg at most. -/
theorem dispatch_legs {orderId : Nat} {legType : DeliveryLegType} {routeTo : Option String}
    {r : Option DeliveryLegRow} (hfresh : ∀ l ∈ s.legs, l.id < s.nextId)
    (h : (dispatch d orderId legType routeTo).run s = .ok (r, s')) :
    s'.now = s.now ∧ (∃ added, s'.legs = s.legs ++ added) ∧ ∀ l ∈ s'.legs, l.id < s'.nextId := by
  have hfresh' : ∀ l ∈ s.legs, l.id ≠ s.nextId := fun l hl => (hfresh l hl).ne
  rcases LegMoves.dispatch_ok hfresh' h with ⟨_, -, -, rfl⟩ | ⟨-, ⟨-, -, rfl⟩ | hnew⟩
  · exact ⟨rfl, ⟨[], (List.append_nil _).symm⟩, hfresh⟩
  · exact ⟨rfl, ⟨[], (List.append_nil _).symm⟩, hfresh⟩
  · obtain ⟨_, _, leg, -, -, -, -, hinserted⟩ := hnew
    refine ⟨by rw [hinserted.frame], ⟨[leg], hinserted.legs⟩, ?_⟩
    intro l hl
    rw [hinserted.legs, List.mem_append, List.mem_singleton] at hl
    rw [hinserted.nextId]
    rcases hl with hl | rfl
    · exact Nat.lt_succ_of_lt (hfresh l hl)
    · rw [hinserted.id]
      exact Nat.lt_succ_self _

/-- One event saves the moved leg. -/
theorem apply_legs {event : DeliveryEventType} {r : Option DeliveryLegRow}
    (hf : entity.legType = .forward) (hfresh : ∀ l ∈ s.legs, l.id < s.nextId)
    (h : (apply d entity event none).run s = .ok (r, s')) :
    (nextLegStatus entity.status event = none ∧ r = none ∧ s' = s) ∨
      ∃ next added, nextLegStatus entity.status event = some next ∧
        r = some (movedLeg entity event next s.now) ∧ s'.now = s.now ∧
        s'.legs = put DeliveryLegRow.id (movedLeg entity event next s.now) s.legs ++ added ∧
        ∀ l ∈ s'.legs, l.id < s'.nextId := by
  rcases LegMoves.apply_ok h with hnone | ⟨next, s₁, hnext, hr, hlisten, hend⟩
  · exact Or.inl hnone
  · have hf' : (noticeOf (movedLeg entity event next s.now) event).legType = .forward := by
      simpa [noticeOf] using hf
    obtain ⟨hlegs, hnow, hid⟩ := onDeliveryEvent_legs hf' hlisten
    have hfresh₁ : ∀ l ∈ s₁.legs, l.id < s₁.nextId := by
      intro l hl
      rw [hlegs] at hl
      rw [hid]
      rcases mem_put.mp hl with ⟨rfl, y, hy, hkey⟩ | ⟨hl, -⟩
      · exact hkey ▸ hfresh y hy
      · exact hfresh l hl
    refine Or.inr ⟨next, ?_⟩
    rcases hend with ⟨-, rfl⟩ | ⟨-, r', hdispatch⟩
    · exact ⟨[], hnext, hr, hnow, by rw [hlegs, List.append_nil]; rfl, hfresh₁⟩
    · obtain ⟨hnow', ⟨added, hadded⟩, hfresh'⟩ := dispatch_legs hfresh₁ hdispatch
      exact ⟨added, hnext, hr, hnow'.trans hnow, by rw [hadded, hlegs]; rfl, hfresh'⟩

theorem map_put {legs : List Leg} (leg : Leg) :
    (put Leg.id leg legs).map Leg.row = put DeliveryLegRow.id leg.row (legs.map Leg.row) := by
  simp only [put, update, List.map_map]
  exact List.map_congr_left fun l _ => apply_ite Leg.row _ leg l

/-- The catch-up of the whole transaction saves the leg as the one here does. -/
theorem applyAll_legs {legs : List Leg} {stored : Leg} {events : List DeliveryEventType}
    (hf : entity.legType = .forward) (hfresh : ∀ l ∈ s.legs, l.id < s.nextId)
    (hid : stored.id = entity.id) (hstored : put Leg.id stored legs = legs)
    (hlegs : ∃ added, s.legs = legs.map Leg.row ++ added)
    (h : (Logistics.applyAll d entity events).run s = .ok ((), s')) :
    ∃ added, s'.legs =
      (put Leg.id (applyAll s.now entity stored events) legs).map Leg.row ++ added := by
  induction events generalizing s entity stored legs with
  | nil =>
      cases h
      rwa [applyAll, hstored]
  | cons event events ih =>
      obtain ⟨added, hadded⟩ := hlegs
      obtain ⟨r, s₁, happly, hrest⟩ := Tx.run_bind_eq_ok.mp h
      rcases apply_legs hf hfresh happly with
        ⟨hnone, rfl, rfl⟩ | ⟨next, added', hnext, rfl, hnow, hlegs', hfresh'⟩
      · rw [applyAll, hnone]
        exact ih hf hfresh hid hstored ⟨added, hadded⟩ hrest
      · have hmoved : put DeliveryLegRow.id (movedLeg entity event next s.now) (legs.map Leg.row) =
            (put Leg.id (save s.now (movedLeg entity event next s.now) stored) legs).map
              Leg.row := by
          rw [map_put, save_row]
        have hsaved : (save s.now (movedLeg entity event next s.now) stored).id =
            (movedLeg entity event next s.now).id := by
          rw [Leg.id, save_row]
        have hlegs₁ : ∃ added, s₁.legs =
            (put Leg.id (save s.now (movedLeg entity event next s.now) stored) legs).map Leg.row ++
              added := by
          refine ⟨put DeliveryLegRow.id (movedLeg entity event next s.now) added ++ added', ?_⟩
          rw [hlegs', hadded, ← hmoved, ← List.append_assoc]
          congr 1
          exact List.map_append
        have hrest' := ih (by simpa using hf) hfresh' hsaved (put_put rfl) hlegs₁ hrest
        have hkeys : Leg.keys (save s.now (movedLeg entity event next s.now) stored).row =
            Leg.keys (movedLeg entity event next s.now) := by
          rw [save_row]
        have hlast : (applyAll s.now (movedLeg entity event next s.now)
            (save s.now (movedLeg entity event next s.now) stored) events).id =
            (movedLeg entity event next s.now).id :=
          congrArg Prod.fst (keys_applyAll s.now hkeys events)
        rw [hnow, put_put (hlast.trans hsaved.symm)] at hrest'
        simp only [applyAll, hnext]
        exact hrest'

/-- **The reconciler's part of the transaction** is the whole transaction, as far as
the legs go; a leg that it has cancelled may be followed by a new one. -/
theorem syncFromSnapshot_legs {w : World} {providerKey : String}
    {snapshot : ProviderDeliverySnapshot} {changed : Bool} (hs : Soundness.Sound s)
    (hnow : s.now = w.now) (hlegs : s.legs = w.legs.map Leg.row)
    (h : (Logistics.syncFromSnapshot d providerKey snapshot).run s = .ok (changed, s')) :
    changed = (syncFromSnapshot w providerKey snapshot).1 ∧
      ∃ added, s'.legs =
        (syncFromSnapshot w providerKey snapshot).2.legs.map Leg.row ++ added := by
  have hfound : Logistics.findByExternalId s providerKey snapshot.externalId =
      (findByExternalId w providerKey snapshot.externalId).map Leg.row := by
    rw [Logistics.findByExternalId, hlegs, List.find?_map]
    rfl
  rw [Logistics.syncFromSnapshot, Tx.run_read_bind, hfound] at h
  rw [syncFromSnapshot]
  cases hfind : findByExternalId w providerKey snapshot.externalId with
  | none =>
      simp only [hfind, Option.map_none] at h
      cases h
      exact ⟨rfl, [], by simp [hlegs]⟩
  | some leg =>
      simp only [hfind, Option.map_some] at h
      have hleg : leg ∈ w.legs := List.mem_of_find?_eq_some hfind
      have hrow : leg.row ∈ s.legs := hlegs ▸ List.mem_map_of_mem hleg
      have hids : Distinct Leg.id w.legs := by
        have := hs.legIds
        rwa [hlegs, Distinct, List.map_map] at this
      cases hstale : isStale leg.row snapshot with
      | true =>
          simp only [hstale, if_true] at h ⊢
          cases h
          exact ⟨rfl, [], by simp [hlegs]⟩
      | false =>
          simp only [hstale, Bool.false_eq_true, if_false, withAnswer] at h ⊢
          cases hsteps : eventsToReach leg.row.status snapshot.status with
          | nil =>
              simp only [hsteps] at h
              cases h
              refine ⟨rfl, [], ?_⟩
              rw [map_put, save_row, List.append_nil, ← hlegs]
              rfl
          | cons event events =>
              simp only [hsteps] at h
              obtain ⟨_, s₁, hall, hret⟩ := Tx.run_bind_eq_ok.mp h
              cases hret
              have hentity : (withSnapshot leg.row snapshot).legType = .forward :=
                hs.forward leg.row hrow
              have hstored := put_self hids hleg
              have hcatch := applyAll_legs hentity hs.legIds_lt rfl hstored
                ⟨[], hlegs.trans (List.append_nil _).symm⟩ hall
              rw [hnow] at hcatch
              exact ⟨rfl, hcatch⟩

end Transaction

/-! ## One batch -/

/-- The legs that were stale at `start` already, in the order of the query. -/
def front (start : Nat) (legs : List Leg) : List Leg :=
  (legs.filter (isQuiet start)).insertionSort byUpdatedAt

instance : IsTrans Leg byUpdatedAt := ⟨fun _ _ _ => Nat.le_trans⟩
instance : Std.Total byUpdatedAt := ⟨fun a b => Nat.le_total a.updatedAt b.updatedAt⟩

theorem not_quiet_of_le {start : Nat} (h : start ≤ leg.updatedAt) : isQuiet start leg = false := by
  have hlate : ¬ leg.updatedAt + STALE_AFTER_MINUTES * minute < start := by
    omega
  simp [isQuiet, hlate]

/-- A leg that is stored with a new `updatedAt` leaves the front. -/
theorem front_put {legs : List Leg} {leg leg' : Leg} {start : Nat} (hid : leg'.id = leg.id)
    (hnow : start ≤ leg'.updatedAt) :
    front start (put Leg.id leg' legs) = (front start legs).filter fun l => l.id ≠ leg.id := by
  have hlose : ∀ l ∈ legs, decide (l.id = leg'.id) = true → isQuiet start leg' = false :=
    fun _ _ _ => not_quiet_of_le hnow
  rw [front, put, filter_update_of_lose hlose, front, Queues.filter_insertionSort]
  congr 2
  funext l
  simp [hid]

/-- What syncing `batch` does to the world. -/
structure Served (round : Round) (batch : List Leg) (w w' : World) : Prop where
  keyed : Keyed w'.legs
  later : w.now ≤ w'.now
  examined : ∀ id, id ∈ w'.examined ↔ id ∈ batch.map Leg.id ∨ id ∈ w.examined
  others : ∀ a ∈ w.legs, a.id ∉ batch.map Leg.id → a ∈ w'.legs
  stuck : ∀ a ∈ batch, ¬ Moves round a → a ∈ w'.legs
  kept : ∀ a ∈ w'.legs, a.id ∉ batch.map Leg.id → a ∈ w.legs
  moved : (∀ l ∈ batch, Moves round l) → ∀ a ∈ w'.legs, a.id ∈ batch.map Leg.id →
    w.now ≤ a.updatedAt
  front : (∀ l ∈ batch, Moves round l) → ∀ start, start ≤ w.now →
    front start w'.legs = (front start w.legs).filter fun l => l.id ∉ batch.map Leg.id

theorem served_sync (h : Keyed w.legs) (hleg : leg ∈ w.legs) (round : Round) :
    Served round [leg] w (syncLeg round w leg.check) := by
  have hkeys := keys_after round (w.now + round.latency leg.id) leg
  have hid : (after round (w.now + round.latency leg.id) leg).id = leg.id :=
    congrArg Prod.fst hkeys
  have hkeyed := h.put hleg hkeys
  have hself : after round (w.now + round.latency leg.id) leg ∈
      put Leg.id (after round (w.now + round.latency leg.id) leg) w.legs :=
    mem_put.mpr (Or.inl ⟨rfl, leg, hleg, hid.symm⟩)
  rw [syncLeg_eq h hleg round]
  refine ⟨hkeyed, Nat.le_add_right _ _, by simp, ?_, ?_, ?_, ?_, ?_⟩
  · intro a ha hnot
    refine mem_put.mpr (Or.inr ⟨ha, ?_⟩)
    simpa [hid] using hnot
  · intro a ha hstuck
    obtain rfl := List.mem_singleton.mp ha
    rwa [after_of_not_moves hstuck] at hself ⊢
  · intro a ha hnot
    rcases mem_put.mp ha with ⟨rfl, -⟩ | ⟨ha, -⟩
    · simp [hid] at hnot
    · exact ha
  · intro hall a ha hin
    have hmoves := (hall leg List.mem_cons_self).after (w.now + round.latency leg.id)
    have haid : a.id = leg.id := by simpa using hin
    rw [hkeyed.ids.eq_of_key ha hself (haid.trans hid.symm), hmoves]
    exact Nat.le_add_right _ _
  · intro hall start hstart
    have hmoves := (hall leg List.mem_cons_self).after (w.now + round.latency leg.id)
    have hlate : start ≤ (after round (w.now + round.latency leg.id) leg).updatedAt := by
      omega
    simpa using front_put hid hlate

theorem Served.cons {w₁ w₂ : World} {batch : List Leg} (h : Served round [leg] w w₁)
    (h' : Served round batch w₁ w₂) (hfree : leg.id ∉ batch.map Leg.id) :
    Served round (leg :: batch) w w₂ := by
  refine ⟨h'.keyed, h.later.trans h'.later, ?_, ?_, ?_, ?_, ?_, ?_⟩
  · intro id
    rw [h'.examined, h.examined]
    simp only [List.map_cons, List.map_nil, List.mem_cons, List.not_mem_nil, or_false]
    tauto
  · intro a ha hnot
    simp only [List.map_cons, List.mem_cons, not_or] at hnot
    exact h'.others a (h.others a ha (by simpa using hnot.1)) hnot.2
  · intro a ha hstuck
    rcases List.mem_cons.mp ha with rfl | ha
    · exact h'.others a (h.stuck a List.mem_cons_self hstuck) hfree
    · exact h'.stuck a ha hstuck
  · intro a ha hnot
    simp only [List.map_cons, List.mem_cons, not_or] at hnot
    exact h.kept a (h'.kept a ha hnot.2) (by simpa using hnot.1)
  · intro hall a ha hin
    obtain ⟨hleg, hbatch⟩ := List.forall_mem_cons.mp hall
    by_cases hlater : a.id ∈ batch.map Leg.id
    · exact h.later.trans (h'.moved hbatch a ha hlater)
    · have haid : a.id = leg.id := (List.mem_cons.mp hin).resolve_right hlater
      exact h.moved (by simpa using hleg) a (h'.kept a ha hlater) (by simp [haid])
  · intro hall start hstart
    obtain ⟨hleg, hbatch⟩ := List.forall_mem_cons.mp hall
    rw [h'.front hbatch start (hstart.trans h.later), h.front (by simpa using hleg) start hstart,
      List.filter_filter]
    congr 1
    funext l
    simp [Bool.and_comm]

theorem served_foldl (h : Keyed w.legs) {batch : List Leg} (hbatch : ∀ l ∈ batch, l ∈ w.legs)
    (hnodup : (batch.map Leg.id).Nodup) (round : Round) :
    Served round batch w ((batch.map Leg.check).foldl (syncLeg round) w) := by
  induction batch generalizing w with
  | nil =>
      refine ⟨h, Nat.le_refl _, by simp, fun a ha _ => ha, by simp, fun a ha _ => ha, by simp, ?_⟩
      intro _ start _
      simp
  | cons leg batch ih =>
      obtain ⟨hfree, hnodup'⟩ := List.nodup_cons.mp hnodup
      have hfirst := served_sync h (hbatch leg List.mem_cons_self) round
      have hbatch' : ∀ l ∈ batch, l ∈ (syncLeg round w leg.check).legs := by
        intro l hl
        refine hfirst.others l (hbatch l (List.mem_cons_of_mem _ hl)) ?_
        intro hsame
        have hid : l.id = leg.id := by simpa using hsame
        exact hfree (hid ▸ List.mem_map_of_mem hl)
      exact hfirst.cons (ih hfirst.keyed hbatch' hnodup') hfree

/-! ## One run -/

theorem mem_front {start : Nat} {legs : List Leg} :
    leg ∈ front start legs ↔ leg ∈ legs ∧ isQuiet start leg = true := by
  rw [front, List.mem_insertionSort, List.mem_filter]

theorem lt_of_quiet {start : Nat} (h : isQuiet start leg = true) :
    leg.updatedAt + STALE_AFTER_MINUTES * minute < start := by
  simp only [isQuiet, Bool.and_eq_true, decide_eq_true_eq] at h
  exact h.2

theorem front_nodup (start : Nat) {legs : List Leg} (h : Keyed legs) :
    ((front start legs).map Leg.id).Nodup := by
  have hperm := (List.perm_insertionSort byUpdatedAt (legs.filter (isQuiet start))).map Leg.id
  exact hperm.nodup_iff.mpr (h.ids.filter _)

/-- Whatever was stale at `start` comes first in the order of every later query. -/
theorem staleLegs_split {start : Nat} (h : start ≤ w.now) :
    ∃ rest, staleLegs w = front start w.legs ++ rest := by
  have hdown : ∀ a b : Leg, byUpdatedAt a b →
      decide (b.updatedAt + STALE_AFTER_MINUTES * minute < start) = true →
      decide (a.updatedAt + STALE_AFTER_MINUTES * minute < start) = true := by
    intro a b hab hb
    simp only [byUpdatedAt, decide_eq_true_eq] at hab hb ⊢
    omega
  have hsorted : (staleLegs w).Pairwise byUpdatedAt := List.pairwise_insertionSort _ _
  have hsplit := Queues.eq_filter_append hdown hsorted
  have hfront : ((staleLegs w).filter fun l =>
      decide (l.updatedAt + STALE_AFTER_MINUTES * minute < start)) = front start w.legs := by
    rw [staleLegs, Queues.filter_insertionSort, List.filter_filter, front]
    congr 2
    funext l
    by_cases hl : l.updatedAt + STALE_AFTER_MINUTES * minute < start
    · have hl' : l.updatedAt + STALE_AFTER_MINUTES * minute < w.now := by
        omega
      simp [isQuiet, hl, hl']
    · simp [isQuiet, hl]
  rw [hfront] at hsplit
  exact ⟨_, hsplit⟩

/-- The legs that were stale at `start` and have not been examined are the front. -/
structure Phase (start : Nat) (stale : List Leg) (w : World) : Prop where
  keyed : Keyed w.legs
  begun : start ≤ w.now
  waiting : ∀ l ∈ front start w.legs, l.id ∈ stale.map Leg.id ∧ l.id ∉ w.examined
  rest : ∀ id ∈ stale.map Leg.id, id ∉ w.examined → ∃ l ∈ front start w.legs, l.id = id
  served : ∀ a ∈ w.legs, a.id ∈ w.examined → start ≤ a.updatedAt

variable {start : Nat} {stale : List Leg}

theorem Phase.behind (h : Phase start stale w) : Behind stale w := by
  intro a ha haexamined b hb hbstale hbnot
  have hlate := h.served a ha haexamined
  obtain ⟨l, hl, hid⟩ := h.rest b.id hbstale hbnot
  obtain ⟨hmem, hquiet⟩ := mem_front.mp hl
  have hearly := lt_of_quiet hquiet
  rw [h.keyed.ids.eq_of_key hmem hb hid] at hearly
  omega

theorem behind_of_examined (h : ∀ leg ∈ stale, leg.id ∈ w.examined) : Behind stale w := by
  intro a _ _ b _ hbstale hbnot
  obtain ⟨l, hl, hid⟩ := List.mem_map.mp hbstale
  exact absurd (hid ▸ h l hl) hbnot

/-- The run serves the first batch of the query. -/
theorem Phase.served_run (h : Phase start stale w) (round : Round) :
    Served round ((staleLegs w).take BATCH_SIZE) w
      ((pollStale w).foldl (syncLeg round) w) := by
  refine served_foldl h.keyed ?_ ?_ round
  · intro l hl
    exact (mem_front.mp (List.mem_of_mem_take hl)).1
  · exact List.Nodup.sublist ((List.take_sublist _ _).map _) (front_nodup _ h.keyed)

theorem Phase.batch (h : Phase start stale w) (hlong : BATCH_SIZE ≤ (front start w.legs).length) :
    (staleLegs w).take BATCH_SIZE = (front start w.legs).take BATCH_SIZE := by
  obtain ⟨rest, hrest⟩ := staleLegs_split h.begun
  rw [hrest, List.take_append_of_le_length hlong]

/-- **A run whose legs all move** takes a batch off the front. -/
theorem Phase.step (h : Phase start stale w)
    (hlong : BATCH_SIZE ≤ (front start w.legs).length)
    (hmoves : ∀ l ∈ (front start w.legs).take BATCH_SIZE, Moves round l) :
    Phase start stale (reconcile w round) ∧
      front start (reconcile w round).legs = (front start w.legs).drop BATCH_SIZE := by
  have hserved := h.served_run round
  rw [h.batch hlong] at hserved
  have hdrop := Queues.drop_eq_filter (front_nodup start h.keyed) BATCH_SIZE
  have hfront : front start (reconcile w round).legs = (front start w.legs).drop BATCH_SIZE :=
    (hserved.front hmoves start h.begun).trans hdrop.symm
  refine ⟨⟨hserved.keyed, ?_, ?_, ?_, ?_⟩, hfront⟩
  · have hlater := hserved.later
    have hbegun := h.begun
    simp only [reconcile]
    omega
  · intro l hl
    rw [hfront, hdrop, List.mem_filter, decide_eq_true_eq] at hl
    obtain ⟨hstale, hnot⟩ := h.waiting l hl.1
    refine ⟨hstale, fun hin => ?_⟩
    rcases (hserved.examined l.id).mp hin with hin | hin
    · exact hl.2 hin
    · exact hnot hin
  · intro id hid hnot
    have hbatch : id ∉ ((front start w.legs).take BATCH_SIZE).map Leg.id :=
      fun hin => hnot ((hserved.examined id).mpr (Or.inl hin))
    have hbefore : id ∉ w.examined := fun hin => hnot ((hserved.examined id).mpr (Or.inr hin))
    obtain ⟨l, hl, rfl⟩ := h.rest id hid hbefore
    refine ⟨l, ?_, rfl⟩
    rw [hfront, hdrop, List.mem_filter, decide_eq_true_eq]
    exact ⟨hl, hbatch⟩
  · intro a ha hin
    by_cases hbatch : a.id ∈ ((front start w.legs).take BATCH_SIZE).map Leg.id
    · exact h.begun.trans (hserved.moved hmoves a ha hbatch)
    · have hbefore := ((hserved.examined a.id).mp hin).resolve_left hbatch
      exact h.served a (hserved.kept a ha hbatch) hbefore

/-- A run that serves the whole front has examined every leg. -/
theorem Phase.last (h : Phase start stale w) (round : Round)
    (hshort : (front start w.legs).length ≤ BATCH_SIZE) :
    ∀ leg ∈ stale, leg.id ∈ (reconcile w round).examined := by
  intro leg hleg
  have hserved := h.served_run round
  refine (hserved.examined leg.id).mpr ?_
  by_cases hbefore : leg.id ∈ w.examined
  · exact Or.inr hbefore
  · obtain ⟨l, hl, hid⟩ := h.rest leg.id (List.mem_map_of_mem hleg) hbefore
    obtain ⟨rest, hrest⟩ := staleLegs_split h.begun
    refine Or.inl (hid ▸ List.mem_map_of_mem ?_)
    rw [hrest, List.take_append]
    refine List.mem_append_left _ ?_
    rw [List.take_of_length_le hshort]
    exact hl

/-- **A leg that does not move** stays in front of one that the run has left out. -/
theorem Phase.overtaken (h : Phase start stale w)
    (hlong : BATCH_SIZE < (front start w.legs).length) {leg : Leg}
    (hleg : leg ∈ (front start w.legs).take BATCH_SIZE) (hstuck : ¬ Moves round leg) :
    ¬ Behind stale (reconcile w round) := by
  have hserved := h.served_run round
  rw [h.batch hlong.le] at hserved
  have hsorted : (front start w.legs).Pairwise byUpdatedAt := List.pairwise_insertionSort _ _
  obtain ⟨next, hnext⟩ : ∃ next, next ∈ (front start w.legs).drop BATCH_SIZE :=
    List.exists_mem_of_length_pos (by rw [List.length_drop]; omega)
  have hfree : next ∈ front start w.legs ∧
      next.id ∉ ((front start w.legs).take BATCH_SIZE).map Leg.id := by
    have hdrop := Queues.drop_eq_filter (front_nodup start h.keyed) BATCH_SIZE
    rw [hdrop, List.mem_filter, decide_eq_true_eq] at hnext
    exact hnext
  have hbefore : leg.updatedAt ≤ next.updatedAt := by
    rw [← List.take_append_drop BATCH_SIZE (front start w.legs), List.pairwise_append] at hsorted
    exact hsorted.2.2 leg hleg next hnext
  obtain ⟨hstale, hnot⟩ := h.waiting next hfree.1
  have hexamined : leg.id ∈ (reconcile w round).examined :=
    (hserved.examined leg.id).mpr (Or.inl (List.mem_map_of_mem hleg))
  have hwaits : next.id ∉ (reconcile w round).examined := by
    intro hin
    exact hnot (((hserved.examined next.id).mp hin).resolve_left hfree.2)
  intro hbehind
  have hlt := hbehind leg (hserved.stuck leg hleg hstuck) hexamined next
    (hserved.others next (mem_front.mp hfree.1).1 hfree.2) hstale hwaits
  omega

/-! ## All runs -/

theorem Phase.rotates_iff {rounds : List Round} (h : Phase start stale w)
    (hlength : rounds.length = Queues.roundsFor BATCH_SIZE (front start w.legs).length) :
    (Runs.Always reconcile (Behind stale) w rounds ∧
      ∀ leg ∈ stale, leg.id ∈ (Runs.run reconcile w rounds).examined) ↔
      Queues.AllGo BATCH_SIZE Moves (front start w.legs) rounds := by
  have hB : 0 < BATCH_SIZE := by decide
  induction rounds generalizing w with
  | nil =>
      have hnone : front start w.legs = [] := by
        by_contra hne
        have hpos := Queues.roundsFor_pos hB (List.length_pos_iff.mpr hne)
        rw [← hlength] at hpos
        exact absurd hpos (Nat.lt_irrefl 0)
      constructor
      · intro _ i a e hi
        simp at hi
      · intro _
        refine ⟨h.behind, fun leg hleg => ?_⟩
        by_contra hnot
        obtain ⟨l, hl, -⟩ := h.rest leg.id (List.mem_map_of_mem hleg) hnot
        rw [hnone] at hl
        cases hl
  | cons round rounds ih =>
      by_cases hshort : (front start w.legs).length ≤ BATCH_SIZE
      · have hone := Queues.roundsFor_le_one hB hshort
        rw [← hlength, List.length_cons] at hone
        obtain rfl : rounds = [] := List.length_eq_zero_iff.mp (by omega)
        have hlast := h.last round hshort
        constructor
        · intro _
          exact Queues.allGo_single round
        · intro _
          exact ⟨⟨h.behind, behind_of_examined hlast⟩, hlast⟩
      · have hlong : BATCH_SIZE < (front start w.legs).length := Nat.lt_of_not_le hshort
        obtain ⟨hrest, round', rounds', rfl⟩ := Queues.rounds_of_long hB hlong hlength
        rw [Queues.allGo_cons hB]
        constructor
        · rintro ⟨⟨-, halways⟩, hall⟩
          have hmoves : ∀ l ∈ (front start w.legs).take BATCH_SIZE, Moves round l := by
            intro l hl
            by_contra hstuck
            exact h.overtaken hlong hl hstuck halways.head
          obtain ⟨h', hfront⟩ := h.step hlong.le hmoves
          refine ⟨hmoves, ?_⟩
          rw [← hfront] at hrest ⊢
          exact (ih h' hrest).mp ⟨halways, hall⟩
        · rintro ⟨hmoves, hgo⟩
          obtain ⟨h', hfront⟩ := h.step hlong.le hmoves
          rw [← hfront] at hrest hgo
          obtain ⟨halways, hall⟩ := (ih h' hrest).mpr hgo
          exact ⟨⟨h.behind, halways⟩, hall⟩

/-- **Every stale leg has its turn** just when the legs before the last batch all
move in the run that examines them. -/
theorem stale_legs_rotate_iff (now : Nat) (legs : List Leg) (rounds : List Round)
    (h : Keyed legs)
    (hlength : rounds.length =
      Queues.roundsFor BATCH_SIZE (staleLegs ⟨now, legs, []⟩).length) :
    Rotates ⟨now, legs, []⟩ rounds ↔
      ∀ i leg round, i < BATCH_SIZE * (rounds.length - 1) →
        (staleLegs ⟨now, legs, []⟩)[i]? = some leg → rounds[i / BATCH_SIZE]? = some round →
        Moves round leg := by
  have hphase : Phase now (staleLegs ⟨now, legs, []⟩) ⟨now, legs, []⟩ := by
    refine ⟨h, Nat.le_refl now, ?_, ?_, ?_⟩
    · intro l hl
      exact ⟨List.mem_map_of_mem hl, by simp⟩
    · intro id hid _
      exact List.mem_map.mp hid
    · intro a _ hin
      cases hin
  exact hphase.rotates_iff hlength

def demoLeg (i : Nat) : Leg where
  row := { newLeg i .forward "courier" .assigned 1 none none with
    id := i
    externalId := some (toString i)
    providerStatus := some "assigned" }
  updatedAt := i

def demoLegs : List Leg := (List.range 51).map demoLeg

theorem demoLegs_keyed : Keyed demoLegs := ⟨by decide +kernel, by decide +kernel⟩

def demoSnapshot (externalId : String) (status : DeliveryLegStatus) (sequence : Option Int) :
    ProviderDeliverySnapshot where
  externalId := externalId
  status := status
  providerStatus := "assigned"
  sequence := sequence
  courier := none
  trackingUrl := none
  actualKobo := none
  surchargeKobo := none
  failureReason := none

/-- Every delivery is as `status` and `sequence` have it. -/
def demoRound (status : String → DeliveryLegStatus) (sequence : Option Int) : Round where
  getDelivery := fun _ => some fun externalId =>
    .ok (demoSnapshot externalId (status externalId) sequence)
  asked := by
    intro _ ask externalId snapshot hask hok
    obtain rfl := Option.some.inj hask
    obtain rfl := Except.ok.inj hok
    rfl
  commits := fun _ => true
  latency := fun _ => 1000
  pause := 180000

/-- Nothing but a sequence is new. -/
def numbered : Round := demoRound (fun _ => .assigned) (some 1)

/-- No sequence, and only the last delivery has been picked up. -/
def unnumbered : Round :=
  demoRound (fun externalId => if externalId = "50" then .pickedUp else .assigned) none

theorem numbered_rotates :
    Rotates ⟨1000000, demoLegs, []⟩ [numbered, numbered] ∧
      ∀ i leg round, i < BATCH_SIZE * 1 →
        (staleLegs ⟨1000000, demoLegs, []⟩)[i]? = some leg →
        [numbered, numbered][i / BATCH_SIZE]? = some round → Moves round leg := by
  have hrotates : Rotates ⟨1000000, demoLegs, []⟩ [numbered, numbered] := by
    decide +kernel
  refine ⟨hrotates, ?_⟩
  exact (stale_legs_rotate_iff 1000000 demoLegs [numbered, numbered] demoLegs_keyed
    (by decide +kernel)).mp hrotates

/-- The courier's answers for 50 legs have no sequence and nothing new. The first
run leaves them in front of the last leg, which is not examined in the second. -/
theorem unnumbered_starves :
    Keyed demoLegs ∧ Queues.roundsFor BATCH_SIZE (staleLegs ⟨1000000, demoLegs, []⟩).length = 2 ∧
      ¬ Behind (staleLegs ⟨1000000, demoLegs, []⟩) (reconcile ⟨1000000, demoLegs, []⟩ unnumbered) ∧
      (∃ leg ∈ staleLegs ⟨1000000, demoLegs, []⟩, leg.id ∉
        (Runs.run reconcile ⟨1000000, demoLegs, []⟩ [unnumbered, unnumbered]).examined) ∧
      ¬ Rotates ⟨1000000, demoLegs, []⟩ [unnumbered, unnumbered] := by
  have hleft : ∃ leg ∈ staleLegs ⟨1000000, demoLegs, []⟩, leg.id ∉
      (Runs.run reconcile ⟨1000000, demoLegs, []⟩ [unnumbered, unnumbered]).examined := by
    decide +kernel
  refine ⟨demoLegs_keyed, by decide +kernel, by decide +kernel, hleft, ?_⟩
  rintro ⟨-, hall⟩
  obtain ⟨leg, hleg, hnot⟩ := hleft
  exact hnot (hall leg hleg)

end Locoomo.Reconciliation
