import Mathlib.Algebra.Order.Round
import Locoomo.Counters
import Locoomo.Routing

/-! Road distances between Nodes. A courier measures them between two pins; a
Node that is moved has its measurements deleted, in a statement of its own after
the save. A measurement asks the courier between the read of the pins and the
write of the distance. -/

namespace Locoomo.RouteDistances

open Locoomo.Edits Locoomo.Routing Relational Ledgers

/-! ## Rows -/

/-- A row of `node_route_distances`, and the pins it was measured between. -/
structure RouteRow where
  originNodeId : Nat
  destinationNodeId : Nat
  roadDistanceMeters : Int
  source : String
  measured : Coordinates × Coordinates
  deriving DecidableEq

structure RoutePoint where
  pin : Coordinates
  address : String
  city : String
  deriving DecidableEq

structure NodePair where
  originNodeId : Nat
  destinationNodeId : Nat
  origin : RoutePoint
  destination : RoutePoint
  deriving DecidableEq

def PAIRS_PER_RUN : Nat := 20

/-! ## Calls -/

/-- `syncLocation`, from the save of its update on: the column `location` is
written, then the distances are deleted. -/
inductive Sync
  | locating (nodeId : Nat) (pin : Coordinates)
  | dropping (nodeId : Nat)
  deriving DecidableEq

def Sync.nodeId : Sync → Nat
  | .locating nodeId _ => nodeId
  | .dropping nodeId => nodeId

/-- A measurement between two of its statements: `submit` asks for a delivery,
`measureChunk` for one of its pairs after the other. -/
inductive Job
  | submitting (providerKey : String) (pair : NodePair)
  | measuring (providerKey : String) (pair : NodePair) (rest : List NodePair)
  | recording (providerKey : String) (pair : NodePair) (distanceMeters : ℚ) (rest : List NodePair)
  | ended
  deriving DecidableEq

/-- What a courier is asked comes back with, a refusal of a delivery included:
a distance, none, or an exception. -/
inductive Outcome
  | distance (distanceMeters : Option ℚ)
  | failed
  deriving DecidableEq

/-- The Nodes with their updates up to the save, and with what follows it. -/
structure World where
  edits : Edits.World
  locations : List (Nat × Coordinates)
  providers : List ProviderRoutingConfig
  syncs : List Sync
  routes : List RouteRow
  jobs : List Job

/-- `submit` reads the two stops of its leg, whichever they are. -/
inductive Action
  | edit (a : Edits.Action)
  | locate (nodeId : Nat) (pin : Coordinates)
  | drop (nodeId : Nat)
  | submit (providerKey : String) (pickupNodeId dropoffNodeId : Nat)
  | measureChunk (providerKey : String) (includePending : Bool) (offset : Nat)
  | answered (i : Nat) (outcome : Outcome)
  | record (i : Nat)
  deriving DecidableEq

/-! ## Reads -/

def pinOf (node : NodeRow) : Coordinates := ⟨node.latitude, node.longitude⟩

def pin (w : World) (nodeId : Nat) : Option Coordinates :=
  (get NodeRow.id nodeId (rows w.edits.nodes)).map pinOf

def pointOf (node : NodeRow) : RoutePoint := ⟨pinOf node, node.address, node.city⟩

-- great-circle distances: the pin check's, and the database's
variable (distanceMeters stDistance : Coordinates → Coordinates → ℚ)

/-- `ST_Distance(a.location, b.location)` within the bounds; a `NULL` bound is none. -/
def withinLimits (w : World) (providerKey : String) (a b : NodeRow) : Bool :=
  let config := w.providers.find? fun p => p.key = providerKey
  let meters :=
    (w.locations.lookup a.id).bind fun x => (w.locations.lookup b.id).map (stDistance x)
  (match config.bind ProviderRoutingConfig.minDistanceKm with
    | none => true
    | some km => meters.any fun m => (km : ℚ) * 1000 ≤ m)
  && (match config.bind ProviderRoutingConfig.maxDistanceKm with
    | none => true
    | some km => meters.any fun m => m ≤ (km : ℚ) * 1000)

def pairs (w : World) (providerKey : String) (includePending : Bool) : List NodePair :=
  let listed := (rows w.edits.nodes).filter fun n =>
    n.status = .active ∨ includePending ∧ n.status = .pending
  let nodes := listed.mergeSort fun a b => a.id ≤ b.id
  nodes.flatMap fun a =>
    (nodes.filter fun b => b.id ≠ a.id ∧ withinLimits stDistance w providerKey a b).map fun b =>
      ⟨a.id, b.id, pointOf a, pointOf b⟩

/-- `buildRequest`; a stop that is missing throws. -/
def stops (w : World) (pickupNodeId dropoffNodeId : Nat) : Option NodePair := do
  let pickup ← get NodeRow.id pickupNodeId (rows w.edits.nodes)
  let dropoff ← get NodeRow.id dropoffNodeId (rows w.edits.nodes)
  some ⟨pickupNodeId, dropoffNodeId, pointOf pickup, pointOf dropoff⟩

/-! ## Steps -/

/-- The next pair of a chunk. -/
def next (providerKey : String) : List NodePair → Job
  | [] => .ended
  | pair :: rest => .measuring providerKey pair rest

/-- A delivery's distance of `0` counts as none. -/
def Job.after (outcome : Outcome) : Job → Job
  | .submitting providerKey pair =>
      match outcome with
      | .distance (some meters) =>
          if meters = 0 then .ended else .recording providerKey pair meters []
      | _ => .ended
  | .measuring providerKey pair rest =>
      match outcome with
      | .distance (some meters) => .recording providerKey pair meters rest
      | _ => next providerKey rest
  | job => job

def moves (dto : UpdateNodeDto) : Bool := dto.latitude.isSome || dto.longitude.isSome

/-- The updates here are those that move a Node. -/
def edit (w : World) (a : Edits.Action) : World :=
  let edited := { w with edits := Edits.exec distanceMeters w.edits a }
  match a with
  | .update _ dto => if moves dto then edited else w
  | .write i =>
      match w.edits.calls[i]? with
      | some (.nodeWriting saved _) =>
          { edited with syncs := w.syncs ++ [.locating saved.id (pinOf saved)] }
      | _ => edited
  | _ => edited

/-- `ON CONFLICT … DO UPDATE`: one row for each direction. -/
def record (routes : List RouteRow) (pair : NodePair) (meters : ℚ) (source : String) :
    List RouteRow :=
  (routes.filter fun r =>
    !(decide (r.originNodeId = pair.originNodeId) &&
      decide (r.destinationNodeId = pair.destinationNodeId))) ++
    [{ originNodeId := pair.originNodeId
       destinationNodeId := pair.destinationNodeId
       roadDistanceMeters := round meters
       source
       measured := (pair.origin.pin, pair.destination.pin) }]

def exec (w : World) : Action → World
  | .edit a => edit distanceMeters w a
  | .locate nodeId pin =>
      if .locating nodeId pin ∈ w.syncs then
        { w with
          locations := update (fun l => l.1 = nodeId) (fun l => (l.1, pin)) w.locations
          syncs := .dropping nodeId :: w.syncs.erase (.locating nodeId pin) }
      else w
  | .drop nodeId =>
      if .dropping nodeId ∈ w.syncs then
        { w with
          routes := w.routes.filter fun r =>
            !(decide (r.originNodeId = nodeId) || decide (r.destinationNodeId = nodeId))
          syncs := w.syncs.erase (.dropping nodeId) }
      else w
  | .submit providerKey pickupNodeId dropoffNodeId =>
      match stops w pickupNodeId dropoffNodeId with
      | none => w
      | some pair => { w with jobs := w.jobs ++ [.submitting providerKey pair] }
  | .measureChunk providerKey includePending offset =>
      let chunk := ((pairs stDistance w providerKey includePending).drop offset).take PAIRS_PER_RUN
      { w with jobs := w.jobs ++ [next providerKey chunk] }
  | .answered i outcome =>
      match w.jobs[i]? with
      | none => w
      | some job => { w with jobs := w.jobs.set i (job.after outcome) }
  | .record i =>
      match w.jobs[i]? with
      | some (.recording source pair meters rest) =>
          { w with
            routes := record w.routes pair meters source
            jobs := w.jobs.set i (next source rest) }
      | _ => w

/-! ## The property -/

/-- Measured between the pins the two Nodes have. -/
def Current (w : World) (r : RouteRow) : Prop :=
  pin w r.originNodeId = some r.measured.1 ∧ pin w r.destinationNodeId = some r.measured.2

instance (w : World) (r : RouteRow) : Decidable (Current w r) := inferInstanceAs (Decidable (_ ∧ _))

def inProgress : Call → Bool
  | .geocoding _ | .nodeSaving _ | .nodeWriting .. => true
  | _ => false

/-- No update in progress. -/
def Idle (w : World) : Prop := w.edits.calls.any inProgress = false ∧ w.syncs = []

instance (w : World) : Decidable (Idle w) := inferInstanceAs (Decidable (_ ∧ _))

def DistancesBelong (w : World) : Prop := Idle w → ∀ r ∈ w.routes, Current w r

instance (w : World) : Decidable (DistancesBelong w) := inferInstanceAs (Decidable (_ → _))

/-- One of the two Nodes has an update that has saved and is still to delete. -/
def Doomed (w : World) (originNodeId destinationNodeId : Nat) : Prop :=
  ∃ s ∈ w.syncs, s.nodeId = originNodeId ∨ s.nodeId = destinationNodeId

instance (w : World) (originNodeId destinationNodeId : Nat) :
    Decidable (Doomed w originNodeId destinationNodeId) :=
  inferInstanceAs (Decidable (∃ s ∈ w.syncs, _))

/-- What is recorded was measured between the Nodes' pins, or is deleted yet. -/
def FreshJob (w : World) : Job → Prop
  | .recording _ pair _ _ =>
      (pin w pair.originNodeId = some pair.origin.pin ∧
        pin w pair.destinationNodeId = some pair.destination.pin) ∨
      Doomed w pair.originNodeId pair.destinationNodeId
  | _ => True

instance (w : World) : ∀ job, Decidable (FreshJob w job)
  | .recording .. => inferInstanceAs (Decidable (_ ∨ _))
  | .submitting .. | .measuring .. | .ended => isTrue trivial

def Fresh (w : World) : Action → Prop
  | .record i => ∀ job ∈ w.jobs[i]?, FreshJob w job
  | _ => True

instance (w : World) : ∀ a, Decidable (Fresh w a)
  | .record i => inferInstanceAs (Decidable (∀ job ∈ w.jobs[i]?, _))
  | .edit _ | .locate .. | .drop _ | .submit .. | .measureChunk .. | .answered .. => isTrue trivial

/-- No call in flight, and distances between the Nodes' pins. -/
structure Start (w : World) : Prop where
  calls : w.edits.calls = []
  syncs : w.syncs = []
  jobs : w.jobs = []
  current : ∀ r ∈ w.routes, Current w r

/-- A stored distance is out of date only where it is still to be deleted. -/
def Tracked (w : World) : Prop :=
  ∀ r ∈ w.routes, Current w r ∨ Doomed w r.originNodeId r.destinationNodeId

/-! ## Pins -/

section Pins

variable {w : World}

/-- A statement that leaves the pin of a Node as it is. -/
theorem pin_post (nodes : List (Counted NodeRow)) (p : NodeRow → Bool) (f : NodeRow → NodeRow)
    (d : Int) {nodeId : Nat} (hid : ∀ n, (f n).id = n.id)
    (hpin : ∀ n, p n = true → n.id = nodeId → pinOf (f n) = pinOf n) :
    (Relational.get NodeRow.id nodeId (rows (post p f d nodes))).map pinOf
      = (Relational.get NodeRow.id nodeId (rows nodes)).map pinOf := by
  rw [rows_post, get_update fun n _ _ => hid n, Option.map_map]
  cases hget : Relational.get NodeRow.id nodeId (rows nodes) with
  | none => rfl
  | some n =>
      obtain ⟨-, hkey⟩ := get_some hget
      by_cases hp : p n = true
      · simpa [hp] using hpin n hp hkey
      · simp [hp]

/-- What an edit writes of a Node other than by a save leaves its pin. -/
theorem edits_pin (a : Edits.Action) (nodeId : Nat)
    (hsave : ∀ i entity row, a = .write i →
      w.edits.calls[i]? = some (.nodeWriting entity row) → entity.id ≠ nodeId) :
    pin { w with edits := Edits.exec distanceMeters w.edits a } nodeId = pin w nodeId := by
  cases a with
  | tick ms => rfl
  | update id dto => rfl
  | set userId dto => rfl
  | geocoded i geocoded =>
      simp only [pin, Edits.exec, Edits.answered]
      split <;> rfl
  | resolved i reply =>
      simp only [pin, Edits.exec, Edits.answered]
      split <;> rfl
  | reread i =>
      simp only [pin, Edits.exec]
      cases w.edits.calls[i]? with
      | none => rfl
      | some call =>
          simp only [Option.map_some, Option.getD_some, Edits.reread]
          split
          · split <;> rfl
          · split <;> rfl
          · rfl
  | write i =>
      simp only [pin, Edits.exec]
      cases hcall : w.edits.calls[i]? with
      | none => rfl
      | some call =>
          simp only [Option.map_some, Option.getD_some, Edits.write]
          split
          · next entity row =>
              have hne := hsave i entity row rfl hcall
              refine pin_post w.edits.nodes (fun n => n.id = entity.id) (saveNode entity row) 0
                (fun _ => rfl) ?_
              intro n hp hid
              exact absurd ((of_decide_eq_true hp).symm.trans hid) hne
          · rfl
          · rfl
  | reserveCapacitySlot id =>
      simp only [pin, Edits.exec, Edits.reserveCapacitySlot]
      split
      · rfl
      · exact pin_post w.edits.nodes (fun n => n.id = id)
          (fun n => { n with currentCount := n.currentCount + 1 }) 1
          (fun _ => rfl) (fun _ _ _ => rfl)
  | holdReturnedParcel id =>
      exact pin_post w.edits.nodes (fun n => n.id = id)
        (fun n => { n with currentCount := n.currentCount + 1 }) 1
        (fun _ => rfl) (fun _ _ _ => rfl)
  | releaseCapacitySlot id =>
      exact pin_post w.edits.nodes (fun n => n.id = id)
        (fun n => { n with currentCount := max (n.currentCount - 1) 0 }) (-1)
        (fun _ => rfl) (fun _ _ _ => rfl)
  | reserveDeliverySlot riderId =>
      simp only [pin, Edits.exec, Edits.reserveDeliverySlot]
      split <;> rfl
  | releaseDeliverySlot riderId => rfl
  | setVisibility id isPubliclyVisible =>
      exact pin_post w.edits.nodes (fun n => n.id = id) (fun n => { n with isPubliclyVisible }) 0
        (fun _ => rfl) (fun _ _ _ => rfl)
  | setContactDetails id contactPhone openingHours =>
      exact pin_post w.edits.nodes (fun n => n.id = id)
        (fun n =>
          { n with
            contactPhone := contactPhone <|> n.contactPhone
            openingHours := openingHours <|> n.openingHours })
        0 (fun _ => rfl) (fun _ _ _ => rfl)
  | approveRider profileId => rfl

end Pins

/-! ## Steps keep track -/

section Tracking

variable {w : World}

/-- Pins, distances and what is still to be deleted as they were. -/
theorem Tracked.of_same {w' : World} (h : Tracked w)
    (hpin : ∀ nodeId, pin w' nodeId = pin w nodeId) (hroutes : w'.routes = w.routes)
    (hsyncs : w'.syncs = w.syncs) : Tracked w' := by
  intro r hr
  rw [hroutes] at hr
  simpa only [Current, Doomed, hpin, hsyncs] using h r hr

/-- **A save** moves one Node, and all distances of that Node are to be deleted. -/
theorem Tracked.saved (h : Tracked w) {edits : Edits.World} {s : Sync}
    (hpin : ∀ nodeId, nodeId ≠ s.nodeId → pin { w with edits } nodeId = pin w nodeId) :
    Tracked { w with edits, syncs := w.syncs ++ [s] } := by
  intro r hr
  by_cases htouched : s.nodeId = r.originNodeId ∨ s.nodeId = r.destinationNodeId
  · exact Or.inr ⟨s, by simp, htouched⟩
  · obtain ⟨horigin, hdestination⟩ := not_or.mp htouched
    rcases h r hr with hcurrent | ⟨s', hs', hnode⟩
    · refine Or.inl ⟨?_, ?_⟩
      · exact (hpin _ (Ne.symm horigin)).trans hcurrent.1
      · exact (hpin _ (Ne.symm hdestination)).trans hcurrent.2
    · exact Or.inr ⟨s', List.mem_append_left _ hs', hnode⟩

theorem Tracked.located (h : Tracked w) {nodeId : Nat} {pin' : Coordinates}
    {locations : List (Nat × Coordinates)} :
    Tracked
      { w with
        locations
        syncs := .dropping nodeId :: w.syncs.erase (.locating nodeId pin') } := by
  intro r hr
  refine (h r hr).imp id ?_
  rintro ⟨s, hs, hnode⟩
  by_cases heq : s = .locating nodeId pin'
  · subst heq
    exact ⟨.dropping nodeId, List.mem_cons_self, hnode⟩
  · exact ⟨s, List.mem_cons_of_mem _ ((List.mem_erase_of_ne heq).mpr hs), hnode⟩

/-- The distances that are left are of other Nodes. -/
theorem Tracked.dropped (h : Tracked w) (nodeId : Nat) :
    Tracked
      { w with
        routes := w.routes.filter fun r =>
          !(decide (r.originNodeId = nodeId) || decide (r.destinationNodeId = nodeId))
        syncs := w.syncs.erase (.dropping nodeId) } := by
  intro r hr
  obtain ⟨hr, hother⟩ := List.mem_filter.mp hr
  simp only [Bool.not_eq_true', Bool.or_eq_false_iff, decide_eq_false_iff_not] at hother
  refine (h r hr).imp id ?_
  rintro ⟨s, hs, hnode⟩
  have hne : s ≠ .dropping nodeId := by
    rintro rfl
    rcases hnode with hnode | hnode
    · exact hother.1 hnode.symm
    · exact hother.2 hnode.symm
  exact ⟨s, (List.mem_erase_of_ne hne).mpr hs, hnode⟩

theorem Tracked.recorded (h : Tracked w) {pair : NodePair}
    (hfresh : (pin w pair.originNodeId = some pair.origin.pin ∧
        pin w pair.destinationNodeId = some pair.destination.pin) ∨
      Doomed w pair.originNodeId pair.destinationNodeId)
    (meters : ℚ) (source : String) (jobs : List Job) :
    Tracked { w with routes := record w.routes pair meters source, jobs } := by
  intro r hr
  rcases List.mem_append.mp hr with hr | hr
  · exact h r (List.mem_of_mem_filter hr)
  · obtain rfl := List.mem_singleton.mp hr
    exact hfresh

/-- **One step** under the condition. -/
theorem Tracked.step (h : Tracked w) (a : Action) (hfresh : Fresh w a) :
    Tracked (exec distanceMeters stDistance w a) := by
  cases a with
  | edit a =>
      simp only [exec, edit]
      split
      · next id dto =>
          split
          · exact h.of_same (fun _ => rfl) rfl rfl
          · exact h
      · next i =>
          split
          · next saved row hcall =>
              refine h.saved fun nodeId hne => ?_
              refine edits_pin distanceMeters _ nodeId ?_
              rintro i' entity row' ⟨⟩ hcall'
              rw [hcall] at hcall'
              cases hcall'
              exact Ne.symm hne
          · next hcall =>
              refine h.of_same (fun nodeId => ?_) rfl rfl
              refine edits_pin distanceMeters _ nodeId ?_
              rintro i' entity row' ⟨⟩ hcall'
              exact absurd hcall' (hcall entity row')
      · next hupdate hwrite =>
          refine h.of_same (fun nodeId => ?_) rfl rfl
          refine edits_pin distanceMeters _ nodeId ?_
          rintro i' entity row' rfl -
          exact absurd rfl (hwrite i')
  | locate nodeId pin' =>
      simp only [exec]
      split
      · exact h.located
      · exact h
  | drop nodeId =>
      simp only [exec]
      split
      · exact h.dropped nodeId
      · exact h
  | submit providerKey pickupNodeId dropoffNodeId =>
      simp only [exec]
      split
      · exact h
      · exact h.of_same (fun _ => rfl) rfl rfl
  | measureChunk providerKey includePending offset => exact h.of_same (fun _ => rfl) rfl rfl
  | answered i outcome =>
      simp only [exec]
      split
      · exact h
      · exact h.of_same (fun _ => rfl) rfl rfl
  | record i =>
      simp only [exec]
      split
      · next source pair meters rest hjob =>
          exact h.recorded (hfresh _ hjob) meters source _
      · exact h

end Tracking

/-- In every run whose measurements are recorded fresh, whenever no update is in
progress, each stored distance was measured between the pins of its Nodes. -/
theorem distances_belong_to_pins {w : World} (hstart : Start w) (as : List Action)
    (hfresh : Runs.Meets (exec distanceMeters stDistance) Fresh w as) :
    Runs.Always (exec distanceMeters stDistance) DistancesBelong w as := by
  have htracked : Runs.Always (exec distanceMeters stDistance) Tracked w as := by
    refine Runs.always_of_meets ?_ (fun r hr => Or.inl (hstart.current r hr)) hfresh
    exact fun s a hs ha => Tracked.step distanceMeters stDistance hs a ha
  refine htracked.mono fun s hs hidle r hr => (hs r hr).resolve_right ?_
  rintro ⟨x, hx, -⟩
  rw [hidle.2] at hx
  cases hx

/-! ## A run -/

def station (id : Nat) (latitude : ℚ) : NodeRow where
  id
  name := "Station"
  address := "1 Marina Road"
  city := "Lagos"
  state := "Lagos"
  country := "Nigeria"
  latitude
  longitude := 3
  capacity := 20
  currentCount := 0
  status := .active
  onboardingType := .portal
  operatingHours := none
  openingHours := none
  contactPhone := none
  locationCheck := none
  locationCheckedAt := none
  isPubliclyVisible := true
  createdAt := 0

/-- Two Nodes, with nothing measured yet. -/
def twoStations : World where
  edits := Edits.start 0 [station 1 6, station 2 7] []
  locations := [(1, ⟨6, 3⟩), (2, ⟨7, 3⟩)]
  providers := []
  syncs := []
  routes := []
  jobs := []

/-- Node 1 is moved; the geocoder is down. -/
def move : List Action :=
  [.edit (.update 1 { latitude := some (some 8) }), .edit (.geocoded 0 none), .edit (.reread 0),
    .edit (.write 0), .locate 1 ⟨8, 3⟩, .drop 1]

def measure : List Action := [.answered 0 (.distance (some 12000)), .record 0]

theorem twoStations_start : Start twoStations :=
  ⟨rfl, rfl, rfl, by simp [twoStations]⟩

/-- A delivery asked for after the move. -/
theorem distances_belong_to_pins_moved :
    Runs.Always (exec (fun _ _ => 0) fun _ _ => 0) DistancesBelong twoStations
      (move ++ .submit "sendii" 1 2 :: measure) :=
  distances_belong_to_pins _ _ twoStations_start _ (by decide +kernel)

/-- Asked for before the move, and answered after it. -/
theorem stale_distance_recorded :
    ¬ ∀ (distanceMeters stDistance : Coordinates → Coordinates → ℚ) (w : World), Start w →
      ∀ as, Runs.Always (exec distanceMeters stDistance) DistancesBelong w as := by
  intro h
  have hrun := h (fun _ _ => 0) (fun _ _ => 0) twoStations twoStations_start
    (.submit "sendii" 1 2 :: move ++ measure)
  revert hrun
  decide +kernel

end Locoomo.RouteDistances
