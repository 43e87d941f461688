import Locoomo.RouteDistances

/-! An admin's move of a Node that stops midway. Without a caller's transaction the
save, the update of the geography point and the deletion of the stored distances
each commit on their own. -/

namespace Locoomo.HalfMoves

open Locoomo.Edits Locoomo.RouteDistances Relational

/-! ## The update -/

/-- A row of `nodes`, with the column that the entity leaves out. -/
structure PlacedNode where
  row : NodeRow
  location : Coordinates
  deriving DecidableEq

def PlacedNode.id (node : PlacedNode) : Nat := node.row.id

structure World where
  now : Nat
  nodes : List PlacedNode
  routes : List RouteRow
  deriving DecidableEq

/-- What an update waits for, one after the other. -/
inductive Statement
  | find | save | locate | drop
  deriving DecidableEq, Repr

inductive Ending
  | answered (answer : Answer)
  | failed (statement : Statement)
  deriving DecidableEq

-- great-circle distance, computed in floating point
variable (distanceMeters : Coordinates → Coordinates → ℚ)

/-- The entity that is saved: the request's fields set, and the pin checked against
the geocoder's answer when it has to be. -/
def checked (now : Nat) (dto : UpdateNodeDto) (previous : NodeRow)
    (geocoded : Option GeocodeResult) : Except Answer NodeRow :=
  let node := dto.applyTo previous
  if dto.forceLocation.join = some true then
    .ok { node with locationCheck := some .adminOverride, locationCheckedAt := some now }
  else if dto.locationChanged previous then
    match geocoded with
    | none => .ok { node with locationCheck := some .unverified, locationCheckedAt := some now }
    | some geocoded =>
        if pinMatchesAddress distanceMeters (pinOf node) geocoded then
          .ok { node with locationCheck := some .verified, locationCheckedAt := some now }
        else
          .error (.locationMismatch (distanceMeters (pinOf node) geocoded.coordinates)
            geocoded.formattedAddress geocoded.coordinates)
  else .ok node

/-- `repo.save(node)`, with the row it re-reads. -/
def save (w : World) (entity row : NodeRow) : World :=
  { w with
    nodes := update (fun n => n.id = entity.id)
      (fun n => { n with row := saveNode entity row n.row }) w.nodes }

/-- `UPDATE nodes SET location`. -/
def locate (w : World) (nodeId : Nat) (pin : Coordinates) : World :=
  { w with nodes := update (fun n => n.id = nodeId) (fun n => { n with location := pin }) w.nodes }

def touches (nodeId : Nat) (r : RouteRow) : Bool :=
  decide (r.originNodeId = nodeId) || decide (r.destinationNodeId = nodeId)

/-- `DELETE FROM node_route_distances`. -/
def drop (w : World) (nodeId : Nat) : World :=
  { w with routes := w.routes.filter fun r => !touches nodeId r }

/-- `NodesService.update` without a manager. The statement that fails, if any, leaves
nothing behind, and what follows it is not run. -/
def update (w : World) (id : Nat) (dto : UpdateNodeDto) (geocoded : Option GeocodeResult)
    (failing : Option Statement) : Ending × World :=
  if failing = some .find then (.failed .find, w)
  else
    match get PlacedNode.id id w.nodes with
    | none => (.answered (.nodeNotFound id), w)
    | some previous =>
        match checked distanceMeters w.now dto previous.row geocoded with
        | .error answer => (.answered answer, w)
        | .ok entity =>
            if failing = some .save then (.failed .save, w)
            else
              let saved := save w entity previous.row
              if !moves dto then (.answered .saved, saved)
              else if failing = some .locate then (.failed .locate, saved)
              else
                let located := locate saved entity.id (pinOf entity)
                if failing = some .drop then (.failed .drop, located)
                else (.answered .saved, drop located entity.id)

/-! ## The property -/

/-- Pin, geography point and stored distances of the Node all belong to the new pin. -/
structure Moved (w : World) (id : Nat) (pin : Coordinates) : Prop where
  node : ∃ node, get PlacedNode.id id w.nodes = some node ∧ pinOf node.row = pin ∧
    node.location = pin
  routes : ∀ r ∈ w.routes, touches id r = false

/-- Nothing changed, or the whole move took effect. -/
def AllOrNothing (w w' : World) (id : Nat) (dto : UpdateNodeDto) : Prop :=
  w' = w ∨ ∃ previous, get PlacedNode.id id w.nodes = some previous ∧
    Moved w' id (pinOf (dto.applyTo previous.row))

/-- The point is the new pin already. -/
def AlreadyThere (previous : PlacedNode) (entity : NodeRow) : Prop :=
  previous.location = pinOf entity

/-- No stored distance has the Node at an end. -/
def Unmeasured (w : World) (id : Nat) : Prop := ∀ r ∈ w.routes, touches id r = false

/-- A failure behind the save only keeps from running what would change nothing:
the save has written nothing itself, or there is nothing left to move. -/
def Harmless (w : World) (id : Nat) (dto : UpdateNodeDto) (geocoded : Option GeocodeResult)
    (failing : Option Statement) : Prop :=
  ∀ previous entity, get PlacedNode.id id w.nodes = some previous →
    checked distanceMeters w.now dto previous.row geocoded = .ok entity →
    match failing with
    | some .locate => entity = previous.row ∨ AlreadyThere previous entity ∧ Unmeasured w id
    | some .drop => Unmeasured w id ∨ entity = previous.row ∧ AlreadyThere previous entity
    | _ => True

/-! ## One Node -/

/-- The Node stored over the one with its id. -/
def placed (w : World) (node : PlacedNode) : World :=
  { w with nodes := put PlacedNode.id node w.nodes }

variable {distanceMeters} {w : World} {id : Nat} {dto : UpdateNodeDto}
  {geocoded : Option GeocodeResult} {failing : Option Statement} {previous node : PlacedNode}
  {entity : NodeRow} {pin : Coordinates}

/-- The entity is the row with the request's fields; only the check is added. -/
theorem checked_ok {now : Nat} {row : NodeRow}
    (h : checked distanceMeters now dto row geocoded = .ok entity) :
    entity.id = row.id ∧ pinOf entity = pinOf (dto.applyTo row) := by
  have hid : (dto.applyTo row).id = row.id := rfl
  unfold checked at h
  simp only at h
  split at h
  · obtain rfl := Except.ok.inj h
    exact ⟨hid, rfl⟩
  split at h
  · split at h
    · obtain rfl := Except.ok.inj h
      exact ⟨hid, rfl⟩
    · split at h
      · obtain rfl := Except.ok.inj h
        exact ⟨hid, rfl⟩
      · cases h
  · obtain rfl := Except.ok.inj h
    exact ⟨hid, rfl⟩

/-- Every column is that of the entity. -/
theorem saveNode_self (h : entity.id = previous.row.id) :
    saveNode entity previous.row previous.row = entity := by
  simp only [saveNode, Saves.column_current, ← h]

theorem save_eq (hdistinct : Distinct PlacedNode.id w.nodes) (hmem : previous ∈ w.nodes)
    (hid : entity.id = previous.row.id) :
    save w entity previous.row = placed w ⟨entity, previous.location⟩ := by
  have hkey : (fun n : PlacedNode => decide (n.id = entity.id)) =
      fun n => decide (n.id = previous.id) := by
    rw [hid]
    rfl
  rw [save, hkey, update_key_eq_put hdistinct hmem (by
    show (saveNode entity previous.row previous.row).id = _
    rw [saveNode_self hid]
    exact hid)]
  simp only [saveNode_self hid, placed]

theorem locate_placed (hdistinct : Distinct PlacedNode.id w.nodes)
    (hthere : ∃ n ∈ w.nodes, n.id = node.id) :
    locate (placed w node) node.id pin = placed w { node with location := pin } := by
  have hmem : node ∈ put PlacedNode.id node w.nodes := mem_put.mpr (.inl ⟨rfl, hthere⟩)
  show ({ w with nodes := Relational.update _ _ (put PlacedNode.id node w.nodes) } : World) = _
  have hput : put PlacedNode.id { node with location := pin } (put PlacedNode.id node w.nodes) =
      put PlacedNode.id { node with location := pin } w.nodes := put_put rfl
  rw [update_key_eq_put (hdistinct.put node) hmem rfl, hput]
  rfl

theorem get_placed (hthere : ∃ n ∈ w.nodes, n.id = node.id) :
    get PlacedNode.id node.id (placed w node).nodes = some node := get_put_self hthere

/-- Storing a Node changes nothing when it is the one that is there, and only then. -/
theorem placed_eq_self (hdistinct : Distinct PlacedNode.id w.nodes)
    (hprevious : get PlacedNode.id id w.nodes = some previous) (hid : node.id = id) :
    placed w node = w ↔ node = previous := by
  obtain ⟨hmem, hkey⟩ := get_some hprevious
  constructor
  · intro h
    have hget : get PlacedNode.id node.id (placed w node).nodes = some node :=
      get_placed ⟨previous, hmem, hkey.trans hid.symm⟩
    rw [h, hid, hprevious] at hget
    exact (Option.some.inj hget).symm
  · rintro rfl
    rw [placed, put_self hdistinct hmem]

theorem moved_placed (hthere : ∃ n ∈ w.nodes, n.id = node.id) :
    Moved (placed w node) node.id pin ↔
      pinOf node.row = pin ∧ node.location = pin ∧ Unmeasured w node.id := by
  constructor
  · rintro ⟨⟨n, hn, hpin, hlocation⟩, hroutes⟩
    rw [get_placed hthere] at hn
    obtain rfl := Option.some.inj hn
    exact ⟨hpin, hlocation, hroutes⟩
  · rintro ⟨hpin, hlocation, hroutes⟩
    exact ⟨⟨node, get_placed hthere, hpin, hlocation⟩, hroutes⟩

/-! ## Every failure -/

/-- Where the two statements behind the save find the Node. -/
structure Started (distanceMeters : Coordinates → Coordinates → ℚ) (w : World) (id : Nat)
    (dto : UpdateNodeDto) (geocoded : Option GeocodeResult) (previous : PlacedNode)
    (entity : NodeRow) : Prop where
  found : get PlacedNode.id id w.nodes = some previous
  accepted : checked distanceMeters w.now dto previous.row geocoded = .ok entity

theorem Started.id_eq (h : Started distanceMeters w id dto geocoded previous entity) :
    entity.id = id := (checked_ok h.accepted).1.trans (get_some h.found).2

theorem allOrNothing_iff (h : Started distanceMeters w id dto geocoded previous entity)
    (w' : World) : AllOrNothing w w' id dto ↔ w' = w ∨ Moved w' id (pinOf entity) := by
  unfold AllOrNothing
  rw [(checked_ok h.accepted).2]
  constructor
  · rintro (hsame | ⟨n, hn, hmoved⟩)
    · exact .inl hsame
    · obtain rfl := Option.some.inj (hn.symm.trans h.found)
      exact .inr hmoved
  · rintro (hsame | hmoved)
    · exact .inl hsame
    · exact .inr ⟨previous, h.found, hmoved⟩

/-- The Node stored with that location: nothing changed, or all did. -/
theorem allOrNothing_placed (hdistinct : Distinct PlacedNode.id w.nodes)
    (h : Started distanceMeters w id dto geocoded previous entity) (location : Coordinates) :
    AllOrNothing w (placed w ⟨entity, location⟩) id dto ↔
      entity = previous.row ∧ location = previous.location ∨
        location = pinOf entity ∧ Unmeasured w id := by
  have hid : (⟨entity, location⟩ : PlacedNode).id = id := h.id_eq
  obtain ⟨hmem, hkey⟩ := get_some h.found
  have hthere : ∃ n ∈ w.nodes, n.id = (⟨entity, location⟩ : PlacedNode).id :=
    ⟨previous, hmem, hkey.trans hid.symm⟩
  have hmoved : Moved (placed w ⟨entity, location⟩) id (pinOf entity) ↔
      pinOf entity = pinOf entity ∧ location = pinOf entity ∧ Unmeasured w id := by
    rw [← hid]
    exact moved_placed hthere
  rw [allOrNothing_iff h, placed_eq_self hdistinct h.found hid, hmoved]
  constructor
  · rintro (hsame | ⟨-, hlocation, hroutes⟩)
    · exact .inl ⟨congrArg PlacedNode.row hsame, congrArg PlacedNode.location hsame⟩
    · exact .inr ⟨hlocation, hroutes⟩
  · rintro (⟨hrow, hlocation⟩ | ⟨hlocation, hroutes⟩)
    · left
      rw [hrow, hlocation]
    · exact .inr ⟨rfl, hlocation, hroutes⟩

theorem update_started (h : Started distanceMeters w id dto geocoded previous entity)
    (hmoves : moves dto = true) (hfind : failing ≠ some .find) (hsave : failing ≠ some .save) :
    (update distanceMeters w id dto geocoded failing).2 =
      if failing = some .locate then save w entity previous.row
      else if failing = some .drop then
        locate (save w entity previous.row) entity.id (pinOf entity)
      else drop (locate (save w entity previous.row) entity.id (pinOf entity)) entity.id := by
  unfold update
  rw [if_neg hfind, h.found]
  simp only [h.accepted, hsave, if_false, hmoves, Bool.not_true, Bool.false_eq_true]
  split
  · rfl
  · split
    · rfl
    · rfl

/-- An update that ends before its save changes nothing. -/
theorem update_unstarted
    (h : ∀ previous entity, ¬ Started distanceMeters w id dto geocoded previous entity) :
    (update distanceMeters w id dto geocoded failing).2 = w := by
  unfold update
  split
  · rfl
  · split
    · rfl
    · next previous hprevious =>
        split
        · rfl
        · next entity hentity => exact absurd ⟨hprevious, hentity⟩ (h previous entity)

theorem update_unsaved (h : failing = some .find ∨ failing = some .save) :
    (update distanceMeters w id dto geocoded failing).2 = w := by
  unfold update
  rcases h with rfl | rfl
  · rfl
  · simp only [Option.some.injEq, reduceCtorEq, if_false, if_true]
    split
    · rfl
    · split
      · rfl
      · rfl

theorem harmless_started (h : Started distanceMeters w id dto geocoded previous entity) :
    Harmless distanceMeters w id dto geocoded failing ↔
      match failing with
      | some .locate => entity = previous.row ∨ AlreadyThere previous entity ∧ Unmeasured w id
      | some .drop => Unmeasured w id ∨ entity = previous.row ∧ AlreadyThere previous entity
      | _ => True := by
  constructor
  · exact fun hharmless => hharmless previous entity h.found h.accepted
  · intro hmatch n e hn he
    obtain rfl := Option.some.inj (hn.symm.trans h.found)
    obtain rfl := Except.ok.inj (he.symm.trans h.accepted)
    exact hmatch

/-- All three statements take effect together when none fails. -/
theorem moved_drop (h : Started distanceMeters w id dto geocoded previous entity) :
    Moved (drop (placed w ⟨entity, pinOf entity⟩) id) id (pinOf entity) := by
  obtain ⟨hmem, hkey⟩ := get_some h.found
  have hid : (⟨entity, pinOf entity⟩ : PlacedNode).id = id := h.id_eq
  have hthere : ∃ n ∈ w.nodes, n.id = (⟨entity, pinOf entity⟩ : PlacedNode).id :=
    ⟨previous, hmem, hkey.trans hid.symm⟩
  have hget := get_placed hthere
  rw [hid] at hget
  refine ⟨⟨_, hget, rfl, rfl⟩, fun r hr => ?_⟩
  simpa using (List.mem_filter.mp hr).2

/-- **A move is all or nothing** just when no failure between its statements leaves
something half done. -/
theorem update_atomic_iff (distanceMeters : Coordinates → Coordinates → ℚ) (w : World)
    (hdistinct : Distinct PlacedNode.id w.nodes) (id : Nat) (dto : UpdateNodeDto)
    (hmoves : moves dto = true) (geocoded : Option GeocodeResult) (failing : Option Statement) :
    AllOrNothing w (update distanceMeters w id dto geocoded failing).2 id dto ↔
      Harmless distanceMeters w id dto geocoded failing := by
  by_cases hstarted : ∃ previous entity, Started distanceMeters w id dto geocoded previous entity
  · obtain ⟨previous, entity, h⟩ := hstarted
    obtain ⟨hmem, hkey⟩ := get_some h.found
    have hsaved := save_eq hdistinct hmem (h.id_eq.trans hkey.symm)
    have hlocated : locate (save w entity previous.row) entity.id (pinOf entity) =
        placed w ⟨entity, pinOf entity⟩ := by
      rw [hsaved]
      have hthere : ∃ n ∈ w.nodes, n.id = (⟨entity, previous.location⟩ : PlacedNode).id :=
        ⟨previous, hmem, hkey.trans h.id_eq.symm⟩
      exact locate_placed hdistinct hthere
    rw [harmless_started h]
    have hdone : AllOrNothing w (drop (placed w ⟨entity, pinOf entity⟩) id) id dto :=
      (allOrNothing_iff h _).mpr (.inr (moved_drop h))
    cases failing with
    | none =>
        rw [update_started h hmoves (by simp) (by simp), hlocated, h.id_eq]
        simpa using hdone
    | some statement =>
        cases statement with
        | find =>
            rw [update_unsaved (.inl rfl)]
            simp [AllOrNothing]
        | save =>
            rw [update_unsaved (.inr rfl)]
            simp [AllOrNothing]
        | locate =>
            rw [update_started h hmoves (by simp) (by simp), if_pos rfl, hsaved,
              allOrNothing_placed hdistinct h]
            simp [AlreadyThere]
        | drop =>
            rw [update_started h hmoves (by simp) (by simp), if_neg (by simp), if_pos rfl, hlocated,
              allOrNothing_placed hdistinct h]
            simp only [AlreadyThere, true_and]
            rw [or_comm, eq_comm (a := pinOf entity)]
  · have hnone : ∀ previous entity, ¬ Started distanceMeters w id dto geocoded previous entity :=
      fun previous entity h => hstarted ⟨previous, entity, h⟩
    rw [update_unstarted hnone]
    constructor
    · exact fun _ previous entity hfound haccepted =>
        absurd ⟨hfound, haccepted⟩ (hnone previous entity)
    · exact fun _ => .inl rfl

/-! ## A move that stops midway -/

def demoNode : NodeRow where
  id := 1
  name := "Yaba"
  address := "1 Herbert Macaulay Way"
  city := "Lagos"
  state := "Lagos"
  country := "Nigeria"
  latitude := 6
  longitude := 3
  capacity := 5
  currentCount := 0
  status := .active
  onboardingType := .fieldRecruited
  operatingHours := none
  openingHours := none
  contactPhone := none
  locationCheck := some .verified
  locationCheckedAt := some 0
  isPubliclyVisible := true
  createdAt := 0

/-- The Node on its pin, and a distance from there. -/
def demoWorld : World where
  now := 100
  nodes := [⟨demoNode, ⟨6, 3⟩⟩]
  routes := [⟨1, 2, 4000, "sendii", (⟨6, 3⟩, ⟨7, 3⟩)⟩]

/-- A new pin, with the admin's override. -/
def demoMove : UpdateNodeDto := { latitude := some (some 8), forceLocation := some (some true) }

/-- Nothing fails, and the move is whole. -/
theorem demo_move_whole : AllOrNothing demoWorld
    (update (fun _ _ => 0) demoWorld 1 demoMove none none).2 1 demoMove :=
  (update_atomic_iff (fun _ _ => 0) demoWorld (by decide) 1 demoMove rfl none none).mpr
    fun _ _ _ _ => trivial

/-- The save is there, the geography point and the distances are those of the old pin. -/
theorem not_all_or_nothing :
    ¬ ∀ (distanceMeters : Coordinates → Coordinates → ℚ) (w : World) (id : Nat)
      (dto : UpdateNodeDto) (geocoded : Option GeocodeResult) (failing : Option Statement),
      Distinct PlacedNode.id w.nodes → moves dto = true →
      AllOrNothing w (update distanceMeters w id dto geocoded failing).2 id dto := by
  intro h
  rcases h (fun _ _ => 0) demoWorld 1 demoMove none (some .locate) (by decide) rfl with
    hsame | ⟨-, -, -, hroutes⟩
  · revert hsame
    decide +kernel
  · have htouched := hroutes ⟨1, 2, 4000, "sendii", (⟨6, 3⟩, ⟨7, 3⟩)⟩ List.mem_cons_self
    revert htouched
    decide

end Locoomo.HalfMoves
