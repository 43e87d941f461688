/-! The courier-neutral vocabulary of a delivery leg and the order state
machine beside it: the two transition tables, the search for the events that
catch a leg up, and the pairing of a leg's status with its order's. -/

namespace Locoomo.Delivery

inductive DeliveryLegType
  | forward | return
  deriving DecidableEq, Repr

inductive DeliveryLegStatus
  | requested | assigned | pickedUp | delivered | returning | returned | cancelled
  deriving DecidableEq, Repr

inductive DeliveryEventType
  | assigned | released | pickedUp | attemptFailed | delivered | returning | returned | cancelled
  deriving DecidableEq, Repr

inductive VehicleClass
  | bicycle | motorbike | car | van | truck
  deriving DecidableEq, Repr

inductive OrderStatus
  | awaitingDropOff | parcelReceivedAtOrigin | riderAssigned | inTransit
  | arrivedAtDestination | readyForCollection | completed
  | returnInitiated | returnInTransit | returnedToOrigin | readyForSenderCollection
  | returnCompleted | cancelled | disputed
  deriving DecidableEq, Repr

def activeLegStatuses : List DeliveryLegStatus := [.requested, .assigned, .pickedUp, .returning]

/-- `Object.values(DeliveryEventType)`, in declaration order. -/
def deliveryEventTypes : List DeliveryEventType :=
  [.assigned, .released, .pickedUp, .attemptFailed, .delivered, .returning, .returned, .cancelled]

structure TransitionRule where
  source : List DeliveryLegStatus
  target : DeliveryLegStatus

/-- `TRANSITIONS` of a leg. -/
def transitions : DeliveryEventType → TransitionRule
  | .assigned => ⟨[.requested], .assigned⟩
  | .released => ⟨[.assigned], .requested⟩
  | .pickedUp => ⟨[.assigned], .pickedUp⟩
  | .attemptFailed => ⟨[.pickedUp], .pickedUp⟩
  | .delivered => ⟨[.pickedUp], .delivered⟩
  | .returning => ⟨[.pickedUp], .returning⟩
  | .returned => ⟨[.returning], .returned⟩
  | .cancelled => ⟨[.requested, .assigned], .cancelled⟩

def nextLegStatus (current : DeliveryLegStatus) (event : DeliveryEventType) :
    Option DeliveryLegStatus :=
  if current ∈ (transitions event).source then some (transitions event).target else none

def isTerminal (status : DeliveryLegStatus) : Bool := !(status ∈ activeLegStatuses)

abbrev isActive (status : DeliveryLegStatus) : Bool := status ∈ activeLegStatuses

/-! ## Catching up -/

abbrev Path := DeliveryLegStatus × List DeliveryEventType

/-- The `for` loop over the events of one dequeued status: a path to `goal`, or
the new `seen` set and queue. -/
def expand (goal status : DeliveryLegStatus) (path : List DeliveryEventType) :
    List DeliveryEventType → List DeliveryLegStatus → List Path →
      List DeliveryEventType ⊕ (List DeliveryLegStatus × List Path)
  | [], seen, queue => .inr (seen, queue)
  | event :: events, seen, queue =>
      match nextLegStatus status event with
      | none => expand goal status path events seen queue
      | some next =>
          if next ∈ seen then expand goal status path events seen queue
          else if next = goal then .inl (path ++ [event])
          else expand goal status path events (seen ++ [next]) (queue ++ [(next, path ++ [event])])

/-- The `while` loop. The first argument bounds its rounds; `search_fuel`
shows that the bound is never what ends it. -/
def search (goal : DeliveryLegStatus) :
    Nat → List DeliveryLegStatus → List Path → List DeliveryEventType
  | 0, _, _ => []
  | _ + 1, _, [] => []
  | rounds + 1, seen, (status, path) :: queue =>
      match expand goal status path deliveryEventTypes seen queue with
      | .inl found => found
      | .inr (seen, queue) => search goal rounds seen queue

/-- The events that take a leg from `source` to `goal`, shortest path first. -/
def eventsToReach (source goal : DeliveryLegStatus) : List DeliveryEventType :=
  if source = goal then [] else search goal 8 [source] [(source, [])]

theorem search_fuel (source goal : DeliveryLegStatus) (extra : Nat) :
    search goal (extra + 8) [source] [(source, [])] = search goal 8 [source] [(source, [])] := by
  cases source <;> cases goal <;> rfl

/-- The status after a list of events, each of which must apply. -/
def follow (status : DeliveryLegStatus) : List DeliveryEventType → Option DeliveryLegStatus
  | [] => some status
  | event :: events => (nextLegStatus status event).bind fun next => follow next events

/-- `goal` is ahead of `source` or equal to it: the catch-up can get there. -/
def Reaches (source goal : DeliveryLegStatus) : Prop :=
  follow source (eventsToReach source goal) = some goal

instance (source goal : DeliveryLegStatus) : Decidable (Reaches source goal) :=
  inferInstanceAs (Decidable (_ = _))

@[simp] theorem eventsToReach_self (status : DeliveryLegStatus) :
    eventsToReach status status = [] := by
  simp [eventsToReach]

theorem reaches_refl (status : DeliveryLegStatus) : Reaches status status := by
  simp [Reaches, follow]

/-- A path the search returns does lead from `source` to `goal`. -/
theorem follow_eventsToReach {source goal : DeliveryLegStatus}
    (h : eventsToReach source goal ≠ []) :
    follow source (eventsToReach source goal) = some goal := by
  revert h
  cases source <;> cases goal <;> decide

theorem reaches_step {source status next : DeliveryLegStatus} {event : DeliveryEventType}
    (h : Reaches source status) (hnext : nextLegStatus status event = some next) :
    Reaches source next := by
  revert h hnext
  cases source <;> cases status <;> cases event <;> cases next <;> decide

theorem reaches_trans {a b c : DeliveryLegStatus} (hab : Reaches a b) (hbc : Reaches b c) :
    Reaches a c := by
  revert hab hbc
  cases a <;> cases b <;> cases c <;> decide

theorem isActive_of_next {current next : DeliveryLegStatus} {event : DeliveryEventType}
    (h : nextLegStatus current event = some next) : isActive current = true := by
  revert h
  cases current <;> cases event <;> cases next <;> decide

theorem nextLegStatus_eq_some {current next : DeliveryLegStatus} {event : DeliveryEventType} :
    nextLegStatus current event = some next ↔
      current ∈ (transitions event).source ∧ next = (transitions event).target := by
  unfold nextLegStatus
  split <;> simp_all [eq_comm]

/-! ## The order state machine -/

/-- `ORDER_TRANSITIONS`; the statuses without an entry have no edge. -/
def orderTransitions : OrderStatus → List OrderStatus
  | .awaitingDropOff => [.parcelReceivedAtOrigin]
  | .parcelReceivedAtOrigin => [.riderAssigned]
  | .riderAssigned => [.inTransit, .parcelReceivedAtOrigin]
  | .inTransit => [.arrivedAtDestination, .returnInitiated]
  | .arrivedAtDestination => [.readyForCollection]
  | .readyForCollection => [.completed]
  | .returnInitiated => [.returnInTransit]
  | .returnInTransit => [.returnedToOrigin]
  | .returnedToOrigin => [.readyForSenderCollection]
  | .readyForSenderCollection => [.returnCompleted]
  | .completed | .returnCompleted | .cancelled | .disputed => []

/-- The order status an active leg stands beside. -/
def pairedStatus : DeliveryLegStatus → OrderStatus
  | .requested | .cancelled => .parcelReceivedAtOrigin
  | .assigned => .riderAssigned
  | .pickedUp => .inTransit
  | .delivered => .arrivedAtDestination
  | .returning => .returnInTransit
  | .returned => .returnedToOrigin

/-- The order statuses in which a courier must be at work. -/
def needsLeg : OrderStatus → Bool
  | .riderAssigned | .inTransit | .returnInTransit => true
  | _ => false

theorem needsLeg_pairedStatus_of_terminal {status : DeliveryLegStatus}
    (h : isActive status = false) : needsLeg (pairedStatus status) = false := by
  revert h
  cases status <;> decide

end Locoomo.Delivery
