import Mathlib.Algebra.Order.Ring.Unbundled.Rat
import Locoomo.Lib.Runs
import Locoomo.Lib.Saves
import Locoomo.Lib.Ledgers

/-! Edits of a node or a rider beside the statements that move their capacity
counters. An edit reads the row, waits for a geocoder or for the payment
provider, and saves the entity it read: the save re-reads the row and sets every
column that differs, the counter among them. -/

namespace Locoomo.Edits

open Relational Ledgers

/-! ## Rows -/

inductive NodeStatus
  | pending | active | inactive | suspended
  deriving DecidableEq, Repr

inductive NodeOnboardingType
  | fieldRecruited | warmLead | chainPartner | franchise | portal
  deriving DecidableEq, Repr

inductive NodeLocationCheck
  | verified | unverified | adminOverride
  deriving DecidableEq, Repr

inductive Weekday
  | mon | tue | wed | thu | fri | sat | sun
  deriving DecidableEq, Repr

/-- From `"HH:mm"` to `"HH:mm"`. -/
structure OpeningInterval where
  opens : String
  closes : String
  deriving DecidableEq, Repr

abbrev OpeningHours := List (Weekday × List OpeningInterval)

structure Coordinates where
  latitude : ℚ
  longitude : ℚ
  deriving DecidableEq

/-- The mapped columns of `nodes`. -/
structure NodeRow where
  id : Nat
  name : String
  address : String
  city : String
  state : String
  country : String
  latitude : ℚ
  longitude : ℚ
  capacity : Int
  currentCount : Int
  status : NodeStatus
  onboardingType : NodeOnboardingType
  operatingHours : Option String
  openingHours : Option OpeningHours
  contactPhone : Option String
  locationCheck : Option NodeLocationCheck
  locationCheckedAt : Option Nat
  isPubliclyVisible : Bool
  createdAt : Nat
  deriving DecidableEq

inductive RiderStatus
  | pending | active | suspended
  deriving DecidableEq, Repr

/-- The mapped columns of `rider_profiles`. -/
structure RiderRow where
  id : Nat
  userId : Nat
  currentEmployer : String
  licenseNumber : Option String
  status : RiderStatus
  currentActiveOrderCount : Int
  payoutBankCode : Option String
  payoutBankName : Option String
  payoutAccountNumber : Option String
  payoutAccountName : Option String
  payoutAccountVerifiedAt : Option Nat
  createdAt : Nat
  deriving DecidableEq

def MAX_ACTIVE_ORDERS_PER_RIDER : Int := 3
def LOCATION_TOLERANCE_METERS : ℚ := 2000

/-! ## Requests -/

/-- A field of a request: absent, `null` or a value. -/
abbrev Field (α : Type) := Option (Option α)

/-- `dto.x ?? old`. -/
def Field.orElse {α : Type} (field : Field α) (old : α) : α := field.join.getD old

/-- The same, on a column that may be `NULL`. -/
def Field.orKeep {α : Type} (field : Field α) (old : Option α) : Option α := field.join <|> old

/-- `dto.x !== undefined && dto.x !== previous.x`. -/
def Field.changes {α : Type} [DecidableEq α] (field : Field α) (previous : α) : Bool :=
  field ≠ none ∧ field ≠ some (some previous)

structure UpdateNodeDto where
  name : Field String := none
  address : Field String := none
  city : Field String := none
  state : Field String := none
  country : Field String := none
  latitude : Field ℚ := none
  longitude : Field ℚ := none
  capacity : Field Int := none
  operatingHours : Field String := none
  contactPhone : Field String := none
  openingHours : Field OpeningHours := none
  status : Field NodeStatus := none
  forceLocation : Field Bool := none
  deriving DecidableEq

structure SetPayoutAccountDto where
  bankCode : String
  bankName : String
  accountNumber : String
  deriving DecidableEq

/-- The entity once the request's fields are set. -/
def UpdateNodeDto.applyTo (dto : UpdateNodeDto) (node : NodeRow) : NodeRow :=
  { node with
    name := dto.name.orElse node.name
    address := dto.address.orElse node.address
    city := dto.city.orElse node.city
    state := dto.state.orElse node.state
    country := dto.country.orElse node.country
    latitude := dto.latitude.orElse node.latitude
    longitude := dto.longitude.orElse node.longitude
    capacity := dto.capacity.orElse node.capacity
    operatingHours := dto.operatingHours.orKeep node.operatingHours
    openingHours := dto.openingHours.orKeep node.openingHours
    contactPhone := dto.contactPhone.orKeep node.contactPhone
    status := dto.status.orElse node.status }

def UpdateNodeDto.locationChanged (dto : UpdateNodeDto) (previous : NodeRow) : Bool :=
  dto.address.changes previous.address || dto.city.changes previous.city ||
    dto.state.changes previous.state || dto.country.changes previous.country ||
    dto.latitude.changes previous.latitude || dto.longitude.changes previous.longitude

/-! ## The outside -/

structure GeocodeResult where
  coordinates : Coordinates
  uncertaintyMeters : ℚ
  formattedAddress : String
  deriving DecidableEq

/-- What `paystackRequest` comes back with. -/
inductive PaystackReply
  | failed (detail : String)
  | answered (httpStatus : Nat) (status : Bool) (message : Option String) (accountName : String)
  deriving DecidableEq

/-- How a call ends. -/
inductive Answer
  | saved
  | nodeNotFound (id : Nat)
  | riderNotFound (userId : Nat)
  | locationMismatch (distanceMeters : ℚ) (geocodedAddress : String) (suggested : Coordinates)
  | paymentProvider (detail : String)
  | bankAccountVerificationFailed (detail : String)
  deriving DecidableEq

def isPaystackOutage (httpStatus : Nat) : Bool := 500 ≤ httpStatus ∨ httpStatus = 429

/-- `HTTP 502: message`. -/
def outageDetail (httpStatus : Nat) (message : Option String) : String :=
  match message.filter (· ≠ "") with
  | none => "HTTP " ++ toString httpStatus
  | some text => "HTTP " ++ toString httpStatus ++ ": " ++ text

/-- The account's name, or why there is none. -/
def resolveAccountNumber : PaystackReply → Except Answer String
  | .failed detail => .error (.paymentProvider detail)
  | .answered httpStatus status message accountName =>
      if isPaystackOutage httpStatus then
        .error (.paymentProvider (outageDetail httpStatus message))
      else if !status then
        .error (.bankAccountVerificationFailed (message.getD "account could not be resolved"))
      else if httpStatus < 200 ∨ 300 ≤ httpStatus then
        .error (.paymentProvider ("HTTP " ++ toString httpStatus))
      else .ok accountName

/-! ## Calls -/

/-- An edit between two of its statements. -/
inductive Call
  | ended (answer : Answer)
  -- `NodesService.update`: the geocoding call, then the save
  | geocoding (entity : NodeRow)
  | nodeSaving (entity : NodeRow)
  | nodeWriting (entity row : NodeRow)
  -- `SetRiderPayoutAccountService.set`: the provider's call, then the save
  | resolving (profile : RiderRow) (dto : SetPayoutAccountDto)
  | riderSaving (entity : RiderRow)
  | riderWriting (entity row : RiderRow)
  deriving DecidableEq

/-- The rows of `nodes` and `rider_profiles`; the ledger beside each has the
starting value of its counter, the reservations and holds committed on it added
and the releases subtracted. -/
structure World where
  now : Nat
  nodes : List (Counted NodeRow)
  riders : List (Counted RiderRow)
  calls : List Call
  deriving DecidableEq

/-- The statements on a counter, and the targeted ones beside them, take effect
when their transaction commits: the row lock they hold from then on keeps every
other write of the row out until it does. One that rolls back leaves nothing. -/
inductive Action
  | tick (ms : Nat)
  -- the edits, one statement or outside answer at a time
  | update (id : Nat) (dto : UpdateNodeDto)
  | set (userId : Nat) (dto : SetPayoutAccountDto)
  | geocoded (i : Nat) (geocoded : Option GeocodeResult)
  | resolved (i : Nat) (reply : PaystackReply)
  | reread (i : Nat)
  | write (i : Nat)
  -- the counters
  | reserveCapacitySlot (nodeId : Nat)
  | holdReturnedParcel (nodeId : Nat)
  | releaseCapacitySlot (nodeId : Nat)
  | reserveDeliverySlot (riderId : Nat)
  | releaseDeliverySlot (riderId : Nat)
  -- other columns
  | setVisibility (nodeId : Nat) (isPubliclyVisible : Bool)
  | setContactDetails (nodeId : Nat) (contactPhone : Option String)
      (openingHours : Option OpeningHours)
  | approveRider (profileId : Nat)
  deriving DecidableEq

-- great-circle distance, computed in floating point
variable (distanceMeters : Coordinates → Coordinates → ℚ)

/-! ## Reads and answers -/

/-- The first read of `update`, and its fields set. -/
def readNode (w : World) (id : Nat) (dto : UpdateNodeDto) : Call :=
  match get NodeRow.id id (rows w.nodes) with
  | none => .ended (.nodeNotFound id)
  | some previous =>
      let node := dto.applyTo previous
      if dto.forceLocation.join = some true then
        .nodeSaving
          { node with locationCheck := some .adminOverride, locationCheckedAt := some w.now }
      else if dto.locationChanged previous then .geocoding node
      else .nodeSaving node

def pinMatchesAddress (pin : Coordinates) (geocoded : GeocodeResult) : Bool :=
  distanceMeters pin geocoded.coordinates ≤ max LOCATION_TOLERANCE_METERS geocoded.uncertaintyMeters

/-- `verify`. No answer, and a geocoder that is down, leave the pin unverified. -/
def verify (now : Nat) (node : NodeRow) : Option GeocodeResult → Call
  | none =>
      .nodeSaving { node with locationCheck := some .unverified, locationCheckedAt := some now }
  | some geocoded =>
      let pin : Coordinates := ⟨node.latitude, node.longitude⟩
      if !pinMatchesAddress distanceMeters pin geocoded then
        .ended (.locationMismatch (distanceMeters pin geocoded.coordinates)
          geocoded.formattedAddress geocoded.coordinates)
      else .nodeSaving { node with locationCheck := some .verified, locationCheckedAt := some now }

def readRider (w : World) (userId : Nat) (dto : SetPayoutAccountDto) : Call :=
  match get RiderRow.userId userId (rows w.riders) with
  | none => .ended (.riderNotFound userId)
  | some profile => .resolving profile dto

def setAccount (now : Nat) (profile : RiderRow) (dto : SetPayoutAccountDto)
    (reply : PaystackReply) : Call :=
  match resolveAccountNumber reply with
  | .error answer => .ended answer
  | .ok accountName =>
      .riderSaving
        { profile with
          payoutBankCode := some dto.bankCode
          payoutBankName := some dto.bankName
          payoutAccountNumber := some dto.accountNumber
          payoutAccountName := some accountName
          payoutAccountVerifiedAt := some now }

/-! ## Saves -/

/-- `repo.save(node)`: the columns in which the entity differs from the re-read row. -/
def saveNode (entity row current : NodeRow) : NodeRow where
  id := current.id
  name := Saves.column entity.name row.name current.name
  address := Saves.column entity.address row.address current.address
  city := Saves.column entity.city row.city current.city
  state := Saves.column entity.state row.state current.state
  country := Saves.column entity.country row.country current.country
  latitude := Saves.column entity.latitude row.latitude current.latitude
  longitude := Saves.column entity.longitude row.longitude current.longitude
  capacity := Saves.column entity.capacity row.capacity current.capacity
  currentCount := Saves.column entity.currentCount row.currentCount current.currentCount
  status := Saves.column entity.status row.status current.status
  onboardingType := Saves.column entity.onboardingType row.onboardingType current.onboardingType
  operatingHours := Saves.column entity.operatingHours row.operatingHours current.operatingHours
  openingHours := Saves.column entity.openingHours row.openingHours current.openingHours
  contactPhone := Saves.column entity.contactPhone row.contactPhone current.contactPhone
  locationCheck := Saves.column entity.locationCheck row.locationCheck current.locationCheck
  locationCheckedAt :=
    Saves.column entity.locationCheckedAt row.locationCheckedAt current.locationCheckedAt
  isPubliclyVisible :=
    Saves.column entity.isPubliclyVisible row.isPubliclyVisible current.isPubliclyVisible
  createdAt := Saves.column entity.createdAt row.createdAt current.createdAt

/-- `profiles.save(profile)`. -/
def saveRider (entity row current : RiderRow) : RiderRow where
  id := current.id
  userId := Saves.column entity.userId row.userId current.userId
  currentEmployer := Saves.column entity.currentEmployer row.currentEmployer current.currentEmployer
  licenseNumber := Saves.column entity.licenseNumber row.licenseNumber current.licenseNumber
  status := Saves.column entity.status row.status current.status
  currentActiveOrderCount :=
    Saves.column entity.currentActiveOrderCount row.currentActiveOrderCount
      current.currentActiveOrderCount
  payoutBankCode := Saves.column entity.payoutBankCode row.payoutBankCode current.payoutBankCode
  payoutBankName := Saves.column entity.payoutBankName row.payoutBankName current.payoutBankName
  payoutAccountNumber :=
    Saves.column entity.payoutAccountNumber row.payoutAccountNumber current.payoutAccountNumber
  payoutAccountName :=
    Saves.column entity.payoutAccountName row.payoutAccountName current.payoutAccountName
  payoutAccountVerifiedAt :=
    Saves.column entity.payoutAccountVerifiedAt row.payoutAccountVerifiedAt
      current.payoutAccountVerifiedAt
  createdAt := Saves.column entity.createdAt row.createdAt current.createdAt

/-! ## Counters -/

def isFull (w : World) (nodeId : Nat) : Bool :=
  (get NodeRow.id nodeId (rows w.nodes)).any fun node => node.capacity ≤ node.currentCount

/-- `UPDATE nodes SET "currentCount" = "currentCount" + 1`. -/
def takeSlot (w : World) (nodeId : Nat) : World :=
  { w with
    nodes :=
      post (fun n => n.id = nodeId) (fun n => { n with currentCount := n.currentCount + 1 }) 1
        w.nodes }

def reserveCapacitySlot (w : World) (nodeId : Nat) : World :=
  if isFull w nodeId then w else takeSlot w nodeId

def releaseCapacitySlot (w : World) (nodeId : Nat) : World :=
  { w with
    nodes :=
      post (fun n => n.id = nodeId) (fun n => { n with currentCount := max (n.currentCount - 1) 0 })
        (-1) w.nodes }

/-- An active rider with a slot left. -/
def hasSlot (w : World) (riderId : Nat) : Bool :=
  (get RiderRow.userId riderId (rows w.riders)).any fun profile =>
    profile.status = .active ∧ profile.currentActiveOrderCount < MAX_ACTIVE_ORDERS_PER_RIDER

def reserveDeliverySlot (w : World) (riderId : Nat) : World :=
  if hasSlot w riderId then
    { w with
      riders :=
        post (fun r => r.userId = riderId)
          (fun r => { r with currentActiveOrderCount := r.currentActiveOrderCount + 1 })
          1 w.riders }
  else w

def releaseDeliverySlot (w : World) (riderId : Nat) : World :=
  { w with
    riders :=
      post (fun r => r.userId = riderId)
        (fun r => { r with currentActiveOrderCount := max (r.currentActiveOrderCount - 1) 0 }) (-1)
        w.riders }

/-! ## Steps -/

def proceed (w : World) (i : Nat) (call : Call) : World := { w with calls := w.calls.set i call }

def begin (w : World) (call : Call) : World := { w with calls := w.calls ++ [call] }

/-- The next statement of a save. An edit books nothing. -/
def reread (w : World) (i : Nat) : Call → World
  | .nodeSaving entity =>
      match get NodeRow.id entity.id (rows w.nodes) with
      | none => w
      | some row => proceed w i (.nodeWriting entity row)
  | .riderSaving entity =>
      match get RiderRow.id entity.id (rows w.riders) with
      | none => w
      | some row => proceed w i (.riderWriting entity row)
  | _ => w

def write (w : World) (i : Nat) : Call → World
  | .nodeWriting entity row =>
      { proceed w i (.ended .saved) with
        nodes := post (fun n => n.id = entity.id) (saveNode entity row) 0 w.nodes }
  | .riderWriting entity row =>
      { proceed w i (.ended .saved) with
        riders := post (fun r => r.id = entity.id) (saveRider entity row) 0 w.riders }
  | _ => w

/-- The outside's answer to a call that waits for one. -/
def answered (w : World) (i : Nat) (next : Call → Option Call) : World :=
  match w.calls[i]?.bind next with
  | none => w
  | some call => proceed w i call

def exec (w : World) : Action → World
  | .tick ms => { w with now := w.now + ms }
  | .update id dto => begin w (readNode w id dto)
  | .set userId dto => begin w (readRider w userId dto)
  | .geocoded i geocoded =>
      answered w i fun
        | .geocoding entity => some (verify distanceMeters w.now entity geocoded)
        | _ => none
  | .resolved i reply =>
      answered w i fun
        | .resolving profile dto => some (setAccount w.now profile dto reply)
        | _ => none
  | .reread i => (w.calls[i]?.map (reread w i)).getD w
  | .write i => (w.calls[i]?.map (write w i)).getD w
  | .reserveCapacitySlot nodeId => reserveCapacitySlot w nodeId
  | .holdReturnedParcel nodeId => takeSlot w nodeId
  | .releaseCapacitySlot nodeId => releaseCapacitySlot w nodeId
  | .reserveDeliverySlot riderId => reserveDeliverySlot w riderId
  | .releaseDeliverySlot riderId => releaseDeliverySlot w riderId
  | .setVisibility nodeId isPubliclyVisible =>
      { w with
        nodes := post (fun n => n.id = nodeId) (fun n => { n with isPubliclyVisible }) 0 w.nodes }
  | .setContactDetails nodeId contactPhone openingHours =>
      let set := fun n : NodeRow =>
        { n with
          contactPhone := contactPhone <|> n.contactPhone
          openingHours := openingHours <|> n.openingHours }
      { w with nodes := post (fun n => n.id = nodeId) set 0 w.nodes }
  | .approveRider profileId =>
      { w with
        riders :=
          post (fun r => r.id = profileId) (fun r => { r with status := .active }) 0 w.riders }

/-- No edit in flight, each ledger at what its counter holds. -/
def start (now : Nat) (nodes : List NodeRow) (riders : List RiderRow) : World :=
  ⟨now, opened NodeRow.currentCount nodes, opened RiderRow.currentActiveOrderCount riders, []⟩

end Locoomo.Edits
