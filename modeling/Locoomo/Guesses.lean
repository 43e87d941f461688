import Locoomo.Lib.Runs
import Locoomo.Lib.Holders
import Locoomo.Handoffs

/-! Handoff codes under concurrent calls. A confirming call inserts its
idempotency key, compares the code it was given with the newest unused one, and
raises that one's counter on a second connection when they differ; calls that
issue a code run beside it. -/

namespace Locoomo.Guesses

open Locoomo.Routing Locoomo.Database Locoomo.Handoffs Relational

/-! ## Calls -/

/-- The idempotency key of a confirming call: each code type is confirmed under a
scope of its own, keyed by the order. -/
abbrev Key := Nat × HandoffCodeType

def codeKey (row : HandoffCodeRow) : Key := (row.orderId, row.type)

/-- A confirming call. `since` and `dead` note when it began and which codes had
been used or superseded by then. -/
structure Guess where
  key : Key
  code : String
  since : Nat
  dead : List Nat
  deriving DecidableEq

/-- A call of `issue` in the transaction that began at `createdAt`. -/
structure Request where
  key : Key
  requestedByUserId : Option Nat
  ttlMinutes : Nat
  rawCode : String
  createdAt : Nat
  deriving DecidableEq

inductive Answer
  | confirmed | alreadyProcessed | invalidHandoffCode | issued | failed
  deriving DecidableEq

/-- A call between two of its statements. -/
inductive Call
  | ended (answer : Answer)
  -- a confirming call: the key, `validate`, and the end of its transaction
  | inserting (guess : Guess)
  | validating (guess : Guess)
  | recording (guess : Guess) (codeId : Nat)
  | refusing (guess : Guess)
  | confirming (guess : Guess) (row : HandoffCodeRow) (usedAt : Nat)
  -- an issue: what its `DELETE` finds, and the commit
  | issuing (request : Request)
  | superseding (request : Request) (expiresAt : Nat) (seen : List Nat)
  deriving DecidableEq

/-- `wrong`, `accepted`, `superseded` and `locked` are no tables. They note the code
of each wrong comparison, the calls that have confirmed and by which code, the
codes found by the `DELETE` of an issue that has committed since; and the keys
one of whose codes has been guessed wrong five times with none issued since. -/
structure World where
  now : Nat
  nextId : Nat
  codes : List HandoffCodeRow
  keys : List Key
  calls : List Call
  wrong : List Nat
  accepted : List (Guess × HandoffCodeRow)
  superseded : List Nat
  locked : List Key

/-- `step i` is the next statement of call `i`, or its end; in `abort i` a later
statement of its transaction fails. Only a key makes a statement wait here: a row
lock would delay others further, and allows nothing new. -/
inductive Action
  | tick (ms : Nat)
  | confirm (orderId : Nat) (type : HandoffCodeType) (code : String)
  | issue (orderId : Nat) (type : HandoffCodeType) (requestedByUserId : Option Nat)
      (ttlMinutes : Nat) (rawCode : String)
  | step (i : Nat)
  | abort (i : Nat)
  deriving DecidableEq

/-- The key a call has inserted and not committed. -/
def opened : Call → List Key
  | .validating guess | .recording guess _ | .refusing guess | .confirming guess _ _ => [guess.key]
  | .ended _ | .inserting _ | .issuing _ | .superseding .. => []

def isOpen (w : World) (key : Key) : Bool := w.calls.any fun call => key ∈ opened call

def newest (codes : List HandoffCodeRow) (key : Key) : Option HandoffCodeRow :=
  latest HandoffCodeRow.createdAt (codes.filter (isUnusedCode key.1 key.2))

/-! ## Statements -/

def proceed (w : World) (i : Nat) (call : Call) : World := { w with calls := w.calls.set i call }

def begin (w : World) (call : Call) : World := { w with calls := w.calls ++ [call] }

/-- Inserting the key: it fails on a committed one and waits for an open one. -/
def insertKey (w : World) (i : Nat) (guess : Guess) : World :=
  if guess.key ∈ w.keys then proceed w i (.ended .alreadyProcessed)
  else if isOpen w guess.key then w
  else proceed w i (.validating guess)

/-- The hashes are only compared on a code that is neither expired nor locked. -/
def isCompared (now : Nat) (row : HandoffCodeRow) : Bool :=
  now < row.expiresAt ∧ row.failedAttempts < maxHandoffCodeAttempts

/-- A guess that is compared and wrong; the fifth locks the code. -/
def noteWrong (w : World) (key : Key) (codeId : Nat) : World :=
  let wrong := codeId :: w.wrong
  { w with
    wrong
    locked := if wrong.count codeId = maxHandoffCodeAttempts then key :: w.locked else w.locked }

variable (d : Deployment)

/-- The read of `validate` and its checks. -/
def validate (w : World) (i : Nat) (guess : Guess) : World :=
  match newest w.codes guess.key with
  | none => proceed w i (.refusing guess)
  | some row =>
      if isValidCode d w.now guess.code row then proceed w i (.confirming guess row w.now)
      else if isCompared w.now row then
        noteWrong (proceed w i (.recording guess row.id)) guess.key row.id
      else proceed w i (.recording guess row.id)

/-- `UPDATE handoff_codes SET "failedAttempts" = "failedAttempts" + 1 WHERE id`. -/
def raiseAttempts (codes : List HandoffCodeRow) (codeId : Nat) : List HandoffCodeRow :=
  update (fun c => c.id = codeId) (fun c => { c with failedAttempts := c.failedAttempts + 1 }) codes

/-- The commit of a confirming call: the code is used, if it is still there. -/
def confirmed (w : World) (i : Nat) (guess : Guess) (row : HandoffCodeRow) (usedAt : Nat) : World :=
  { proceed w i (.ended .confirmed) with
    codes := update (fun c => c.id = row.id) (fun c => { c with usedAt := some usedAt }) w.codes
    keys := guess.key :: w.keys
    accepted := (guess, row) :: w.accepted }

/-- The row an issue inserts. -/
def newCode (w : World) (request : Request) (expiresAt : Nat) : HandoffCodeRow where
  id := w.nextId
  orderId := request.key.1
  type := request.key.2
  codeHash := d.hashToken request.rawCode
  requestedByUserId := request.requestedByUserId
  expiresAt := expiresAt
  usedAt := none
  failedAttempts := 0
  createdAt := request.createdAt

/-- The commit of an issue. Of the codes its `DELETE` found, those used in the
meantime stay. -/
def issued (w : World) (i : Nat) (request : Request) (expiresAt : Nat) (seen : List Nat) : World :=
  let deleted := fun c : HandoffCodeRow =>
    decide (c.id ∈ seen) && isUnusedCode request.key.1 request.key.2 c
  { proceed w i (.ended .issued) with
    nextId := w.nextId + 1
    codes := w.codes.filter (fun c => !deleted c) ++ [newCode d w request expiresAt]
    superseded := seen ++ w.superseded
    locked := w.locked.filter (· ≠ request.key) }

def statement (w : World) (i : Nat) : Call → World
  | .ended _ => w
  | .inserting guess => insertKey w i guess
  | .validating guess => validate d w i guess
  | .recording guess codeId =>
      { proceed w i (.refusing guess) with codes := raiseAttempts w.codes codeId }
  | .refusing _ => proceed w i (.ended .invalidHandoffCode)
  | .confirming guess row usedAt => confirmed w i guess row usedAt
  | .issuing request =>
      let visible := w.codes.filter (isUnusedCode request.key.1 request.key.2)
      proceed w i
        (.superseding request (w.now + request.ttlMinutes * minute)
          (visible.map HandoffCodeRow.id))
  | .superseding request expiresAt seen => issued d w i request expiresAt seen

/-- Whether a call has a transaction that may still fail. The count of a failed attempt
goes over a connection of its own, and its `UPDATE` is taken to succeed. -/
def mayFail : Call → Bool
  | .confirming .. | .issuing _ | .superseding .. => true
  | .ended _ | .inserting _ | .validating _ | .recording .. | .refusing _ => false

def usedCodes (codes : List HandoffCodeRow) : List Nat :=
  (codes.filter fun c => c.usedAt.isSome).map HandoffCodeRow.id

def exec (w : World) : Action → World
  | .tick ms => { w with now := w.now + ms }
  | .confirm orderId type code =>
      let dead := usedCodes w.codes ++ w.superseded
      begin w (.inserting { key := (orderId, type), code, since := w.now, dead })
  | .issue orderId type requestedByUserId ttlMinutes rawCode =>
      begin w
        (.issuing
          { key := (orderId, type), requestedByUserId, ttlMinutes, rawCode, createdAt := w.now })
  | .step i =>
      match w.calls[i]? with
      | none => w
      | some call => statement d w i call
  | .abort i =>
      match w.calls[i]? with
      | none => w
      | some call => if mayFail call then proceed w i (.ended .failed) else w

/-- Before any code is issued. -/
def start (now : Nat) : World := ⟨now, 0, [], [], [], [], [], [], []⟩

end Locoomo.Guesses
