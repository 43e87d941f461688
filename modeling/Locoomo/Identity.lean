import Locoomo.Lib.Runs
import Locoomo.Lib.Table
import Locoomo.Lib.Holders
import Locoomo.Lib.Saves

/-! Accounts and their sessions, statement by statement. Logins, refreshes,
password resets and profile updates each read a row, wait, and write later; an
entity is written back by a save. -/

namespace Locoomo.Identity

open Relational

/-! ## Tables -/

inductive UserRole
  | consumer | nodeOperator | rider | admin | nodeStaff
  deriving DecidableEq, Repr

inductive UserStatus
  | invited | pendingReview | active | suspended
  deriving DecidableEq, Repr

/-- A row of `users`. The `email` is kept in lower case. -/
structure UserRow where
  id : Nat
  email : String
  passwordHash : Option String
  firstName : String
  lastName : String
  phone : Option String
  googleId : Option String
  role : UserRole
  status : UserStatus
  consentAcceptedAt : Option Nat
  emailVerifiedAt : Option Nat
  failedLoginAttempts : Nat
  lockedUntil : Option Nat
  createdAt : Nat
  deriving DecidableEq, Repr

structure RefreshTokenRow where
  id : Nat
  userId : Nat
  tokenHash : String
  familyId : Nat
  expiresAt : Nat
  revokedAt : Option Nat
  createdAt : Nat
  deriving DecidableEq, Repr

/-- A row of `password_reset_tokens` or of `email_verification_tokens`. -/
structure OneTimeTokenRow where
  id : Nat
  userId : Nat
  tokenHash : String
  expiresAt : Nat
  usedAt : Option Nat
  createdAt : Nat
  deriving DecidableEq, Repr

def MAX_FAILED_LOGIN_ATTEMPTS : Nat := 5
def LOCKOUT_DURATION_MINUTES : Nat := 15
def REFRESH_TOKEN_TTL_DAYS : Nat := 30

/-- `hashToken` is a digest, `verifyPassword` recomputes a salted hash. -/
structure Crypto where
  hashToken : String → String
  verifyPassword : String → String → Bool

/-! ## Entities -/

/-- What `registerFailedAttempt` sets on the entity. -/
def registerFailedAttempt (now : Nat) (user : UserRow) : UserRow :=
  let failedLoginAttempts := user.failedLoginAttempts + 1
  if MAX_FAILED_LOGIN_ATTEMPTS ≤ failedLoginAttempts then
    { user with
      failedLoginAttempts, lockedUntil := some (now + LOCKOUT_DURATION_MINUTES * 60 * 1000) }
  else { user with failedLoginAttempts }

def clearLockout (user : UserRow) : UserRow :=
  { user with failedLoginAttempts := 0, lockedUntil := none }

/-- `users.save`: the columns in which the entity differs from the re-read row. -/
def saveUser (entity row current : UserRow) : UserRow where
  id := current.id
  email := Saves.column entity.email row.email current.email
  passwordHash := Saves.column entity.passwordHash row.passwordHash current.passwordHash
  firstName := Saves.column entity.firstName row.firstName current.firstName
  lastName := Saves.column entity.lastName row.lastName current.lastName
  phone := Saves.column entity.phone row.phone current.phone
  googleId := Saves.column entity.googleId row.googleId current.googleId
  role := Saves.column entity.role row.role current.role
  status := Saves.column entity.status row.status current.status
  consentAcceptedAt :=
    Saves.column entity.consentAcceptedAt row.consentAcceptedAt current.consentAcceptedAt
  emailVerifiedAt := Saves.column entity.emailVerifiedAt row.emailVerifiedAt current.emailVerifiedAt
  failedLoginAttempts :=
    Saves.column entity.failedLoginAttempts row.failedLoginAttempts current.failedLoginAttempts
  lockedUntil := Saves.column entity.lockedUntil row.lockedUntil current.lockedUntil
  createdAt := Saves.column entity.createdAt row.createdAt current.createdAt

/-- `refreshTokens.save`. -/
def saveToken (entity row current : RefreshTokenRow) : RefreshTokenRow where
  id := current.id
  userId := Saves.column entity.userId row.userId current.userId
  tokenHash := Saves.column entity.tokenHash row.tokenHash current.tokenHash
  familyId := Saves.column entity.familyId row.familyId current.familyId
  expiresAt := Saves.column entity.expiresAt row.expiresAt current.expiresAt
  revokedAt := Saves.column entity.revokedAt row.revokedAt current.revokedAt
  createdAt := Saves.column entity.createdAt row.createdAt current.createdAt

/-! ## Calls -/

/-- How a call ends. -/
inductive Answer
  | done
  | invalidCredentials
  | accountSuspended
  | invalidRefreshToken
  | invalidResetToken
  | userNotFound (id : Nat)
  | uniqueViolation
  deriving DecidableEq, Repr

/-- A call between two of its statements. -/
inductive Call
  | ended (answer : Answer)
  -- `login`: the password check, the save of the lockout fields, the new session
  | checking (user : UserRow) (password passwordHash : String)
  | loginSaving (entity : UserRow) (valid : Bool)
  | loginWriting (entity row : UserRow) (valid : Bool)
  | issuing (user : UserRow)
  -- `refresh`: the answer to a replay, or the save of the token and its successor
  | revokingFamily (familyId : Nat)
  | rotateSaving (stored : RefreshTokenRow)
  | rotateWriting (stored row : RefreshTokenRow)
  | rotating (stored : RefreshTokenRow)
  -- `confirmReset`: hashing the new password, then its transaction
  | hashing (stored : OneTimeTokenRow)
  | resetting (stored : OneTimeTokenRow) (passwordHash : String) (revokedAt : Nat) (seen : List Nat)
  -- `updateMine`
  | profileSaving (entity : UserRow)
  | profileWriting (entity row : UserRow)
  deriving DecidableEq

/-- `accepted`, `closed` and `others` are no tables. They collect the hashes of the
tokens a `refresh` has been granted for and the families shut by a replay or a
password reset; and they keep the users as the last step that is no login's
left them. -/
structure World where
  now : Nat
  nextId : Nat
  users : List UserRow
  refreshTokens : List RefreshTokenRow
  resetTokens : List OneTimeTokenRow
  verificationTokens : List OneTimeTokenRow
  calls : List Call
  accepted : List String
  closed : List Nat
  others : List UserRow
  deriving DecidableEq

/-- `step i drawn` is the next statement of call `i`, with the random bytes it
draws: a refresh token, or a salted password hash. -/
inductive Action
  | tick (ms : Nat)
  | login (email password : String)
  | refresh (rawToken : String)
  | logout (rawToken : Option String)
  | confirmReset (rawToken : String)
  | setStatus (userId : Nat) (status : UserStatus)
  | verifyEmail (rawToken : String)
  | updateMine (userId : Nat) (phone : String)
  | step (i : Nat) (drawn : String)
  deriving DecidableEq

variable (c : Crypto)

/-! ## First reads -/

def isLocked (now : Nat) (user : UserRow) : Bool := user.lockedUntil.any fun t => now < t

def readLogin (w : World) (email password : String) : Call :=
  match w.users.find? fun u => u.email = email with
  | none => .ended .invalidCredentials
  | some user =>
      match user.passwordHash.filter (· ≠ "") with
      | none => .ended .invalidCredentials
      | some passwordHash =>
          if isLocked w.now user then .ended .invalidCredentials
          else .checking user password passwordHash

def isSuspended (users : List UserRow) (userId : Nat) : Bool :=
  (get UserRow.id userId users).any fun u => u.status = .suspended

/-- The checks of `refresh` on the token and, through the join, on its user. -/
def readRefresh (w : World) (rawToken : String) : Call :=
  match get RefreshTokenRow.tokenHash (c.hashToken rawToken) w.refreshTokens with
  | none => .ended .invalidRefreshToken
  | some stored =>
      if stored.revokedAt ≠ none then .revokingFamily stored.familyId
      else if stored.expiresAt < w.now then .ended .invalidRefreshToken
      else if isSuspended w.users stored.userId then .ended .accountSuspended
      else .rotateSaving { stored with revokedAt := some w.now }

/-- A one-time token that may still be used. -/
def usable (tokens : List OneTimeTokenRow) (tokenHash : String) (now : Nat) :
    Option OneTimeTokenRow :=
  (get OneTimeTokenRow.tokenHash tokenHash tokens).filter fun t =>
    t.usedAt = none ∧ now ≤ t.expiresAt

def readReset (w : World) (rawToken : String) : Call :=
  match usable w.resetTokens (c.hashToken rawToken) w.now with
  | none => .ended .invalidResetToken
  | some stored => .hashing stored

def readProfile (w : World) (userId : Nat) (phone : String) : Call :=
  match get UserRow.id userId w.users with
  | none => .ended (.userNotFound userId)
  | some user => .profileSaving { user with phone := some phone }

/-! ## Statements -/

def markUsed (tokens : List OneTimeTokenRow) (stored : OneTimeTokenRow) (now : Nat) :
    List OneTimeTokenRow :=
  update (fun t => t.id = stored.id) (fun t => { t with usedAt := some now }) tokens

/-- `UPDATE refresh_tokens SET "revokedAt" = … WHERE …`. -/
def revoke (p : RefreshTokenRow → Bool) (revokedAt : Nat) (tokens : List RefreshTokenRow) :
    List RefreshTokenRow :=
  update p (fun t => { t with revokedAt := some revokedAt }) tokens

/-- The row `createSession` inserts. -/
def newToken (w : World) (userId familyId : Nat) (rawToken : String) : RefreshTokenRow where
  id := w.nextId
  userId := userId
  tokenHash := c.hashToken rawToken
  familyId := familyId
  expiresAt := w.now + REFRESH_TOKEN_TTL_DAYS * 24 * 60 * 60 * 1000
  revokedAt := none
  createdAt := w.now

/-- The unique index on `tokenHash`. -/
def isTaken (w : World) (rawToken : String) : Bool :=
  w.refreshTokens.any fun t => t.tokenHash = c.hashToken rawToken

def proceed (w : World) (i : Nat) (call : Call) : World := { w with calls := w.calls.set i call }

/-- `issueSession`, or `rotateSession` of a refresh that is then `granted`. -/
def createSession (w : World) (i : Nat) (userId familyId : Nat) (rawToken : String)
    (granted : Option String) : World :=
  if isTaken c w rawToken then proceed w i (.ended .uniqueViolation)
  else
    { proceed w i (.ended .done) with
      nextId := w.nextId + 2
      refreshTokens := w.refreshTokens ++ [newToken c w userId familyId rawToken]
      accepted := granted.toList ++ w.accepted }

/-- After the lockout fields. -/
def afterLogin (user : UserRow) : Call :=
  if user.status = .suspended then .ended .accountSuspended else .issuing user

def checkPassword (now : Nat) (user : UserRow) (valid : Bool) : Call :=
  if !valid then .loginSaving (registerFailedAttempt now user) false
  else if 0 < user.failedLoginAttempts ∨ user.lockedUntil ≠ none then
    .loginSaving (clearLockout user) true
  else afterLogin user

/-- The commit of a password reset: token used, password and lockout set, and
the refresh tokens revoked that its last statement saw. -/
def commitReset (w : World) (i : Nat) (stored : OneTimeTokenRow) (passwordHash : String)
    (revokedAt : Nat) (seen : List Nat) : World :=
  let set := fun u : UserRow =>
    { u with passwordHash := some passwordHash, failedLoginAttempts := 0, lockedUntil := none }
  let users := update (fun u => u.id = stored.userId) set w.users
  { proceed w i (.ended .done) with
    users
    resetTokens := markUsed w.resetTokens stored revokedAt
    refreshTokens := revoke (fun t => t.id ∈ seen) revokedAt w.refreshTokens
    closed := (w.refreshTokens.filter fun t => t.id ∈ seen).map RefreshTokenRow.familyId ++ w.closed
    others := users }

def statement (w : World) (i : Nat) (drawn : String) : Call → World
  | .ended _ => w
  | .checking user password passwordHash =>
      proceed w i (checkPassword w.now user (c.verifyPassword password passwordHash))
  | .loginSaving entity valid =>
      match get UserRow.id entity.id w.users with
      | none => w
      | some row => proceed w i (.loginWriting entity row valid)
  | .loginWriting entity row valid =>
      { proceed w i (if valid then afterLogin entity else .ended .invalidCredentials) with
        users := update (fun u => u.id = entity.id) (saveUser entity row) w.users }
  | .issuing user => createSession c w i user.id (w.nextId + 1) drawn none
  | .revokingFamily familyId =>
      { proceed w i (.ended .invalidRefreshToken) with
        refreshTokens := revoke (fun t => t.familyId = familyId) w.now w.refreshTokens
        closed := familyId :: w.closed }
  | .rotateSaving stored =>
      match get RefreshTokenRow.id stored.id w.refreshTokens with
      | none => w
      | some row => proceed w i (.rotateWriting stored row)
  | .rotateWriting stored row =>
      { proceed w i (.rotating stored) with
        refreshTokens := update (fun t => t.id = stored.id) (saveToken stored row) w.refreshTokens }
  | .rotating stored =>
      createSession c w i stored.userId stored.familyId drawn (some stored.tokenHash)
  | .hashing stored =>
      let seen := (w.refreshTokens.filter fun t => t.userId = stored.userId).map RefreshTokenRow.id
      proceed w i (.resetting stored drawn w.now seen)
  | .resetting stored passwordHash revokedAt seen =>
      commitReset w i stored passwordHash revokedAt seen
  | .profileSaving entity =>
      match get UserRow.id entity.id w.users with
      | none => w
      | some row => proceed w i (.profileWriting entity row)
  | .profileWriting entity row =>
      let users := update (fun u => u.id = entity.id) (saveUser entity row) w.users
      { proceed w i (.ended .done) with users, others := users }

def begin (w : World) (call : Call) : World := { w with calls := w.calls ++ [call] }

def exec (w : World) : Action → World
  | .tick ms => { w with now := w.now + ms }
  | .login email password => begin w (readLogin w email password)
  | .refresh rawToken => begin w (readRefresh c w rawToken)
  | .logout rawToken =>
      match rawToken.filter (· ≠ "") with
      | none => w
      | some raw =>
          { w with
            refreshTokens := revoke (fun t => t.tokenHash = c.hashToken raw) w.now w.refreshTokens }
  | .confirmReset rawToken => begin w (readReset c w rawToken)
  | .setStatus userId status =>
      let users := update (fun u => u.id = userId) (fun u => { u with status }) w.users
      { w with users, others := users }
  | .verifyEmail rawToken =>
      match usable w.verificationTokens (c.hashToken rawToken) w.now with
      | none => w
      | some stored =>
          let users :=
            update (fun u => u.id = stored.userId)
              (fun u => { u with emailVerifiedAt := some w.now })
              w.users
          { w with
            users, others := users
            verificationTokens := markUsed w.verificationTokens stored w.now }
  | .updateMine userId phone => begin w (readProfile w userId phone)
  | .step i drawn =>
      match w.calls[i]? with
      | none => w
      | some call => statement c w i drawn call

/-! ## Where the reads lead -/

section Reads

variable (P : Call → Prop) (hended : ∀ answer, P (.ended answer))

include hended

theorem afterLogin_cases (hissuing : ∀ user, P (.issuing user)) (user : UserRow) :
    P (afterLogin user) := by
  unfold afterLogin
  split
  · exact hended _
  · exact hissuing user

theorem checkPassword_cases (hsaving : ∀ entity valid, P (.loginSaving entity valid))
    (hissuing : ∀ user, P (.issuing user)) (now : Nat) (user : UserRow) (valid : Bool) :
    P (checkPassword now user valid) := by
  unfold checkPassword
  split
  · exact hsaving _ _
  · split
    · exact hsaving _ _
    · exact afterLogin_cases P hended hissuing user

theorem readLogin_cases
    (hchecking : ∀ user password passwordHash, P (.checking user password passwordHash))
    (w : World) (email password : String) : P (readLogin w email password) := by
  unfold readLogin
  split
  · exact hended _
  · split
    · exact hended _
    · split
      · exact hended _
      · exact hchecking _ _ _

theorem readRefresh_cases (hrevoking : ∀ familyId, P (.revokingFamily familyId))
    (hsaving : ∀ stored, P (.rotateSaving stored)) (w : World) (rawToken : String) :
    P (readRefresh c w rawToken) := by
  unfold readRefresh
  split
  · exact hended _
  · split
    · exact hrevoking _
    · split
      · exact hended _
      · split
        · exact hended _
        · exact hsaving _

theorem readReset_cases (hhashing : ∀ stored, P (.hashing stored)) (w : World)
    (rawToken : String) : P (readReset c w rawToken) := by
  unfold readReset
  split
  · exact hended _
  · exact hhashing _

theorem readProfile_cases (hsaving : ∀ entity, P (.profileSaving entity)) (w : World)
    (userId : Nat) (phone : String) : P (readProfile w userId phone) := by
  unfold readProfile
  split
  · exact hended _
  · exact hsaving _

end Reads

/-! ## A small world -/

def demoCrypto : Crypto :=
  ⟨fun token => token, fun password passwordHash => password = passwordHash⟩

def demoUser : UserRow where
  id := 1
  email := "ada@x"
  passwordHash := some "old"
  firstName := "Ada"
  lastName := "Obi"
  phone := none
  googleId := none
  role := .consumer
  status := .active
  consentAcceptedAt := none
  emailVerifiedAt := none
  failedLoginAttempts := 0
  lockedUntil := none
  createdAt := 0

/-- One user with the password "old", and a link to reset it. -/
def demoWorld : World where
  now := 0
  nextId := 10
  users := [demoUser]
  refreshTokens := []
  resetTokens := [⟨2, 1, "link", 5, none, 0⟩]
  verificationTokens := []
  calls := []
  accepted := []
  closed := []
  others := [demoUser]

end Locoomo.Identity
