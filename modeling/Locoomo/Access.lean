import Locoomo.Identity

/-! Who may act where. Accounts are registered, invited and approved; operators
take Nodes on, invite staff to them and remove them again. A request reads, waits
and commits later, and in between others do. -/

namespace Locoomo.Access

open Identity (UserRole UserStatus UserRow OneTimeTokenRow)
open Relational

/-! ## Tables -/

inductive NodeStatus
  | pending | active | inactive | suspended
  deriving DecidableEq, Repr

inductive NodeMembershipRole
  | owner | staff
  deriving DecidableEq, Repr

inductive NodeMembershipStatus
  | active | removed
  deriving DecidableEq, Repr

inductive RiderStatus
  | pending | active | suspended
  deriving DecidableEq, Repr

structure NodeRow where
  id : Nat
  status : NodeStatus
  isPubliclyVisible : Bool
  deriving DecidableEq, Repr

structure NodeMembershipRow where
  id : Nat
  userId : Nat
  nodeId : Nat
  roleAtNode : NodeMembershipRole
  status : NodeMembershipStatus
  deriving DecidableEq, Repr

structure RiderProfileRow where
  id : Nat
  userId : Nat
  status : RiderStatus
  deriving DecidableEq, Repr

/-- The claims of an access token; it expires at a whole second. -/
structure AccessToken where
  sub : Nat
  role : UserRole
  exp : Nat
  deriving DecidableEq, Repr

def ACCESS_TOKEN_TTL_SECONDS : Nat := 15 * 60
def EMAIL_VERIFICATION_TOKEN_TTL_HOURS : Nat := 24
def INVITE_TOKEN_TTL_DAYS : Nat := 7

def SELF_REGISTERABLE_ROLES : List UserRole := [.consumer, .nodeOperator, .rider]
def INVITABLE_ROLES : List UserRole := [.nodeOperator, .rider, .admin]

/-! ## Requests -/

structure RegisterDto where
  firstName : String
  lastName : String
  email : String
  passwordHash : String
  role : Option UserRole
  deriving DecidableEq, Repr

/-- A verified Google identity, its name already resolved. -/
structure GoogleIdentity where
  sub : String
  email : String
  emailVerified : Bool
  firstName : String
  lastName : String
  deriving DecidableEq, Repr

structure InviteFields where
  firstName : String
  lastName : String
  email : String
  phone : String
  role : UserRole
  deriving DecidableEq, Repr

/-- What needs no session. -/
inductive PublicRequest
  | register (dto : RegisterDto)
  | google (identity : GoogleIdentity) (role : Option UserRole) (consentAccepted : Bool)
  | verifyEmail (rawToken : String)
  | confirmInvite (rawToken : String) (passwordHash : String)
  deriving DecidableEq

/-- What needs one. An invitation of staff brings no role of its own. -/
inductive Request
  | invite (dto : InviteFields)
  | onboard
  | addNode
  | inviteStaff (nodeId : Nat) (firstName lastName email phone : String)
  | removeStaff (nodeId staffUserId : Nat)
  | setVisibility (nodeId : Nat) (isPubliclyVisible : Bool)
  | approveNodeOperator (membershipId : Nat)
  | createNode
  | updateNode (nodeId : Nat) (status : Option NodeStatus)
  | onboardRider
  | approveRider (profileId : Nat)
  | updateMine (phone : String)
  deriving DecidableEq

/-- `@Roles` of each route; none lets in every role. -/
def Request.roles : Request → List UserRole
  | .invite _ | .approveNodeOperator _ | .createNode | .updateNode _ _ | .approveRider _ =>
      [.admin]
  | .onboard | .addNode | .inviteStaff _ _ _ _ _ | .removeStaff _ _ | .setVisibility _ _ =>
      [.nodeOperator]
  | .onboardRider => [.rider]
  | .updateMine _ => []

inductive AccessError
  | unauthenticated
  | insufficientRole
  | validation (field : String)
  | emailAlreadyRegistered (email : String)
  | invalidGoogleToken
  | consentRequired
  | invalidVerificationToken
  | invalidInviteToken
  | entityNotFound (entity : String) (id : Nat)
  | nodeNotActive
  | nodeOperatorAlreadyOnboarded
  | nodeOperatorNotOnboarded
  | profileIncomplete
  | cannotRemoveOwnerMembership
  | riderAlreadyOnboarded
  deriving DecidableEq, Repr

/-- A request between its reads and its transaction, with what it has read; an
entity that is saved comes with all of its columns. -/
inductive Call
  | ended
  | registering (user : UserRow)
  | inviting (fields : InviteFields)
  | verifyingEmail (stored : OneTimeTokenRow)
  | confirmingInvite (stored : OneTimeTokenRow) (passwordHash : String)
  | creatingNode (owner : Option Nat)
  | invitingStaff (nodeId : Nat) (fields : InviteFields)
  | removing (membershipId : Nat)
  | showing (nodeId : Nat) (isPubliclyVisible : Bool)
  | approvingNodeOperator (membership : NodeMembershipRow)
  | updatingNode (node : NodeRow)
  | onboardingRider (userId : Nat)
  | approvingRider (profile : RiderProfileRow)
  | updatingProfile (user : UserRow)
  deriving DecidableEq

/-- `issued` are the access tokens signed so far. -/
structure World where
  now : Nat
  nextId : Nat
  users : List UserRow
  inviteTokens : List OneTimeTokenRow
  verificationTokens : List OneTimeTokenRow
  nodes : List NodeRow
  memberships : List NodeMembershipRow
  riders : List RiderProfileRow
  issued : List AccessToken
  calls : List Call
  deriving DecidableEq

/-- The digest of tokens, and `toLowerCase`. -/
structure Platform where
  hashToken : String → String
  toLowerCase : String → String

inductive Action
  | tick (ms : Nat)
  | logIn (userId : Nat)
  | ask (request : PublicRequest)
  | begin (token : Option AccessToken) (request : Request)
  | commit (i : Nat) (drawn : String)
  | abandon (i : Nat)
  deriving DecidableEq

/-! ## Guards -/

/-- `AuthGuard`, then `RolesGuard`. -/
def guard (w : World) (token : Option AccessToken) (roles : List UserRole) :
    Except AccessError Nat :=
  match token.filter fun token => token ∈ w.issued && w.now / 1000 < token.exp with
  | none => .error .unauthenticated
  | some token =>
      if roles = [] ∨ token.role ∈ roles then .ok token.sub else .error .insufficientRole

def isActiveMember (userId nodeId : Nat) (m : NodeMembershipRow) : Bool :=
  m.userId = userId && m.nodeId = nodeId && m.status = .active

/-- `NodeOperatorQueryService.getForNode`: the membership with its Node. -/
def getForNode (w : World) (userId nodeId : Nat) :
    Except AccessError (NodeMembershipRow × NodeRow) :=
  match w.memberships.find? (isActiveMember userId nodeId), get NodeRow.id nodeId w.nodes with
  | some membership, some node => .ok (membership, node)
  | _, _ => .error (.entityNotFound "NodeMembership" nodeId)

def assertOwner (w : World) (userId nodeId : Nat) :
    Except AccessError (NodeMembershipRow × NodeRow) := do
  let (membership, node) ← getForNode w userId nodeId
  if membership.roleAtNode = .owner then .ok (membership, node)
  else .error (.entityNotFound "NodeMembership" nodeId)

/-- `getNodeIdsForUser`. -/
def getNodeIdsForUser (w : World) (userId : Nat) : List Nat :=
  (w.memberships.filter fun m => m.userId = userId && m.status = .active).map
    NodeMembershipRow.nodeId

def hasOwnerMembership (w : World) (userId : Nat) : Bool :=
  w.memberships.any fun m => m.userId = userId && m.roleAtNode = .owner && m.status = .active

def isRegistered (w : World) (email : String) : Bool := w.users.any fun u => u.email = email

/-! ## Reads -/

/-- The status of an account that registers itself. -/
def selfRegisteredStatus (role : UserRole) : UserStatus :=
  if role = .nodeOperator ∨ role = .rider then .pendingReview else .active

/-- An account before it is stored. -/
def newUser (w : World) (email : String) (firstName lastName : String) (role : UserRole)
    (status : UserStatus) : UserRow where
  id := 0
  email := email
  passwordHash := none
  firstName := firstName
  lastName := lastName
  phone := none
  googleId := none
  role := role
  status := status
  consentAcceptedAt := none
  emailVerifiedAt := none
  failedLoginAttempts := 0
  lockedUntil := none
  createdAt := w.now

def isUsable (w : World) (token : OneTimeTokenRow) : Bool :=
  token.usedAt.isNone && decide (w.now ≤ token.expiresAt)

/-- The phone that onboarding asks for. -/
def requirePhone (w : World) (userId : Nat) : Except AccessError Unit :=
  match get UserRow.id userId w.users with
  | none => .error (.entityNotFound "User" userId)
  | some user =>
      if (user.phone.filter (· ≠ "")).isSome then .ok () else .error .profileIncomplete

def readPublic (p : Platform) (w : World) : PublicRequest → Except AccessError Call
  | .register dto =>
      let role := dto.role.getD .consumer
      let email := p.toLowerCase dto.email
      if dto.role.all (· ∈ SELF_REGISTERABLE_ROLES) = false then .error (.validation "role")
      else if isRegistered w email then .error (.emailAlreadyRegistered email)
      else
        .ok (.registering
          { newUser w email dto.firstName dto.lastName role (selfRegisteredStatus role) with
            passwordHash := some dto.passwordHash
            consentAcceptedAt := some w.now })
  | .google identity dtoRole consentAccepted =>
      let role := dtoRole.getD .consumer
      let email := p.toLowerCase identity.email
      if dtoRole.all (· ∈ SELF_REGISTERABLE_ROLES) = false then .error (.validation "role")
      else if identity.emailVerified = false then .error .invalidGoogleToken
      else if w.users.any fun u => u.googleId = some identity.sub then .ok .ended
      else if isRegistered w email then .error (.emailAlreadyRegistered email)
      else if consentAccepted = false then .error .consentRequired
      else
        .ok (.registering
          { newUser w email identity.firstName identity.lastName role
              (selfRegisteredStatus role) with
            googleId := some identity.sub
            consentAcceptedAt := some w.now
            emailVerifiedAt := some w.now })
  | .verifyEmail rawToken =>
      match (get OneTimeTokenRow.tokenHash (p.hashToken rawToken) w.verificationTokens).filter
          (isUsable w) with
      | none => .error .invalidVerificationToken
      | some stored => .ok (.verifyingEmail stored)
  | .confirmInvite rawToken passwordHash =>
      match (get OneTimeTokenRow.tokenHash (p.hashToken rawToken) w.inviteTokens).filter
          (isUsable w) with
      | none => .error .invalidInviteToken
      | some stored => .ok (.confirmingInvite stored passwordHash)

def read (p : Platform) (w : World) (caller : Nat) : Request → Except AccessError Call
  | .invite dto =>
      let email := p.toLowerCase dto.email
      if dto.role ∉ INVITABLE_ROLES then .error (.validation "role")
      else if isRegistered w email then .error (.emailAlreadyRegistered email)
      else .ok (.inviting { dto with email })
  | .onboard =>
      if hasOwnerMembership w caller then .error .nodeOperatorAlreadyOnboarded
      else do
        requirePhone w caller
        .ok (.creatingNode (some caller))
  | .addNode =>
      if hasOwnerMembership w caller = false then .error .nodeOperatorNotOnboarded
      else do
        requirePhone w caller
        .ok (.creatingNode (some caller))
  | .inviteStaff nodeId firstName lastName email phone => do
      let (_, node) ← assertOwner w caller nodeId
      if node.status = .active then
        .ok (.invitingStaff nodeId ⟨firstName, lastName, p.toLowerCase email, phone, .nodeStaff⟩)
      else .error .nodeNotActive
  | .removeStaff nodeId staffUserId => do
      let _ ← assertOwner w caller nodeId
      match w.memberships.find? (isActiveMember staffUserId nodeId) with
      | none => .error (.entityNotFound "NodeMembership" staffUserId)
      | some target =>
          if target.roleAtNode = .staff then .ok (.removing target.id)
          else .error .cannotRemoveOwnerMembership
  | .setVisibility nodeId isPubliclyVisible => do
      let (_, node) ← assertOwner w caller nodeId
      if node.status = .active then .ok (.showing nodeId isPubliclyVisible)
      else .error .nodeNotActive
  | .approveNodeOperator membershipId =>
      match (get NodeMembershipRow.id membershipId w.memberships).filter
          fun m => m.status = .active with
      | none => .error (.entityNotFound "NodeMembership" membershipId)
      | some membership => .ok (.approvingNodeOperator membership)
  | .createNode => .ok (.creatingNode none)
  | .updateNode nodeId status =>
      match get NodeRow.id nodeId w.nodes with
      | none => .error (.entityNotFound "Node" nodeId)
      | some node => .ok (.updatingNode { node with status := status.getD node.status })
  | .onboardRider =>
      if w.riders.any fun r => r.userId = caller then .error .riderAlreadyOnboarded
      else do
        requirePhone w caller
        .ok (.onboardingRider caller)
  | .approveRider profileId =>
      match get RiderProfileRow.id profileId w.riders with
      | none => .error (.entityNotFound "RiderProfile" profileId)
      | some profile => .ok (.approvingRider profile)
  | .updateMine phone =>
      match get UserRow.id caller w.users with
      | none => .error (.entityNotFound "User" caller)
      | some user => .ok (.updatingProfile { user with phone := some phone })

/-! ## Transactions -/

/-- The insert of an account; its email, and a Google identity, back one account only. -/
def insertUser (w : World) (user : UserRow) : Except AccessError World :=
  if isRegistered w user.email ||
      w.users.any fun u => u.googleId.isSome && u.googleId = user.googleId then
    .error (.emailAlreadyRegistered user.email)
  else .ok { w with nextId := w.nextId + 1, users := w.users ++ [{ user with id := w.nextId }] }

/-- `createInvite`. -/
def createInvite (p : Platform) (w : World) (fields : InviteFields) (drawn : String) :
    Except AccessError World := do
  let user :=
    { newUser w fields.email fields.firstName fields.lastName fields.role .invited with
      phone := some fields.phone }
  let w' ← insertUser w user
  .ok { w' with
    nextId := w'.nextId + 1
    inviteTokens := w'.inviteTokens ++
      [⟨w'.nextId, w.nextId, p.hashToken drawn,
        w.now + INVITE_TOKEN_TTL_DAYS * 24 * 60 * 60 * 1000, none, w.now⟩] }

/-- A membership; `(userId, nodeId)` is unique. -/
def insertMembership (w : World) (userId nodeId : Nat) (roleAtNode : NodeMembershipRole) :
    Except AccessError World :=
  if w.memberships.any fun m => m.userId = userId && m.nodeId = nodeId then
    .error .nodeOperatorAlreadyOnboarded
  else
    .ok { w with
      nextId := w.nextId + 1
      memberships := w.memberships ++ [⟨w.nextId, userId, nodeId, roleAtNode, .active⟩] }

def updateUser (w : World) (userId : Nat) (f : UserRow → UserRow) : World :=
  { w with users := update (fun u => u.id = userId) f w.users }

/-- `ActivateUserService.activate`. -/
def activate (w : World) (userId : Nat) : World :=
  updateUser w userId fun u => { u with status := .active }

def useToken (now id : Nat) (tokens : List OneTimeTokenRow) : List OneTimeTokenRow :=
  update (fun t => t.id = id) (fun t => { t with usedAt := some now }) tokens

def setNodeStatus (w : World) (nodeId : Nat) (status : NodeStatus) : Except AccessError World :=
  match get NodeRow.id nodeId w.nodes with
  | none => .error (.entityNotFound "Node" nodeId)
  | some _ =>
      .ok { w with
        nodes := update (fun n => n.id = nodeId) (fun n => { n with status }) w.nodes }

/-- The transaction of a request; an error rolls it back. -/
def transact (p : Platform) (w : World) (drawn : String) : Call → Except AccessError World
  | .ended => .ok w
  | .registering user => do
      let w' ← insertUser w user
      if user.googleId.isSome then .ok w'
      else
        .ok { w' with
          nextId := w'.nextId + 1
          verificationTokens := w'.verificationTokens ++
            [⟨w'.nextId, w.nextId, p.hashToken drawn,
              w.now + EMAIL_VERIFICATION_TOKEN_TTL_HOURS * 60 * 60 * 1000, none, w.now⟩] }
  | .inviting fields => createInvite p w fields drawn
  | .verifyingEmail stored =>
      .ok (updateUser
        { w with verificationTokens := useToken w.now stored.id w.verificationTokens }
        stored.userId fun u => { u with emailVerifiedAt := some w.now })
  | .confirmingInvite stored passwordHash =>
      .ok (updateUser { w with inviteTokens := useToken w.now stored.id w.inviteTokens }
        stored.userId fun u =>
          { u with
            passwordHash := some passwordHash
            status := .active
            consentAcceptedAt := some w.now
            emailVerifiedAt := some w.now })
  | .creatingNode owner =>
      let w' :=
        { w with
          nextId := w.nextId + 1
          nodes := w.nodes ++ [⟨w.nextId, if owner.isSome then .pending else .active, true⟩] }
      match owner with
      | none => .ok w'
      | some userId => insertMembership w' userId w.nextId .owner
  | .invitingStaff nodeId fields =>
      if isRegistered w fields.email then .error (.emailAlreadyRegistered fields.email)
      else do
        let w' ← createInvite p w fields drawn
        insertMembership w' w.nextId nodeId .staff
  | .removing membershipId =>
      .ok { w with
        memberships := update (fun m => m.id = membershipId)
          (fun m => { m with status := .removed }) w.memberships }
  | .showing nodeId isPubliclyVisible =>
      match get NodeRow.id nodeId w.nodes with
      | none => .error (.entityNotFound "Node" nodeId)
      | some _ =>
          .ok { w with
            nodes := update (fun n => n.id = nodeId)
              (fun n => { n with isPubliclyVisible }) w.nodes }
  | .approvingNodeOperator membership =>
      setNodeStatus (activate w membership.userId) membership.nodeId .active
  | .updatingNode node => .ok { w with nodes := put NodeRow.id node w.nodes }
  | .onboardingRider userId =>
      if w.riders.any fun r => r.userId = userId then .error .riderAlreadyOnboarded
      else
        .ok { w with
          nextId := w.nextId + 1
          riders := w.riders ++ [⟨w.nextId, userId, .pending⟩] }
  | .approvingRider profile =>
      .ok { activate w profile.userId with
        riders := update (fun r => r.id = profile.id) (fun r => { r with status := .active })
          w.riders }
  | .updatingProfile user => .ok { w with users := put UserRow.id user w.users }

/-! ## Runs -/

def start (w : World) (call : Except AccessError Call) : World :=
  match call with
  | .ok call => { w with calls := w.calls ++ [call] }
  | .error _ => w

/-- What a request with a session comes to, before its transaction. -/
def received (p : Platform) (w : World) (token : Option AccessToken) (request : Request) :
    Except AccessError Call := do
  let caller ← guard w token request.roles
  read p w caller request

/-- A session for the account, from a login or a refresh. -/
def issue (w : World) (userId : Nat) : World :=
  match (get UserRow.id userId w.users).filter fun u => u.status ≠ .suspended with
  | none => w
  | some user =>
      { w with
        issued := w.issued ++ [⟨user.id, user.role, w.now / 1000 + ACCESS_TOKEN_TTL_SECONDS⟩] }

def settle (w : World) (i : Nat) (result : Except AccessError World) : World :=
  match result with
  | .ok w' => { w' with calls := w'.calls.set i .ended }
  | .error _ => { w with calls := w.calls.set i .ended }

def exec (p : Platform) (w : World) : Action → World
  | .tick ms => { w with now := w.now + ms }
  | .logIn userId => issue w userId
  | .ask request => start w (readPublic p w request)
  | .begin token request => start w (received p w token request)
  | .commit i drawn =>
      match w.calls[i]? with
      | none => w
      | some call => settle w i (transact p w drawn call)
  | .abandon i => { w with calls := w.calls.set i .ended }

def run (p : Platform) (w : World) (as : List Action) : World := Runs.run (exec p) w as

end Locoomo.Access
