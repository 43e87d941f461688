import Locoomo.Access

/-! Where access comes from. Whatever requests overlap, an admin has been invited
by one, a member of a Node has taken it on or was invited by its owner, and a
rider or a Node was approved. -/

namespace Locoomo.AccessGrants

open Identity (UserRole UserStatus UserRow OneTimeTokenRow)
open Locoomo.Access Relational

variable {p : Platform} {w₀ w w' : World} {as : List Action}

/-! ## What has been asked for -/

/-- A request was let through with a session of an account, and its condition held. -/
def Asked (p : Platform) (w₀ : World) (as : List Action)
    (P : World → AccessToken → Request → Prop) : Prop :=
  Runs.Earlier (exec p) w₀ as fun w a => ∃ token request call,
    a = .begin (some token) request ∧ received p w (some token) request = .ok call ∧
      (∃ u ∈ w.users, u.id = token.sub ∧ u.role = token.role) ∧
      (request.roles = [] ∨ token.role ∈ request.roles) ∧ P w token request

theorem Asked.snoc {P : World → AccessToken → Request → Prop} (h : Asked p w₀ as P) (a : Action) :
    Asked p w₀ (as ++ [a]) P :=
  Runs.Earlier.snoc h a

/-- An account owns a Node. -/
def Owns (w : World) (userId nodeId : Nat) : Prop :=
  ∃ m ∈ w.memberships, isActiveMember userId nodeId m = true ∧ m.roleAtNode = .owner

def isActiveNode (w : World) (nodeId : Nat) : Bool :=
  (get NodeRow.id nodeId w.nodes).any fun n => n.status = .active

/-- The columns of an account that are never updated. -/
def account (u : UserRow) : Nat × String × UserRole × Option String :=
  (u.id, u.email, u.role, u.googleId)

/-- The columns of a membership that are never updated. -/
def tie (m : NodeMembershipRow) : Nat × Nat × Nat × NodeMembershipRole :=
  (m.id, m.userId, m.nodeId, m.roleAtNode)

/-- The role of the accounts that hold such memberships. -/
def holderRole : NodeMembershipRole → UserRole
  | .owner => .nodeOperator
  | .staff => .nodeStaff

/-- The tables as their constraints keep them; staff are staff of one Node, and an
account keeps the role that its sessions carry. -/
structure Intact (w : World) : Prop where
  userIds : Serial UserRow.id w.nextId w.users
  emails : Distinct UserRow.email w.users
  nodeIds : Serial NodeRow.id w.nextId w.nodes
  memberIds : Serial NodeMembershipRow.id w.nextId w.memberships
  pairs : (w.memberships.map fun m => (m.userId, m.nodeId)).Nodup
  located : ∀ m ∈ w.memberships, ∃ n ∈ w.nodes, n.id = m.nodeId
  held : ∀ m ∈ w.memberships, ∃ u ∈ w.users, u.id = m.userId ∧ u.role = holderRole m.roleAtNode
  alone : ∀ m ∈ w.memberships, m.roleAtNode = .staff →
    ∀ m' ∈ w.memberships, m'.userId = m.userId → m' = m
  sessions : ∀ t ∈ w.issued, ∃ u ∈ w.users, u.id = t.sub ∧ u.role = t.role

section Grants

variable (p : Platform) (w₀ : World) (as : List Action)

/-- An admin invited the account as an admin. -/
def AdminInvited (email : String) : Prop :=
  Asked p w₀ as fun _ token request => token.role = .admin ∧
    ∃ dto, request = .invite dto ∧ dto.role = .admin ∧ p.toLowerCase dto.email = email

/-- The account asked to run a Node. -/
def NodeTaken (userId : Nat) : Prop :=
  Asked p w₀ as fun _ token request => token.sub = userId ∧
    (request = .onboard ∨ request = .addNode)

/-- The owner of the Node, then active, invited the account as staff. -/
def StaffInvited (nodeId : Nat) (email : String) : Prop :=
  Asked p w₀ as fun w token request => Owns w token.sub nodeId ∧ isActiveNode w nodeId = true ∧
    ∃ firstName lastName sent phone,
      request = .inviteStaff nodeId firstName lastName sent phone ∧ p.toLowerCase sent = email

/-- The owner of the Node removed the account from its staff. -/
def StaffRemoved (nodeId userId : Nat) : Prop :=
  Asked p w₀ as fun w token request => Owns w token.sub nodeId ∧
    request = .removeStaff nodeId userId

/-- An admin approved the rider. -/
def RiderApproved (profileId : Nat) : Prop :=
  Asked p w₀ as fun _ token request => token.role = .admin ∧ request = .approveRider profileId

/-- An admin approved an operator of the Node, or set it active. -/
def NodeApproved (nodeId : Nat) : Prop :=
  Asked p w₀ as fun w token request => token.role = .admin ∧
    ((∃ m ∈ w.memberships, m.nodeId = nodeId ∧ request = .approveNodeOperator m.id) ∨
      request = .updateNode nodeId (some .active))

/-- The Node runs by right: it did at the start, or an admin has seen to it. -/
def NodeLive (nodeId : Nat) : Prop :=
  (∃ n ∈ w₀.nodes, n.id = nodeId ∧ n.status = .active) ∨ NodeApproved p w₀ as nodeId

def CallGranted (w : World) : Call → Prop
  | .registering user => user.role ∈ SELF_REGISTERABLE_ROLES
  | .inviting fields => fields.role ≠ .nodeStaff ∧
      (fields.role = .admin → AdminInvited p w₀ as fields.email)
  | .creatingNode owner => ∀ userId, owner = some userId → NodeTaken p w₀ as userId ∧
      ∃ u ∈ w.users, u.id = userId ∧ u.role = .nodeOperator
  | .invitingStaff nodeId fields => fields.role = .nodeStaff ∧
      (∃ n ∈ w.nodes, n.id = nodeId) ∧ StaffInvited p w₀ as nodeId fields.email
  | .removing membershipId => ∃ m ∈ w.memberships, m.id = membershipId ∧ m.roleAtNode = .staff ∧
      StaffRemoved p w₀ as m.nodeId m.userId
  | .approvingNodeOperator membership => NodeApproved p w₀ as membership.nodeId
  | .updatingNode node => node.id < w.nextId ∧ (node.status = .active →
      (∃ m ∈ w.memberships, m.nodeId = node.id ∧ m.roleAtNode = .owner) →
      NodeLive p w₀ as node.id)
  | .approvingRider profile => RiderApproved p w₀ as profile.id
  | .updatingProfile user => ∃ u ∈ w.users, account u = account user
  | _ => True

/-- Everything that gives access, after the actions `as` from `w₀` on. -/
structure Granted (w : World) : Prop extends Intact w where
  admins : ∀ u ∈ w.users, u.role = .admin →
    (∃ u₀ ∈ w₀.users, account u₀ = account u) ∨ AdminInvited p w₀ as u.email
  members : ∀ m ∈ w.memberships, (∃ m₀ ∈ w₀.memberships, tie m₀ = tie m) ∨
    match m.roleAtNode with
    | .owner => NodeTaken p w₀ as m.userId
    | .staff => ∃ u ∈ w.users, u.id = m.userId ∧ StaffInvited p w₀ as m.nodeId u.email
  removals : ∀ m ∈ w.memberships, m.status = .removed →
    m ∈ w₀.memberships ∨ m.roleAtNode = .staff ∧ StaffRemoved p w₀ as m.nodeId m.userId
  riders : ∀ r ∈ w.riders, r.status = .active →
    (∃ r₀ ∈ w₀.riders, r₀.id = r.id ∧ r₀.status = .active) ∨ RiderApproved p w₀ as r.id
  nodes : ∀ n ∈ w.nodes, n.status = .active →
    (∃ m ∈ w.memberships, m.nodeId = n.id ∧ m.roleAtNode = .owner) → NodeLive p w₀ as n.id
  calls : ∀ c ∈ w.calls, CallGranted p w₀ as w c

end Grants

/-! ## What later states keep -/

/-- Nothing is ever deleted, and an operator only comes to own a new Node. -/
structure Later (w w' : World) : Prop where
  nextId : w.nextId ≤ w'.nextId
  users : ∀ u ∈ w.users, ∃ u' ∈ w'.users, account u' = account u
  nodes : ∀ n ∈ w.nodes, ∃ n' ∈ w'.nodes, n'.id = n.id
  memberships : ∀ m ∈ w.memberships, ∃ m' ∈ w'.memberships, tie m' = tie m
  owners : ∀ m' ∈ w'.memberships, m'.roleAtNode = .owner →
    (∃ m ∈ w.memberships, tie m = tie m') ∨ w.nextId ≤ m'.nodeId

theorem Later.of_tables (hnext : w.nextId ≤ w'.nextId) (husers : w'.users = w.users)
    (hnodes : w'.nodes = w.nodes) (hmemberships : w'.memberships = w.memberships) :
    Later w w' where
  nextId := hnext
  users u hu := ⟨u, husers ▸ hu, rfl⟩
  nodes n hn := ⟨n, hnodes ▸ hn, rfl⟩
  memberships m hm := ⟨m, hmemberships ▸ hm, rfl⟩
  owners m hm _ := Or.inl ⟨m, hmemberships ▸ hm, rfl⟩

theorem Later.refl (w : World) : Later w w := Later.of_tables le_rfl rfl rfl rfl

theorem account_eq {u u' : UserRow} (h : account u = account u') :
    u.id = u'.id ∧ u.email = u'.email ∧ u.role = u'.role := by
  simp only [account, Prod.mk.injEq] at h
  exact ⟨h.1, h.2.1, h.2.2.1⟩

theorem tie_eq {m m' : NodeMembershipRow} (h : tie m = tie m') :
    m.id = m'.id ∧ m.userId = m'.userId ∧ m.nodeId = m'.nodeId ∧
      m.roleAtNode = m'.roleAtNode := by
  simpa only [tie, Prod.mk.injEq] using h

/-- An account found by its id is there later, with its email and its role. -/
theorem Later.user (h : Later w w') {id : Nat} {P : String → UserRole → Prop}
    (hu : ∃ u ∈ w.users, u.id = id ∧ P u.email u.role) :
    ∃ u ∈ w'.users, u.id = id ∧ P u.email u.role := by
  obtain ⟨u, hu, rfl, hP⟩ := hu
  obtain ⟨u', hu', hsame⟩ := h.users u hu
  obtain ⟨hid, hemail, hrole⟩ := account_eq hsame
  refine ⟨u', hu', hid, ?_⟩
  rw [hemail, hrole]
  exact hP

theorem CallGranted.later {c : Call} (h : CallGranted p w₀ as w c) (hlater : Later w w') :
    CallGranted p w₀ as w' c := by
  cases c with
  | creatingNode owner =>
      intro userId howner
      obtain ⟨htaken, hu⟩ := h userId howner
      exact ⟨htaken, hlater.user (P := fun _ role => role = .nodeOperator) hu⟩
  | removing membershipId =>
      obtain ⟨m, hm, hid, hstaff, hremoved⟩ := h
      obtain ⟨m', hm', hsame⟩ := hlater.memberships m hm
      obtain ⟨hid', huser, hnode, hrole⟩ := tie_eq hsame
      refine ⟨m', hm', hid'.trans hid, hrole.trans hstaff, ?_⟩
      rw [hnode, huser]
      exact hremoved
  | updatingNode node =>
      refine ⟨h.1.trans_le hlater.nextId, fun hactive hm => h.2 hactive ?_⟩
      obtain ⟨m', hm', hnode, howner⟩ := hm
      rcases hlater.owners m' hm' howner with ⟨m, hm, hsame⟩ | hnew
      · obtain ⟨-, -, hnode', hrole⟩ := tie_eq hsame
        exact ⟨m, hm, hnode'.trans hnode, hrole.trans howner⟩
      · have := h.1
        omega
  | updatingProfile user =>
      obtain ⟨u, hu, hsame⟩ := h
      obtain ⟨u', hu', hsame'⟩ := hlater.users u hu
      exact ⟨u', hu', hsame'.trans hsame⟩
  | ended => trivial
  | registering user => exact h
  | inviting fields => exact h
  | verifyingEmail stored => trivial
  | confirmingInvite stored passwordHash => trivial
  | invitingStaff nodeId fields =>
      obtain ⟨hrole, ⟨n, hn, hid⟩, hinvited⟩ := h
      obtain ⟨n', hn', hid'⟩ := hlater.nodes n hn
      exact ⟨hrole, ⟨n', hn', hid'.trans hid⟩, hinvited⟩
  | showing nodeId isPubliclyVisible => trivial
  | approvingNodeOperator membership => exact h
  | onboardingRider userId => trivial
  | approvingRider profile => exact h

theorem NodeLive.snoc {nodeId : Nat} (h : NodeLive p w₀ as nodeId) (a : Action) :
    NodeLive p w₀ (as ++ [a]) nodeId :=
  h.imp_right fun h => Asked.snoc h a

theorem CallGranted.snoc {c : Call} (h : CallGranted p w₀ as w c) (a : Action) :
    CallGranted p w₀ (as ++ [a]) w c := by
  cases c with
  | inviting fields => exact ⟨h.1, fun hrole => (h.2 hrole).snoc a⟩
  | creatingNode owner => exact fun userId howner => (h userId howner).imp_left (·.snoc a)
  | invitingStaff nodeId fields => exact ⟨h.1, h.2.1, h.2.2.snoc a⟩
  | removing membershipId =>
      obtain ⟨m, hm, hid, hstaff, hremoved⟩ := h
      exact ⟨m, hm, hid, hstaff, hremoved.snoc a⟩
  | approvingNodeOperator membership =>
      have happroved : NodeApproved p w₀ as membership.nodeId := h
      exact happroved.snoc a
  | updatingNode node => exact ⟨h.1, fun hactive hm => (h.2 hactive hm).snoc a⟩
  | approvingRider profile =>
      have happroved : RiderApproved p w₀ as profile.id := h
      exact happroved.snoc a
  | updatingProfile user => exact h
  | registering user => exact h
  | ended => trivial
  | verifyingEmail stored => trivial
  | confirmingInvite stored passwordHash => trivial
  | showing nodeId isPubliclyVisible => trivial
  | onboardingRider userId => trivial

/-- Another action changes nothing about the ones before. -/
theorem Granted.snoc (h : Granted p w₀ as w) (a : Action) : Granted p w₀ (as ++ [a]) w :=
  { h with
    admins := fun u hu hrole => (h.admins u hu hrole).imp_right (·.snoc a)
    members := by
      intro m hm
      have hmember := h.members m hm
      revert hmember
      cases m.roleAtNode with
      | owner => exact fun hmember => hmember.imp_right (·.snoc a)
      | staff =>
          refine fun hmember => hmember.imp_right ?_
          rintro ⟨u, hu, hid, hinvited⟩
          exact ⟨u, hu, hid, hinvited.snoc a⟩
    removals := fun m hm hremoved =>
      (h.removals m hm hremoved).imp_right fun hstaff => ⟨hstaff.1, hstaff.2.snoc a⟩
    riders := fun r hr hactive => (h.riders r hr hactive).imp_right (·.snoc a)
    nodes := fun n hn hactive hm => (h.nodes n hn hactive hm).snoc a
    calls := fun c hc => (h.calls c hc).snoc a }

/-! ## What a transaction is made of -/

theorem Granted.calls_later (h : Granted p w₀ as w) (hlater : Later w w') :
    ∀ c ∈ w.calls, CallGranted p w₀ as w' c :=
  fun c hc => (h.calls c hc).later hlater

/-- A step beside the tables that give access. -/
theorem Granted.aside (h : Granted p w₀ as w) {now next : Nat}
    {invites verifications : List OneTimeTokenRow} (hnext : w.nextId ≤ next) :
    Granted p w₀ as { w with
      now := now, nextId := next, inviteTokens := invites
      verificationTokens := verifications } :=
  { h with
    userIds := h.userIds.mono hnext
    nodeIds := h.nodeIds.mono hnext
    memberIds := h.memberIds.mono hnext
    calls := h.calls_later (Later.of_tables hnext rfl rfl rfl) }

theorem Granted.setCall (h : Granted p w₀ as w) (i : Nat) :
    Granted p w₀ as { w with calls := w.calls.set i .ended } :=
  { h with
    calls := by
      intro c hc
      rcases List.mem_or_eq_of_mem_set hc with hc | rfl
      · exact (h.calls c hc).later (Later.of_tables le_rfl rfl rfl rfl)
      · trivial }

theorem Granted.addCall (h : Granted p w₀ as w) {c : Call} (hc : CallGranted p w₀ as w c) :
    Granted p w₀ as { w with calls := w.calls ++ [c] } :=
  { h with
    calls := by
      intro c' hc'
      have hlater : Later w { w with calls := w.calls ++ [c] } :=
        Later.of_tables le_rfl rfl rfl rfl
      rcases List.mem_append.mp hc' with hc' | hc'
      · exact (h.calls c' hc').later hlater
      · rw [List.mem_singleton.mp hc']
        exact hc.later hlater }

/-- A session is issued with the role of its account. -/
theorem Granted.issue (h : Granted p w₀ as w) (userId : Nat) :
    Granted p w₀ as (Access.issue w userId) := by
  unfold Access.issue
  split
  · exact h
  · next user hfound =>
      have huser : user ∈ w.users := (get_some (Option.filter_eq_some_iff.mp hfound).1).1
      exact
        { h with
          sessions := by
            intro t ht
            rcases List.mem_append.mp ht with ht | ht
            · exact h.sessions t ht
            · rw [List.mem_singleton.mp ht]
              exact ⟨user, huser, rfl, rfl⟩
          calls := h.calls_later (Later.of_tables le_rfl rfl rfl rfl) }

/-- An update of accounts that keeps who they are. -/
theorem Granted.updateUsers (h : Granted p w₀ as w) {q : UserRow → Bool} {f : UserRow → UserRow}
    (hf : ∀ u ∈ w.users, q u = true → account (f u) = account u) :
    Granted p w₀ as { w with users := update q f w.users } := by
  have hkeep : ∀ u' ∈ update q f w.users, ∃ u ∈ w.users, account u' = account u := by
    intro u' hu'
    obtain ⟨u, hu, rfl⟩ := mem_update.mp hu'
    refine ⟨u, hu, ?_⟩
    split
    · next hq => exact hf u hu hq
    · rfl
  have hlater : Later w { w with users := update q f w.users } :=
    { Later.refl w with
      users := by
        intro u hu
        cases hq : q u with
        | true => exact ⟨f u, mem_update_of_pos hu hq, hf u hu hq⟩
        | false => exact ⟨u, mem_update_of_neg hu hq, rfl⟩ }
  exact
    { h with
      userIds :=
        { distinct := h.userIds.distinct.update fun u hu hq => (account_eq (hf u hu hq)).1
          below := by
            intro u' hu'
            obtain ⟨u, hu, hsame⟩ := hkeep u' hu'
            rw [(account_eq hsame).1]
            exact h.userIds.below u hu }
      emails := h.emails.update fun u hu hq => (account_eq (hf u hu hq)).2.1
      held := fun m hm => hlater.user (P := fun _ role => role = _) (h.held m hm)
      sessions := fun t ht => hlater.user (P := fun _ role => role = _) (h.sessions t ht)
      admins := by
        intro u' hu' hrole
        obtain ⟨u, hu, hsame⟩ := hkeep u' hu'
        obtain ⟨-, hemail, hrole'⟩ := account_eq hsame
        rw [hsame, hemail]
        exact h.admins u hu (hrole'.symm.trans hrole)
      members := by
        intro m hm
        have hmember := h.members m hm
        revert hmember
        cases m.roleAtNode with
        | owner => exact id
        | staff =>
            exact fun hmember => hmember.imp_right
              (hlater.user (P := fun email _ => StaffInvited p w₀ as m.nodeId email))
      calls := h.calls_later hlater }

/-- A new account, which is an admin's only when an admin invited it as one. -/
theorem Granted.insertUser (h : Granted p w₀ as w) {user : UserRow}
    (hadmin : user.role = .admin → AdminInvited p w₀ as user.email)
    (hw : Access.insertUser w user = .ok w') :
    Granted p w₀ as w' ∧ w' = { w with
      nextId := w.nextId + 1, users := w.users ++ [{ user with id := w.nextId }] } := by
  unfold Access.insertUser at hw
  split at hw
  · cases hw
  · next hfree =>
      cases hw
      simp only [Bool.or_eq_true, not_or] at hfree
      have hlater : Later w { w with
          nextId := w.nextId + 1, users := w.users ++ [{ user with id := w.nextId }] } :=
        { Later.refl w with
          nextId := Nat.le_succ _
          users := fun u hu => ⟨u, List.mem_append_left _ hu, rfl⟩ }
      refine ⟨{ h with
        userIds := h.userIds.insert rfl
        emails := ?_
        nodeIds := h.nodeIds.mono (Nat.le_succ _)
        memberIds := h.memberIds.mono (Nat.le_succ _)
        held := fun m hm => hlater.user (P := fun _ role => role = _) (h.held m hm)
        sessions := fun t ht => hlater.user (P := fun _ role => role = _) (h.sessions t ht)
        admins := ?_
        members := ?_
        calls := h.calls_later hlater }, rfl⟩
      · refine h.emails.append_singleton fun u hu heq => hfree.1 ?_
        exact List.any_eq_true.mpr ⟨u, hu, decide_eq_true heq⟩
      · intro u hu hrole
        rcases List.mem_append.mp hu with hu | hu
        · exact h.admins u hu hrole
        · rw [List.mem_singleton.mp hu] at hrole ⊢
          exact Or.inr (hadmin hrole)
      · intro m hm
        have hmember := h.members m hm
        revert hmember
        cases m.roleAtNode with
        | owner => exact id
        | staff =>
            exact fun hmember => hmember.imp_right
              (hlater.user (P := fun email _ => StaffInvited p w₀ as m.nodeId email))

def joined (w : World) (userId nodeId : Nat) (roleAtNode : NodeMembershipRole) : World :=
  { w with
    nextId := w.nextId + 1
    memberships := w.memberships ++ [⟨w.nextId, userId, nodeId, roleAtNode, .active⟩] }

/-- A new membership, of somebody whose account is made for it. -/
theorem Granted.insertMembership (h : Granted p w₀ as w) {userId nodeId : Nat}
    {roleAtNode : NodeMembershipRole} (hnode : ∃ n ∈ w.nodes, n.id = nodeId)
    (hholder : ∃ u ∈ w.users, u.id = userId ∧ u.role = holderRole roleAtNode)
    (hstaff : roleAtNode = .staff → (∀ m ∈ w.memberships, m.userId ≠ userId) ∧
      ∃ u ∈ w.users, u.id = userId ∧ StaffInvited p w₀ as nodeId u.email)
    (howner : roleAtNode = .owner → NodeTaken p w₀ as userId ∧
      ∀ n ∈ w.nodes, n.id = nodeId → n.status ≠ .active)
    (hcalls : ∀ c ∈ w.calls, CallGranted p w₀ as (joined w userId nodeId roleAtNode) c)
    (hw : Access.insertMembership w userId nodeId roleAtNode = .ok w') :
    Granted p w₀ as w' := by
  unfold Access.insertMembership at hw
  split at hw
  · cases hw
  · next hfree =>
      cases hw
      have hadded : ∀ {m}, m ∈ w.memberships ++
          [⟨w.nextId, userId, nodeId, roleAtNode, .active⟩] →
          m ∈ w.memberships ∨ m = ⟨w.nextId, userId, nodeId, roleAtNode, .active⟩ :=
        fun hm => (List.mem_append.mp hm).imp_right List.mem_singleton.mp
      exact
        { h with
          userIds := h.userIds.mono (Nat.le_succ _)
          nodeIds := h.nodeIds.mono (Nat.le_succ _)
          memberIds := h.memberIds.insert rfl
          pairs := by
            rw [List.map_append, List.map_singleton, List.nodup_append]
            refine ⟨h.pairs, List.nodup_singleton _, ?_⟩
            intro pair hpair pair' hpair' heq
            obtain ⟨m, hm, rfl⟩ := List.mem_map.mp hpair
            rw [List.mem_singleton.mp hpair', Prod.mk.injEq] at heq
            refine hfree (List.any_eq_true.mpr ⟨m, hm, ?_⟩)
            simp [heq.1, heq.2]
          located := by
            intro m hm
            rcases hadded hm with hm | rfl
            · exact h.located m hm
            · exact hnode
          held := by
            intro m hm
            rcases hadded hm with hm | rfl
            · exact h.held m hm
            · exact hholder
          alone := by
            intro m hm hrole m' hm' hsame
            rcases hadded hm with hold | rfl
            · rcases hadded hm' with hold' | rfl
              · exact h.alone m hold hrole m' hold' hsame
              · -- the account of the new one is not one of staff elsewhere
                obtain ⟨u, hu, hid, hu'⟩ := h.held m hold
                obtain ⟨v, hv, hvid, hv'⟩ := hholder
                obtain rfl := h.userIds.distinct.eq_of_key hu hv
                  (hid.trans (hsame.symm.trans hvid.symm))
                rw [hrole] at hu'
                cases roleAtNode with
                | owner => cases hu'.symm.trans hv'
                | staff => exact absurd hsame.symm ((hstaff rfl).1 m hold)
            · rcases hadded hm' with hold' | rfl
              · exact absurd hsame ((hstaff hrole).1 m' hold')
              · rfl
          members := by
            intro m hm
            rcases hadded hm with hm | rfl
            · exact h.members m hm
            · right
              cases roleAtNode with
              | owner => exact (howner rfl).1
              | staff => exact (hstaff rfl).2
          removals := by
            intro m hm hremoved
            rcases hadded hm with hm | rfl
            · exact h.removals m hm hremoved
            · cases hremoved
          nodes := by
            intro n hn hactive hm
            obtain ⟨m, hm, hid, hrole⟩ := hm
            rcases hadded hm with hm | rfl
            · exact h.nodes n hn hactive ⟨m, hm, hid, hrole⟩
            · exact absurd hactive ((howner hrole).2 n hn hid.symm)
          calls := hcalls }

/-- A membership of staff that its Node's owner ends. -/
theorem Granted.remove (h : Granted p w₀ as w) {m : NodeMembershipRow} (hm : m ∈ w.memberships)
    (hstaff : m.roleAtNode = .staff) (hasked : StaffRemoved p w₀ as m.nodeId m.userId) :
    Granted p w₀ as { w with
      memberships := update (fun x => x.id = m.id) (fun x => { x with status := .removed })
        w.memberships } := by
  set rows := update (fun x => x.id = m.id) (fun x => { x with status := .removed })
    w.memberships with hrows
  have hkeep : ∀ x' ∈ rows, ∃ x ∈ w.memberships, tie x' = tie x ∧ (x' = x ∨ x = m) := by
    intro x' hx'
    obtain ⟨x, hx, rfl⟩ := mem_update.mp hx'
    refine ⟨x, hx, ?_⟩
    split
    · next hid =>
        exact ⟨rfl, Or.inr (h.memberIds.distinct.eq_of_key hx hm (of_decide_eq_true hid))⟩
    · exact ⟨rfl, Or.inl rfl⟩
  have hforth : ∀ x ∈ w.memberships, ∃ x' ∈ rows, tie x' = tie x := by
    intro x hx
    cases hid : decide (x.id = m.id) with
    | true => exact ⟨_, mem_update_of_pos hx hid, rfl⟩
    | false => exact ⟨x, mem_update_of_neg hx hid, rfl⟩
  have hlater : Later w { w with memberships := rows } :=
    { Later.refl w with
      memberships := hforth
      owners := by
        intro x' hx' _
        obtain ⟨x, hx, hsame, -⟩ := hkeep x' hx'
        exact Or.inl ⟨x, hx, hsame.symm⟩ }
  exact
    { h with
      memberIds := h.memberIds.update fun _ => rfl
      pairs := by
        have hpairs : rows.map (fun x => (x.userId, x.nodeId))
            = w.memberships.map fun x => (x.userId, x.nodeId) := map_update fun _ _ _ => rfl
        rw [hpairs]
        exact h.pairs
      located := by
        intro x' hx'
        obtain ⟨x, hx, hsame, -⟩ := hkeep x' hx'
        rw [(tie_eq hsame).2.2.1]
        exact h.located x hx
      held := by
        intro x' hx'
        obtain ⟨x, hx, hsame, -⟩ := hkeep x' hx'
        rw [(tie_eq hsame).2.1, (tie_eq hsame).2.2.2]
        exact h.held x hx
      alone := by
        intro x' hx' hrole y' hy' heq
        obtain ⟨x, hx, hsame, -⟩ := hkeep x' hx'
        obtain ⟨y, hy, hsame', -⟩ := hkeep y' hy'
        obtain ⟨hxid, hxuser, -, hxrole⟩ := tie_eq hsame
        obtain ⟨hyid, hyuser, -, -⟩ := tie_eq hsame'
        obtain rfl : y = x := h.alone x hx (hxrole.symm.trans hrole) y hy
          (hyuser.symm.trans (heq.trans hxuser))
        have hserial : Serial NodeMembershipRow.id w.nextId rows :=
          h.memberIds.update fun _ => rfl
        exact hserial.distinct.eq_of_key hy' hx' (hyid.trans hxid.symm)
      members := by
        intro x' hx'
        obtain ⟨x, hx, hsame, -⟩ := hkeep x' hx'
        obtain ⟨-, huser, hnode, hrole⟩ := tie_eq hsame
        rw [hsame, huser, hnode, hrole]
        exact h.members x hx
      removals := by
        intro x' hx' hremoved
        obtain ⟨x, hx, hsame, rfl | rfl⟩ := hkeep x' hx'
        · exact h.removals x' hx hremoved
        · obtain ⟨-, huser, hnode, hrole⟩ := tie_eq hsame
          rw [huser, hnode, hrole]
          exact Or.inr ⟨hstaff, hasked⟩
      nodes := by
        intro n hn hactive hx
        obtain ⟨x', hx', hid, hrole⟩ := hx
        obtain ⟨x, hx, hsame, -⟩ := hkeep x' hx'
        obtain ⟨-, -, hnode, hrole'⟩ := tie_eq hsame
        exact h.nodes n hn hactive ⟨x, hx, hnode.symm.trans hid, hrole'.symm.trans hrole⟩
      calls := h.calls_later hlater }

/-- A Node without an owner, or not yet active. -/
theorem Granted.insertNode (h : Granted p w₀ as w) {node : NodeRow} (hid : node.id = w.nextId) :
    Granted p w₀ as { w with nextId := w.nextId + 1, nodes := w.nodes ++ [node] } := by
  have hlater : Later w { w with nextId := w.nextId + 1, nodes := w.nodes ++ [node] } :=
    { Later.refl w with
      nextId := Nat.le_succ _
      nodes := fun n hn => ⟨n, List.mem_append_left _ hn, rfl⟩ }
  exact
    { h with
      userIds := h.userIds.mono (Nat.le_succ _)
      memberIds := h.memberIds.mono (Nat.le_succ _)
      nodeIds := h.nodeIds.insert hid
      located := by
        intro m hm
        obtain ⟨n, hn, hnode⟩ := h.located m hm
        exact ⟨n, List.mem_append_left _ hn, hnode⟩
      nodes := by
        intro n hn hactive hm
        rcases List.mem_append.mp hn with hn | hn
        · exact h.nodes n hn hactive hm
        · -- no membership is of a Node that is not there yet
          obtain ⟨m, hm, hnode, -⟩ := hm
          obtain ⟨n', hn', hid'⟩ := h.located m hm
          rw [List.mem_singleton.mp hn, hid] at hnode
          have := h.nodeIds.below n' hn'
          omega
      calls := h.calls_later hlater }

/-- An update of Nodes, which sets one active only with an admin's approval. -/
theorem Granted.updateNodes (h : Granted p w₀ as w) {q : NodeRow → Bool} {f : NodeRow → NodeRow}
    (hf : ∀ n ∈ w.nodes, q n = true → (f n).id = n.id ∧ ((f n).status = .active →
      (∃ m ∈ w.memberships, m.nodeId = n.id ∧ m.roleAtNode = .owner) →
      NodeLive p w₀ as n.id)) :
    Granted p w₀ as { w with nodes := update q f w.nodes } := by
  have hforth : ∀ n ∈ w.nodes, ∃ n' ∈ update q f w.nodes, n'.id = n.id := by
    intro n hn
    cases hq : q n with
    | true => exact ⟨f n, mem_update_of_pos hn hq, (hf n hn hq).1⟩
    | false => exact ⟨n, mem_update_of_neg hn hq, rfl⟩
  have hlater : Later w { w with nodes := update q f w.nodes } :=
    { Later.refl w with nodes := hforth }
  exact
    { h with
      nodeIds :=
        { distinct := h.nodeIds.distinct.update fun n hn hq => (hf n hn hq).1
          below := by
            intro n' hn'
            obtain ⟨n, hn, rfl⟩ := mem_update.mp hn'
            split
            · next hq =>
                rw [(hf n hn hq).1]
                exact h.nodeIds.below n hn
            · exact h.nodeIds.below n hn }
      located := by
        intro m hm
        obtain ⟨n, hn, hid⟩ := h.located m hm
        obtain ⟨n', hn', hid'⟩ := hforth n hn
        exact ⟨n', hn', hid'.trans hid⟩
      nodes := by
        intro n' hn' hactive hm
        obtain ⟨n, hn, rfl⟩ := mem_update.mp hn'
        by_cases hq : q n = true
        · rw [if_pos hq] at hactive hm ⊢
          rw [(hf n hn hq).1] at hm ⊢
          exact (hf n hn hq).2 hactive hm
        · rw [if_neg hq] at hactive hm ⊢
          exact h.nodes n hn hactive hm
      calls := h.calls_later hlater }

/-- New riders are not active, and an approval makes the one active that it names. -/
theorem Granted.setRiders (h : Granted p w₀ as w) {next : Nat} {riders : List RiderProfileRow}
    (hnext : w.nextId ≤ next)
    (hriders : ∀ r ∈ riders, r.status = .active →
      (∃ r₀ ∈ w.riders, r₀.id = r.id ∧ r₀.status = .active) ∨ RiderApproved p w₀ as r.id) :
    Granted p w₀ as { w with nextId := next, riders := riders } :=
  { h with
    userIds := h.userIds.mono hnext
    nodeIds := h.nodeIds.mono hnext
    memberIds := h.memberIds.mono hnext
    riders := by
      intro r hr hactive
      rcases hriders r hr hactive with ⟨r₀, hr₀, hid, hactive₀⟩ | happroved
      · rw [← hid]
        exact h.riders r₀ hr₀ hactive₀
      · exact Or.inr happroved
    calls := h.calls_later (Later.of_tables hnext rfl rfl rfl) }

end Locoomo.AccessGrants
