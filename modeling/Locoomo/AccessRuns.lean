import Locoomo.AccessGrants

/-! Every transaction keeps what gives access, every read asks for no more than
the session may, and so in every run all access goes back to a grant. -/

namespace Locoomo.AccessRuns

open Identity (UserRole UserStatus UserRow OneTimeTokenRow)
open Locoomo.Access Locoomo.AccessGrants Relational

variable {p : Platform} {w₀ w w' : World} {as : List Action} {call : Call} {drawn : String}

theorem bind_eq_ok {α β : Type} {x : Except AccessError α} {f : α → Except AccessError β}
    {b : β} : x >>= f = .ok b ↔ ∃ a, x = .ok a ∧ f a = .ok b := by
  cases x with
  | error e => exact ⟨fun h => (by cases h), fun ⟨_, h, _⟩ => (by cases h)⟩
  | ok a =>
      constructor
      · exact fun h => ⟨a, rfl, h⟩
      · rintro ⟨_, ha, h⟩
        cases ha
        exact h

/-! ## Transactions -/

theorem later_joined {userId nodeId : Nat} {roleAtNode : NodeMembershipRole}
    (hlater : Later w w') (hnew : roleAtNode = .owner → w.nextId ≤ nodeId) :
    Later w (joined w' userId nodeId roleAtNode) :=
  { hlater with
    nextId := hlater.nextId.trans (Nat.le_succ _)
    memberships := by
      intro m hm
      obtain ⟨m', hm', hsame⟩ := hlater.memberships m hm
      exact ⟨m', List.mem_append_left _ hm', hsame⟩
    owners := by
      intro m' hm' howner
      rcases List.mem_append.mp hm' with hm' | hm'
      · exact hlater.owners m' hm' howner
      · rw [List.mem_singleton.mp hm'] at howner ⊢
        exact Or.inr (hnew howner) }

/-- An invited account, and the link that is sent to it. -/
theorem granted_createInvite (h : Granted p w₀ as w) {fields : InviteFields}
    (hadmin : fields.role = .admin → AdminInvited p w₀ as fields.email)
    (hw : createInvite p w fields drawn = .ok w') :
    Granted p w₀ as w' ∧ w.nextId ≤ w'.nextId ∧ w'.nodes = w.nodes ∧
      w'.memberships = w.memberships ∧
      (∀ u ∈ w.users, u ∈ w'.users) ∧
      ∃ u ∈ w'.users, u.id = w.nextId ∧ u.email = fields.email ∧ u.role = fields.role := by
  unfold createInvite at hw
  obtain ⟨w₁, hinsert, hw⟩ := bind_eq_ok.mp hw
  obtain ⟨h₁, rfl⟩ := h.insertUser hadmin hinsert
  cases hw
  refine ⟨h₁.aside (Nat.le_succ _), by simp; omega, rfl, rfl, ?_, ?_⟩
  · exact fun u hu => List.mem_append_left _ hu
  · exact ⟨_, List.mem_append_right _ (List.mem_singleton_self _), rfl, rfl, rfl⟩

/-- The status of a Node, set where an admin has seen to it. -/
theorem granted_setNodeStatus (h : Granted p w₀ as w) {nodeId : Nat} {status : NodeStatus}
    (hlive : NodeLive p w₀ as nodeId) (hw : setNodeStatus w nodeId status = .ok w') :
    Granted p w₀ as w' := by
  unfold setNodeStatus at hw
  split at hw
  · cases hw
  · cases hw
    refine h.updateNodes ?_
    intro n _ hid
    refine ⟨rfl, fun _ _ => ?_⟩
    rw [of_decide_eq_true hid]
    exact hlive

/-- A Node, with its owner's membership when an operator asked for it. -/
theorem granted_creatingNode_transact (h : Granted p w₀ as w) {owner : Option Nat}
    (hcall : CallGranted p w₀ as w (.creatingNode owner))
    (hw : transact p w drawn (.creatingNode owner) = .ok w') : Granted p w₀ as w' := by
  cases owner with
  | none =>
      cases hw
      exact h.insertNode rfl
  | some userId =>
      obtain ⟨htaken, hholder⟩ := hcall userId rfl
      have hnew : Granted p w₀ as { w with
          nextId := w.nextId + 1, nodes := w.nodes ++ [⟨w.nextId, .pending, true⟩] } :=
        h.insertNode rfl
      have hlater : Later w { w with
          nextId := w.nextId + 1, nodes := w.nodes ++ [⟨w.nextId, .pending, true⟩] } :=
        { Later.refl w with
          nextId := Nat.le_succ _
          nodes := fun n hn => ⟨n, List.mem_append_left _ hn, rfl⟩ }
      refine hnew.insertMembership ⟨_, List.mem_append_right _ (List.mem_singleton_self _), rfl⟩
        hholder (fun hrole => (by cases hrole)) (fun _ => ⟨htaken, ?_⟩)
        (h.calls_later (later_joined hlater fun _ => le_rfl)) hw
      intro n hn hid hactive
      rcases List.mem_append.mp hn with hn | hn
      · exact absurd hid (h.nodeIds.below n hn).ne
      · rw [List.mem_singleton.mp hn] at hactive
        cases hactive

/-- An invited account, and its membership of the Node that invited it. -/
theorem granted_invitingStaff (h : Granted p w₀ as w) {nodeId : Nat} {fields : InviteFields}
    (hcall : CallGranted p w₀ as w (.invitingStaff nodeId fields))
    (hw : transact p w drawn (.invitingStaff nodeId fields) = .ok w') : Granted p w₀ as w' := by
  obtain ⟨hrole, hnode, hinvited⟩ := hcall
  simp only [transact] at hw
  split at hw
  · cases hw
  · obtain ⟨w₁, hcreate, hw⟩ := bind_eq_ok.mp hw
    have hadmin : fields.role = .admin → AdminInvited p w₀ as fields.email := by
      intro hadmin
      rw [hrole] at hadmin
      cases hadmin
    obtain ⟨h₁, -, hnodes, hmemberships, -, u, hu, hid, hemail, hurole⟩ :=
      granted_createInvite h hadmin hcreate
    have hholder : ∃ u ∈ w₁.users, u.id = w.nextId ∧ u.role = holderRole .staff :=
      ⟨u, hu, hid, hurole.trans hrole⟩
    refine h₁.insertMembership (hnodes ▸ hnode) hholder (fun _ => ⟨?_, ?_⟩)
      (fun howner => (by cases howner)) ?_ hw
    · intro m hm
      rw [hmemberships] at hm
      obtain ⟨v, hv, hvid, -⟩ := h.held m hm
      rw [← hvid]
      exact (h.userIds.below v hv).ne
    · refine ⟨u, hu, hid, ?_⟩
      rw [hemail]
      exact hinvited
    · exact h₁.calls_later (later_joined (Later.refl w₁)
        fun howner => (by cases howner))

/-- **Transactions.** Each keeps what gives access, whatever has been committed
between its reads and itself. -/
theorem granted_transact (h : Granted p w₀ as w) (hcall : CallGranted p w₀ as w call)
    (hw : transact p w drawn call = .ok w') : Granted p w₀ as w' := by
  cases call with
  | ended =>
      cases hw
      exact h
  | registering user =>
      have hadmin : user.role = .admin → AdminInvited p w₀ as user.email := by
        intro hrole
        have hself : user.role ∈ SELF_REGISTERABLE_ROLES := hcall
        rw [hrole] at hself
        exact absurd hself (by decide)
      obtain ⟨w₁, hinsert, hw⟩ := bind_eq_ok.mp hw
      obtain ⟨h₁, rfl⟩ := h.insertUser hadmin hinsert
      split at hw
      · cases hw
        exact h₁
      · cases hw
        exact h₁.aside (Nat.le_succ _)
  | inviting fields => exact (granted_createInvite h hcall.2 hw).1
  | verifyingEmail stored =>
      cases hw
      exact (h.aside le_rfl).updateUsers fun _ _ _ => rfl
  | confirmingInvite stored passwordHash =>
      cases hw
      exact (h.aside le_rfl).updateUsers fun _ _ _ => rfl
  | creatingNode owner => exact granted_creatingNode_transact h hcall hw
  | invitingStaff nodeId fields => exact granted_invitingStaff h hcall hw
  | removing membershipId =>
      obtain ⟨m, hm, rfl, hstaff, hasked⟩ := hcall
      cases hw
      exact h.remove hm hstaff hasked
  | showing nodeId isPubliclyVisible =>
      simp only [transact] at hw
      split at hw
      · cases hw
      · cases hw
        exact h.updateNodes fun n hn _ => ⟨rfl, fun hactive hm => h.nodes n hn hactive hm⟩
  | approvingNodeOperator membership =>
      have hactivated : Granted p w₀ as (activate w membership.userId) :=
        h.updateUsers fun _ _ _ => rfl
      exact granted_setNodeStatus hactivated (Or.inr hcall) hw
  | updatingNode node =>
      cases hw
      refine h.updateNodes ?_
      intro n hn hid
      have hid : n.id = node.id := of_decide_eq_true hid
      rw [hid]
      exact ⟨rfl, hcall.2⟩
  | onboardingRider userId =>
      simp only [transact] at hw
      split at hw
      · cases hw
      · cases hw
        refine h.setRiders (Nat.le_succ _) ?_
        intro r hr hactive
        rcases List.mem_append.mp hr with hr | hr
        · exact Or.inl ⟨r, hr, rfl, hactive⟩
        · rw [List.mem_singleton.mp hr] at hactive
          cases hactive
  | approvingRider profile =>
      cases hw
      have hactivated : Granted p w₀ as (activate w profile.userId) :=
        h.updateUsers fun _ _ _ => rfl
      refine hactivated.setRiders le_rfl ?_
      intro r' hr' hactive
      obtain ⟨r, hr, rfl⟩ := mem_update.mp hr'
      split at hactive
      · next hid =>
          rw [if_pos hid]
          exact Or.inr ((of_decide_eq_true hid : r.id = profile.id) ▸ hcall)
      · next hid =>
          rw [if_neg hid]
          exact Or.inl ⟨r, hr, rfl, hactive⟩
  | updatingProfile user =>
      obtain ⟨u, hu, hsame⟩ := hcall
      cases hw
      refine h.updateUsers ?_
      intro v hv hid
      have hid : v.id = user.id := of_decide_eq_true hid
      obtain rfl : v = u := h.userIds.distinct.eq_of_key hv hu
        (hid.trans (account_eq hsame).1.symm)
      exact hsame.symm

/-! ## Reads -/

theorem guard_ok {token : Option AccessToken} {roles : List UserRole} {caller : Nat}
    (h : Access.guard w token roles = .ok caller) :
    ∃ t, token = some t ∧ t ∈ w.issued ∧ (roles = [] ∨ t.role ∈ roles) ∧ t.sub = caller := by
  unfold Access.guard at h
  split at h
  · cases h
  · next t htoken =>
      obtain ⟨rfl, hcurrent⟩ := Option.filter_eq_some_iff.mp htoken
      simp only [Bool.and_eq_true, decide_eq_true_eq] at hcurrent
      split at h
      · next hrole =>
          cases h
          exact ⟨t, rfl, hcurrent.1, hrole, rfl⟩
      · cases h

theorem received_ok {token : Option AccessToken} {request : Request}
    (h : received p w token request = .ok call) :
    ∃ t, token = some t ∧ t ∈ w.issued ∧ (request.roles = [] ∨ t.role ∈ request.roles) ∧
      read p w t.sub request = .ok call := by
  obtain ⟨caller, hguard, hread⟩ := bind_eq_ok.mp h
  obtain ⟨t, htoken, hissued, hrole, rfl⟩ := guard_ok hguard
  exact ⟨t, htoken, hissued, hrole, hread⟩

theorem getForNode_ok {userId nodeId : Nat} {m : NodeMembershipRow} {n : NodeRow}
    (h : getForNode w userId nodeId = .ok (m, n)) :
    m ∈ w.memberships ∧ isActiveMember userId nodeId m = true ∧
      get NodeRow.id nodeId w.nodes = some n := by
  unfold getForNode at h
  split at h
  · next m' n' hm hn =>
      cases h
      exact ⟨List.mem_of_find?_eq_some hm, List.find?_some hm, hn⟩
  · cases h

theorem assertOwner_ok {userId nodeId : Nat} {m : NodeMembershipRow} {n : NodeRow}
    (h : assertOwner w userId nodeId = .ok (m, n)) :
    Owns w userId nodeId ∧ get NodeRow.id nodeId w.nodes = some n := by
  obtain ⟨⟨m', n'⟩, hfound, h⟩ := bind_eq_ok.mp h
  obtain ⟨hm, hmember, hn⟩ := getForNode_ok hfound
  dsimp only at h
  split at h
  · next howner =>
      cases h
      exact ⟨⟨_, hm, hmember, howner⟩, hn⟩
  · cases h

/-- What a request asks for is known from then on. -/
theorem asked_last (h : Granted p w₀ as (run p w₀ as)) {t : AccessToken} {request : Request}
    {P : World → AccessToken → Request → Prop}
    (hreceived : received p (run p w₀ as) (some t) request = .ok call)
    (hP : P (run p w₀ as) t request) :
    Asked p w₀ (as ++ [.begin (some t) request]) P := by
  obtain ⟨t', ht', hissued, hrole, -⟩ := received_ok hreceived
  cases ht'
  exact Runs.earlier_last ⟨t, request, call, rfl, hreceived, h.sessions t hissued,
    hrole, hP⟩

theorem sole_role {t : AccessToken} {request : Request} {role : UserRole}
    (h : request.roles = [] ∨ t.role ∈ request.roles) (hroles : request.roles = [role]) :
    t.role = role := by
  rw [hroles] at h
  simpa using h

theorem selfRegisterable {role : Option UserRole}
    (h : ¬ role.all (· ∈ SELF_REGISTERABLE_ROLES) = false) :
    role.getD .consumer ∈ SELF_REGISTERABLE_ROLES := by
  cases role with
  | none => decide
  | some role => simpa using h

theorem granted_registration {request : PublicRequest} (h : readPublic p w request = .ok call) :
    CallGranted p w₀ as w call := by
  cases request with
  | register dto =>
      simp only [readPublic] at h
      split at h
      · cases h
      · next hrole =>
          split at h
          · cases h
          · cases h
            exact selfRegisterable hrole
  | google identity dtoRole consentAccepted =>
      simp only [readPublic] at h
      split at h
      · cases h
      · next hrole =>
          split at h
          · cases h
          · split at h
            · cases h
              trivial
            · split at h
              · cases h
              · split at h
                · cases h
                · cases h
                  exact selfRegisterable hrole
  | verifyEmail rawToken =>
      simp only [readPublic] at h
      split at h
      · cases h
      · cases h
        trivial
  | confirmInvite rawToken passwordHash =>
      simp only [readPublic] at h
      split at h
      · cases h
      · cases h
        trivial

theorem granted_creatingNode (h : Granted p w₀ as (run p w₀ as)) {t : AccessToken}
    {request : Request} (hreceived : received p (run p w₀ as) (some t) request = .ok call)
    (hrequest : request = .onboard ∨ request = .addNode) :
    CallGranted p w₀ (as ++ [.begin (some t) request]) (run p w₀ as)
      (.creatingNode (some t.sub)) := by
  intro userId howner
  cases howner
  refine ⟨asked_last h hreceived ⟨rfl, hrequest⟩, ?_⟩
  obtain ⟨t', ht', hissued, hroles, -⟩ := received_ok hreceived
  cases ht'
  have hoperator : t.role = .nodeOperator := by
    rcases hrequest with rfl | rfl
    · exact sole_role hroles rfl
    · exact sole_role hroles rfl
  obtain ⟨u, hu, hid, hrole⟩ := h.sessions t hissued
  exact ⟨u, hu, hid, hrole.trans hoperator⟩

/-- A request asks for no more than its session, and what it has read, give. -/
theorem granted_received (h : Granted p w₀ as (run p w₀ as)) {token : Option AccessToken}
    {request : Request} (hreceived : received p (run p w₀ as) token request = .ok call) :
    CallGranted p w₀ (as ++ [.begin token request]) (run p w₀ as) call := by
  obtain ⟨t, rfl, hissued, hrole, hread⟩ := received_ok hreceived
  cases request with
  | invite dto =>
      simp only [Access.read] at hread
      split at hread
      · cases hread
      · next hinvitable =>
          split at hread
          · cases hread
          · cases hread
            have hby : t.role = .admin := sole_role hrole rfl
            refine ⟨?_, fun hadmin => asked_last h hreceived ⟨hby, dto, rfl, hadmin, rfl⟩⟩
            rintro hstaff
            exact hinvitable (by rw [show dto.role = .nodeStaff from hstaff]; decide)
  | onboard =>
      simp only [Access.read] at hread
      split at hread
      · cases hread
      · obtain ⟨-, -, hcall⟩ := bind_eq_ok.mp hread
        cases hcall
        exact granted_creatingNode h hreceived (Or.inl rfl)
  | addNode =>
      simp only [Access.read] at hread
      split at hread
      · cases hread
      · obtain ⟨-, -, hcall⟩ := bind_eq_ok.mp hread
        cases hcall
        exact granted_creatingNode h hreceived (Or.inr rfl)
  | inviteStaff nodeId firstName lastName email phone =>
      obtain ⟨⟨m, n⟩, howner, hread⟩ := bind_eq_ok.mp hread
      obtain ⟨howns, hn⟩ := assertOwner_ok howner
      dsimp only at hread
      split at hread
      · next hactive =>
          cases hread
          have hlive : isActiveNode (run p w₀ as) nodeId = true := by
            rw [isActiveNode, hn]
            exact decide_eq_true hactive
          refine ⟨rfl, ⟨n, (get_some hn).1, (get_some hn).2⟩, ?_⟩
          exact asked_last h hreceived ⟨howns, hlive, firstName, lastName, email, phone, rfl, rfl⟩
      · cases hread
  | removeStaff nodeId staffUserId =>
      obtain ⟨⟨m, n⟩, howner, hread⟩ := bind_eq_ok.mp hread
      obtain ⟨howns, -⟩ := assertOwner_ok howner
      split at hread
      · cases hread
      · next target hfound =>
          split at hread
          · next hstaff =>
              cases hread
              have hmember : isActiveMember staffUserId nodeId target = true :=
                List.find?_some hfound
              simp only [isActiveMember, Bool.and_eq_true, decide_eq_true_eq] at hmember
              obtain ⟨⟨huser, hnode⟩, -⟩ := hmember
              refine ⟨target, List.mem_of_find?_eq_some hfound, rfl, hstaff, ?_⟩
              rw [huser, hnode]
              exact asked_last h hreceived ⟨howns, rfl⟩
          · cases hread
  | setVisibility nodeId isPubliclyVisible =>
      obtain ⟨⟨m, n⟩, howner, hread⟩ := bind_eq_ok.mp hread
      dsimp only at hread
      split at hread
      · cases hread
        trivial
      · cases hread
  | approveNodeOperator membershipId =>
      simp only [Access.read] at hread
      split at hread
      · cases hread
      · next membership hfound =>
          cases hread
          obtain ⟨hm, rfl⟩ := get_some (Option.filter_eq_some_iff.mp hfound).1
          have happroved : NodeApproved p w₀ _ membership.nodeId :=
            asked_last h hreceived ⟨sole_role hrole rfl, Or.inl ⟨membership, hm, rfl, rfl⟩⟩
          exact happroved
  | createNode =>
      cases hread
      exact fun userId howner => (by cases howner)
  | updateNode nodeId status =>
      simp only [Access.read] at hread
      split at hread
      · cases hread
      · next node hfound =>
          cases hread
          obtain ⟨hnode, rfl⟩ := get_some hfound
          refine ⟨h.nodeIds.below node hnode, fun hactive hm => ?_⟩
          cases status with
          | none => exact (h.nodes node hnode hactive hm).snoc _
          | some status =>
              obtain rfl : status = .active := hactive
              exact Or.inr (asked_last h hreceived ⟨sole_role hrole rfl, Or.inr rfl⟩)
  | onboardRider =>
      simp only [Access.read] at hread
      split at hread
      · cases hread
      · obtain ⟨-, -, hcall⟩ := bind_eq_ok.mp hread
        cases hcall
        trivial
  | approveRider profileId =>
      simp only [Access.read] at hread
      split at hread
      · cases hread
      · next profile hfound =>
          cases hread
          obtain ⟨-, rfl⟩ := get_some hfound
          have happroved : RiderApproved p w₀ _ profile.id :=
            asked_last h hreceived ⟨sole_role hrole rfl, rfl⟩
          exact happroved
  | updateMine phone =>
      simp only [Access.read] at hread
      split at hread
      · cases hread
      · next user hfound =>
          cases hread
          exact ⟨user, (get_some hfound).1, rfl⟩

/-! ## Runs -/

/-- Every action keeps what gives access. -/
theorem granted_exec (h : Granted p w₀ as (run p w₀ as)) (a : Action) :
    Granted p w₀ (as ++ [a]) (exec p (run p w₀ as) a) := by
  have hlater := h.snoc a
  cases a with
  | tick ms => exact hlater.aside le_rfl
  | logIn userId => exact hlater.issue userId
  | ask request =>
      cases hread : readPublic p (run p w₀ as) request with
      | error e => simpa only [exec, hread, start] using hlater
      | ok call =>
          simp only [exec, hread, start]
          exact hlater.addCall (granted_registration hread)
  | begin token request =>
      cases hreceived : received p (run p w₀ as) token request with
      | error e => simpa only [exec, hreceived, start] using hlater
      | ok call =>
          simp only [exec, hreceived, start]
          exact hlater.addCall (granted_received h hreceived)
  | commit i drawn =>
      simp only [exec]
      split
      · exact hlater
      · next call hcall =>
          cases hw : transact p (run p w₀ as) drawn call with
          | error e => exact hlater.setCall i
          | ok w' =>
              have hgranted := hlater.calls call (List.mem_of_getElem? hcall)
              exact (granted_transact hlater hgranted hw).setCall i
  | abandon i => exact hlater.setCall i

/-- An intact database, with no request under way. -/
structure Founded (w : World) : Prop extends Intact w where
  idle : w.calls = []

theorem Founded.granted (h : Founded w₀) : Granted p w₀ [] w₀ where
  toIntact := h.toIntact
  admins u hu _ := Or.inl ⟨u, hu, rfl⟩
  members m hm := Or.inl ⟨m, hm, rfl⟩
  removals m hm _ := Or.inl hm
  riders r hr hactive := Or.inl ⟨r, hr, rfl, hactive⟩
  nodes n hn hactive _ := Or.inl ⟨n, hn, rfl, hactive⟩
  calls c hc := by
    rw [h.idle] at hc
    cases hc

theorem run_granted (h : Founded w₀) (as : List Action) : Granted p w₀ as (run p w₀ as) :=
  Runs.run_history h.granted (fun _ a hbefore => granted_exec hbefore a) as

/-! ## Removals -/

theorem insertUser_memberships {user : UserRow} (h : insertUser w user = .ok w') :
    w'.memberships = w.memberships := by
  unfold insertUser at h
  split at h
  · cases h
  · cases h
    rfl

theorem createInvite_memberships {fields : InviteFields}
    (h : createInvite p w fields drawn = .ok w') : w'.memberships = w.memberships := by
  unfold createInvite at h
  obtain ⟨w₁, hinsert, h⟩ := bind_eq_ok.mp h
  have hmemberships : w₁.memberships = w.memberships := insertUser_memberships hinsert
  cases h
  exact hmemberships

theorem insertMembership_keeps {userId nodeId : Nat} {roleAtNode : NodeMembershipRole}
    (h : insertMembership w userId nodeId roleAtNode = .ok w') {m : NodeMembershipRow}
    (hm : m ∈ w.memberships) : m ∈ w'.memberships := by
  unfold insertMembership at h
  split at h
  · cases h
  · cases h
    exact List.mem_append_left _ hm

/-- Nothing ends a removal: no transaction makes a membership active again. -/
theorem transact_keeps_removed (hw : transact p w drawn call = .ok w') {m : NodeMembershipRow}
    (hm : m ∈ w.memberships) (hremoved : m.status = .removed) : m ∈ w'.memberships := by
  cases call with
  | registering user =>
      obtain ⟨w₁, hinsert, hw⟩ := bind_eq_ok.mp hw
      rw [← insertUser_memberships hinsert] at hm
      split at hw <;> cases hw <;> exact hm
  | inviting fields => rwa [createInvite_memberships hw]
  | creatingNode owner =>
      cases owner with
      | none =>
          cases hw
          exact hm
      | some userId => exact insertMembership_keeps hw hm
  | invitingStaff nodeId fields =>
      simp only [transact] at hw
      split at hw
      · cases hw
      · obtain ⟨w₁, hcreate, hw⟩ := bind_eq_ok.mp hw
        rw [← createInvite_memberships hcreate] at hm
        exact insertMembership_keeps hw hm
  | removing membershipId =>
      cases hw
      refine mem_update.mpr ⟨m, hm, ?_⟩
      split
      · rw [← hremoved]
      · rfl
  | showing nodeId isPubliclyVisible =>
      simp only [transact] at hw
      split at hw <;> cases hw
      exact hm
  | approvingNodeOperator membership =>
      simp only [transact, setNodeStatus] at hw
      split at hw <;> cases hw
      exact hm
  | onboardingRider userId =>
      simp only [transact] at hw
      split at hw <;> cases hw
      exact hm
  | _ =>
      cases hw
      exact hm

theorem exec_keeps_removed (a : Action) {m : NodeMembershipRow} (hm : m ∈ w.memberships)
    (hremoved : m.status = .removed) : m ∈ (exec p w a).memberships := by
  cases a with
  | tick ms => exact hm
  | logIn userId =>
      simp only [exec, issue]
      split <;> exact hm
  | ask request =>
      simp only [exec]
      cases readPublic p w request <;> exact hm
  | begin token request =>
      simp only [exec]
      cases received p w token request <;> exact hm
  | commit i drawn =>
      simp only [exec]
      split
      · exact hm
      · next call _ =>
          cases hw : transact p w drawn call with
          | error e => exact hm
          | ok w' => exact transact_keeps_removed hw hm hremoved
  | abandon i => exact hm

theorem run_keeps_removed (as : List Action) {m : NodeMembershipRow} (hm : m ∈ w.memberships)
    (hremoved : m.status = .removed) : m ∈ (run p w as).memberships :=
  Runs.run_invariant (P := fun w : World => m ∈ w.memberships)
    (fun _ a hm => exec_keeps_removed a hm hremoved) hm as

/-- Removed staff work nowhere: theirs is the only membership of their account. -/
theorem removed_works_nowhere (h : Granted p w₀ as w) {m : NodeMembershipRow}
    (hm : m ∈ w.memberships) (hstaff : m.roleAtNode = .staff) (hremoved : m.status = .removed) :
    getNodeIdsForUser w m.userId = [] := by
  rw [getNodeIdsForUser, List.map_eq_nil_iff, List.filter_eq_nil_iff]
  intro m' hm' hactive
  simp only [Bool.and_eq_true, decide_eq_true_eq] at hactive
  rw [h.alone m hm hstaff m' hm' hactive.1] at hactive
  cases hremoved.symm.trans hactive.2

/-- **Access is granted.** However requests overlap, whatever lets an account act
goes back to a grant, and a removal from a Node's staff holds for good. -/
theorem access_is_granted (p : Platform) (h : Founded w₀) (as bs : List Action) :
    Granted p w₀ as (run p w₀ as) ∧
    ∀ m ∈ (run p w₀ as).memberships, m.status = .removed →
      m ∈ (run p w₀ (as ++ bs)).memberships ∧
      (m.roleAtNode = .staff → getNodeIdsForUser (run p w₀ (as ++ bs)) m.userId = []) := by
  refine ⟨run_granted h as, fun m hm hremoved => ?_⟩
  have hstays : m ∈ (run p w₀ (as ++ bs)).memberships := by
    rw [run, Runs.run_append]
    exact run_keeps_removed bs hm hremoved
  exact ⟨hstays, fun hstaff => removed_works_nowhere (run_granted h (as ++ bs)) hstays hstaff
    hremoved⟩

/-! ## A small run -/

def demoPlatform : Platform := ⟨id, id⟩

/-- One admin. -/
def demoWorld : World where
  now := 0
  nextId := 1
  users :=
    [⟨0, "root", some "h", "Ada", "Obi", none, none, .admin, .active, none, none, 0, none, 0⟩]
  inviteTokens := []
  verificationTokens := []
  nodes := []
  memberships := []
  riders := []
  issued := []
  calls := []

theorem demoWorld_founded : Founded demoWorld where
  userIds := ⟨by decide, by decide⟩
  emails := by decide
  nodeIds := Serial.nil _ _
  memberIds := Serial.nil _ _
  pairs := List.nodup_nil
  located m hm := by cases hm
  held m hm := by cases hm
  alone m hm := by cases hm
  sessions t ht := by cases ht
  idle := rfl

/-- An operator registers with the id 1, takes on Node 3, is approved, and invites
staff, with the id 5. -/
def demoStaffed : List Action :=
  [.logIn 0, .ask (.register ⟨"Bola", "Ade", "bola", "h", some .nodeOperator⟩), .commit 0 "v",
    .logIn 1, .begin (some ⟨1, .nodeOperator, 900⟩) (.updateMine "080"), .commit 1 "",
    .begin (some ⟨1, .nodeOperator, 900⟩) .onboard, .commit 2 "",
    .begin (some ⟨0, .admin, 900⟩) (.approveNodeOperator 4), .commit 3 "",
    .begin (some ⟨1, .nodeOperator, 900⟩) (.inviteStaff 3 "Chi" "Eze" "chi" "081"), .commit 4 "i"]

/-- Who removes them again. -/
def demoRemoved : List Action :=
  [.begin (some ⟨1, .nodeOperator, 900⟩) (.removeStaff 3 5), .commit 5 ""]

example : getNodeIdsForUser (run demoPlatform demoWorld demoStaffed) 5 = [3] := by decide

theorem demo_access_is_granted :
    Granted demoPlatform demoWorld (demoStaffed ++ demoRemoved)
      (run demoPlatform demoWorld (demoStaffed ++ demoRemoved)) ∧
    getNodeIdsForUser
      (run demoPlatform demoWorld ((demoStaffed ++ demoRemoved) ++ [.logIn 5])) 5 = [] := by
  obtain ⟨hgranted, hremoved⟩ :=
    access_is_granted demoPlatform demoWorld_founded (demoStaffed ++ demoRemoved) [.logIn 5]
  exact ⟨hgranted, (hremoved ⟨7, 5, 3, .staff, .removed⟩ (by decide) rfl).2 rfl⟩

end Locoomo.AccessRuns
