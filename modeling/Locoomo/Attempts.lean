import Locoomo.TurnSteps

/-! Where legs come from. Only routing, an admin's word and a rider's claim
create a leg; what it is for, whose it is and its attempt number stay as they
were written then. -/

namespace Locoomo.Attempts

open Locoomo.Delivery Locoomo.Database Locoomo.Routing Locoomo.Logistics Locoomo.Handoffs
  Locoomo.Payments Locoomo.System Locoomo.LegMoves Locoomo.Frames Locoomo.Turns Relational

/-! ## Origins -/

/-- The columns of a leg that nothing changes. -/
structure Origin where
  id : Nat
  orderId : Nat
  legType : DeliveryLegType
  providerKey : String
  attemptNumber : Nat
  deriving DecidableEq

def origin (leg : DeliveryLegRow) : Origin :=
  ⟨leg.id, leg.orderId, leg.legType, leg.providerKey, leg.attemptNumber⟩

def origins (s : State) : List Origin := s.legs.map origin

def ofOrder (orderId : Nat) (o : Origin) : Bool := decide (o.orderId = orderId)

/-- Earlier attempts of one courier on one order. -/
def attempts (l : List Origin) (orderId : Nat) (providerKey : String) : Nat :=
  l.countP fun o => decide (o.orderId = orderId ∧ o.providerKey = providerKey)

/-- Who decided which courier a new leg goes to: the router, an admin, or the
rider who claims the order. -/
inductive Cause
  | routed | forced | claimed
  deriving DecidableEq

def causeOf (routeTo : Option String) : Cause := if routeTo.isSome then .forced else .routed

/-- The router found a courier that is enabled and has attempts left. -/
def HasAttemptsLeft (providers : List LogisticsProviderRow) (l : List Origin) (o : Origin) : Prop :=
  ∃ row ∈ providers, row.enabled = true ∧ row.key = o.providerKey ∧
    attempts l o.orderId o.providerKey < row.maxAttempts

/-- Ids and attempt numbers count up, and every leg is a forward one. -/
structure Numbered (s : State) : Prop where
  legIds : Distinct Origin.id (origins s)
  legIds_lt : ∀ o ∈ origins s, o.id < s.nextId
  forward : ∀ o ∈ origins s, o.legType = .forward
  attempts : ∀ orderId, ((origins s).filter (ofOrder orderId)).map Origin.attemptNumber
    = List.range' 1 ((origins s).countP (ofOrder orderId))

/-- One leg is created. -/
structure Created (cause : Cause) (s s' : State) (o : Origin) : Prop where
  origins : origins s' = origins s ++ [o]
  providers : s'.providers = s.providers
  nextId : s'.nextId = s.nextId + 1
  id : o.id = s.nextId
  forward : o.legType = .forward
  attemptNumber : o.attemptNumber = (Attempts.origins s).countP (ofOrder o.orderId) + 1
  routed : cause = .routed → HasAttemptsLeft s.providers (Attempts.origins s) o

/-- No leg is created. -/
structure Settled (s s' : State) : Prop where
  origins : origins s' = origins s
  providers : s'.providers = s.providers
  nextId : s.nextId ≤ s'.nextId

inductive LegStep (cause : Cause) (s s' : State) : Prop
  | settled (h : Settled s s')
  | created {o : Origin} (h : Created cause s s' o)

abbrev LegSeq (cause : Cause) : State → State → Prop := Relation.ReflTransGen (LegStep cause)

variable {d : Deployment} {cause : Cause} {s s' : State}

theorem Settled.numbered (h : Settled s s') (hn : Numbered s) : Numbered s' := by
  constructor
  · rw [h.origins]
    exact hn.legIds
  · rw [h.origins]
    exact fun o ho => (hn.legIds_lt o ho).trans_le h.nextId
  · rw [h.origins]
    exact hn.forward
  · rw [h.origins]
    exact hn.attempts

theorem Created.numbered {o : Origin} (h : Created cause s s' o) (hn : Numbered s) :
    Numbered s' := by
  have hmem : ∀ {x}, x ∈ Attempts.origins s' → x ∈ Attempts.origins s ∨ x = o := by
    intro x hx
    rw [h.origins, List.mem_append, List.mem_singleton] at hx
    exact hx
  constructor
  · rw [h.origins]
    exact hn.legIds.append_singleton fun x hx => h.id ▸ Nat.ne_of_lt (hn.legIds_lt x hx)
  · intro x hx
    rw [h.nextId]
    rcases hmem hx with hx | rfl
    · exact Nat.lt_succ_of_lt (hn.legIds_lt x hx)
    · rw [h.id]
      exact Nat.lt_succ_self _
  · intro x hx
    rcases hmem hx with hx | rfl
    · exact hn.forward x hx
    · exact h.forward
  · intro orderId
    rw [h.origins, List.filter_append, List.map_append, hn.attempts, List.countP_append]
    by_cases hid : o.orderId = orderId
    · subst hid
      have hself : ofOrder o.orderId o = true := decide_eq_true rfl
      simp only [List.filter_cons, hself, if_true, List.filter_nil, List.map_singleton,
        h.attemptNumber, List.countP_singleton]
      rw [List.range'_1_concat, Nat.add_comm 1]
    · simp [ofOrder, hid]

theorem LegStep.origins_prefix (h : LegStep cause s s') : origins s <+: origins s' := by
  cases h with
  | settled h => simp only [h.origins, List.prefix_rfl]
  | created h =>
      rw [h.origins]
      exact List.prefix_append _ _

theorem LegSeq.origins_prefix (h : LegSeq cause s s') : origins s <+: origins s' := by
  induction h with
  | refl => exact List.prefix_refl _
  | tail _ hlast ih => exact ih.trans hlast.origins_prefix

/-- A transaction that starts from numbered legs is a sequence of leg steps. -/
def Steps (cause : Cause) (s s' : State) : Prop :=
  Numbered s → Numbered s' ∧ LegSeq cause s s'

theorem steps_frame (cause : Cause) : Tx.Frame (Steps cause) where
  refl _ := fun hn => ⟨hn, .refl⟩
  trans h₁ h₂ := by
    intro hn
    obtain ⟨hn₁, hs₁⟩ := h₁ hn
    obtain ⟨hn₂, hs₂⟩ := h₂ hn₁
    exact ⟨hn₂, hs₁.trans hs₂⟩

theorem Settled.steps (h : Settled s s') : Steps cause s s' :=
  fun hn => ⟨h.numbered hn, .single (.settled h)⟩

theorem Created.steps {o : Origin} (h : Created cause s s' o) : Steps cause s s' :=
  fun hn => ⟨h.numbered hn, .single (.created h)⟩

theorem settled_of_legs (hlegs : s'.legs = s.legs) (hproviders : s'.providers = s.providers)
    (hnext : s.nextId ≤ s'.nextId) : Settled s s' :=
  ⟨by rw [origins, hlegs, origins], hproviders, hnext⟩

/-- A leg with the origin of one in the table takes that one's place. -/
theorem settled_of_put (hn : Numbered s) {leg : DeliveryLegRow} (h : origin leg ∈ origins s) :
    Settled s (putLeg s leg) := by
  refine ⟨?_, rfl, le_rfl⟩
  change (put DeliveryLegRow.id leg s.legs).map origin = s.legs.map origin
  rw [put, map_update]
  intro row hrow hid
  have hrow' : origin row ∈ origins s := List.mem_map.mpr ⟨row, hrow, rfl⟩
  exact hn.legIds.eq_of_key h hrow' (of_decide_eq_true hid).symm

/-- An update of columns that are not of the origin. -/
theorem settled_of_update {p : DeliveryLegRow → Bool} {f : DeliveryLegRow → DeliveryLegRow}
    (hf : ∀ leg, origin (f leg) = origin leg) : Settled s { s with legs := update p f s.legs } :=
  ⟨map_update fun leg _ _ => hf leg, rfl, le_rfl⟩

/-! ## Dispatch -/

theorem attempts_eq (l : List DeliveryLegRow) (orderId : Nat) (providerKey : String) :
    attempts (l.map origin) orderId providerKey
      = l.countP fun leg => decide (leg.orderId = orderId ∧ leg.providerKey = providerKey) := by
  rw [attempts, List.countP_map]
  rfl

theorem countP_ofOrder (l : List DeliveryLegRow) (orderId : Nat) :
    (l.map origin).countP (ofOrder orderId) = l.countP fun leg => leg.orderId = orderId := by
  rw [List.countP_map]
  rfl

/-- With forward legs only, counting by type is counting. -/
theorem countP_isLegOf (hn : Numbered s) (orderId : Nat) :
    s.legs.countP (isLegOf orderId .forward) = (origins s).countP (ofOrder orderId) := by
  rw [origins, List.countP_map]
  refine List.countP_congr fun leg hleg => ?_
  have hforward : leg.legType = .forward := hn.forward _ (List.mem_map.mpr ⟨leg, hleg, rfl⟩)
  simp [isLegOf, ofOrder, origin, hforward]

/-- What a choice promises of the leg to come. -/
theorem route_attempt (hn : Numbered s) {orderId : Nat} {routeTo : Option String}
    {choice : RoutingChoice}
    (h : (route d orderId .forward routeTo).run s = .ok (some choice, s')) :
    choice.attemptNumber = (origins s).countP (ofOrder orderId) + 1 ∧
      (routeTo = none → ∃ row ∈ s.providers, row.enabled = true ∧
        row.key = choice.provider.key ∧
        attempts (origins s) orderId choice.provider.key < row.maxAttempts) := by
  cases routeTo with
  | some key =>
      simp only [route, forcedChoice, Tx.run_read_bind, Tx.run_pure, Except.ok.injEq,
        Prod.mk.injEq] at h
      obtain ⟨provider, -, hchoice⟩ := Option.bind_eq_some_iff.mp h.1
      obtain rfl := Option.some.inj hchoice
      exact ⟨congrArg (· + 1) (countP_isLegOf hn orderId),
        fun hnone => absurd hnone (Option.some_ne_none key)⟩
  | none =>
      simp only [route, choose, Tx.run_read_bind] at h
      obtain ⟨order, s₁, hexpect, h⟩ := Tx.run_bind_eq_ok.mp h
      obtain ⟨-, rfl⟩ := Tx.run_expect_eq_ok.mp hexpect
      simp only [Tx.run_read_bind, Tx.run_pure, Except.ok.injEq, Prod.mk.injEq] at h
      obtain ⟨config, hconfig, hrest⟩ := Option.bind_eq_some_iff.mp h.1
      obtain ⟨provider, hget, hchoice⟩ := Option.bind_eq_some_iff.mp hrest
      obtain rfl := Option.some.inj hchoice
      obtain ⟨hmem, heligible⟩ := chooseProvider_some hconfig
      obtain ⟨row, hrow, rfl⟩ := List.mem_map.mp hmem
      have hkey : provider.key = row.key := registryGet_key hget
      simp only [eligible, Bool.and_eq_true] at heligible
      obtain ⟨⟨⟨⟨⟨⟨henabled, -⟩, hattempts⟩, -⟩, -⟩, -⟩, -⟩ := heligible
      refine ⟨?_, fun _ => ⟨row, hrow, henabled, hkey.symm, ?_⟩⟩
      · rw [← List.countP_eq_length_filter, countP_isLegOf hn]
      · have hcount : (s.legs.filter (isLegOf orderId .forward)).countP
            (fun leg => leg.providerKey = row.key) < row.maxAttempts := of_decide_eq_true hattempts
        rw [List.countP_filter] at hcount
        rw [hkey, origins, attempts_eq]
        refine lt_of_eq_of_lt (List.countP_congr fun leg hleg => ?_) hcount
        have hforward : leg.legType = .forward :=
          hn.forward _ (List.mem_map.mpr ⟨leg, hleg, rfl⟩)
        simp [isLegOf, hforward, and_comm]

theorem origin_inserted {leg : DeliveryLegRow} (h : Inserted s s' leg) :
    origins s' = origins s ++ [origin leg] := by
  rw [origins, h.legs, List.map_append, List.map_singleton, origins]

/-- **A dispatch** creates one leg at most: the router's choice, or one forced. -/
theorem dispatch_steps (d : Deployment) (orderId : Nat) (routeTo : Option String) :
    Tx.Keeps (Steps (causeOf routeTo)) (Logistics.dispatch d orderId .forward routeTo) := by
  intro s r s' h hn
  have hfresh : ∀ leg ∈ s.legs, leg.id ≠ s.nextId := fun leg hleg =>
    Nat.ne_of_lt (hn.legIds_lt _ (List.mem_map.mpr ⟨leg, hleg, rfl⟩))
  rcases dispatch_ok hfresh h with ⟨_, -, -, heq⟩ | ⟨-, ⟨-, -, heq⟩ | hnew⟩
  · rw [heq]
    exact ⟨hn, .refl⟩
  · rw [heq]
    exact ⟨hn, .refl⟩
  · obtain ⟨choice, o, leg, hroute, ho, hleg, -, hinserted⟩ := hnew
    obtain ⟨hnumber, hleft⟩ := route_attempt hn hroute
    have hid : o.id = orderId := (get_some ho).2
    have hcreated : Created (causeOf routeTo) s s' (origin leg) := by
      constructor
      · exact origin_inserted hinserted
      · rw [hinserted.frame]
      · exact hinserted.nextId
      · exact hinserted.id
      · rw [hleg.eq]
        rfl
      · rw [hleg.eq]
        change choice.attemptNumber = (origins s).countP (ofOrder o.id) + 1
        rw [hid, hnumber]
      · intro hcause
        have hnone : routeTo = none := by
          cases routeTo with
          | none => rfl
          | some key => cases hcause
        obtain ⟨row, hrow, henabled, hkey, hlt⟩ := hleft hnone
        rw [← hid] at hlt
        rw [hleg.eq]
        exact ⟨row, hrow, henabled, hkey, hlt⟩
    exact hcreated.steps hn

/-! ## Statements that create no leg -/

theorem settled_frame : Tx.Frame Settled where
  refl _ := ⟨rfl, rfl, le_rfl⟩
  trans h₁ h₂ := ⟨h₂.origins.trans h₁.origins, h₂.providers.trans h₁.providers,
    h₁.nextId.trans h₂.nextId⟩

theorem settled_of_calm (h : Calm s s') : Settled s s' :=
  settled_of_legs h.legs h.providers h.nextId

theorem settled_of_moved {orderId : Nat} {o o' : OrderRow}
    (h : OrderMoves.Moved s s' orderId o o') : Settled s s' := by
  rw [h.frame]
  exact settled_of_legs rfl rfl le_rfl

theorem settled_of_moves {x : Db OrderRow} {orderId : Nat} {source target : OrderStatus}
    {guard : OrderRow → Bool} {rider : Option Nat → Option Nat}
    (hx : OrderMoves.Moves x orderId source target guard rider) : Tx.Keeps Settled x := by
  intro s o' s' h
  obtain ⟨o, hmoved, -⟩ := hx.ok h
  exact settled_of_moved hmoved

theorem onDeliveryEvent_settled {notice : DeliveryEventNotice} (hf : notice.legType = .forward) :
    Tx.Keeps Settled (onDeliveryEvent notice) := by
  intro s _ s' h
  rcases onDeliveryEvent_ok hf h with ⟨rfl, -⟩ | ⟨o, o', s₁, hmoved, -, -, -, -, rfl, -⟩
  · exact settled_frame.refl s'
  · exact settled_frame.trans (settled_of_moved hmoved)
      (settled_of_legs (Lockstep.sideEffect_legs _ _ _) (sideEffect_providers _ _ _)
        (Lockstep.sideEffect_nextId _ _ _).ge)

/-! ## Leg events -/

theorem origin_movedLeg (leg : DeliveryLegRow) (event : DeliveryEventType)
    (next : DeliveryLegStatus) (now : Nat) : origin (movedLeg leg event next now) = origin leg := by
  unfold movedLeg
  split <;> rfl

/-- **An event** creates no leg, unless it ends one before pickup. -/
theorem apply_steps (hn : Numbered s) {leg : DeliveryLegRow} {event : DeliveryEventType}
    {routeTo : Option String} {r : Option DeliveryLegRow} (hleg : origin leg ∈ origins s)
    (hcause : event = .cancelled → cause = causeOf routeTo)
    (h : (apply d leg event routeTo).run s = .ok (r, s')) :
    Numbered s' ∧ LegSeq cause s s' ∧ ∀ moved, r = some moved → origin moved = origin leg := by
  rcases apply_ok h with ⟨-, rfl, rfl⟩ | ⟨next, s₁, -, rfl, hlisten, hend⟩
  · exact ⟨hn, .refl, fun _ hnone => nomatch hnone⟩
  · have horigin := origin_movedLeg leg event next s.now
    have hforward : leg.legType = .forward := hn.forward _ hleg
    have hf : (noticeOf (movedLeg leg event next s.now) event).legType = .forward :=
      (congrArg Origin.legType horigin).trans hforward
    have hput : Settled s (putLeg s (movedLeg leg event next s.now)) :=
      settled_of_put hn (by rwa [horigin])
    have hsettled : Settled s s₁ :=
      settled_frame.trans hput (onDeliveryEvent_settled hf _ () s₁ hlisten)
    obtain ⟨hn₁, hseq⟩ : Numbered s₁ ∧ LegSeq cause s s₁ := hsettled.steps hn
    have hmoved : ∀ moved, some (movedLeg leg event next s.now) = some moved →
        origin moved = origin leg := by
      rintro moved hmoved
      obtain rfl := Option.some.inj hmoved
      exact horigin
    rcases hend with ⟨-, rfl⟩ | ⟨hevent, r', hdispatch⟩
    · exact ⟨hn₁, hseq, hmoved⟩
    · rw [hforward] at hdispatch
      obtain ⟨hn', hseq'⟩ := dispatch_steps d leg.orderId routeTo s₁ r' s' hdispatch hn₁
      rw [← hcause hevent] at hseq'
      exact ⟨hn', hseq.trans hseq', hmoved⟩

theorem applyAll_steps {events : List DeliveryEventType} {leg : DeliveryLegRow} (hn : Numbered s)
    (hleg : origin leg ∈ origins s) (h : (applyAll d leg events).run s = .ok ((), s')) :
    Numbered s' ∧ LegSeq .routed s s' := by
  induction events generalizing s leg with
  | nil =>
      cases h
      exact ⟨hn, .refl⟩
  | cons event events ih =>
      obtain ⟨moved, s₁, happly, hrest⟩ := Tx.run_bind_eq_ok.mp h
      obtain ⟨hn₁, hseq, hmoved⟩ := apply_steps hn hleg (fun _ => rfl) happly
      have horigin : origin (moved.getD leg) = origin leg := by
        cases moved with
        | none => rfl
        | some moved => exact hmoved moved rfl
      obtain ⟨hn', hseq'⟩ := ih hn₁ (horigin ▸ hseq.origins_prefix.subset hleg) hrest
      exact ⟨hn', hseq.trans hseq'⟩

theorem origin_mem {leg : DeliveryLegRow} (h : leg ∈ s.legs) : origin leg ∈ origins s :=
  List.mem_map.mpr ⟨leg, h, rfl⟩

theorem syncFromSnapshot_steps (d : Deployment) (providerKey : String)
    (snapshot : ProviderDeliverySnapshot) :
    Tx.Keeps (Steps .routed) (syncFromSnapshot d providerKey snapshot) := by
  intro s r s' h hn
  rcases syncFromSnapshot_ok h with rfl | ⟨leg, hfound, -, hrest⟩
  · exact ⟨hn, .refl⟩
  · have hleg : origin (withSnapshot leg snapshot) ∈ origins s := by
      change origin leg ∈ origins s
      exact origin_mem (Lockstep.findByExternalId_mem hfound).1
    rcases hrest with rfl | ⟨-, hall⟩
    · exact (settled_of_put hn hleg).steps hn
    · exact applyAll_steps hn hleg hall

theorem cancelLeg_steps (d : Deployment) (legId : Nat) (reason : String)
    (routeTo : Option String) :
    Tx.Keeps (Steps (causeOf routeTo)) (Logistics.cancelLeg d legId reason routeTo) := by
  intro s r s' h hn
  rcases cancelLeg_ok h with rfl | ⟨leg, moved, hleg, happly⟩
  · exact ⟨hn, .refl⟩
  · have hmem : origin { leg with failureReason := some reason } ∈ origins s := by
      change origin leg ∈ origins s
      exact origin_mem (get_some hleg).1
    obtain ⟨hn', hseq, -⟩ := apply_steps hn hmem (fun _ => rfl) happly
    exact ⟨hn', hseq⟩

/-! ## Submissions -/

/-- The answer a submission writes, for a leg read at any earlier time. -/
theorem writeAnswer_steps (d : Deployment) {leg : DeliveryLegRow}
    (hforward : leg.legType = .forward)
    (answer : SubmitAnswer) : Tx.Keeps (Steps .routed) (Interleaved.writeAnswer d leg answer) := by
  refine (steps_frame _).bind ((steps_frame _).expect _ _) fun provider => ?_
  split
  · exact (steps_frame _).write fun s => Settled.steps (settled_of_update fun _ => rfl)
  · refine (steps_frame _).bind ((steps_frame _).write fun s =>
      Settled.steps (settled_of_update fun _ => rfl)) fun _ => ?_
    rw [hforward]
    exact (steps_frame _).bind (dispatch_steps d leg.orderId none) fun _ =>
      (steps_frame _).pure ()
  · exact (steps_frame _).reject _

theorem submit_steps (d : Deployment) (legId : Nat) (answer : SubmitAnswer) :
    Tx.Keeps (Steps .routed) (submit d legId answer) := by
  intro s r s' h hn
  rcases Interleaved.submit_ok h with rfl | ⟨leg, hsub, hwrite⟩
  · exact ⟨hn, .refl⟩
  · have hforward : leg.legType = .forward :=
      hn.forward _ (origin_mem (Transactions.submittable_some hsub).1)
    exact writeAnswer_steps d hforward answer s r s' hwrite hn

/-! ## Riders and counters -/

/-- A leg for a rider: counted over all legs of the order. -/
theorem createInHouseLeg_created {orderId : Nat} {status : DeliveryLegStatus}
    {courierUserId : Option Nat} {leg : DeliveryLegRow}
    (h : (createInHouseLeg orderId status courierUserId).run s = .ok (leg, s')) :
    Created .claimed s s' (origin leg) := by
  cases h
  refine ⟨?_, rfl, rfl, rfl, rfl, ?_, fun hcause => nomatch hcause⟩
  · simp only [origins, List.map_append, List.map_cons, List.map_nil]
    rfl
  · exact congrArg (· + 1) (countP_ofOrder s.legs orderId).symm

/-- An event at a counter on the active leg, or on one made up for it. -/
theorem activeLegOr_steps (hn : Numbered s) {s₁ : State} {orderId : Nat}
    {create : Db DeliveryLegRow} {event : DeliveryEventType} {leg entity : DeliveryLegRow}
    {r : Option DeliveryLegRow}
    (hcreate : create.run s = .ok (leg, s₁) → ∃ status courierUserId,
      (createInHouseLeg orderId status courierUserId).run s = .ok (leg, s₁))
    (hleg : (activeLegOr orderId create).run s = .ok (leg, s₁))
    (hentity : origin entity = origin leg) (hevent : event ≠ .cancelled)
    (happly : (apply d entity event none).run s₁ = .ok (r, s')) :
    Numbered s' ∧ LegSeq .claimed s s' := by
  have hmain : Numbered s₁ ∧ LegSeq .claimed s s₁ ∧ origin leg ∈ origins s₁ := by
    rcases activeLegOr_ok hleg with ⟨hfound, rfl⟩ | ⟨-, hinsert⟩
    · exact ⟨hn, .refl, origin_mem (Lockstep.activeLeg_some hfound).1⟩
    · obtain ⟨status, courierUserId, hinsert⟩ := hcreate hinsert
      have hcreated := createInHouseLeg_created hinsert
      refine ⟨hcreated.numbered hn, .single (.created hcreated), ?_⟩
      rw [hcreated.origins]
      exact List.mem_append_right _ (List.mem_singleton.mpr rfl)
  obtain ⟨hn₁, hseq, hmem⟩ := hmain
  obtain ⟨hn', hseq', -⟩ :=
    apply_steps hn₁ (hentity ▸ hmem) (fun hcancelled => absurd hcancelled hevent) happly
  exact ⟨hn', hseq.trans hseq'⟩

theorem reserveDeliverySlot_settled (riderId : Nat) :
    Tx.Keeps Settled (reserveDeliverySlot riderId) := by
  intro s r s' h
  obtain ⟨p, -, -, ⟨-, rfl⟩ | ⟨-, -, rfl⟩⟩ := reserveDeliverySlot_ok h
  · exact settled_frame.refl s'
  · exact settled_of_calm ⟨rfl, rfl, rfl, le_rfl⟩

theorem releaseCapacitySlot_settled (nodeId : Nat) :
    Tx.Keeps Settled (releaseCapacitySlot nodeId) :=
  settled_frame.write fun _ => settled_of_legs rfl rfl le_rfl

theorem accept_steps (d : Deployment) (orderId riderId : Nat) :
    Tx.Keeps (Steps .claimed) (accept d orderId riderId) := by
  refine (steps_frame _).bind ?_ fun _ => (steps_frame _).bind ((steps_frame _).ensure _ _)
    fun _ => ?_
  · exact fun s r s' h => (reserveDeliverySlot_settled riderId s r s' h).steps
  · intro s _ s' h hn
    obtain ⟨leg, s₁, hleg, hrest⟩ := Tx.run_bind_eq_ok.mp h
    obtain ⟨_, s₂, hensure, hrest⟩ := Tx.run_bind_eq_ok.mp hrest
    obtain ⟨-, rfl⟩ := Tx.run_ensure_eq_ok.mp hensure
    obtain ⟨_, s₃, hensure, hrest⟩ := Tx.run_bind_eq_ok.mp hrest
    obtain ⟨-, rfl⟩ := Tx.run_ensure_eq_ok.mp hensure
    rw [Tx.run_read_bind] at hrest
    obtain ⟨r, s₄, happly, hret⟩ := Tx.run_bind_eq_ok.mp hrest
    cases hret
    refine activeLegOr_steps hn (fun hcreate => ⟨_, _, hcreate⟩) hleg ?_ ?_ happly
    · rfl
    · decide

theorem recordInHouseHandover_steps (d : Deployment) (orderId : Nat) {event : DeliveryEventType}
    (hevent : event ≠ .cancelled) :
    Tx.Keeps (Steps .claimed) (recordInHouseHandover d orderId event) := by
  intro s _ s' h hn
  obtain ⟨leg, s₁, hleg, hrest⟩ := Tx.run_bind_eq_ok.mp h
  obtain ⟨_, s₂, hensure, hrest⟩ := Tx.run_bind_eq_ok.mp hrest
  obtain ⟨-, rfl⟩ := Tx.run_ensure_eq_ok.mp hensure
  obtain ⟨moved, s₃, happly, hensure⟩ := Tx.run_bind_eq_ok.mp hrest
  obtain ⟨-, rfl⟩ := Tx.run_ensure_eq_ok.mp hensure
  refine activeLegOr_steps hn (fun hcreate => ?_) hleg rfl hevent happly
  rw [createHandoverLeg, Tx.run_read_bind] at hcreate
  exact ⟨_, _, hcreate⟩

/-- Only a handover at a counter makes up a leg; the other steps route. -/
def stepCause : ConfirmStep → Cause
  | .pickup | .arrival => .claimed
  | _ => .routed

theorem stepBody_steps (d : Deployment) (step : ConfirmStep) (orderId : Nat)
    (args : ConfirmArgs) : Tx.Keeps (Steps (stepCause step)) (stepBody d step orderId args) := by
  have frame := steps_frame (stepCause step)
  have moves : ∀ {α : Type} {x : Db α}, Tx.Keeps Settled x →
      Tx.Keeps (Steps (stepCause step)) x :=
    fun hx => hx.mono Settled.steps
  have noted : ∀ {α : Type} {x : Db α}, Tx.Keeps Noted x →
      Tx.Keeps (Steps (stepCause step)) x :=
    fun hx => moves (hx.mono fun h => settled_of_calm (calm_of_noted h))
  have handover : ∀ type event, event ≠ DeliveryEventType.cancelled →
      Tx.Keeps (Steps .claimed) (confirmHandoff d orderId type event args.code) := by
    intro type event hevent
    have frame := steps_frame .claimed
    exact frame.bind
      ((validate_noted _ _ _ _).mono fun h => (settled_of_calm (calm_of_noted h)).steps)
      fun _ => frame.bind (recordInHouseHandover_steps d orderId hevent) fun _ =>
        frame.bind (frame.read _) fun _ => frame.expect _ _
  cases step with
  | dropOff =>
      exact frame.bind (moves (settled_of_moves (OrderMoves.markReceivedAtOrigin_moves orderId)))
        fun _ => frame.bind (noted (enqueue_noted _)) fun _ =>
          frame.bind (dispatch_steps d orderId none) fun _ => frame.pure _
  | pickup => exact handover .riderPickup .pickedUp (by decide)
  | arrival => exact handover .riderArrival .delivered (by decide)
  | intake =>
      exact frame.bind (moves (settled_of_moves (OrderMoves.markReadyForCollection_moves orderId)))
        fun _ => frame.bind (noted (issue_noted _ _ _ _ _ _)) fun _ =>
          frame.bind (noted (enqueue_noted _)) fun _ => frame.pure _
  | collection =>
      exact frame.bind (noted (validate_noted _ _ _ _)) fun _ =>
        frame.bind (moves (settled_of_moves (OrderMoves.markCollected_moves orderId _))) fun _ =>
          frame.bind (moves ((record_calm _).mono settled_of_calm)) fun _ => frame.pure _
  | returnIntake =>
      exact frame.bind
        (moves (settled_of_moves (OrderMoves.markReadyForSenderCollection_moves orderId)))
        fun _ => frame.bind (noted (issue_noted _ _ _ _ _ _)) fun _ =>
          frame.bind (noted (enqueue_noted _)) fun _ => frame.pure _
  | returnCollect =>
      exact frame.bind (noted (validate_noted _ _ _ _)) fun _ =>
        frame.bind (moves (settled_of_moves (OrderMoves.markCollectedBySender_moves orderId _)))
          fun _ => frame.bind (moves (releaseCapacitySlot_settled _)) fun _ => frame.pure _

theorem confirm_steps (d : Deployment) (step : ConfirmStep) (orderId : Nat)
    (args : ConfirmArgs) : Tx.Keeps (Steps (stepCause step)) (Handoffs.confirm d step orderId args)
    := by
  intro s o s' h hn
  rcases confirm_ok h with ⟨-, -, rfl⟩ | ⟨-, hbody⟩
  · exact ⟨hn, .refl⟩
  · have hsettled := settled_of_calm (insertKey_calm step.scope orderId s)
    obtain ⟨hn₁, hseq⟩ : _ ∧ LegSeq (stepCause step) s _ := hsettled.steps hn
    obtain ⟨hn', hseq'⟩ := stepBody_steps d step orderId args _ _ _ hbody hn₁
    exact ⟨hn', hseq.trans hseq'⟩

/-! ## Payments -/

theorem settled_of_confirmed {intent : PaymentIntentRow}
    {verification : PaymentVerificationResult} {order : OrderRow}
    (h : Confirmed s s' intent verification order) : Settled s s' :=
  settled_of_legs (by rw [h.frame]) (by rw [h.frame]) (by rw [h.nextId]; exact Nat.le_succ _)

theorem settled_of_payment {asked : PaymentIntentRow → Prop} {answer : VerifyAnswer}
    (h : PaymentEffect asked answer s s') : Settled s s' := by
  cases h with
  | idle => exact settled_frame.refl s
  | keyed reference => exact settled_of_calm (insertKey_calm paymentWebhookScope reference s)
  | paid reference hasked hanswer hpayable h =>
      exact settled_frame.trans
        (settled_of_calm (insertKey_calm paymentWebhookScope reference s))
        (settled_of_confirmed h)
  | expired hmem hpending => exact settled_of_legs rfl rfl le_rfl

end Locoomo.Attempts
