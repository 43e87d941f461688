import Locoomo.CounterSteps
import Locoomo.Refusals

/-! The code a collector brings to the counter. When a parcel is ready at a
Node its receiver, or for a returned parcel its sender, is sent a code by
email, and the staff may send another. The desk below is what the two sides see
of it: the code last sent, when that was, and how often a code has been refused
since. In every run the handover goes by it. -/

namespace Locoomo.CollectionCodes

open Locoomo.Delivery Locoomo.Pricing Locoomo.Database Locoomo.Routing Locoomo.Logistics
  Locoomo.Handoffs Locoomo.Payments Locoomo.System Locoomo.OrderMoves Locoomo.LegMoves
  Locoomo.Frames Locoomo.Transactions Locoomo.StepEffects Locoomo.LegWork Locoomo.Refusals
  Locoomo.StepKeys Locoomo.CounterSteps Relational

open HandoverCodes (presented presented_some validate_ok)

open Tx (Keeps AbortsIn)

/-! ## The desk -/

inductive Collector
  | receiver | sender
  deriving DecidableEq, Repr

namespace Collector

def type : Collector → HandoffCodeType
  | receiver => .receiverCollection
  | sender => .senderCollection

def ready : Collector → OrderStatus
  | receiver => .readyForCollection
  | sender => .readyForSenderCollection

/-- The step that sends the first code. -/
def opening : Collector → ConfirmStep
  | receiver => .intake
  | sender => .returnIntake

/-- The step that asks for the code. -/
def closing : Collector → ConfirmStep
  | receiver => .collection
  | sender => .returnCollect

def ttlMinutes : Collector → Nat
  | receiver => collectionCodeTtlMinutes
  | sender => senderCollectionCodeTtlMinutes

end Collector

/-- The code of the last email, when it was drawn, and how many codes have
been refused since. -/
structure Mailed where
  code : String
  sentAt : Nat
  refused : Nat
  deriving DecidableEq, Repr

/-- The code typed in hands the parcel over. -/
def Mailed.opens (d : Deployment) (who : Collector) (now : Nat) (typed : String) (m : Mailed) :
    Bool :=
  decide (now < m.sentAt + who.ttlMinutes * minute)
    && decide (m.refused < maxHandoffCodeAttempts)
    && decide (d.hashToken typed = d.hashToken m.code)

/-- The staff of the Node where the order's collector comes to. -/
def staffs (who : Collector) (nodeIds : List Nat) (o : OrderRow) : Bool :=
  decide ((if who.closing.atOrigin then o.originNodeId else o.destinationNodeId) ∈ nodeIds)

instance (s : State) (step : ConfirmStep) : Decidable (Shared s step) :=
  inferInstanceAs (Decidable (step = .collection → _))

/-- What one action does to the desk of an order's collector. -/
def deskStep (d : Deployment) (who : Collector) (orderId : Nat) (s : State)
    (desk : Option Mailed) : Action → Option Mailed
  | .confirm step id args =>
      if id = orderId ∧ (getOrder s id).any (staffs who args.operatorNodeIds) = true then
        if step = who.opening ∧ statusOf s id = some (edgeOf step).1 then
          some ⟨args.drawnCode, s.now, 0⟩
        else if step = who.closing then
          desk.bind fun m =>
            if m.opens d who s.now args.code = false then some { m with refused := m.refused + 1 }
            else if Shared s step then none
            else some m
        else desk
      else desk
  | .resendCode id nodeIds drawnCode =>
      if id = orderId ∧ (getOrder s id).any (staffs who nodeIds) = true then
        desk.map fun _ => ⟨drawnCode, s.now, 0⟩
      else desk
  | _ => desk

/-- The desk after a list of actions. -/
def deskRun (d : Deployment) (who : Collector) (orderId : Nat) :
    State → Option Mailed → List Action → Option Mailed
  | _, desk, [] => desk
  | s, desk, a :: as =>
      deskRun d who orderId (System.exec d s a) (deskStep d who orderId s desk a) as

/-- The code an email brings the order's collector. -/
def codeIn (who : Collector) (orderId : Nat) : OutboxEvent → Option String
  | .email id (.readyForCollection code) | .email id (.newCollectionCode code) =>
      if who = .receiver ∧ id = orderId then some code else none
  | .email id (.senderCollectionCode code) =>
      if who = .sender ∧ id = orderId then some code else none
  | _ => none

/-- The code of the last email about it. -/
def lastMailed (s : State) (who : Collector) (orderId : Nat) : Option String :=
  ((s.outbox.filter isCodeMail).filterMap (codeIn who orderId)).getLast?

/-- The collector's codes in the table that have not been used. -/
def live (s : State) (who : Collector) (orderId : Nat) : List HandoffCodeRow :=
  s.codes.filter (isUnusedCode orderId who.type)

/-- The desk as the tables show it. -/
inductive Filed (d : Deployment) (who : Collector) (orderId : Nat) (s : State) :
    Option Mailed → Prop
  | shut (hready : waiting s orderId ≠ some who.ready) (hcodes : live s who orderId = []) :
      Filed d who orderId s none
  | waits {row : HandoffCodeRow} {m : Mailed} (hready : waiting s orderId = some who.ready)
      (hcodes : live s who orderId = [row]) (hhash : row.codeHash = d.hashToken m.code)
      (hexpires : row.expiresAt = m.sentAt + who.ttlMinutes * minute)
      (hrefused : row.failedAttempts = m.refused)
      (hmailed : lastMailed s who orderId = some m.code) : Filed d who orderId s (some m)

/-- Codes carry generated ids. -/
def Numbered (s : State) : Prop := Serial HandoffCodeRow.id s.nextId s.codes

variable {d : Deployment} {s s' : State} {who : Collector} {orderId : Nat} {desk : Option Mailed}

theorem Filed.same (h : Filed d who orderId s desk)
    (hwaiting : waiting s' orderId = some who.ready ↔ waiting s orderId = some who.ready)
    (hlive : live s' who orderId = live s who orderId)
    (hmailed : lastMailed s' who orderId = lastMailed s who orderId) :
    Filed d who orderId s' desk := by
  cases h with
  | shut hready hcodes => exact .shut (fun h => hready (hwaiting.mp h)) (by rwa [hlive])
  | waits hready hcodes hhash hexpires hrefused hlast =>
      exact .waits (hwaiting.mpr hready) (by rwa [hlive]) hhash hexpires hrefused (by rwa [hmailed])

theorem Filed.aloof (h : Filed d who orderId s desk) (hs : Aloof s s') :
    Filed d who orderId s' desk :=
  h.same (by rw [hs.waiting]) (by rw [live, live, hs.codes])
    (by rw [lastMailed, lastMailed, hs.mails])

theorem Numbered.unwritten (h : Numbered s) (hs : Unwritten s s') : Numbered s' := by
  rw [Numbered, hs.codes]
  exact Serial.mono h hs.nextId

/-! ## The table of codes -/

theorem isUnusedCode_iff {id : Nat} {type : HandoffCodeType} {c : HandoffCodeRow} :
    isUnusedCode id type c = true ↔ c.orderId = id ∧ c.type = type ∧ c.usedAt = none := by
  simp [isUnusedCode, and_assoc]

/-- The row of a newly issued code. -/
def issuedRow (d : Deployment) (s : State) (id : Nat) (type : HandoffCodeType)
    (requestedByUserId : Option Nat) (ttlMinutes : Nat) (rawCode : String) : HandoffCodeRow :=
  ⟨s.nextId, id, type, d.hashToken rawCode, requestedByUserId, s.now + ttlMinutes * minute, none, 0,
    s.now⟩

/-- The state after `issue`. -/
def issued (d : Deployment) (s : State) (id : Nat) (type : HandoffCodeType)
    (requestedByUserId : Option Nat) (ttlMinutes : Nat) (rawCode : String) : State :=
  { s with
    codes := (s.codes.filter fun code => !isUnusedCode id type code) ++
      [issuedRow d s id type requestedByUserId ttlMinutes rawCode]
    nextId := s.nextId + 1 }

theorem issue_run (id : Nat) (type : HandoffCodeType) (requestedByUserId : Option Nat)
    (ttlMinutes : Nat) (rawCode : String) :
    (issue d id type requestedByUserId ttlMinutes rawCode).run s
      = .ok ((), issued d s id type requestedByUserId ttlMinutes rawCode) := rfl

theorem issued_numbered (h : Numbered s) (id : Nat) (type : HandoffCodeType)
    (requestedByUserId : Option Nat) (ttlMinutes : Nat) (rawCode : String) :
    Numbered (issued d s id type requestedByUserId ttlMinutes rawCode) := by
  have hkept : Serial HandoffCodeRow.id s.nextId
      (s.codes.filter fun code => !isUnusedCode id type code) :=
    ⟨h.distinct.filter _, fun c hc => h.below c (List.mem_filter.mp hc).1⟩
  exact hkept.insert rfl

/-- An issue replaces the codes of its own kind and leaves the others. -/
theorem live_issued (id : Nat) (type : HandoffCodeType) (requestedByUserId : Option Nat)
    (ttlMinutes : Nat) (rawCode : String) :
    live (issued d s id type requestedByUserId ttlMinutes rawCode) who orderId
      = if id = orderId ∧ type = who.type
        then [issuedRow d s id type requestedByUserId ttlMinutes rawCode]
        else live s who orderId := by
  rw [live, live, issued, List.filter_append, List.filter_filter]
  by_cases hsame : id = orderId ∧ type = who.type
  · obtain ⟨rfl, rfl⟩ := hsame
    simp [isUnusedCode, issuedRow]
  · have hnew : isUnusedCode orderId who.type
        (issuedRow d s id type requestedByUserId ttlMinutes rawCode) = false := by
      rw [Bool.eq_false_iff]
      intro hunused
      obtain ⟨hid, htype, -⟩ := isUnusedCode_iff.mp hunused
      exact hsame ⟨hid, htype⟩
    have hold : ∀ c ∈ s.codes, (isUnusedCode orderId who.type c && !isUnusedCode id type c)
        = isUnusedCode orderId who.type c := by
      intro c _
      cases hunused : isUnusedCode orderId who.type c with
      | false => rfl
      | true =>
          have hother : isUnusedCode id type c = false := by
            rw [Bool.eq_false_iff]
            intro hunused'
            obtain ⟨hid, htype, -⟩ := isUnusedCode_iff.mp hunused
            obtain ⟨hid', htype', -⟩ := isUnusedCode_iff.mp hunused'
            exact hsame ⟨hid'.symm.trans hid, htype'.symm.trans htype⟩
          rw [hother]
          rfl
    rw [if_neg hsame, List.filter_congr hold]
    simp [hnew]

/-- The state with the code `codeId` used up. -/
def used (codeId : Nat) (s : State) : State :=
  { s with
    codes := update (fun c => c.id = codeId) (fun c => { c with usedAt := some s.now }) s.codes }

/-- A write to one row leaves the codes of another kind. -/
theorem live_update (h : Numbered s) {row : HandoffCodeRow} (hrow : row ∈ s.codes)
    {f : HandoffCodeRow → HandoffCodeRow}
    (hf : ∀ c, (f c).orderId = c.orderId ∧ (f c).type = c.type)
    (hother : ¬ (row.orderId = orderId ∧ row.type = who.type)) :
    (update (fun c => c.id = row.id) f s.codes).filter (isUnusedCode orderId who.type)
      = live s who orderId := by
  refine filter_update_of_drop fun c hc hid => ?_
  obtain rfl : c = row := h.distinct.eq_of_key hc hrow (of_decide_eq_true hid)
  constructor
  · rw [Bool.eq_false_iff]
    intro hunused
    obtain ⟨hid, htype, -⟩ := isUnusedCode_iff.mp hunused
    exact hother ⟨hid, htype⟩
  · rw [Bool.eq_false_iff]
    intro hunused
    obtain ⟨hid, htype, -⟩ := isUnusedCode_iff.mp hunused
    exact hother ⟨(hf c).1.symm.trans hid, (hf c).2.symm.trans htype⟩

theorem live_used (h : Numbered s) {row : HandoffCodeRow} (hrow : row ∈ s.codes)
    (hother : ¬ (row.orderId = orderId ∧ row.type = who.type)) :
    live (used row.id s) who orderId = live s who orderId :=
  live_update h hrow (fun _ => ⟨rfl, rfl⟩) hother

theorem live_raised (h : Numbered s) {row : HandoffCodeRow} (hrow : row ∈ s.codes)
    (hother : ¬ (row.orderId = orderId ∧ row.type = who.type)) :
    live (recordFailedAttempt s row.id) who orderId = live s who orderId :=
  live_update h hrow (fun _ => ⟨rfl, rfl⟩) hother

/-- The only code of the collector is used up. -/
theorem live_used_self {row : HandoffCodeRow} (hlive : live s who orderId = [row]) :
    live (used row.id s) who orderId = [] := by
  have hlose : live (used row.id s) who orderId
      = (live s who orderId).filter fun c => !decide (c.id = row.id) :=
    filter_update_of_lose fun c _ _ => by simp [isUnusedCode]
  rw [hlose, hlive]
  simp

theorem live_raised_self {row : HandoffCodeRow} (hlive : live s who orderId = [row]) :
    live (recordFailedAttempt s row.id) who orderId
      = [{ row with failedAttempts := row.failedAttempts + 1 }] := by
  have hkeep : live (recordFailedAttempt s row.id) who orderId
      = update (fun c => c.id = row.id)
          (fun c => { c with failedAttempts := c.failedAttempts + 1 }) (live s who orderId) :=
    filter_update_of_keep _ fun _ _ _ => rfl
  rw [hkeep, hlive]
  simp [update]

theorem used_numbered (h : Numbered s) (codeId : Nat) : Numbered (used codeId s) :=
  Serial.update h fun _ => rfl

theorem raised_numbered (h : Numbered s) (codeId : Nat) :
    Numbered (recordFailedAttempt s codeId) :=
  Serial.update h fun _ => rfl

/-- What the table says of the code typed in is what the desk says. -/
theorem presented_of_filed {m : Mailed} {row : HandoffCodeRow}
    (hcodes : live s who orderId = [row]) (hhash : row.codeHash = d.hashToken m.code)
    (hexpires : row.expiresAt = m.sentAt + who.ttlMinutes * minute)
    (hrefused : row.failedAttempts = m.refused) (typed : String) :
    presented d s orderId who.type typed
      = if m.opens d who s.now typed = true then some row else none := by
  rw [presented, show s.codes.filter (isUnusedCode orderId who.type) = [row] from hcodes]
  change (some row).filter (isValidCode d s.now typed) = _
  rw [Option.filter_some, isValidCode, hhash, hexpires, hrefused]
  rfl

/-! ## Confirming steps -/

/-- A code was issued to the collector of the order `id` and emailed. -/
structure Sent (d : Deployment) (who : Collector) (id : Nat) (code : String) (s s' : State) :
    Prop where
  now : s'.now = s.now
  nextId : s'.nextId = s.nextId + 1
  codes : s'.codes = (issued d s id who.type none who.ttlMinutes code).codes
  mails : ∃ mail, s'.outbox.filter isCodeMail = s.outbox.filter isCodeMail ++ [mail] ∧
    ∀ who' orderId, codeIn who' orderId mail
      = if who' = who ∧ id = orderId then some code else none

/-- What a committed step did to the codes. -/
inductive Wrote (d : Deployment) (s s' : State) (step : ConfirmStep) (id : Nat)
    (args : ConfirmArgs) : Prop
  | nothing (hcode : codeTypeOf step = none) (hstep : ∀ who : Collector, step ≠ who.opening)
      (h : Unwritten s s')
  | used {type : HandoffCodeType} {row : HandoffCodeRow} (hcode : codeTypeOf step = some type)
      (hrow : presented d s id type args.code = some row) (h : Unwritten (used row.id s) s')
  | sent (who : Collector) (hstep : step = who.opening) (h : Sent d who id args.drawnCode s s')

theorem Sent.live {code : String} {id : Nat} {who' : Collector}
    (h : Sent d who id code s s') : live s' who' orderId
      = if id = orderId ∧ who.type = who'.type
        then [issuedRow d s id who.type none who.ttlMinutes code] else live s who' orderId := by
  rw [← live_issued (d := d) id who.type none who.ttlMinutes code, CollectionCodes.live, h.codes,
    CollectionCodes.live]

theorem Sent.lastMailed {code : String} {id : Nat} {who' : Collector}
    (h : Sent d who id code s s') : lastMailed s' who' orderId
      = if who' = who ∧ id = orderId then some code else lastMailed s who' orderId := by
  obtain ⟨mail, hmails, hcode⟩ := h.mails
  rw [CollectionCodes.lastMailed, hmails, List.filterMap_append]
  by_cases hours : who' = who ∧ id = orderId
  · rw [if_pos hours, List.filterMap_cons_some ((hcode who' orderId).trans (if_pos hours))]
    simp
  · rw [if_neg hours, List.filterMap_cons_none ((hcode who' orderId).trans (if_neg hours))]
    simp [CollectionCodes.lastMailed]

theorem Sent.numbered {code : String} {id : Nat} (h : Sent d who id code s s') (hs : Numbered s) :
    Numbered s' := by
  have hissued := issued_numbered (d := d) hs id who.type none who.ttlMinutes code
  rw [Numbered, h.codes, h.nextId]
  exact hissued

theorem validate_run {type : HandoffCodeType} {code : String} {row : HandoffCodeRow}
    (hrow : presented d s orderId type code = some row) :
    (validate d orderId type code).run s = .ok ((), used row.id s) := by
  rw [validate, Tx.run_read_bind, Tx.run_read_bind]
  change (Tx.expect (presented d s orderId type code) _ >>= _).run s = _
  rw [hrow]
  rfl

/-- A code refused aborts with the row it was compared with. -/
theorem validate_refused {type : HandoffCodeType} {code : String}
    (hnone : presented d s orderId type code = none) :
    (validate d orderId type code).run s = .error (.invalidHandoffCode
      ((latest HandoffCodeRow.createdAt (s.codes.filter (isUnusedCode orderId type))).map
        HandoffCodeRow.id)) := by
  rw [validate, Tx.run_read_bind, Tx.run_read_bind]
  change (Tx.expect (presented d s orderId type code) _ >>= _).run s = _
  rw [hnone]
  rfl

/-- The parcels of other orders wait as before. -/
def Beside (id : Nat) (s s' : State) : Prop :=
  ∀ orderId, orderId ≠ id → waiting s' orderId = waiting s orderId

theorem beside_frame (id : Nat) : Tx.Frame (Beside id) where
  refl _ := fun _ _ => rfl
  trans h₁ h₂ := fun orderId hne => (h₂ orderId hne).trans (h₁ orderId hne)

theorem beside_of_orders {id : Nat} (h : s'.orders = s.orders) : Beside id s s' := by
  intro orderId _
  rw [waiting, waiting, getOrder, h, getOrder]

theorem beside_of_moves {id : Nat} {x : Db OrderRow} {source target : OrderStatus}
    {guard : OrderRow → Bool} {rider : Option Nat → Option Nat}
    (h : Moves x id source target guard rider) : Keeps (Beside id) x := by
  intro s o' s' hrun orderId hne
  obtain ⟨o, hm, -⟩ := h.ok hrun
  have hkept : getOrder s' orderId = getOrder s orderId := by
    rw [getOrder, hm.orders]
    refine get_put_of_ne fun heq => hne ?_
    rw [heq, core_id hm.same, (getOrder_mem hm.found).2]
  rw [waiting, hkept, waiting]

theorem unwritten_of_moves {id : Nat} {x : Db OrderRow} {source target : OrderStatus}
    {guard : OrderRow → Bool} {rider : Option Nat → Option Nat}
    (h : Moves x id source target guard rider) {o' : OrderRow} (hrun : x.run s = .ok (o', s')) :
    Unwritten s s' ∧ s'.nextId = s.nextId := by
  obtain ⟨o, hm, -⟩ := h.ok hrun
  exact ⟨moved_unwritten hm, by rw [hm.frame]⟩

theorem stepBody_beside (step : ConfirmStep) (id : Nat) (args : ConfirmArgs) :
    Keeps (Beside id) (stepBody d step id args) := by
  have hnoted : ∀ {α : Type} {x : Db α}, Keeps Noted x → Keeps (Beside id) x := fun h =>
    h.mono fun hn => beside_of_orders hn.clerical.orders
  have hsilent : ∀ {α : Type} {x : Db α}, Keeps Silent x → Keeps (Beside id) x := fun h =>
    h.mono fun hs => beside_of_orders hs.orders
  have F := beside_frame id
  have handover : ∀ type event, Keeps (Beside id) (confirmHandoff d id type event args.code) :=
    fun type event => F.bind (hnoted (validate_noted _ _ _ _)) fun _ =>
      F.bind ((recordInHouseHandover_apart _ _).mono fun h orderId _ => h.waiting orderId) fun _ =>
        F.bind (F.read _) fun _ => F.expect _ _
  cases step with
  | dropOff =>
      exact F.bind (beside_of_moves (markReceivedAtOrigin_moves id)) fun _ =>
        F.bind (hnoted (enqueue_noted _)) fun _ =>
          F.bind (hsilent (dispatch_silent _ _ _ _)) fun _ => F.pure _
  | pickup => exact handover _ _
  | arrival => exact handover _ _
  | intake =>
      exact F.bind (beside_of_moves (markReadyForCollection_moves id)) fun _ =>
        F.bind (hnoted (issue_noted _ _ _ _ _ _)) fun _ =>
          F.bind (hnoted (enqueue_noted _)) fun _ => F.pure _
  | collection =>
      exact F.bind (hnoted (validate_noted _ _ _ _)) fun _ =>
        F.bind (beside_of_moves (markCollected_moves id _)) fun _ =>
          F.bind (hsilent (record_silent _)) fun _ => F.pure _
  | returnIntake =>
      exact F.bind (beside_of_moves (markReadyForSenderCollection_moves id)) fun _ =>
        F.bind (hnoted (issue_noted _ _ _ _ _ _)) fun _ =>
          F.bind (hnoted (enqueue_noted _)) fun _ => F.pure _
  | returnCollect =>
      exact F.bind (hnoted (validate_noted _ _ _ _)) fun _ =>
        F.bind (beside_of_moves (markCollectedBySender_moves id _)) fun _ =>
          F.bind (hsilent (releaseCapacitySlot_silent _)) fun _ => F.pure _

theorem sent_of_parts {id : Nat} {code : String} {mail : OutboxEvent}
    {s₁ : State} (h : Unwritten s s₁ ∧ s₁.nextId = s.nextId) (hmail : isCodeMail mail = true)
    (hcode : ∀ who' orderId, codeIn who' orderId mail
      = if who' = who ∧ id = orderId then some code else none)
    (hs' : s' = { issued d s₁ id who.type none who.ttlMinutes code with
      outbox := s₁.outbox ++ [mail] }) : Sent d who id code s s' where
  now := by rw [hs', issued, h.1.now]
  nextId := by rw [hs', issued, h.2]
  codes := by rw [hs', issued, issued, issuedRow, issuedRow, h.1.codes, h.1.now, h.2]
  mails := ⟨mail, by rw [hs', List.filter_append, h.1.mails]; simp [hmail], hcode⟩

theorem stepBody_wrote {step : ConfirmStep} {id : Nat} {args : ConfirmArgs} {o : OrderRow}
    (h : (stepBody d step id args).run s = .ok (o, s')) : Wrote d s s' step id args := by
  -- a code typed in, then what moves the order
  have proven : ∀ {type} {rest : Db OrderRow}, codeTypeOf step = some type →
      Keeps Unwritten rest →
      ((validate d id type args.code >>= fun _ => rest).run s = .ok (o, s')) →
      Wrote d s s' step id args := by
    intro type rest htype hrest h
    obtain ⟨_, s₁, hvalidate, h⟩ := Tx.run_bind_eq_ok.mp h
    obtain ⟨row, hrow⟩ := validate_ok hvalidate
    rw [validate_run hrow] at hvalidate
    cases hvalidate
    exact .used htype hrow (hrest _ o s' h)
  have F := unwritten_frame
  have hmoves : ∀ {x : Db OrderRow} {source target guard rider},
      Moves x id source target guard rider → Keeps Unwritten x :=
    fun hx s o s' h => (unwritten_of_moves hx h).1
  cases step with
  | dropOff =>
      refine .nothing rfl (fun who => by cases who <;> decide) ?_
      exact (F.bind (hmoves (markReceivedAtOrigin_moves id)) fun _ =>
        F.bind ((enqueue_apart rfl).mono fun h => h.toUnwritten) fun _ =>
          F.bind ((dispatch_apart _ _ _).mono fun h => h.toUnwritten) fun _ => F.pure _) s o s' h
  | pickup =>
      exact proven rfl (F.bind ((recordInHouseHandover_apart _ _).mono fun h => h.toUnwritten)
        fun _ => F.bind (F.read _) fun _ => F.expect _ _) h
  | arrival =>
      exact proven rfl (F.bind ((recordInHouseHandover_apart _ _).mono fun h => h.toUnwritten)
        fun _ => F.bind (F.read _) fun _ => F.expect _ _) h
  | intake =>
      obtain ⟨row, s₁, hmove, h⟩ := Tx.run_bind_eq_ok.mp h
      cases h
      exact .sent .receiver rfl (sent_of_parts (unwritten_of_moves
        (markReadyForCollection_moves id) hmove) rfl (fun who' orderId => rfl) rfl)
  | collection =>
      refine proven rfl (F.bind (hmoves (markCollected_moves id _)) fun o => ?_) h
      exact F.bind (F.bind (F.read _) fun _ => F.bind (F.expect _ _) fun _ =>
        F.bind (F.read _) fun _ => F.bind (F.ensure _ _) fun _ =>
          F.write fun _ => ⟨rfl, le_rfl, rfl, rfl⟩) fun _ => F.pure _
  | returnIntake =>
      obtain ⟨row, s₁, hmove, h⟩ := Tx.run_bind_eq_ok.mp h
      cases h
      exact .sent .sender rfl (sent_of_parts (unwritten_of_moves
        (markReadyForSenderCollection_moves id) hmove) rfl (fun who' orderId => rfl) rfl)
  | returnCollect =>
      refine proven rfl (F.bind (hmoves (markCollectedBySender_moves id _)) fun o => ?_) h
      exact F.bind (F.write fun _ => ⟨rfl, le_rfl, rfl, rfl⟩) fun _ => F.pure _

/-! ## Calls -/

/-- The code row a call is compared with. -/
def newest (s : State) (id : Nat) (type : HandoffCodeType) : Option HandoffCodeRow :=
  latest HandoffCodeRow.createdAt (s.codes.filter (isUnusedCode id type))

/-- The call gets as far as the code, and the code is wrong. -/
structure Refused (d : Deployment) (s : State) (step : ConfirmStep) (id : Nat)
    (args : ConfirmArgs) (type : HandoffCodeType) (row : HandoffCodeRow) : Prop where
  code : codeTypeOf step = some type
  owned : (getOrder s id).any (ownsOrder step args) = true
  fresh : (⟨step.scope, id⟩ : IdempotencyKey) ∉ s.keys
  found : newest s id type = some row
  wrong : presented d s id type args.code = none

/-- What a call of a confirming step leaves behind. -/
inductive Called (d : Deployment) (s : State) (step : ConfirmStep) (id : Nat)
    (args : ConfirmArgs) (s' : State) : Prop
  | moved {o : OrderRow}
      (hbody : (stepBody d step id args).run (insertKey step.scope id s) = .ok (o, s'))
      (howned : (getOrder s id).any (ownsOrder step args) = true)
  | refused {type : HandoffCodeType} {row : HandoffCodeRow}
      (h : Refused d s step id args type row) (he : s' = recordFailedAttempt s row.id)
  | stayed (hright : ∀ type row, ¬ Refused d s step id args type row)
      (hnot : ¬ Advances d s step id args) (he : s' = s)

theorem not_advances_of_same {step : ConfirmStep} {id : Nat} {args : ConfirmArgs}
    (h : System.exec d s (.confirm step id args) = s) : ¬ Advances d s step id args := by
  rintro ⟨hbefore, hafter⟩
  rw [h, hbefore] at hafter
  cases step <;> cases hafter

/-- A step that asks for a code compares it first. -/
theorem stepBody_validate {step : ConfirmStep} {type : HandoffCodeType}
    (htype : codeTypeOf step = some type) (id : Nat) (args : ConfirmArgs) :
    ∃ rest : Db OrderRow, AbortsIn Harmless rest ∧
      stepBody d step id args = validate d id type args.code >>= fun _ => rest := by
  have handover : ∀ event : DeliveryEventType, AbortsIn Harmless (do
      recordInHouseHandover d id event
      let order ← Tx.read fun s => getOrder s id
      Tx.expect order (.entityNotFound "Order" id)) := fun event =>
    .bind (recordInHouseHandover_harmless _ _) fun _ => .bind (.read _) fun _ =>
      .expect _ trivial
  cases step with
  | pickup | arrival =>
      cases htype
      exact ⟨_, handover _, rfl⟩
  | collection =>
      cases htype
      refine ⟨_, ?_, rfl⟩
      exact .bind (transition_query_harmless _ _ _ _ _ _) fun _ =>
        .bind (record_harmless _) fun _ => .pure _
  | returnCollect =>
      cases htype
      refine ⟨_, ?_, rfl⟩
      exact .bind (transition_query_harmless _ _ _ _ _ _) fun _ => .bind (.write _) fun _ => .pure _
  | _ => cases htype

theorem stepBody_harmless {step : ConfirmStep} (htype : codeTypeOf step = none) (id : Nat)
    (args : ConfirmArgs) : AbortsIn Harmless (stepBody d step id args) := by
  cases step with
  | dropOff =>
      exact .bind (transition_query_harmless _ _ _ _ _ _) fun _ => .bind (.write _) fun _ =>
        .bind (dispatch_harmless _ _ _) fun _ => .pure _
  | intake | returnIntake =>
      exact .bind (transition_query_harmless _ _ _ _ _ _) fun _ =>
        .bind (issue_harmless _ _ _ _ _) fun _ => .bind (.write _) fun _ => .pure _
  | _ => cases htype

/-- A body that fails leaves its order, and the counter of a wrong code. -/
theorem body_failed {step : ConfirmStep} {id : Nat} {args : ConfirmArgs} {e : TxError}
    (howned : (getOrder s id).any (ownsOrder step args) = true)
    (hfresh : (⟨step.scope, id⟩ : IdempotencyKey) ∉ s.keys)
    (he : System.exec d s (.confirm step id args) = rollback s e)
    (hbody : (stepBody d step id args).run (insertKey step.scope id s) = .error e) :
    Called d s step id args (System.exec d s (.confirm step id args)) := by
  have harmless : Harmless e → (∀ type row, ¬ Refused d s step id args type row) →
      Called d s step id args (System.exec d s (.confirm step id args)) := by
    intro hharmless hright
    rw [hharmless.rollback] at he
    exact .stayed hright (not_advances_of_same he) he
  cases htype : codeTypeOf step with
  | none =>
      refine harmless (stepBody_harmless htype id args _ e hbody) fun type row h => ?_
      cases htype.symm.trans h.code
  | some type =>
      obtain ⟨rest, hrest, heq⟩ := stepBody_validate (d := d) htype id args
      rw [heq] at hbody
      have hpresented : presented d (insertKey step.scope id s) id type args.code
          = presented d s id type args.code := rfl
      have hright : presented d s id type args.code ≠ none ∨ newest s id type = none →
          ∀ type' row, ¬ Refused d s step id args type' row := by
        intro hor type' row h
        obtain rfl : type = type' := Option.some.inj (htype.symm.trans h.code)
        rcases hor with hsome | hnone
        · exact hsome h.wrong
        · cases hnone.symm.trans h.found
      cases hrow : presented d s id type args.code with
      | some row =>
          rw [Tx.run_bind_of_ok (validate_run (hpresented.trans hrow))] at hbody
          refine harmless (hrest _ e hbody) (hright (Or.inl ?_))
          rw [hrow]
          exact Option.some_ne_none row
      | none =>
          rw [Tx.run_bind_of_error (validate_refused (hpresented.trans hrow))] at hbody
          cases hbody
          change System.exec d s (.confirm step id args) = rollback s
            (.invalidHandoffCode ((newest s id type).map HandoffCodeRow.id)) at he
          cases hnewest : newest s id type with
          | none =>
              rw [hnewest] at he
              exact .stayed (hright (Or.inr hnewest)) (not_advances_of_same he) he
          | some row =>
              rw [hnewest] at he
              exact .refused ⟨htype, howned, hfresh, hnewest, hrow⟩ he

/-- **Every call** moves its order, raises the counter of the code it was
compared with, or does nothing. -/
theorem confirm_called (step : ConfirmStep) (id : Nat) (args : ConfirmArgs) :
    Called d s step id args (System.exec d s (.confirm step id args)) := by
  rcases exec_cases d s (.confirm step id args) with ⟨s', hrun, he⟩ | ⟨e, hrun, he⟩
  · obtain ⟨o, s₁, hconfirm, hret⟩ := Tx.run_bind_eq_ok.mp hrun
    cases hret
    have howned : (getOrder s id).any (ownsOrder step args) = true := by
      obtain ⟨p, hp, howns⟩ := confirm_owned hconfirm
      rw [hp]
      exact howns
    rcases confirm_ok hconfirm with ⟨hused, -, rfl⟩ | ⟨-, hbody⟩
    · exact .stayed (fun type row h => h.fresh hused) (not_advances_of_same he) he
    · rw [he]
      exact .moved hbody howned
  · have hconfirm : (Handoffs.confirm d step id args).run s = .error e := by
      rcases Tx.run_bind_eq_error.mp hrun with h | ⟨_, _, -, h⟩
      · exact h
      · cases h
    rw [Handoffs.confirm, Tx.run_read_bind] at hconfirm
    have stayed : Harmless e → ¬ ((getOrder s id).any (ownsOrder step args) = true ∧
          (⟨step.scope, id⟩ : IdempotencyKey) ∉ s.keys) →
        Called d s step id args (System.exec d s (.confirm step id args)) := by
      intro hharmless hnot
      rw [hharmless.rollback] at he
      exact .stayed (fun type row h => hnot ⟨h.owned, h.fresh⟩) (not_advances_of_same he) he
    cases howned : (getOrder s id).any (ownsOrder step args) with
    | false =>
        rw [howned] at hconfirm
        cases hconfirm
        exact stayed trivial fun h => by rw [howned] at h; exact absurd h.1 Bool.false_ne_true
    | true =>
        rw [howned, Tx.ensure_true, Tx.run_pure_bind] at hconfirm
        by_cases hfresh : (⟨step.scope, id⟩ : IdempotencyKey) ∈ s.keys
        · refine stayed ?_ fun h => h.2 hfresh
          have hdup : (withIdempotency step.scope id (stepBody d step id args)).run s
              = .ok (none, s) := by
            rw [withIdempotency, Tx.run_query_bind, if_pos hfresh]
            rfl
          rw [Tx.run_bind_of_ok hdup, Tx.run_read_bind] at hconfirm
          exact AbortsIn.expect _ trivial s e hconfirm
        · refine body_failed howned hfresh he ?_
          rcases Tx.run_bind_eq_error.mp hconfirm with h | ⟨r, s₁, hkey, h⟩
          · rw [withIdempotency, Tx.run_query_bind, if_neg hfresh] at h
            rcases Tx.run_bind_eq_error.mp h with h | ⟨_, _, -, h⟩
            · exact h
            · cases h
          · rcases withIdempotency_ok hkey with ⟨hused, -⟩ | ⟨-, a, rfl, -⟩
            · exact absurd hused hfresh
            · cases h

/-! ## The desk and the tables -/

theorem waiting_iff : waiting s orderId = some who.ready ↔ statusOf s orderId = some who.ready := by
  rw [waiting, Option.filter_eq_some_iff]
  refine ⟨And.left, fun h => ⟨h, ?_⟩⟩
  cases who <;> rfl

theorem Filed.ready_iff (h : Filed d who orderId s desk) :
    desk.isSome = true ↔ statusOf s orderId = some who.ready := by
  rw [← waiting_iff]
  cases h with
  | shut hready hcodes => exact ⟨fun h => (by cases h), fun h => absurd h hready⟩
  | waits hready hcodes hhash hexpires hrefused hlast => exact ⟨fun _ => hready, fun _ => rfl⟩

theorem Filed.mailed (h : Filed d who orderId s desk) :
    ∀ m, desk = some m → lastMailed s who orderId = some m.code := by
  cases h with
  | shut hready hcodes => exact fun m hm => by cases hm
  | waits hready hcodes hhash hexpires hrefused hlast =>
      intro m hm
      obtain rfl := Option.some.inj hm
      exact hlast

/-- The code typed in is the one that counts just when the desk says so. -/
theorem Filed.proven_iff (h : Filed d who orderId s desk) (typed : String) :
    (presented d s orderId who.type typed).isSome = true ↔
      ∃ m, desk = some m ∧ m.opens d who s.now typed = true := by
  cases h with
  | shut hready hcodes =>
      rw [presented, show s.codes.filter (isUnusedCode orderId who.type) = [] from hcodes]
      exact ⟨fun h => (by cases h), fun ⟨m, hm, _⟩ => (by cases hm)⟩
  | @waits row m hready hcodes hhash hexpires hrefused hlast =>
      rw [presented_of_filed hcodes hhash hexpires hrefused typed]
      cases hopens : m.opens d who s.now typed with
      | true => exact ⟨fun _ => ⟨m, rfl, hopens⟩, fun _ => rfl⟩
      | false =>
          refine ⟨fun h => (by cases h), ?_⟩
          rintro ⟨m', hm, hopens'⟩
          obtain rfl : m = m' := Option.some.inj hm
          rw [hopens] at hopens'
          cases hopens'

theorem codeTypeOf_closing (who : Collector) : codeTypeOf who.closing = some who.type := by
  cases who <;> rfl

theorem closing_of_type {step : ConfirmStep} (h : codeTypeOf step = some who.type) :
    step = who.closing := by
  revert h
  cases who <;> cases step <;> decide

theorem opening_code (who : Collector) : codeTypeOf who.opening = none := by
  cases who <;> rfl

theorem closing_edge (who : Collector) : (edgeOf who.closing).1 = who.ready := by
  cases who <;> rfl

theorem opening_edge (who : Collector) : (edgeOf who.opening).2 = who.ready := by
  cases who <;> rfl

theorem owns_eq {step : ConfirmStep} {args : ConfirmArgs}
    (h : step = who.opening ∨ step = who.closing) (o : OrderRow) :
    ownsOrder step args o = staffs who args.operatorNodeIds o := by
  rcases h with rfl | rfl <;> cases who <;> rfl

/-- A call about another order, or of another kind of step. -/
theorem deskStep_other {step : ConfirmStep} {id : Nat} {args : ConfirmArgs}
    (h : id = orderId → step ≠ who.opening ∧ step ≠ who.closing) :
    deskStep d who orderId s desk (.confirm step id args) = desk := by
  rw [deskStep]
  split
  · next hours =>
      obtain ⟨hopening, hclosing⟩ := h hours.1
      rw [if_neg fun hx => hopening hx.1, if_neg hclosing]
  · rfl

theorem newest_row {id : Nat} {type : HandoffCodeType} {row : HandoffCodeRow}
    (h : newest s id type = some row) : row ∈ s.codes ∧ row.orderId = id ∧ row.type = type := by
  obtain ⟨hmem, hunused⟩ := List.mem_filter.mp (latest_mem h)
  obtain ⟨hid, htype, -⟩ := isUnusedCode_iff.mp hunused
  exact ⟨hmem, hid, htype⟩

theorem not_shared_of_opening {step : ConfirmStep} (h : step = who.opening) : Shared s step := by
  rintro rfl
  cases who <;> cases h

/-- The steps at the desk are no rider's. -/
theorem ridden_of_desk {step : ConfirmStep} (h : step = who.opening ∨ step = who.closing) :
    Ridden s step orderId := by
  intro hrider
  rcases h with rfl | rfl <;> cases who <;> cases hrider

theorem insertKey_aloof (scope : String) (key : Nat) (s : State) :
    Aloof s (insertKey scope key s) := .write rfl rfl rfl le_rfl rfl

/-- A call that moved its order leaves other desks. -/
theorem moved_other (hs : Orderly s) (hn : Numbered s) (h : Filed d who orderId s desk)
    {step : ConfirmStep} {id : Nat} {args : ConfirmArgs} {o : OrderRow}
    (hbody : (stepBody d step id args).run (insertKey step.scope id s) = .ok (o, s'))
    (hother : id = orderId → step ≠ who.opening ∧ step ≠ who.closing) :
    Filed d who orderId s' desk := by
  have hkey := insertKey_aloof step.scope id s
  have hn₀ := hn.unwritten hkey.toUnwritten
  have hlogged := stepBody_logs (insertKey_aligned d hs.aligned step.scope id) hbody
  have hwrote := stepBody_wrote hbody
  refine (h.aloof hkey).same ?_ ?_ ?_
  · by_cases hid : id = orderId
    · subst hid
      obtain ⟨hopening, hclosing⟩ := hother rfl
      have hbefore : statusOf (insertKey step.scope id s) id = some (edgeOf step).1 :=
        statusOf_eq.mpr hlogged.before
      have hafter : statusOf s' id = some (edgeOf step).2 :=
        statusOf_eq.mpr ⟨o, hlogged.current, hlogged.status⟩
      rw [waiting_iff, waiting_iff, hafter, hbefore]
      revert hopening hclosing
      cases who <;> cases step <;> decide
    · rw [stepBody_beside step id args _ o s' hbody orderId fun heq => hid heq.symm]
  · cases hwrote with
    | nothing hcode hstep hu => rw [live, live, hu.codes]
    | @used type row hcode hrow hu =>
        obtain ⟨hmem, hoid, htype⟩ := presented_some hrow
        rw [live, hu.codes]
        refine live_used hn₀ hmem fun hours => ?_
        rw [hoid, htype] at hours
        obtain ⟨hid, rfl⟩ := hours
        exact (hother hid).2 (closing_of_type hcode)
    | sent who' hstep hsent =>
        rw [hsent.live, if_neg]
        rintro ⟨hid, htype⟩
        refine (hother hid).1 ?_
        rw [hstep]
        cases who <;> cases who' <;> first | rfl | cases htype
  · cases hwrote with
    | nothing hcode hstep hu => rw [lastMailed, lastMailed, hu.mails]
    | used hcode hrow hu => rw [lastMailed, lastMailed, hu.mails]; rfl
    | sent who' hstep hsent =>
        rw [hsent.lastMailed, if_neg]
        rintro ⟨rfl, hid⟩
        exact (hother hid).1 hstep

/-- The first code is sent. -/
theorem opened_filed (hs : Orderly s) {id : Nat} {args : ConfirmArgs} {o : OrderRow}
    (hbody : (stepBody d who.opening id args).run (insertKey who.opening.scope id s)
      = .ok (o, s')) : Filed d who id s' (some ⟨args.drawnCode, s.now, 0⟩) := by
  have hlogged := stepBody_logs (insertKey_aligned d hs.aligned who.opening.scope id) hbody
  cases stepBody_wrote hbody with
  | nothing hcode hstep hu => exact absurd rfl (hstep who)
  | used hcode hrow hu => cases (opening_code who).symm.trans hcode
  | sent who' hstep hsent =>
      obtain rfl : who' = who := by
        cases who <;> cases who' <;> first | rfl | cases hstep
      refine .waits (waiting_iff.mpr ?_) (hsent.live.trans (if_pos ⟨rfl, rfl⟩)) rfl rfl rfl
        (hsent.lastMailed.trans (if_pos ⟨rfl, rfl⟩))
      rw [← opening_edge]
      exact statusOf_eq.mpr ⟨o, hlogged.current, hlogged.status⟩

/-- The parcel is handed over, for the code the desk holds. -/
theorem closed_filed (hs : Orderly s) {id : Nat} (h : Filed d who id s desk)
    {args : ConfirmArgs} {o : OrderRow}
    (hbody : (stepBody d who.closing id args).run (insertKey who.closing.scope id s)
      = .ok (o, s')) :
    Filed d who id s' none ∧ ∃ m, desk = some m ∧ m.opens d who s.now args.code = true := by
  have hlogged := stepBody_logs (insertKey_aligned d hs.aligned who.closing.scope id) hbody
  have hcode := codeTypeOf_closing who
  cases stepBody_wrote hbody with
  | nothing hnone hstep hu => cases hcode.symm.trans hnone
  | sent who' hstep hsent =>
      rw [hstep, opening_code] at hcode
      cases hcode
  | @used type row htype hrow hu =>
      obtain rfl : who.type = type := Option.some.inj (hcode.symm.trans htype)
      have hrow' : presented d s id who.type args.code = some row := hrow
      have hproven := (h.proven_iff args.code).mp (by rw [hrow']; rfl)
      refine ⟨?_, hproven⟩
      obtain ⟨m, rfl, hopens⟩ := hproven
      cases h with
      | @waits row₀ m hready hcodes hhash hexpires hrefused hlast =>
          have hrow₀ := presented_of_filed hcodes hhash hexpires hrefused args.code
          rw [if_pos hopens, hrow'] at hrow₀
          obtain rfl := Option.some.inj hrow₀
          refine .shut (fun hx => ?_) ?_
          · have hafter := waiting_iff.mp hx
            rw [show statusOf s' id = some (edgeOf who.closing).2 from
              statusOf_eq.mpr ⟨o, hlogged.current, hlogged.status⟩] at hafter
            revert hafter
            cases who <;> decide
          · rw [live, hu.codes]
            exact live_used_self hcodes

theorem staffs_of_owns {step : ConfirmStep} {id : Nat} {args : ConfirmArgs}
    (hstep : step = who.opening ∨ step = who.closing)
    (howned : (getOrder s id).any (ownsOrder step args) = true) :
    (getOrder s id).any (staffs who args.operatorNodeIds) = true := by
  obtain ⟨o, ho, howns⟩ := (Option.any_eq_true _ _).mp howned
  rw [ho, Option.any_some, ← owns_eq hstep]
  exact howns

theorem closing_ne_opening (who : Collector) : who.closing ≠ who.opening := by
  cases who <;> decide

/-- The desk after a call that moved its order. -/
theorem moved_filed (hs : Orderly s) (hn : Numbered s) (h : Filed d who orderId s desk)
    {step : ConfirmStep} {id : Nat} {args : ConfirmArgs} {o : OrderRow}
    (hbody : (stepBody d step id args).run (insertKey step.scope id s) = .ok (o, s'))
    (howned : (getOrder s id).any (ownsOrder step args) = true) :
    Filed d who orderId s' (deskStep d who orderId s desk (.confirm step id args)) := by
  by_cases hother : id = orderId → step ≠ who.opening ∧ step ≠ who.closing
  · rw [deskStep_other hother]
    exact moved_other hs hn h hbody hother
  · obtain ⟨rfl, hdesk⟩ : id = orderId ∧ (step = who.opening ∨ step = who.closing) := by
      by_contra hnot
      refine hother fun hid => ⟨fun hstep => hnot ⟨hid, Or.inl hstep⟩,
        fun hstep => hnot ⟨hid, Or.inr hstep⟩⟩
    rw [deskStep, if_pos ⟨rfl, staffs_of_owns hdesk howned⟩]
    rcases hdesk with rfl | rfl
    · have hlogged := stepBody_logs (insertKey_aligned d hs.aligned who.opening.scope id) hbody
      have hbefore : statusOf s id = some (edgeOf who.opening).1 := statusOf_eq.mpr hlogged.before
      rw [if_pos ⟨rfl, hbefore⟩]
      exact opened_filed hs hbody
    · obtain ⟨hshut, m, rfl, hopens⟩ := closed_filed hs h hbody
      have hshared : Shared s who.closing := by
        have hthere : Shared (insertKey who.closing.scope id s) who.closing := stepBody_shared hbody
        exact hthere
      rw [if_neg fun hx => closing_ne_opening who hx.1, if_pos rfl, Option.bind_some,
        if_neg (by rw [hopens]; exact Bool.false_ne_true.symm), if_pos hshared]
      exact hshut

/-- The desk after a call that was refused its code. -/
theorem refused_filed (hn : Numbered s) (h : Filed d who orderId s desk)
    {step : ConfirmStep} {id : Nat} {args : ConfirmArgs} {type : HandoffCodeType}
    {row : HandoffCodeRow} (hrefused : Refused d s step id args type row) :
    Filed d who orderId (recordFailedAttempt s row.id)
      (deskStep d who orderId s desk (.confirm step id args)) := by
  obtain ⟨hmem, hoid, htype⟩ := newest_row hrefused.found
  by_cases hours : id = orderId ∧ type = who.type
  · obtain ⟨rfl, rfl⟩ := hours
    obtain rfl := closing_of_type hrefused.code
    rw [deskStep, if_pos ⟨rfl, staffs_of_owns (Or.inr rfl) hrefused.owned⟩,
      if_neg fun hx => closing_ne_opening who hx.1, if_pos rfl]
    cases h with
    | shut hready hcodes =>
        have hnone : newest s id who.type = none := by
          rw [newest, show s.codes.filter (isUnusedCode id who.type) = [] from hcodes]
          rfl
        cases hnone.symm.trans hrefused.found
    | @waits row' m hready hcodes hhash hexpires hcount hlast =>
        have hnewest : newest s id who.type = some row' := by
          rw [newest, show s.codes.filter (isUnusedCode id who.type) = [row'] from hcodes]
          rfl
        obtain rfl : row' = row := Option.some.inj (hnewest.symm.trans hrefused.found)
        have hclosed : m.opens d who s.now args.code = false := by
          rw [← Bool.not_eq_true]
          intro hopens
          have hrow := presented_of_filed hcodes hhash hexpires hcount args.code
          rw [if_pos hopens, hrefused.wrong] at hrow
          cases hrow
        rw [Option.bind_some, if_pos hclosed]
        refine .waits hready (live_raised_self hcodes) hhash hexpires ?_ hlast
        rw [hcount]
  · have hother : id = orderId → step ≠ who.opening ∧ step ≠ who.closing := by
      intro hid
      constructor
      · rintro rfl
        cases (opening_code who).symm.trans hrefused.code
      · rintro rfl
        exact hours ⟨hid, Option.some.inj (hrefused.code.symm.trans (codeTypeOf_closing who))⟩
    rw [deskStep_other hother]
    refine h.same Iff.rfl (live_raised hn hmem fun hx => hours ?_) rfl
    rw [hoid, htype] at hx
    exact hx

/-- The desk after a call that did nothing. -/
theorem stayed_filed (hs : Orderly s) (h : Filed d who orderId s desk) {step : ConfirmStep}
    {id : Nat} {args : ConfirmArgs} (hright : ∀ type row, ¬ Refused d s step id args type row)
    (hnot : ¬ Advances d s step id args) :
    Filed d who orderId s (deskStep d who orderId s desk (.confirm step id args)) := by
  rw [deskStep]
  split
  · next hours =>
      obtain ⟨rfl, hstaff⟩ := hours
      obtain ⟨o, ho, hstaffs⟩ := (Option.any_eq_true _ _).mp hstaff
      have advances : (step = who.opening ∨ step = who.closing) →
          statusOf s id = some (edgeOf step).1 → Proven d s step id args.code →
            ¬ Shared s step := by
        intro hdesk hstatus hproven hshared
        obtain ⟨p, hp, hsource⟩ := statusOf_eq.mp hstatus
        obtain rfl : o = p := Option.some.inj (ho.symm.trans hp)
        exact hnot ((advances_iff hs).mpr ⟨o, ho, (owns_eq hdesk o).trans hstaffs, hsource,
          ridden_of_desk hdesk, hproven, hshared⟩)
      split
      · next hopening =>
          obtain ⟨rfl, hstatus⟩ := hopening
          refine absurd (not_shared_of_opening rfl) (advances (Or.inl rfl) hstatus ?_)
          intro type htype
          cases (opening_code who).symm.trans htype
      · split
        · next hclosing =>
            subst hclosing
            cases h with
            | shut hready hcodes => exact .shut hready hcodes
            | @waits row m hready hcodes hhash hexpires hcount hlast =>
                have hstatus : statusOf s id = some (edgeOf who.closing).1 := by
                  rw [closing_edge]
                  exact waiting_iff.mp hready
                have hrow := presented_of_filed hcodes hhash hexpires hcount args.code
                rw [Option.bind_some]
                split
                · next hclosed =>
                    rw [hclosed, if_neg Bool.false_ne_true] at hrow
                    obtain ⟨p, hp, hsource⟩ := statusOf_eq.mp hstatus
                    refine absurd ?_ (hright who.type row)
                    refine ⟨codeTypeOf_closing who, ?_, hs.keyed.free hp hsource, ?_, hrow⟩
                    · rw [ho]
                      exact (owns_eq (Or.inr rfl) o).trans hstaffs
                    · have hone : s.codes.filter (isUnusedCode id who.type) = [row] := hcodes
                      rw [newest, hone]
                      rfl
                · next hopens =>
                    rw [if_pos (Bool.eq_true_of_not_eq_false hopens)] at hrow
                    rw [if_neg (advances (Or.inr rfl) hstatus ?_)]
                    · exact .waits hready hcodes hhash hexpires hcount hlast
                    · intro type htype
                      obtain rfl : who.type = type :=
                        Option.some.inj ((codeTypeOf_closing who).symm.trans htype)
                      rw [hrow]
                      rfl
        · exact h
  · exact h

/-- **A call** keeps the desk and the tables together. -/
theorem confirm_filed (hs : Orderly s) (hn : Numbered s) (h : Filed d who orderId s desk)
    (step : ConfirmStep) (id : Nat) (args : ConfirmArgs) :
    Filed d who orderId (System.exec d s (.confirm step id args))
        (deskStep d who orderId s desk (.confirm step id args)) ∧
      Numbered (System.exec d s (.confirm step id args)) := by
  rcases confirm_called (d := d) (s := s) step id args with
    ⟨hbody, howned⟩ | ⟨hrefused, he⟩ | ⟨hright, hnot, he⟩
  · refine ⟨moved_filed hs hn h hbody howned, ?_⟩
    have hn₀ := hn.unwritten (insertKey_aloof step.scope id s).toUnwritten
    cases stepBody_wrote hbody with
    | nothing hcode hstep hu => exact hn₀.unwritten hu
    | used hcode hrow hu => exact (used_numbered hn₀ _).unwritten hu
    | sent who' hstep hsent => exact hsent.numbered hn₀
  · rw [he]
    exact ⟨refused_filed hn h hrefused, raised_numbered hn _⟩
  · rw [he]
    exact ⟨stayed_filed hs h hright hnot, hn⟩

/-! ## Codes on request -/

/-- A resend: a new code for the collector the parcel waits for, or nothing. -/
theorem resend_called (id : Nat) (nodeIds : List Nat) (code : String) :
    (∃ who : Collector, statusOf s id = some who.ready ∧
        (getOrder s id).any (staffs who nodeIds) = true ∧
        Sent d who id code s (System.exec d s (.resendCode id nodeIds code)) ∧
        (System.exec d s (.resendCode id nodeIds code)).orders = s.orders) ∨
      (System.exec d s (.resendCode id nodeIds code) = s ∧
        ∀ who : Collector, statusOf s id = some who.ready →
          (getOrder s id).any (staffs who nodeIds) = false) := by
  have failed : ∀ e, Harmless e → (tx d (.resendCode id nodeIds code)).run s = .error e →
      System.exec d s (.resendCode id nodeIds code) = s := by
    intro e he hrun
    rw [System.exec, hrun]
    exact he.rollback s
  have sent : ∀ who mail, isCodeMail mail = true →
      (∀ who' orderId, codeIn who' orderId mail
        = if who' = who ∧ id = orderId then some code else none) →
      (tx d (.resendCode id nodeIds code)).run s = (do
        issue d id who.type none who.ttlMinutes code
        enqueue mail : Db Unit).run s →
      Sent d who id code s (System.exec d s (.resendCode id nodeIds code)) ∧
        (System.exec d s (.resendCode id nodeIds code)).orders = s.orders := by
    intro who mail hmail hcode hrun
    rw [System.exec, hrun]
    exact ⟨sent_of_parts ⟨unwritten_frame.refl s, rfl⟩ hmail hcode rfl, rfl⟩
  by_cases hsender : (getOrder s id).map OrderRow.status = some .readyForSenderCollection
  · cases hstaff : (getOrder s id).any (staffs .sender nodeIds) with
    | true =>
        refine Or.inl ⟨.sender, hsender, hstaff, sent .sender
          (.email id (.senderCollectionCode code)) rfl (fun who' orderId => rfl) ?_⟩
        rw [tx, resendCode, Tx.run_read_bind, if_pos hsender,
          show ((getOrder s id).any fun o => decide (o.originNodeId ∈ nodeIds)) = true from hstaff]
        rfl
    | false =>
        refine Or.inr ⟨failed (.entityNotFound "Order" id) trivial ?_, fun who hready => ?_⟩
        · rw [tx, resendCode, Tx.run_read_bind, if_pos hsender,
            show ((getOrder s id).any fun o => decide (o.originNodeId ∈ nodeIds)) = false
              from hstaff]
          rfl
        · cases who with
          | receiver => cases hready.symm.trans hsender
          | sender => exact hstaff
  · cases hstaff : (getOrder s id).any (staffs .receiver nodeIds) with
    | false =>
        refine Or.inr ⟨failed (.entityNotFound "Order" id) trivial ?_, fun who hready => ?_⟩
        · rw [tx, resendCode, Tx.run_read_bind, if_neg hsender,
            show ((getOrder s id).any fun o => decide (o.destinationNodeId ∈ nodeIds)) = false
              from hstaff]
          rfl
        · cases who with
          | receiver => exact hstaff
          | sender => exact absurd hready hsender
    | true =>
        cases hready : (getOrder s id).any fun o => decide (o.status = .readyForCollection) with
        | true =>
            have hstatus : statusOf s id = some .readyForCollection := by
              obtain ⟨o, ho, hready⟩ := (Option.any_eq_true _ _).mp hready
              exact statusOf_eq.mpr ⟨o, ho, of_decide_eq_true hready⟩
            refine Or.inl ⟨.receiver, hstatus, hstaff, sent .receiver
              (.email id (.newCollectionCode code)) rfl (fun who' orderId => rfl) ?_⟩
            rw [tx, resendCode, Tx.run_read_bind, if_neg hsender,
              show ((getOrder s id).any fun o => decide (o.destinationNodeId ∈ nodeIds)) = true
                from hstaff, Tx.ensure_true, Tx.run_pure_bind, hready]
            rfl
        | false =>
            refine Or.inr ⟨failed (.orderNotReadyForCollection id) trivial ?_,
              fun who hstatus => ?_⟩
            · rw [tx, resendCode, Tx.run_read_bind, if_neg hsender,
                show ((getOrder s id).any fun o => decide (o.destinationNodeId ∈ nodeIds)) = true
                  from hstaff, Tx.ensure_true, Tx.run_pure_bind, hready]
              rfl
            · cases who with
              | sender => exact absurd hstatus hsender
              | receiver =>
                  obtain ⟨o, ho, hsource⟩ := statusOf_eq.mp hstatus
                  rw [ho, Option.any_some, hsource] at hready
                  cases hready

theorem resend_filed (hn : Numbered s) (h : Filed d who orderId s desk) (id : Nat)
    (nodeIds : List Nat) (code : String) :
    Filed d who orderId (System.exec d s (.resendCode id nodeIds code))
        (deskStep d who orderId s desk (.resendCode id nodeIds code)) ∧
      Numbered (System.exec d s (.resendCode id nodeIds code)) := by
  rcases resend_called (d := d) (s := s) id nodeIds code with
    ⟨who', hready, hstaff, hsent, horders⟩ | ⟨he, hnobody⟩
  · refine ⟨?_, hsent.numbered hn⟩
    have hwaiting : ∀ orderId, waiting (System.exec d s (.resendCode id nodeIds code)) orderId
        = waiting s orderId := by
      intro orderId
      rw [waiting, waiting, getOrder, horders, getOrder]
    by_cases hours : who = who' ∧ id = orderId
    · obtain ⟨rfl, rfl⟩ := hours
      cases h with
      | shut hnot hcodes => exact absurd (waiting_iff.mpr hready) hnot
      | waits hwaits hcodes hhash hexpires hcount hlast =>
          rw [deskStep, if_pos ⟨rfl, hstaff⟩]
          exact .waits (by rwa [hwaiting]) (hsent.live.trans (if_pos ⟨rfl, rfl⟩)) rfl rfl rfl
            (hsent.lastMailed.trans (if_pos ⟨rfl, rfl⟩))
    · have hsame : deskStep d who orderId s desk (.resendCode id nodeIds code) = desk := by
        rw [deskStep]
        split
        · next hdesk =>
            -- the parcel waits for the other collector
            obtain ⟨rfl, -⟩ := hdesk
            cases h with
            | shut hnot hcodes => rfl
            | waits hwaits hcodes hhash hexpires hcount hlast =>
                have hboth := hready.symm.trans (waiting_iff.mp hwaits)
                refine absurd ⟨?_, rfl⟩ hours
                cases who <;> cases who' <;> first | rfl | cases hboth
        · rfl
      rw [hsame]
      refine h.same (by rw [hwaiting]) ?_ ?_
      · rw [hsent.live, if_neg]
        rintro ⟨hid, htype⟩
        refine hours ⟨?_, hid⟩
        cases who <;> cases who' <;> first | rfl | cases htype
      · rw [hsent.lastMailed, if_neg hours]
  · rw [he]
    refine ⟨?_, hn⟩
    rw [deskStep]
    split
    · next hdesk =>
        obtain ⟨rfl, hstaff⟩ := hdesk
        cases h with
        | shut hnot hcodes => exact .shut hnot hcodes
        | waits hwaits hcodes hhash hexpires hcount hlast =>
            rw [hnobody who (waiting_iff.mp hwaits)] at hstaff
            cases hstaff
    · exact h

/-- Riders ask for codes of their own only, as the request's validator has it. -/
def AsksForRider : Action → Prop
  | .requestCode _ _ type _ => Histories.isRiderCode type = true
  | _ => True

/-- **Every action** keeps the desk and the tables together. -/
theorem exec_filed (hs : Orderly s) (hn : Numbered s) (h : Filed d who orderId s desk) (a : Action)
    (hasks : AsksForRider a) :
    Filed d who orderId (System.exec d s a) (deskStep d who orderId s desk a) ∧
      Numbered (System.exec d s a) := by
  -- a failure leaves everything, for all actions but the confirming steps
  have committed : (∀ step id args, a ≠ .confirm step id args) →
      (∀ s', (tx d a).run s = .ok ((), s') → Filed d who orderId s' desk ∧ Numbered s') →
      Filed d who orderId (System.exec d s a) desk ∧ Numbered (System.exec d s a) := by
    intro hnot hcommit
    rcases exec_cases d s a with ⟨s', hrun, he⟩ | ⟨e, hrun, he⟩
    · rw [he]
      exact hcommit s' hrun
    · rw [he, (tx_harmless hnot s e hrun).rollback]
      exact ⟨h, hn⟩
  cases haloof : isAloof a with
  | true =>
      have hkept := committed (by rintro _ _ _ rfl; cases haloof) fun s' hrun =>
        have hs' := tx_aloof haloof s () s' hrun
        ⟨h.aloof hs', hn.unwritten hs'.toUnwritten⟩
      cases a with
      | tick _ | confirm _ _ _ | requestCode _ _ _ _ | resendCode _ _ _ => cases haloof
      | _ => exact hkept
  | false =>
      cases a with
      | tick ms => exact ⟨h.same Iff.rfl rfl rfl, hn⟩
      | confirm step id args => exact confirm_filed hs hn h step id args
      | resendCode id nodeIds code => exact resend_filed hn h id nodeIds code
      | requestCode id riderId type rawCode =>
          refine committed (fun _ _ _ heq => by cases heq) fun s' hrun => ?_
          rw [tx, requestCode, Tx.run_read_bind] at hrun
          obtain ⟨_, s₁, hensure, hissue⟩ := Tx.run_bind_eq_ok.mp hrun
          obtain ⟨-, rfl⟩ := Tx.run_ensure_eq_ok.mp hensure
          rw [issue_run] at hissue
          cases hissue
          refine ⟨h.same Iff.rfl ?_ rfl, issued_numbered hn _ _ _ _ _⟩
          rw [live_issued, if_neg]
          rintro ⟨-, rfl⟩
          cases who <;> cases hasks
      | _ => cases haloof

/-! ## Runs -/

theorem run_filed (d : Deployment) (who : Collector) (orderId : Nat) (as : List Action)
    (hasks : ∀ a ∈ as, AsksForRider a) (hs : Orderly s) (hn : Numbered s)
    (h : Filed d who orderId s desk) :
    Filed d who orderId (System.run d s as) (deskRun d who orderId s desk as) := by
  induction as generalizing s desk with
  | nil => exact h
  | cons a as ih =>
      obtain ⟨hfiled, hnumbered⟩ := exec_filed hs hn h a (hasks a List.mem_cons_self)
      exact ih (fun b hb => hasks b (List.mem_cons_of_mem a hb)) (hs.exec a) hnumbered hfiled

theorem filed_of_initial (h : Initial s) : Filed d who orderId s none := by
  refine .shut ?_ ?_
  · rw [waiting, getOrder, h.orders]
    exact fun hx => by cases hx
  · rw [live, h.codes]
    rfl

/-- **The last code sent is the one that counts.** In every run, an order is
ready for its collector just when the desk holds a code, and then that is the
code of the last email about it; a call of the staff hands the parcel over just
when they work at its Node, what was typed in goes with that code, which is less
than an hour old and was not refused five times, and the earnings can be shared. -/
theorem last_code_counts (d : Deployment) {s₀ : State} (h : Initial s₀) (as : List Action)
    (hasks : ∀ a ∈ as, AsksForRider a) (who : Collector) (orderId : Nat) (args : ConfirmArgs) :
    ((deskRun d who orderId s₀ none as).isSome = true ↔
      statusOf (System.run d s₀ as) orderId = some who.ready) ∧
    (∀ m, deskRun d who orderId s₀ none as = some m →
      lastMailed (System.run d s₀ as) who orderId = some m.code) ∧
    (Advances d (System.run d s₀ as) who.closing orderId args ↔
      (getOrder (System.run d s₀ as) orderId).any (staffs who args.operatorNodeIds) = true ∧
        (∃ m, deskRun d who orderId s₀ none as = some m ∧
          m.opens d who (System.run d s₀ as).now args.code = true) ∧
        Shared (System.run d s₀ as) who.closing) := by
  have horderly := run_orderly d h as
  have hn : Numbered s₀ := by
    rw [Numbered, h.codes]
    exact Serial.nil _ _
  have hfiled := run_filed d who orderId as hasks (orderly_of_initial h) hn (filed_of_initial h)
  refine ⟨hfiled.ready_iff, hfiled.mailed, ?_⟩
  rw [advances_iff horderly]
  constructor
  · rintro ⟨o, ho, howns, hsource, -, hproven, hshared⟩
    refine ⟨?_, (hfiled.proven_iff _).mp (hproven _ (codeTypeOf_closing who)), hshared⟩
    rw [ho, Option.any_some, ← owns_eq (Or.inr rfl)]
    exact howns
  · rintro ⟨hstaff, ⟨m, hm, hopens⟩, hshared⟩
    obtain ⟨o, ho, hstaffs⟩ := (Option.any_eq_true _ _).mp hstaff
    have hready := hfiled.ready_iff.mp (by rw [hm]; rfl)
    obtain ⟨p, hp, hsource⟩ := statusOf_eq.mp hready
    obtain rfl : o = p := Option.some.inj (ho.symm.trans hp)
    refine ⟨o, ho, (owns_eq (Or.inr rfl) o).trans hstaffs, hsource.trans (closing_edge who).symm,
      ridden_of_desk (Or.inr rfl), ?_, hshared⟩
    intro type htype
    obtain rfl : who.type = type := Option.some.inj ((codeTypeOf_closing who).symm.trans htype)
    exact (hfiled.proven_iff args.code).mpr ⟨m, hm, hopens⟩

/-- A rider takes the parcel to its destination, where a code is sent, refused
once and sent again. -/
def demoSentTwice : List Action :=
  demoBooking ++ [.webhook 10 (some demoPayment) ["LOC1"]] ++ demoBooked ++
    [.cancelLeg 12 "assign_timeout" none, .accept 11 3, .requestCode 11 3 .riderPickup "code",
      .confirm .pickup 11 (demoArgs "code"), .requestCode 11 3 .riderArrival "code",
      .confirm .arrival 11 (demoArgs "code"), .confirm .intake 11 (demoArgs ""),
      .confirm .collection 11 (demoArgs "guess"), .resendCode 11 [2] "next"]

/-- The first code opens nothing any more, the second does. -/
theorem demo_last_code_counts :
    let s := run demo demoState demoSentTwice
    deskRun demo .receiver 11 demoState none demoSentTwice = some ⟨"next", 0, 0⟩ ∧
      ((exec demo s (.confirm .collection 11 (demoArgs "code"))).orders.map OrderRow.status
        = [.readyForCollection]) ∧
      Advances demo s .collection 11 (demoArgs "next") := by
  intro s
  have hasks : ∀ a ∈ demoSentTwice, AsksForRider a := by
    simp [demoSentTwice, demoBooking, demoBooked, AsksForRider, Histories.isRiderCode]
  have hdesk : deskRun demo .receiver 11 demoState none demoSentTwice = some ⟨"next", 0, 0⟩ := by
    decide +kernel
  refine ⟨hdesk, by decide +kernel, ?_⟩
  obtain ⟨-, -, hadvances⟩ := last_code_counts demo demoState_initial demoSentTwice hasks .receiver
    11 (demoArgs "next")
  exact hadvances.mpr ⟨by decide +kernel, ⟨_, hdesk, by decide +kernel⟩, by decide +kernel⟩

end Locoomo.CollectionCodes
