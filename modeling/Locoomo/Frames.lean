import Locoomo.System
import Locoomo.LegMoves

/-! What the transactions outside the logistics core leave alone, and what
they do where they act: codes, the outbox and settings are clerical; payments
touch intents, place orders and move Node counters. -/

namespace Locoomo.Frames

open Locoomo.Delivery Locoomo.Pricing Locoomo.Database Locoomo.Routing Locoomo.Logistics
  Locoomo.Handoffs Locoomo.Payments Locoomo.System Locoomo.OrderMoves Locoomo.LegMoves Relational

/-! ## Codes and messages -/

/-- Only handoff codes and the outbox may have changed. -/
structure Noted (s s' : State) : Prop where
  nextId : s.nextId ≤ s'.nextId
  frame : s' = { s with nextId := s'.nextId, codes := s'.codes, outbox := s'.outbox }

theorem noted_frame : Tx.Frame Noted where
  refl s := ⟨le_rfl, rfl⟩
  trans h₁ h₂ := ⟨h₁.nextId.trans h₂.nextId, by rw [h₂.frame, h₁.frame]⟩

open Tx (Keeps)

theorem enqueue_noted (event : OutboxEvent) : Keeps Noted (enqueue event) :=
  noted_frame.write fun _ => ⟨le_rfl, rfl⟩

theorem issue_noted (d : Deployment) (orderId : Nat) (type : HandoffCodeType)
    (requestedByUserId : Option Nat) (ttlMinutes : Nat) (rawCode : String) :
    Keeps Noted (issue d orderId type requestedByUserId ttlMinutes rawCode) :=
  noted_frame.bind (noted_frame.write fun _ => ⟨le_rfl, rfl⟩) fun _ =>
    noted_frame.write fun _ => ⟨Nat.le_succ _, rfl⟩

theorem validate_noted (d : Deployment) (orderId : Nat) (type : HandoffCodeType)
    (code : String) : Keeps Noted (validate d orderId type code) :=
  noted_frame.bind (noted_frame.read _) fun _ =>
    noted_frame.bind (noted_frame.read _) fun _ =>
      noted_frame.bind (noted_frame.expect _ _) fun _ =>
        noted_frame.write fun _ => ⟨le_rfl, rfl⟩

theorem requestCode_noted (d : Deployment) (orderId riderId : Nat) (type : HandoffCodeType)
    (rawCode : String) : Keeps Noted (requestCode d orderId riderId type rawCode) :=
  noted_frame.bind (noted_frame.read _) fun _ =>
    noted_frame.bind (noted_frame.ensure _ _) fun _ => issue_noted _ _ _ _ _ _

theorem resendCode_noted (d : Deployment) (orderId : Nat) (operatorNodeIds : List Nat)
    (drawnCode : String) : Keeps Noted (resendCode d orderId operatorNodeIds drawnCode) := by
  refine noted_frame.bind (noted_frame.read _) fun row => ?_
  split
  · exact noted_frame.bind (noted_frame.ensure _ _) fun _ =>
      noted_frame.bind (issue_noted _ _ _ _ _ _) fun _ => enqueue_noted _
  · exact noted_frame.bind (noted_frame.ensure _ _) fun _ =>
      noted_frame.bind (noted_frame.ensure _ _) fun _ =>
        noted_frame.bind (issue_noted _ _ _ _ _ _) fun _ => enqueue_noted _

theorem retry_noted (d : Deployment) (legId : Nat) : Keeps Noted (retry d legId) :=
  noted_frame.bind (noted_frame.read _) fun _ =>
    noted_frame.bind (noted_frame.expect _ _) fun _ =>
      noted_frame.bind (noted_frame.ensure _ _) fun _ => enqueue_noted _

/-! ## Clerical work -/

/-- Only the clock, settings, handoff codes and the outbox may have changed. -/
structure Clerical (s s' : State) : Prop where
  nextId : s.nextId ≤ s'.nextId
  frame : s' = { s with
    now := s'.now
    nextId := s'.nextId
    providers := s'.providers
    pricingRules := s'.pricingRules
    splitRules := s'.splitRules
    codes := s'.codes
    outbox := s'.outbox }

theorem clerical_frame : Tx.Frame Clerical where
  refl s := ⟨le_rfl, rfl⟩
  trans h₁ h₂ := ⟨h₁.nextId.trans h₂.nextId, by rw [h₂.frame, h₁.frame]⟩

theorem Noted.clerical {s s' : State} (h : Noted s s') : Clerical s s' :=
  ⟨h.nextId, by rw [h.frame]⟩

namespace Clerical

variable {s s' : State}

theorem nodes (h : Clerical s s') : s'.nodes = s.nodes := by rw [h.frame]

theorem riders (h : Clerical s s') : s'.riders = s.riders := by rw [h.frame]

theorem intents (h : Clerical s s') : s'.intents = s.intents := by rw [h.frame]

theorem orders (h : Clerical s s') : s'.orders = s.orders := by rw [h.frame]

theorem legs (h : Clerical s s') : s'.legs = s.legs := by rw [h.frame]

theorem keys (h : Clerical s s') : s'.keys = s.keys := by rw [h.frame]

theorem entries (h : Clerical s s') : s'.entries = s.entries := by rw [h.frame]

theorem clampHits (h : Clerical s s') : s'.clampHits = s.clampHits := by rw [h.frame]

end Clerical

theorem updateProvider_clerical (key : String) (dto : UpdateLogisticsProviderDto) :
    Keeps Clerical (updateProvider key dto) :=
  clerical_frame.bind (clerical_frame.read _) fun _ =>
    clerical_frame.bind (clerical_frame.expect _ _) fun _ =>
      clerical_frame.bind (clerical_frame.ensure _ _) fun _ =>
        clerical_frame.bind (clerical_frame.ensure _ _) fun _ =>
          clerical_frame.bind (clerical_frame.read _) fun _ =>
            clerical_frame.bind (clerical_frame.ensure _ _) fun _ =>
              clerical_frame.write fun _ => ⟨le_rfl, rfl⟩

/-- The actions that do clerical work only. -/
def isClerical : Action → Bool
  | .tick _ | .createPricingRule _ | .createSplitRule _ | .updateProvider _ _
  | .requestCode _ _ _ _ | .resendCode _ _ _ | .retry _ | .interrupted => true
  | _ => false

theorem tx_clerical (d : Deployment) {a : Action} (h : isClerical a = true) :
    Keeps Clerical (tx d a) := by
  cases a with
  | tick ms => exact clerical_frame.write fun _ => ⟨le_rfl, rfl⟩
  | createPricingRule rule => exact clerical_frame.write fun _ => ⟨Nat.le_succ _, rfl⟩
  | createSplitRule rule => exact clerical_frame.write fun _ => ⟨Nat.le_succ _, rfl⟩
  | updateProvider key dto => exact updateProvider_clerical key dto
  | requestCode orderId riderId type rawCode =>
      exact (requestCode_noted _ _ _ _ _).mono Noted.clerical
  | resendCode orderId operatorNodeIds drawnCode =>
      exact (resendCode_noted _ _ _ _).mono Noted.clerical
  | retry legId => exact (retry_noted d legId).mono Noted.clerical
  | interrupted => exact clerical_frame.reject _
  | _ => cases h

theorem rollback_clerical (s : State) (e : TxError) : Clerical s (rollback s e) := by
  unfold rollback
  split
  · exact ⟨le_rfl, rfl⟩
  · exact clerical_frame.refl s

/-! ## Idempotency keys -/

def insertKey (scope : String) (key : Nat) (s : State) : State :=
  { s with keys := s.keys ++ [⟨scope, key⟩] }

/-- A duplicate changes nothing; a first call runs `fn` with its key inserted. -/
theorem withIdempotency_ok {α : Type} {scope : String} {key : Nat} {fn : Db α} {s s' : State}
    {r : Option α} (h : (withIdempotency scope key fn).run s = .ok (r, s')) :
    (⟨scope, key⟩ ∈ s.keys ∧ r = none ∧ s' = s) ∨
      (⟨scope, key⟩ ∉ s.keys ∧ ∃ a, r = some a ∧ fn.run (insertKey scope key s) = .ok (a, s')) := by
  rw [withIdempotency, Tx.run_query_bind] at h
  by_cases hused : (⟨scope, key⟩ : IdempotencyKey) ∈ s.keys
  · simp only [hused, if_true, Bool.false_eq_true, if_false, Tx.run_pure] at h
    cases h
    exact Or.inl ⟨hused, rfl, rfl⟩
  · simp only [hused, if_false, if_true] at h
    obtain ⟨a, s₁, hfn, h⟩ := Tx.run_bind_eq_ok.mp h
    cases h
    exact Or.inr ⟨hused, a, rfl, hfn⟩

/-- The key insert is one statement; what follows depends on whether the key
was there. -/
theorem withIdempotency_stmt {α β : Type} (scope : String) (key : Nat) (fn : Db α)
    (g : Option α → Db β) :
    withIdempotency scope key fn >>= g = .stmt
      (fun s => if ⟨scope, key⟩ ∈ s.keys then s else insertKey scope key s)
      fun s => if ⟨scope, key⟩ ∈ s.keys then g none
        else (fn >>= fun a => pure (some a)) >>= g := by
  change Tx.stmt _ _ = _
  congr 1
  · funext s
    change (if (⟨scope, key⟩ : IdempotencyKey) ∈ s.keys then _ else _ : Bool × State).2 = _
    split <;> rfl
  · funext s
    change Tx.andThen (Tx.andThen (Tx.ret (if (⟨scope, key⟩ : IdempotencyKey) ∈ s.keys then _
      else _ : Bool × State).1) _) _ = _
    split <;> rfl

/-- A committed `confirm` call found an order of the operator's, and either it
was a duplicate or its body committed under a fresh key. -/
theorem confirm_ok {d : Deployment} {step : ConfirmStep} {orderId : Nat} {args : ConfirmArgs}
    {s s' : State} {o : OrderRow} (h : (Handoffs.confirm d step orderId args).run s = .ok (o, s')) :
    (⟨step.scope, orderId⟩ ∈ s.keys ∧ getOrder s orderId = some o ∧ s' = s) ∨
      (⟨step.scope, orderId⟩ ∉ s.keys ∧
        (stepBody d step orderId args).run (insertKey step.scope orderId s) = .ok (o, s')) := by
  rw [Handoffs.confirm, Tx.run_read_bind] at h
  obtain ⟨_, s₁, hown, hrest⟩ := Tx.run_bind_eq_ok.mp h
  obtain ⟨-, rfl⟩ := Tx.run_ensure_eq_ok.mp hown
  obtain ⟨r, s₂, hkey, hresult⟩ := Tx.run_bind_eq_ok.mp hrest
  rcases withIdempotency_ok hkey with ⟨hused, rfl, rfl⟩ | ⟨hfresh, a, rfl, hbody⟩
  · simp only [Tx.run_read_bind] at hresult
    obtain ⟨horder, rfl⟩ := Tx.run_expect_eq_ok.mp hresult
    exact Or.inl ⟨hused, horder, rfl⟩
  · cases hresult
    exact Or.inr ⟨hfresh, hbody⟩

/-! ## Payments -/

theorem reserveCapacitySlot_ok {nodeId : Nat} {s s' : State} {r : Bool}
    (h : (reserveCapacitySlot nodeId).run s = .ok (r, s')) :
    ∃ n ∈ s.nodes, n.id = nodeId ∧
      (r = false ∧ n.capacity ≤ n.currentCount ∧ s' = s ∨
        r = true ∧ n.currentCount < n.capacity ∧ s' = adjustNode nodeId (· + 1) s) := by
  rw [reserveCapacitySlot, Tx.run_read_bind] at h
  obtain ⟨n, s₁, hexpect, h⟩ := Tx.run_bind_eq_ok.mp h
  obtain ⟨hn, rfl⟩ := Tx.run_expect_eq_ok.mp hexpect
  obtain ⟨hmem, hid⟩ := get_some hn
  refine ⟨n, hmem, hid, ?_⟩
  split at h
  · next hfull =>
      cases h
      exact Or.inl ⟨rfl, hfull, rfl⟩
  · next hfree =>
      cases h
      exact Or.inr ⟨rfl, Nat.lt_of_not_le hfree, rfl⟩

/-- A booking: the slot is taken and the pending intent stored. -/
structure Booked (s s' : State) (intent : PaymentIntentRow) : Prop where
  id : intent.id = s.nextId
  status : intent.status = .pending
  fee : intent.feeBreakdown.Sound
  amount : intent.amountKobo = intent.feeBreakdown.totalKobo
  reference : intent.providerReference = none
  room : ∃ n ∈ s.nodes, n.id = intent.originNodeId ∧ n.currentCount < n.capacity
  eq : s' = { adjustNode intent.originNodeId (· + 1) s with
    intents := s.intents ++ [intent], nextId := s.nextId + 1 }

theorem createIntent_ok {payerId : Nat} {dto : CreatePaymentIntentDto} {s s' : State}
    {intent : PaymentIntentRow}
    (h : (Payments.createIntent payerId dto).run s = .ok (intent, s')) : Booked s s' intent := by
  rw [Payments.createIntent, Tx.run_read_bind] at h
  obtain ⟨rule, s₁, hexpect, h⟩ := Tx.run_bind_eq_ok.mp h
  obtain ⟨-, rfl⟩ := Tx.run_expect_eq_ok.mp hexpect
  obtain ⟨reserved, s₂, hreserve, h⟩ := Tx.run_bind_eq_ok.mp h
  obtain ⟨_, s₃, hensure, h⟩ := Tx.run_bind_eq_ok.mp h
  obtain ⟨hr, rfl⟩ := Tx.run_ensure_eq_ok.mp hensure
  obtain ⟨n, hn, hid, hroom⟩ := reserveCapacitySlot_ok hreserve
  rcases hroom with ⟨hr', -, -⟩ | ⟨-, hlt, rfl⟩
  · rw [hr'] at hr
    cases hr
  · cases h
    exact
      { id := rfl, status := rfl, fee := calculateFee_sound _ _ _ _, amount := rfl
        reference := rfl, room := ⟨n, hn, hid, hlt⟩, eq := rfl }

/-- An order as `createFromPaidIntent` inserts it. -/
structure Placed (nextId : Nat) (orders : List OrderRow) (intent : PaymentIntentRow)
    (order : OrderRow) : Prop where
  id : order.id = nextId
  paymentIntentId : order.paymentIntentId = intent.id
  originNodeId : order.originNodeId = intent.originNodeId
  destinationNodeId : order.destinationNodeId = intent.destinationNodeId
  amountKobo : order.amountKobo = intent.amountKobo
  destinationFeeKobo : order.destinationFeeKobo = intent.feeBreakdown.destinationFeeKobo
  status : order.status = .awaitingDropOff
  riderId : order.riderId = none
  vehicleClass : order.vehicleClass = intent.vehicleClass
  only : ∀ o ∈ orders, o.paymentIntentId ≠ intent.id

theorem insertOrder_ok {intent : PaymentIntentRow} {trackingCode : String} {s s' : State}
    {r : Option OrderRow} (h : (insertOrder intent trackingCode).run s = .ok (r, s')) :
    (r = none ∧ s' = s) ∨
      ∃ order, r = some order ∧ Placed s.nextId s.orders intent order ∧
        s' = { s with orders := s.orders ++ [order], nextId := s.nextId + 1 } := by
  rw [insertOrder, Tx.run_query] at h
  split at h
  · cases h
    exact Or.inl ⟨rfl, rfl⟩
  · next hfree =>
      cases h
      refine Or.inr ⟨_, rfl, ?_, rfl⟩
      refine ⟨rfl, rfl, rfl, rfl, rfl, rfl, rfl, rfl, rfl, fun o ho heq => hfree ?_⟩
      exact List.any_eq_true.mpr ⟨o, ho, by simp [heq]⟩

theorem saveWithTrackingCode_ok {intent : PaymentIntentRow} {codes : List String} {s s' : State}
    {order : OrderRow} (h : (saveWithTrackingCode intent codes).run s = .ok (order, s')) :
    Placed s.nextId s.orders intent order ∧
      s' = { s with orders := s.orders ++ [order], nextId := s.nextId + 1 } := by
  cases codes with
  | nil => cases h
  | cons code codes =>
      obtain ⟨saved, s₁, hinsert, h⟩ := Tx.run_bind_eq_ok.mp h
      rcases insertOrder_ok hinsert with ⟨rfl, -⟩ | ⟨row, rfl, hplaced, rfl⟩
      · cases codes with
        | nil => cases h
        | cons next rest => cases h
      · cases codes with
        | nil =>
            cases h
            exact ⟨hplaced, rfl⟩
        | cons next rest =>
            cases h
            exact ⟨hplaced, rfl⟩

theorem createFromPaidIntent_ok {intent : PaymentIntentRow} {drawnCodes : List String}
    {s s' : State} {order : OrderRow}
    (h : (createFromPaidIntent intent drawnCodes).run s = .ok (order, s')) :
    Placed s.nextId s.orders intent order ∧
      s' = { s with
        orders := s.orders ++ [order]
        nextId := s.nextId + 1
        orderEvents := s.orderEvents ++
          [⟨order.id, .orderPlaced, .placed intent.id intent.amountKobo, s.now⟩] } := by
  obtain ⟨row, s₁, hsave, h⟩ := Tx.run_bind_eq_ok.mp h
  obtain ⟨hplaced, rfl⟩ := saveWithTrackingCode_ok hsave
  cases h
  exact ⟨hplaced, rfl⟩

theorem differing_self {row saved : PaymentIntentRow} (hid : row.id = saved.id) :
    differing row saved row = saved := by
  have hcolumn : ∀ {α : Type} [DecidableEq α] (a b : α), differing.changed a b a = b := by
    intro α _ a b
    unfold differing.changed
    split
    · next h => exact h.symm
    · rfl
  simp only [differing, hcolumn, hid]

/-- A save of a stored row, with nothing in between, stores the entity. -/
theorem saveIntent_run {intent : PaymentIntentRow} {s : State}
    (h : ∃ row ∈ s.intents, row.id = intent.id) :
    (saveIntent intent).run s = .ok ((), putIntent s intent) := by
  obtain ⟨row, hget⟩ : ∃ row, getIntent s intent.id = some row := exists_get h
  have hid := (get_some hget).2
  simp only [saveIntent, Tx.run_read_bind, hget, Tx.run_write, differing_self hid]

/-- The intent as `confirm` saves it. -/
def paidIntent (intent : PaymentIntentRow) (verification : PaymentVerificationResult)
    (now : Nat) : PaymentIntentRow :=
  { intent with status := .paid, paidAt := some (verification.paidAt.getD now) }

/-- A confirmed payment: the intent paid, one order placed. -/
structure Confirmed (s s' : State) (intent : PaymentIntentRow)
    (verification : PaymentVerificationResult) (order : OrderRow) : Prop where
  placed : Placed s.nextId s.orders (paidIntent intent verification s.now) order
  intents : s'.intents =
    put PaymentIntentRow.id (paidIntent intent verification s.now) s.intents
  orders : s'.orders = s.orders ++ [order]
  nextId : s'.nextId = s.nextId + 1
  frame : s' = { s with
    intents := s'.intents, orders := s'.orders, orderEvents := s'.orderEvents
    nextId := s'.nextId, outbox := s'.outbox }

theorem confirmPaid_ok {intent : PaymentIntentRow} {verification : PaymentVerificationResult}
    {drawnCodes : List String} {s s' : State} (hmem : intent ∈ s.intents)
    (h : (Payments.confirm intent verification drawnCodes).run s = .ok ((), s')) :
    ∃ order, Confirmed s s' intent verification order := by
  rw [Payments.confirm, Tx.run_read_bind] at h
  have hsave : (saveIntent (paidIntent intent verification s.now)).run s = _ :=
    saveIntent_run ⟨intent, hmem, rfl⟩
  replace h := (Tx.run_bind_of_ok hsave).symm.trans h
  obtain ⟨order, s₁, hcreate, h⟩ := Tx.run_bind_eq_ok.mp h
  obtain ⟨hplaced, rfl⟩ := createFromPaidIntent_ok hcreate
  cases h
  exact ⟨order, hplaced, rfl, rfl, rfl, rfl⟩

/-- The expiry transaction: nothing, or the pending intent expired and its
slot released. -/
theorem expire_ok {intentId : Nat} {s s' : State} (h : (expire intentId).run s = .ok ((), s')) :
    (s' = s ∧ ∀ i, getIntent s intentId = some i → i.status ≠ .pending) ∨
      ∃ intent, getIntent s intentId = some intent ∧ intent.status = .pending ∧
        s' = releaseNode intent.originNodeId (putIntent s { intent with status := .expired }) := by
  rw [expire, Tx.run_read_bind] at h
  cases hget : getIntent s intentId with
  | none =>
      rw [hget] at h
      cases h
      exact Or.inl ⟨rfl, by simp⟩
  | some intent =>
      simp only [hget] at h
      split at h
      · next hne =>
          cases h
          exact Or.inl ⟨rfl, by rintro i ⟨⟩; exact hne⟩
      · next heq =>
          obtain ⟨hmem, hid⟩ := get_some hget
          have hsave : (saveIntent { intent with status := .expired }).run s = _ :=
            saveIntent_run ⟨intent, hmem, rfl⟩
          rw [Tx.run_bind_of_ok hsave] at h
          cases h
          exact Or.inr ⟨intent, rfl, by simpa using heq, rfl⟩

/-- The intent a successful verification may confirm. -/
structure Payable (s : State) (intent : PaymentIntentRow)
    (verification : PaymentVerificationResult) : Prop where
  stored : intent ∈ s.intents
  pending : intent.status = .pending
  full : isFullSuccess intent verification = true

/-- Under its key the webhook confirms a pending intent of that reference the
provider verified in full, and does nothing otherwise. -/
theorem webhookBody_ok {reference : Nat} {answer : VerifyAnswer} {drawnCodes : List String}
    {s s' : State} (h : (webhookBody reference answer drawnCodes).run s = .ok ((), s')) :
    (s' = s ∧ ∀ intent, findByReference s reference = some intent → intent.status = .pending →
        ∃ verification, answer = some verification ∧ isFullSuccess intent verification = false) ∨
      ∃ intent verification order, findByReference s reference = some intent ∧
        answer = some verification ∧ Payable s intent verification ∧
        Confirmed s s' intent verification order := by
  rw [webhookBody, Tx.run_read_bind] at h
  cases hfound : findByReference s reference with
  | none =>
      rw [hfound] at h
      cases h
      exact Or.inl ⟨rfl, by simp⟩
  | some intent =>
      simp only [hfound] at h
      by_cases hpending : intent.status = .pending
      · simp only [hpending, ne_eq, not_true_eq_false, if_false] at h
        obtain ⟨verification, s₁, hexpect, hbody⟩ := Tx.run_bind_eq_ok.mp h
        obtain ⟨rfl, rfl⟩ := Tx.run_expect_eq_ok.mp hexpect
        cases hfull : isFullSuccess intent verification with
        | false =>
            simp only [hfull, Bool.false_eq_true, if_false] at hbody
            cases hbody
            refine Or.inl ⟨rfl, ?_⟩
            rintro i hi -
            obtain rfl : intent = i := Option.some.inj hi
            exact ⟨verification, rfl, hfull⟩
        | true =>
            simp only [hfull, if_true] at hbody
            obtain ⟨order, hconfirmed⟩ := confirmPaid_ok (List.mem_of_find?_eq_some hfound) hbody
            exact Or.inr ⟨intent, verification, order, rfl, rfl,
              ⟨List.mem_of_find?_eq_some hfound, hpending, hfull⟩, hconfirmed⟩
      · simp only [ne_eq, hpending, not_false_eq_true, if_true] at h
        cases h
        refine Or.inl ⟨rfl, ?_⟩
        rintro i hi hp
        obtain rfl : intent = i := Option.some.inj hi
        exact absurd hp hpending

theorem handleWebhook_ok {reference : Nat} {answer : VerifyAnswer} {drawnCodes : List String}
    {s s' : State} (h : (handleWebhook reference answer drawnCodes).run s = .ok ((), s')) :
    (⟨paymentWebhookScope, reference⟩ ∈ s.keys ∧ s' = s) ∨
      (⟨paymentWebhookScope, reference⟩ ∉ s.keys ∧
        (webhookBody reference answer drawnCodes).run
          (insertKey paymentWebhookScope reference s) = .ok ((), s')) := by
  obtain ⟨r, s₁, hkey, hret⟩ := Tx.run_bind_eq_ok.mp h
  cases hret
  rcases withIdempotency_ok hkey with ⟨hused, -, rfl⟩ | ⟨hfresh, _, -, hbody⟩
  · exact Or.inl ⟨hused, rfl⟩
  · exact Or.inr ⟨hfresh, hbody⟩

theorem recoverBody_ok {intentId : Nat} {verification : PaymentVerificationResult}
    {drawnCodes : List String} {s s' : State}
    (h : (recoverBody intentId verification drawnCodes).run s = .ok ((), s')) :
    (s' = s ∧ ∀ intent, getIntent s intentId = some intent → intent.status ≠ .pending) ∨
      ∃ intent order, getIntent s intentId = some intent ∧ intent.status = .pending ∧
        Confirmed s s' intent verification order := by
  rw [recoverBody, Tx.run_read_bind] at h
  cases hget : getIntent s intentId with
  | none =>
      rw [hget] at h
      cases h
      exact Or.inl ⟨rfl, by simp⟩
  | some intent =>
      simp only [hget] at h
      by_cases hpending : intent.status = .pending
      · simp only [hpending, ne_eq, not_true_eq_false, if_false] at h
        obtain ⟨order, hconfirmed⟩ := confirmPaid_ok (get_some hget).1 h
        exact Or.inr ⟨intent, order, rfl, hpending, hconfirmed⟩
      · simp only [ne_eq, hpending, not_false_eq_true, if_true] at h
        cases h
        exact Or.inl ⟨rfl, by rintro i ⟨⟩; exact hpending⟩

/-- How `tryRecover` ends on a pending intent: nothing to recover; a provider
that could not answer or a key already used, either of which only postpones
expiry; or the payment confirmed under the key. -/
theorem tryRecover_ok {intent : PaymentIntentRow} {answer : VerifyAnswer}
    {drawnCodes : List String} {s s' : State} {r : Bool}
    (hget : getIntent s intent.id = some intent) (hpending : intent.status = .pending)
    (h : (tryRecover intent answer drawnCodes).run s = .ok (r, s')) :
    (r = false ∧ s' = s ∧ ∀ reference verification, intent.providerReference = some reference →
        answer = some verification → isFullSuccess intent verification = false) ∨
      ∃ reference, intent.providerReference = some reference ∧ r = true ∧
        ((s' = s ∧ (answer = none ∨ ⟨paymentWebhookScope, reference⟩ ∈ s.keys)) ∨
          ⟨paymentWebhookScope, reference⟩ ∉ s.keys ∧ ∃ verification order,
            answer = some verification ∧ Payable s intent verification ∧
            Confirmed (insertKey paymentWebhookScope reference s) s' intent verification
              order) := by
  unfold tryRecover at h
  cases href : intent.providerReference with
  | none =>
      rw [href] at h
      cases h
      exact Or.inl ⟨rfl, rfl, by simp⟩
  | some reference =>
      cases answer with
      | none =>
          rw [href] at h
          cases h
          exact Or.inr ⟨reference, rfl, rfl, Or.inl ⟨rfl, Or.inl rfl⟩⟩
      | some verification =>
          simp only [href] at h
          cases hfull : isFullSuccess intent verification with
          | false =>
              simp only [hfull, Bool.false_eq_true, if_false] at h
              cases h
              refine Or.inl ⟨rfl, rfl, ?_⟩
              rintro _ v - hv
              obtain rfl : verification = v := Option.some.inj hv
              exact hfull
          | true =>
              simp only [hfull, if_true] at h
              obtain ⟨_, s₁, hkey, hret⟩ := Tx.run_bind_eq_ok.mp h
              cases hret
              refine Or.inr ⟨reference, rfl, rfl, ?_⟩
              rcases withIdempotency_ok hkey with ⟨hused, -, rfl⟩ | ⟨hfresh, _, -, hbody⟩
              · exact Or.inl ⟨rfl, Or.inr hused⟩
              · rcases recoverBody_ok hbody with ⟨-, hne⟩ | ⟨i, order, hi, -, hconfirmed⟩
                · exact absurd hpending (hne intent hget)
                · obtain rfl : intent = i := Option.some.inj (hget.symm.trans hi)
                  exact Or.inr ⟨hfresh, verification, order, rfl,
                    ⟨(get_some hget).1, hpending, hfull⟩, hconfirmed⟩

theorem pending_of_stale {now : Nat} {intent : PaymentIntentRow}
    (h : isStaleIntent now intent = true) : intent.status = .pending := by
  simp only [isStaleIntent, Bool.and_eq_true, decide_eq_true_eq] at h
  exact h.1

/-- What one intent's turn in the poller does. -/
theorem pollIntent_ok {intentId : Nat} {answer : VerifyAnswer} {drawnCodes : List String}
    {s s' : State} (h : (pollIntent intentId answer drawnCodes).run s = .ok ((), s')) :
    (s' = s ∧ (getIntent s intentId).filter (isStaleIntent s.now) = none) ∨
      ∃ intent, getIntent s intentId = some intent ∧ isStaleIntent s.now intent = true ∧
        ((∃ s₁, (tryRecover intent answer drawnCodes).run s = .ok (true, s₁) ∧ s' = s₁) ∨
          (tryRecover intent answer drawnCodes).run s = .ok (false, s) ∧
            s' = releaseNode intent.originNodeId
              (putIntent s { intent with status := .expired })) := by
  rw [pollIntent, Tx.run_read_bind] at h
  cases hrow : (getIntent s intentId).filter (isStaleIntent s.now) with
  | none =>
      rw [hrow] at h
      cases h
      exact Or.inl ⟨rfl, rfl⟩
  | some intent =>
      obtain ⟨hget, hstale⟩ := Option.filter_eq_some_iff.mp hrow
      obtain rfl : intent.id = intentId := (get_some hget).2
      have hpending : intent.status = .pending := pending_of_stale hstale
      refine Or.inr ⟨intent, hget, hstale, ?_⟩
      simp only [hrow] at h
      obtain ⟨skip, s₁, hrecover, hrest⟩ := Tx.run_bind_eq_ok.mp h
      cases skip with
      | true =>
          cases hrest
          exact Or.inl ⟨_, hrecover, rfl⟩
      | false =>
          rcases tryRecover_ok hget hpending hrecover with ⟨-, rfl, -⟩ | ⟨_, -, hr, -⟩
          · rcases expire_ok hrest with ⟨-, hne⟩ | ⟨i, hi, -, rfl⟩
            · exact absurd hpending (hne intent hget)
            · obtain rfl : intent = i := Option.some.inj (hget.symm.trans hi)
              exact Or.inr ⟨hrecover, rfl⟩
          · cases hr

/-- What a payment's transaction does: of the intents asked about it pays one, or
lets one expire. -/
inductive PaymentEffect (asked : PaymentIntentRow → Prop) (answer : VerifyAnswer) (s : State) :
    State → Prop
  | idle : PaymentEffect asked answer s s
  | keyed (reference : Nat) :
      PaymentEffect asked answer s (insertKey paymentWebhookScope reference s)
  | paid {intent : PaymentIntentRow} {verification : PaymentVerificationResult}
      {order : OrderRow} {s' : State} (reference : Nat) (hasked : asked intent)
      (hanswer : answer = some verification) (hpayable : Payable s intent verification)
      (h : Confirmed (insertKey paymentWebhookScope reference s) s' intent verification order) :
      PaymentEffect asked answer s s'
  | expired {intent : PaymentIntentRow} (hmem : intent ∈ s.intents)
      (hpending : intent.status = .pending) :
      PaymentEffect asked answer s
        (releaseNode intent.originNodeId (putIntent s { intent with status := .expired }))

theorem handleWebhook_effect {reference : Nat} {answer : VerifyAnswer} {drawnCodes : List String}
    {s s' : State} (h : (handleWebhook reference answer drawnCodes).run s = .ok ((), s')) :
    PaymentEffect (fun intent => intent.providerReference = some reference) answer s s' := by
  rcases handleWebhook_ok h with ⟨-, rfl⟩ | ⟨-, hbody⟩
  · exact .idle
  · rcases webhookBody_ok hbody with ⟨rfl, -⟩ | ⟨intent, _, _, hfound, hanswer, hpayable, hc⟩
    · exact .keyed reference
    · have hreference : intent.providerReference = some reference := by
        simpa using List.find?_some hfound
      exact .paid reference hreference hanswer
        ⟨hpayable.stored, hpayable.pending, hpayable.full⟩ hc

theorem pollIntent_effect {intentId : Nat} {answer : VerifyAnswer} {drawnCodes : List String}
    {s s' : State} (h : (pollIntent intentId answer drawnCodes).run s = .ok ((), s')) :
    PaymentEffect (fun intent => intent.id = intentId) answer s s' := by
  rcases pollIntent_ok h with ⟨rfl, -⟩ | ⟨intent, hget, hstale, hrest⟩
  · exact .idle
  · obtain ⟨hmem, rfl⟩ := get_some hget
    have hpending : intent.status = .pending := pending_of_stale hstale
    rcases hrest with ⟨s₁, hrecover, rfl⟩ | ⟨-, rfl⟩
    · rcases tryRecover_ok hget hpending hrecover with ⟨hr, -⟩ | ⟨reference, -, -, hrest⟩
      · cases hr
      · rcases hrest with ⟨rfl, -⟩ | ⟨-, _, _, hanswer, hpayable, hc⟩
        · exact .idle
        · exact .paid reference rfl hanswer hpayable hc
    · exact .expired hmem hpending

/-! ## Riders and earnings -/

theorem reserveDeliverySlot_ok {riderId : Nat} {s s' : State} {r : Bool}
    (h : (reserveDeliverySlot riderId).run s = .ok (r, s')) :
    ∃ p ∈ s.riders, p.userId = riderId ∧
      (r = false ∧ s' = s ∨
        r = true ∧ p.currentActiveOrderCount < maxActiveOrdersPerRider ∧
          s' = adjustRider riderId (· + 1) s) := by
  rw [reserveDeliverySlot, Tx.run_read_bind] at h
  obtain ⟨p, s₁, hexpect, hrest⟩ := Tx.run_bind_eq_ok.mp h
  obtain ⟨hp, rfl⟩ := Tx.run_expect_eq_ok.mp hexpect
  obtain ⟨_, s₂, hactive, hslot⟩ := Tx.run_bind_eq_ok.mp hrest
  obtain ⟨-, rfl⟩ := Tx.run_ensure_eq_ok.mp hactive
  obtain ⟨hmem, hid⟩ := get_some hp
  refine ⟨p, hmem, hid, ?_⟩
  split at hslot
  · cases hslot
    exact Or.inl ⟨rfl, rfl⟩
  · next hfree =>
      cases hslot
      exact Or.inr ⟨rfl, Nat.lt_of_not_le hfree, rfl⟩

/-- Earnings recorded: four entries of an order that had none of theirs. -/
structure Recorded (s s' : State) (order : OrderRow) (rule : RevenueSplitRule) : Prop where
  fresh : ∀ entry ∈ splitEntries order rule,
    hasEntry s.entries order.id entry.partyType = false
  eq : s' = { s with entries := s.entries ++ splitEntries order rule }

theorem record_ok {order : OrderRow} {s s' : State} (h : (record order).run s = .ok ((), s')) :
    ∃ rule ∈ s.splitRules, Recorded s s' order rule := by
  rw [record, Tx.run_read_bind] at h
  obtain ⟨rule, s₁, hexpect, hrest⟩ := Tx.run_bind_eq_ok.mp h
  obtain ⟨hrule, rfl⟩ := Tx.run_expect_eq_ok.mp hexpect
  simp only [Tx.run_read_bind] at hrest
  obtain ⟨_, s₂, hensure, hwrite⟩ := Tx.run_bind_eq_ok.mp hrest
  obtain ⟨hfresh, rfl⟩ := Tx.run_ensure_eq_ok.mp hensure
  cases hwrite
  refine ⟨rule, currentRule_mem hrule, fun entry hentry => ?_, rfl⟩
  simpa using List.all_eq_true.mp hfresh entry hentry

end Locoomo.Frames
