import Locoomo.Lib.Connections
import Locoomo.PaymentRaces

/-! The tracking code of a new order. `saveWithTrackingCode` draws another code
when the insert finds the first one in use, on the connection of its caller's
transaction, which that failure has aborted. -/

namespace Locoomo.TrackingCodes

open Locoomo.Delivery Locoomo.Database Locoomo.Payments Locoomo.System Locoomo.Frames
  Locoomo.Books Locoomo.PaymentRaces Relational Connections

/-! ## The loop -/

inductive QueryFailed
  | uniqueViolation
  deriving DecidableEq, Repr

def isUniqueViolation : SqlError QueryFailed → Bool
  | .failed .uniqueViolation => true
  | .inFailedTransaction => false

/-- `orderRepo.save` of a new order: the insert alone, with no savepoint. -/
def save (intent : PaymentIntentRow) (trackingCode : String) (s : State) :
    Except QueryFailed (OrderRow × State) :=
  match (insertOrder intent trackingCode).run s with
  | .ok (some order, s') => .ok (order, s')
  | _ => .error .uniqueViolation

/-- `saveWithTrackingCode`; attempt `k` draws `generateTrackingCode k`. -/
def saveWithTrackingCode (intent : PaymentIntentRow) (generateTrackingCode : Nat → String)
    (c : Connection State) : Except (SqlError QueryFailed) OrderRow × Connection State :=
  attempts isUniqueViolation (fun k => save intent (generateTrackingCode k))
    (maxTrackingCodeAttempts - 1) 0 c

/-- The insert into the order's timeline. -/
def appendPlaced (intent : PaymentIntentRow) (order : OrderRow) (s : State) :
    Except QueryFailed (Unit × State) :=
  .ok ((), { s with orderEvents := s.orderEvents ++
    [⟨order.id, .orderPlaced, .placed intent.id intent.amountKobo, s.now⟩] })

def createFromPaidIntent (intent : PaymentIntentRow) (generateTrackingCode : Nat → String)
    (c : Connection State) : Except (SqlError QueryFailed) OrderRow × Connection State :=
  match saveWithTrackingCode intent generateTrackingCode c with
  | (.error e, c) => (.error e, c)
  | (.ok order, c) =>
      match exec c (appendPlaced intent order) with
      | (.error e, c) => (.error e, c)
      | (.ok (), c) => (.ok order, c)

/-! ## The property -/

def Unused (s : State) (trackingCode : String) : Prop :=
  ∀ o ∈ s.orders, o.trackingCode ≠ trackingCode

instance (s : State) (trackingCode : String) : Decidable (Unused s trackingCode) :=
  inferInstanceAs (Decidable (∀ o ∈ s.orders, _))

/-- The first of the codes that is not in use. -/
def FirstUnused (s : State) (generateTrackingCode : Nat → String) (trackingCode : String) : Prop :=
  ∃ k, generateTrackingCode k = trackingCode ∧ Unused s trackingCode ∧
    ∀ j < k, ¬ Unused s (generateTrackingCode j)

/-- An order with the first code that is free, on a connection that can commit. -/
def Places (s : State) (generateTrackingCode : Nat → String)
    (r : Except (SqlError QueryFailed) OrderRow × Connection State) : Prop :=
  ∃ order s', r.1 = .ok order ∧ FirstUnused s generateTrackingCode order.trackingCode ∧
    commit r.2 = some s' ∧ order ∈ s'.orders

/-! ## Inserts -/

section Inserts

variable {s s' : State} {intent : PaymentIntentRow} {trackingCode : String}
  {generateTrackingCode : Nat → String}

/-- A free code, for an intent that has no order yet. -/
theorem insertOrder_free (hnone : ∀ o ∈ s.orders, o.paymentIntentId ≠ intent.id)
    (hfree : Unused s trackingCode) :
    ∃ order, (insertOrder intent trackingCode).run s
        = .ok (some order, { s with orders := s.orders ++ [order], nextId := s.nextId + 1 }) ∧
      order.trackingCode = trackingCode := by
  have hany : ¬ (s.orders.any fun o =>
      decide (o.trackingCode = trackingCode ∨ o.paymentIntentId = intent.id)) = true := by
    simp only [List.any_eq_true, decide_eq_true_eq, not_exists, not_and, not_or]
    exact fun o ho => ⟨hfree o ho, hnone o ho⟩
  rw [insertOrder, Tx.run_query, if_neg hany]
  exact ⟨_, rfl, rfl⟩

theorem insertOrder_taken (htaken : ¬ Unused s trackingCode) :
    (insertOrder intent trackingCode).run s = .ok (none, s) := by
  have hany : (s.orders.any fun o =>
      decide (o.trackingCode = trackingCode ∨ o.paymentIntentId = intent.id)) = true := by
    simp only [Unused, not_forall, not_not] at htaken
    obtain ⟨o, ho, hcode⟩ := htaken
    exact List.any_eq_true.mpr ⟨o, ho, by simp [hcode]⟩
  rw [insertOrder, Tx.run_query, if_pos hany]

theorem first_unused_iff {code : String} (hfree : Unused s (generateTrackingCode 0)) :
    FirstUnused s generateTrackingCode code ↔ code = generateTrackingCode 0 := by
  constructor
  · rintro ⟨k, rfl, -, hfirst⟩
    cases k with
    | zero => rfl
    | succ k => exact absurd hfree (hfirst 0 (Nat.succ_pos k))
  · rintro rfl
    exact ⟨0, rfl, hfree, fun j hj => absurd hj (Nat.not_lt_zero j)⟩

variable (intent generateTrackingCode) in
/-- With the first code free, the order has it. -/
theorem createFromPaidIntent_free (hnone : ∀ o ∈ s.orders, o.paymentIntentId ≠ intent.id)
    (hfree : Unused s (generateTrackingCode 0)) :
    ∃ order s', createFromPaidIntent intent generateTrackingCode ⟨s, false⟩
        = (.ok order, ⟨s', false⟩) ∧
      order.trackingCode = generateTrackingCode 0 ∧ order ∈ s'.orders ∧
      ∀ codes, (Payments.createFromPaidIntent intent (generateTrackingCode 0 :: codes)).run s
        = .ok (order, s') := by
  obtain ⟨order, hinsert, hcode⟩ := insertOrder_free hnone hfree
  have hsave : save intent (generateTrackingCode 0) s
      = .ok (order, { s with orders := s.orders ++ [order], nextId := s.nextId + 1 }) := by
    rw [save, hinsert]
  have hattempts : saveWithTrackingCode intent generateTrackingCode ⟨s, false⟩ = _ :=
    attempts_ok hsave
  rw [createFromPaidIntent, hattempts]
  refine ⟨order, _, rfl, hcode, List.mem_append_right _ (List.mem_singleton.mpr rfl),
    fun codes => ?_⟩
  have htake : (generateTrackingCode 0 :: codes).take maxTrackingCodeAttempts
      = generateTrackingCode 0 :: codes.take 4 := rfl
  have hinsert' : (Payments.saveWithTrackingCode intent
      (generateTrackingCode 0 :: codes.take 4)).run s
        = .ok (order, { s with orders := s.orders ++ [order], nextId := s.nextId + 1 }) := by
    rw [Payments.saveWithTrackingCode, Tx.run_bind_of_ok hinsert]
    rfl
  rw [Payments.createFromPaidIntent, htake, Tx.run_bind_of_ok hinsert']
  rfl

variable (intent generateTrackingCode) in
/-- With the first code in use there is no order, and nothing is committed. -/
theorem createFromPaidIntent_taken (htaken : ¬ Unused s (generateTrackingCode 0)) :
    (∃ e, createFromPaidIntent intent generateTrackingCode ⟨s, false⟩ = (.error e, ⟨s, true⟩)) ∧
      ∀ codes, ∃ e, (Payments.createFromPaidIntent intent
        (generateTrackingCode 0 :: codes)).run s = .error e := by
  have hinsert : (insertOrder intent (generateTrackingCode 0)).run s = .ok (none, s) :=
    insertOrder_taken htaken
  constructor
  · have hsave : save intent (generateTrackingCode 0) s = .error .uniqueViolation := by
      rw [save, hinsert]
    obtain ⟨e, hattempts⟩ : ∃ e, saveWithTrackingCode intent generateTrackingCode ⟨s, false⟩
        = (.error e, ⟨s, true⟩) := attempts_error hsave
    exact ⟨e, by rw [createFromPaidIntent, hattempts]⟩
  · intro codes
    obtain ⟨e, hfails⟩ : ∃ e, (Payments.saveWithTrackingCode intent
        (generateTrackingCode 0 :: codes.take 4)).run s = .error e := by
      rw [Payments.saveWithTrackingCode, Tx.run_bind_of_ok hinsert]
      cases codes.take 4 with
      | nil => exact ⟨_, rfl⟩
      | cons code rest => exact ⟨_, rfl⟩
    have htake : (generateTrackingCode 0 :: codes).take maxTrackingCodeAttempts
        = generateTrackingCode 0 :: codes.take 4 := rfl
    exact ⟨e, by rw [Payments.createFromPaidIntent, htake, Tx.run_bind_of_error hfails]⟩

/-- Whatever the other codes are, the first one decides: inside the caller's
transaction an order with the first free code comes back, and the transaction can
still commit, just when the first code drawn is free. -/
theorem first_code_decides (hnone : ∀ o ∈ s.orders, o.paymentIntentId ≠ intent.id) :
    Places s generateTrackingCode (createFromPaidIntent intent generateTrackingCode ⟨s, false⟩) ↔
      Unused s (generateTrackingCode 0) := by
  constructor
  · rintro ⟨order, s', hok, -⟩
    by_contra htaken
    obtain ⟨⟨e, herror⟩, -⟩ := createFromPaidIntent_taken intent generateTrackingCode htaken
    rw [herror] at hok
    cases hok
  · intro hfree
    obtain ⟨order, s', hok, hcode, hmem, -⟩ :=
      createFromPaidIntent_free intent generateTrackingCode hnone hfree
    exact ⟨order, s', by rw [hok], (first_unused_iff hfree).mpr hcode, by rw [hok]; rfl, hmem⟩

end Inserts

/-- The demo order has the code that is drawn first for another booking; the next
one is free, but the transaction is lost. -/
theorem collision_loses_order :
    ¬ ∀ (s : State) (intent : PaymentIntentRow) (generateTrackingCode : Nat → String),
      (∀ o ∈ s.orders, o.paymentIntentId ≠ intent.id) →
      (∃ k < maxTrackingCodeAttempts, Unused s (generateTrackingCode k)) →
      Places s generateTrackingCode
        (createFromPaidIntent intent generateTrackingCode ⟨s, false⟩) := by
  intro h
  let generateTrackingCode : Nat → String := fun k => if k = 0 then "LOC1" else "LOC2"
  obtain ⟨intent, hnone⟩ : ∃ intent : PaymentIntentRow,
      ∀ o ∈ demoPaid.orders, o.paymentIntentId ≠ intent.id :=
    ⟨{ demoIntent with id := 20 }, by decide +kernel⟩
  obtain ⟨order, s', hok, -⟩ := h demoPaid intent generateTrackingCode hnone
    ⟨1, by decide, by decide +kernel⟩
  have htaken : ¬ Unused demoPaid (generateTrackingCode 0) := by decide +kernel
  obtain ⟨⟨e, herror⟩, -⟩ := createFromPaidIntent_taken intent generateTrackingCode htaken
  rw [herror] at hok
  cases hok

theorem first_code_decides_demo :
    let s := run demo demoState demoBooking
    let c := createFromPaidIntent demoIntent (fun _ => "LOC1") ⟨s, false⟩
    Places s (fun _ => "LOC1") c ↔ Unused s "LOC1" := by
  intro s c
  have hnone : ∀ o ∈ s.orders, o.paymentIntentId ≠ demoIntent.id := by decide +kernel
  exact first_code_decides hnone

/-! ## Its callers -/

section Callers

variable {s : State} {intent : PaymentIntentRow} {verification : PaymentVerificationResult}
  {code : String} {codes : List String}

variable (verification codes) in
/-- With the first code free the confirmation goes through. -/
theorem confirm_free (hmem : intent ∈ s.intents)
    (hnone : ∀ o ∈ s.orders, o.paymentIntentId ≠ intent.id) (hfree : Unused s code) :
    ∃ s', (Payments.confirm intent verification (code :: codes)).run s = .ok ((), s') := by
  let paid := paidIntent intent verification s.now
  have hsave : (saveIntent paid).run s = _ := saveIntent_run ⟨intent, hmem, rfl⟩
  have hnone' : ∀ o ∈ (putIntent s paid).orders, o.paymentIntentId ≠ paid.id := hnone
  obtain ⟨order, s₁, -, -, -, hcreate⟩ :=
    createFromPaidIntent_free paid (fun _ => code) hnone' hfree
  rw [Payments.confirm, Tx.run_read_bind]
  exact ⟨_, (Tx.run_bind_of_ok hsave).trans ((Tx.run_bind_of_ok (hcreate codes)).trans rfl)⟩

variable (verification codes) in
/-- With it in use nothing is confirmed, whatever codes come after it. -/
theorem confirm_taken (hmem : intent ∈ s.intents) (htaken : ¬ Unused s code) :
    ∃ e, (Payments.confirm intent verification (code :: codes)).run s = .error e := by
  let paid := paidIntent intent verification s.now
  have hsave : (saveIntent paid).run s = _ := saveIntent_run ⟨intent, hmem, rfl⟩
  have htaken' : ¬ Unused (putIntent s paid) code := htaken
  obtain ⟨-, hcreate⟩ := createFromPaidIntent_taken paid (fun _ => code) htaken'
  obtain ⟨e, hfails⟩ := hcreate codes
  refine ⟨e, ?_⟩
  rw [Payments.confirm, Tx.run_read_bind]
  exact (Tx.run_bind_of_ok hsave).trans (Tx.run_bind_of_error hfails)

/-- So the payment of a pending intent is confirmed, and its transaction commits,
just when the first code drawn is free. -/
theorem confirm_commits_iff (hb : Balanced s) (hmem : intent ∈ s.intents)
    (hpending : intent.status = .pending) :
    (∃ s', (Payments.confirm intent verification (code :: codes)).run s = .ok ((), s')) ↔
      Unused s code := by
  constructor
  · rintro ⟨s', hok⟩
    by_contra htaken
    obtain ⟨e, herror⟩ := confirm_taken verification codes hmem htaken
    rw [herror] at hok
    cases hok
  · have hunpaid : intent.status ≠ .paid := by
      rw [hpending]
      decide
    exact confirm_free verification codes hmem (hb.unplaced hmem hunpaid)

end Callers

end Locoomo.TrackingCodes
