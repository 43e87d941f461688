import Mathlib.Data.Finset.Card
import Mathlib.Data.List.Sort
import Locoomo.TrackingCodes

/-! The expiry poller over whole batches. A poll takes the fifty pending intents
that have been stale the longest and asks the provider about one after the
other; the provider's adapter throws alike when the provider is down and when it
says that there is no such transaction. -/

namespace Locoomo.Expiry

open Locoomo.Delivery Locoomo.Database Locoomo.Routing Locoomo.Payments Locoomo.System
  Locoomo.Frames
  Locoomo.LegMoves Locoomo.Books Locoomo.TrackingCodes Relational

def EXPIRY_BATCH_SIZE : Nat := 50

/-! ## The provider -/

structure PaystackVerifyData where
  status : String
  amount : Int
  paidAt : Option Nat
  deriving DecidableEq, Repr

/-- What the verify call comes back with: no JSON answer, or one. -/
inductive Reply
  | failed (detail : String)
  | answered (httpStatus : Nat) (status : Bool) (message : Option String)
      (data : PaystackVerifyData)
  deriving DecidableEq, Repr

structure PaymentProviderException where
  provider : String
  operation : String
  detail : String
  deriving DecidableEq, Repr

def responseOk (httpStatus : Nat) : Bool := 200 ≤ httpStatus ∧ httpStatus < 300

def verify : Reply → Except PaymentProviderException PaymentVerificationResult
  | .failed detail => .error ⟨"paystack", "verify", detail⟩
  | .answered httpStatus status message data =>
      if !responseOk httpStatus || !status then
        .error ⟨"paystack", "verify", message.getD ("HTTP " ++ toString httpStatus)⟩
      else
        .ok
          { status :=
              if data.status = "success" then .success
              else if data.status = "failed" then .failed
              else .pending
            amountKobo := data.amount
            paidAt := data.paidAt }

/-- The provider is there and says no. -/
def Refused : Reply → Prop
  | .failed _ => False
  | .answered httpStatus status _ _ =>
      (400 ≤ httpStatus ∧ httpStatus < 500 ∧ httpStatus ≠ 408 ∧ httpStatus ≠ 429) ∨ status = false

/-- A result or a refusal, no outage. -/
def Definite (reply : Reply) : Prop :=
  (∃ verification, verify reply = .ok verification) ∨ Refused reply

/-! ## Polls -/

def batch (s : State) : List PaymentIntentRow :=
  ((s.intents.filter (isStaleIntent s.now)).mergeSort fun a b => a.expiresAt ≤ b.expiresAt).take
    EXPIRY_BATCH_SIZE

/-- The loop of `poll`, which ends with the first turn that throws. -/
def processBatch (replies : Nat → Reply) (drawn : Nat → List String) :
    List PaymentIntentRow → State → State
  | [], s => s
  | intent :: rest, s =>
      match (processStaleIntent intent (verify (replies intent.id)).toOption
          (drawn intent.id)).run s with
      | .ok (_, s') => processBatch replies drawn rest s'
      | .error _ => s

/-- When a poll runs, and the tracking codes it draws for each intent. -/
structure Poll where
  now : Nat
  drawn : Nat → List String

def poll (replies : Nat → Reply) (p : Poll) (s : State) : State :=
  let s := { s with now := p.now }
  processBatch replies p.drawn (batch s) s

/-- The database after the first polls. -/
def after (replies : Nat → Reply) (polls : Nat → Poll) (s : State) : Nat → State
  | 0 => s
  | n + 1 => poll replies (polls n) (after replies polls s n)

/-! ## The property -/

/-- PAID with an order, or EXPIRED. -/
def Resolved (s : State) (intentId : Nat) : Prop :=
  ∃ i ∈ s.intents, i.id = intentId ∧
    (i.status = .paid ∧ (∃ o ∈ s.orders, o.paymentIntentId = intentId) ∨ i.status = .expired)

def expiredAt (nodeId : Nat) (s : State) : Nat :=
  s.intents.countP fun i => i.originNodeId = nodeId && i.status = .expired

def countAt (nodeId : Nat) (s : State) : Option Nat :=
  (Relational.get NodeRow.id nodeId s.nodes).map NodeRow.currentCount

/-- Every intent that has expired since has given its slot back. -/
def SlotsReleased (s s' : State) : Prop :=
  ∀ nodeId, countAt nodeId s' =
    (countAt nodeId s).map (· - (expiredAt nodeId s' - expiredAt nodeId s))

/-- The intents that were stale at the start. -/
def stale (s : State) : List PaymentIntentRow := s.intents.filter (isStaleIntent s.now)

def AllResolved (s s' : State) : Prop := (∀ i ∈ stale s, Resolved s' i.id) ∧ SlotsReleased s s'

def PaidInFull (intent : PaymentIntentRow) : Reply → Prop
  | .failed _ => False
  | .answered _ _ _ data => data.status = "success" ∧ data.amount = intent.amountKobo

/-- A poll resolves the intent: it was never referred to the provider; or the
provider does not refuse, and if it was paid in full, the key of its payment is
unspent. -/
def Resolvable (s : State) (intent : PaymentIntentRow) (reply : Reply) : Prop :=
  ∀ reference, intent.providerReference = some reference →
    ¬ Refused reply ∧
      (PaidInFull intent reply → ⟨paymentWebhookScope, reference⟩ ∉ s.keys)

/-- The first code drawn for each intent is not in use. -/
def FreshDraws (p : Poll) (s : State) : Prop :=
  ∀ intentId, ∃ code codes, p.drawn intentId = code :: codes ∧ Unused s code

/-! ## Replies -/

theorem verify_refused {reply : Reply} (h : Refused reply) : ∃ e, verify reply = .error e := by
  cases reply with
  | failed detail => exact h.elim
  | answered httpStatus status message data =>
      have hthrows : (!responseOk httpStatus || !status) = true := by
        rcases h with ⟨hle, -⟩ | hstatus
        · have hnot : responseOk httpStatus = false := by
            simp only [responseOk, decide_eq_false_iff_not]
            omega
          rw [hnot]
          rfl
        · rw [hstatus]
          simp
      exact ⟨_, by rw [verify, if_pos hthrows]⟩

theorem isFullSuccess_verify {reply : Reply} {intent : PaymentIntentRow}
    {verification : PaymentVerificationResult} (h : verify reply = .ok verification) :
    isFullSuccess intent verification = true ↔ PaidInFull intent reply := by
  cases reply with
  | failed detail => cases h
  | answered httpStatus status message data =>
      rw [verify] at h
      split at h
      · cases h
      · cases h
        simp only [isFullSuccess, PaidInFull, Bool.and_eq_true, decide_eq_true_eq]
        refine and_congr_left fun _ => ?_
        by_cases hsuccess : data.status = "success"
        · simp [hsuccess]
        · by_cases hfailed : data.status = "failed" <;> simp [hsuccess, hfailed]

/-! ## One turn -/

variable {s s' : State} {intent : PaymentIntentRow} {reply : Reply} {drawnCodes : List String}

/-- What one intent's turn does to the database. -/
inductive Turn (s s' : State) (intent : PaymentIntentRow) : Prop
  | kept (eq : s' = s)
  | expired
      (eq : s' = releaseNode intent.originNodeId (putIntent s { intent with status := .expired }))
  | paid (reference : Nat) (verification : PaymentVerificationResult) (order : OrderRow)
      (unspent : ⟨paymentWebhookScope, reference⟩ ∉ s.keys)
      (reference_eq : intent.providerReference = some reference)
      (full : isFullSuccess intent verification = true)
      (confirmed :
        Confirmed (insertKey paymentWebhookScope reference s) s' intent verification order)

theorem turn_of_run {answer : VerifyAnswer} (hb : Balanced s) (hmem : intent ∈ s.intents)
    (hpending : intent.status = .pending)
    (hrun : (processStaleIntent intent answer drawnCodes).run s = .ok ((), s')) :
    Turn s s' intent := by
  have hget : getIntent s intent.id = some intent := hb.intentIds.get_eq hmem
  obtain ⟨skip, s₁, hrecover, hrest⟩ := Tx.run_bind_eq_ok.mp hrun
  rcases tryRecover_ok hget hpending hrecover with ⟨rfl, rfl, -⟩ | ⟨reference, href, rfl, hcase⟩
  · rcases expire_ok hrest with ⟨rfl, -⟩ | ⟨i, hi, -, rfl⟩
    · exact .kept rfl
    · obtain rfl : intent = i := Option.some.inj (hget.symm.trans hi)
      exact .expired rfl
  · cases hrest
    rcases hcase with ⟨rfl, -⟩ | ⟨hunspent, verification, order, -, hpayable, hconfirmed⟩
    · exact .kept rfl
    · exact .paid reference verification order hunspent href hpayable.full hconfirmed

/-- Nothing is known of the payment. -/
theorem run_unanswered {reference : Nat} (href : intent.providerReference = some reference) :
    (processStaleIntent intent none drawnCodes).run s = .ok ((), s) := by
  simp [processStaleIntent, tryRecover, href]

/-- A key that is spent lets nothing through. -/
theorem run_key_spent {α : Type} {fn : Db α} {scope : String} {key : Nat}
    (hspent : ⟨scope, key⟩ ∈ s.keys) : (withIdempotency scope key fn).run s = .ok (none, s) := by
  rw [withIdempotency, Tx.run_query_bind, if_pos hspent]
  rfl

theorem run_key_unspent {α : Type} {fn : Db α} {scope : String} {key : Nat} {a : α}
    (hunspent : ⟨scope, key⟩ ∉ s.keys) (hrun : fn.run (insertKey scope key s) = .ok (a, s')) :
    (withIdempotency scope key fn).run s = .ok (some a, s') := by
  rw [withIdempotency, Tx.run_query_bind, if_neg hunspent]
  exact (Tx.run_bind_of_ok hrun).trans rfl

/-- The payment's key was used up before. -/
theorem run_spent {reference : Nat} {verification : PaymentVerificationResult}
    (href : intent.providerReference = some reference)
    (hfull : isFullSuccess intent verification = true)
    (hspent : ⟨paymentWebhookScope, reference⟩ ∈ s.keys) :
    (processStaleIntent intent (some verification) drawnCodes).run s = .ok ((), s) := by
  have hrecover : (tryRecover intent (some verification) drawnCodes).run s = .ok (true, s) := by
    simp only [tryRecover, href, hfull, if_true]
    rw [Tx.run_bind_of_ok (run_key_spent hspent)]
    rfl
  rw [processStaleIntent, Tx.run_bind_of_ok hrecover]
  rfl

theorem run_expire (hget : getIntent s intent.id = some intent)
    (hpending : intent.status = .pending) :
    (expire intent.id).run s = .ok ((),
      releaseNode intent.originNodeId (putIntent s { intent with status := .expired })) := by
  have hsave : (saveIntent { intent with status := .expired }).run s = _ :=
    saveIntent_run ⟨intent, (get_some hget).1, rfl⟩
  rw [expire, Tx.run_read_bind, hget]
  simp only [hpending, ne_eq, not_true_eq_false, if_false]
  rw [Tx.run_bind_of_ok hsave]
  rfl

/-- The intent is unpaid. -/
theorem run_unpaid {answer : VerifyAnswer} (hget : getIntent s intent.id = some intent)
    (hpending : intent.status = .pending)
    (hunpaid : ∀ reference, intent.providerReference = some reference →
      ∃ verification, answer = some verification ∧ isFullSuccess intent verification = false) :
    (processStaleIntent intent answer drawnCodes).run s = .ok ((),
      releaseNode intent.originNodeId (putIntent s { intent with status := .expired })) := by
  have hrecover : (tryRecover intent answer drawnCodes).run s = .ok (false, s) := by
    unfold tryRecover
    cases href : intent.providerReference with
    | none => rfl
    | some reference =>
        obtain ⟨verification, rfl, hfull⟩ := hunpaid reference href
        simp [hfull]
  rw [processStaleIntent, Tx.run_bind_of_ok hrecover]
  exact run_expire hget hpending

/-! ## What leads onward -/

/-- From the start `s` of the polls to the database `s'`. -/
structure Onward (s s' : State) : Prop where
  balanced : Balanced s'
  carried : ∀ i ∈ s.intents, ∃ i' ∈ s'.intents,
    i'.id = i.id ∧ (i' = i ∨ i'.status = .paid ∨ i'.status = .expired)
  pending : ∀ i ∈ s'.intents, i.status = .pending → i ∈ s.intents
  keys : ∀ i ∈ s'.intents, i.status = .pending → ∀ r, i.providerReference = some r →
    (⟨paymentWebhookScope, r⟩ ∈ s'.keys ↔ ⟨paymentWebhookScope, r⟩ ∈ s.keys)
  expired : ∀ nodeId, expiredAt nodeId s ≤ expiredAt nodeId s'
  slots : SlotsReleased s s'

theorem Onward.refl (hb : Balanced s) : Onward s s where
  balanced := hb
  carried := fun i hi => ⟨i, hi, rfl, Or.inl rfl⟩
  pending := fun _ hi _ => hi
  keys := fun _ _ _ _ _ => Iff.rfl
  expired := fun _ => le_rfl
  slots := by
    intro nodeId
    rw [Nat.sub_self]
    exact Option.map_id'.symm

theorem Onward.trans {s₁ s₂ : State} (h₁ : Onward s s₁) (h₂ : Onward s₁ s₂) : Onward s s₂ where
  balanced := h₂.balanced
  carried := by
    intro i hi
    obtain ⟨i₁, hi₁, hid₁, hcase₁⟩ := h₁.carried i hi
    obtain ⟨i₂, hi₂, hid₂, hcase₂⟩ := h₂.carried i₁ hi₁
    refine ⟨i₂, hi₂, hid₂.trans hid₁, ?_⟩
    rcases hcase₂ with rfl | hsettled
    · exact hcase₁
    · exact Or.inr hsettled
  pending := fun i hi hp => h₁.pending i (h₂.pending i hi hp) hp
  keys := fun i hi hp r hr =>
    (h₂.keys i hi hp r hr).trans (h₁.keys i (h₂.pending i hi hp) hp r hr)
  expired := fun nodeId => (h₁.expired nodeId).trans (h₂.expired nodeId)
  slots := by
    intro nodeId
    have hle₁ := h₁.expired nodeId
    have hle₂ := h₂.expired nodeId
    rw [h₂.slots nodeId, h₁.slots nodeId, Option.map_map]
    refine congrArg (fun f => Option.map f (countAt nodeId s)) (funext fun count => ?_)
    simp only [Function.comp_apply]
    omega

/-- The clock alone. -/
theorem Onward.clock (hb : Balanced s) (now : Nat) : Onward s { s with now } :=
  have hb' : Balanced { s with now } := hb.of_cores rfl rfl le_rfl
  { Onward.refl hb with balanced := hb' }

/-- One pending intent is settled. -/
theorem Onward.settle (row : PaymentIntentRow) (hb : Balanced s) (hb' : Balanced s')
    (hmem : intent ∈ s.intents) (hpending : intent.status = .pending) (hid : row.id = intent.id)
    (hsettled : row.status = .paid ∨ row.status = .expired)
    (hintents : s'.intents = put PaymentIntentRow.id row s.intents)
    (hkeys : ∀ k, k ≠ ⟨paymentWebhookScope, intent.id⟩ → (k ∈ s'.keys ↔ k ∈ s.keys))
    (hcount : ∀ nodeId, countAt nodeId s' = (countAt nodeId s).map
      (· - (row.originNodeId = nodeId && row.status = .expired).toNat)) : Onward s s' := by
  have hunsettled : row.status ≠ .pending := by
    rcases hsettled with h | h <;> rw [h] <;> decide
  have hold : ∀ {i}, i ∈ s'.intents → i.status = .pending → i ∈ s.intents ∧ i.id ≠ row.id := by
    intro i hi hp
    rw [hintents] at hi
    rcases mem_put.mp hi with ⟨rfl, -⟩ | hkept
    · exact absurd hp hunsettled
    · exact hkept
  have hexpired : ∀ nodeId, expiredAt nodeId s' =
      expiredAt nodeId s + (row.originNodeId = nodeId && row.status = .expired).toNat := by
    intro nodeId
    have hput := hb.intentIds.countP_put
      (q := fun i => i.originNodeId = nodeId && i.status = .expired) hmem hid
    have hbefore : (intent.originNodeId = nodeId && intent.status = .expired) = false := by
      rw [hpending]
      simp
    rw [hbefore] at hput
    rw [expiredAt, hintents]
    exact hput
  exact
    { balanced := hb'
      carried := fun i hi => by
        by_cases hkey : i.id = row.id
        · refine ⟨row, ?_, hkey.symm, Or.inr hsettled⟩
          rw [hintents]
          exact mem_put.mpr (Or.inl ⟨rfl, intent, hmem, hid.symm⟩)
        · refine ⟨i, ?_, rfl, Or.inl rfl⟩
          rw [hintents]
          exact mem_put.mpr (Or.inr ⟨hi, hkey⟩)
      pending := fun i hi hp => (hold hi hp).1
      keys := fun i hi hp r hr => by
        obtain ⟨hi', hne⟩ := hold hi hp
        refine hkeys _ fun heq => hne ?_
        have hr' : r = i.id := hb.reference i hi' r hr
        rw [hid, ← hr']
        exact congrArg IdempotencyKey.key heq
      expired := fun nodeId => by rw [hexpired]; exact Nat.le_add_right _ _
      slots := fun nodeId => by rw [hcount, hexpired, Nat.add_sub_cancel_left] }

theorem countAt_releaseNode (originNodeId nodeId : Nat) :
    countAt nodeId (releaseNode originNodeId s) =
      (countAt nodeId s).map (· - (originNodeId = nodeId : Bool).toNat) := by
  let bump := fun n : NodeRow => { n with currentCount := n.currentCount - 1 }
  have hget : Relational.get NodeRow.id nodeId (releaseNode originNodeId s).nodes = _ :=
    get_update (p := fun n : NodeRow => n.id = originNodeId) (f := bump) (fun _ _ _ => rfl) nodeId
  rw [countAt, hget, countAt, Option.map_map, Option.map_map]
  cases hnode : Relational.get NodeRow.id nodeId s.nodes with
  | none => rfl
  | some node =>
      obtain rfl : node.id = nodeId := (get_some hnode).2
      by_cases hid : node.id = originNodeId
      · simp [hid, bump]
      · simp [hid, Ne.symm hid]

theorem Turn.onward (hb : Balanced s) (hmem : intent ∈ s.intents)
    (hpending : intent.status = .pending) (h : Turn s s' intent) : Onward s s' := by
  cases h with
  | kept eq =>
      subst eq
      exact Onward.refl hb
  | expired eq =>
      subst eq
      have hb' : Balanced (releaseNode intent.originNodeId
          (putIntent s { intent with status := .expired })) :=
        (hb.expire hmem hpending).of_cores rfl rfl le_rfl
      refine Onward.settle { intent with status := .expired } hb hb' hmem hpending rfl
        (Or.inr rfl) rfl (fun _ _ => Iff.rfl) fun nodeId => ?_
      rw [countAt_releaseNode]
      simp [countAt, putIntent]
  | paid reference verification order unspent reference_eq full confirmed =>
      have hkeyed : Balanced (insertKey paymentWebhookScope reference s) :=
        hb.of_cores rfl rfl le_rfl
      refine Onward.settle (paidIntent intent verification s.now) hb
        (hkeyed.pay ⟨hmem, hpending, full⟩ confirmed) hmem hpending rfl (Or.inl rfl)
        confirmed.intents (fun k hk => ?_) fun nodeId => ?_
      · have hkeys : s'.keys = s.keys ++ [⟨paymentWebhookScope, reference⟩] := by
          rw [confirmed.frame]
          rfl
        have hown : reference = intent.id := hb.reference intent hmem reference reference_eq
        rw [hkeys, List.mem_append, List.mem_singleton, hown]
        exact or_iff_left hk
      · have hnodes : s'.nodes = s.nodes := by
          rw [confirmed.frame]
          rfl
        simp [countAt, hnodes, paidIntent, Function.comp_def]

theorem Turn.others (h : Turn s s' intent) {i : PaymentIntentRow} (hi : i ∈ s.intents)
    (hne : i.id ≠ intent.id) : i ∈ s'.intents := by
  cases h with
  | kept eq => exact eq ▸ hi
  | expired eq =>
      subst eq
      exact mem_put.mpr (Or.inr ⟨hi, hne⟩)
  | paid reference verification order unspent reference_eq full confirmed =>
      rw [confirmed.intents]
      exact mem_put.mpr (Or.inr ⟨hi, hne⟩)

/-! ## Runs of polls -/

section Runs

variable {P : State → Prop} (replies : Nat → Reply)

/-- What every turn keeps, a batch keeps. -/
theorem processBatch_keeps (drawn : Nat → List String)
    (hturn : ∀ s s' intent codes, Balanced s → P s → intent ∈ s.intents → intent.status = .pending →
      (processStaleIntent intent (verify (replies intent.id)).toOption codes).run s = .ok ((), s') →
      P s')
    (l : List PaymentIntentRow) :
    ∀ s, Balanced s → P s → Distinct PaymentIntentRow.id l →
      (∀ i ∈ l, i ∈ s.intents ∧ i.status = .pending) →
      Balanced (processBatch replies drawn l s) ∧ P (processBatch replies drawn l s) := by
  induction l with
  | nil => exact fun s hb h _ _ => ⟨hb, h⟩
  | cons intent rest ih =>
      intro s hb h hdistinct hl
      obtain ⟨hmem, hpending⟩ := hl intent List.mem_cons_self
      obtain ⟨hhead, hrest⟩ := List.nodup_cons.mp hdistinct
      rw [processBatch]
      split
      · next s' hrun =>
          have hstep : Turn s s' intent := turn_of_run hb hmem hpending hrun
          refine ih s' (hstep.onward hb hmem hpending).balanced
            (hturn s s' intent _ hb h hmem hpending hrun) hrest fun i hi => ?_
          obtain ⟨hstored, hstatus⟩ := hl i (List.mem_cons_of_mem _ hi)
          have hne : i.id ≠ intent.id := fun heq => hhead (heq ▸ List.mem_map_of_mem hi)
          exact ⟨hstep.others hstored hne, hstatus⟩
      · exact ⟨hb, h⟩

theorem mem_batch {i : PaymentIntentRow} (h : i ∈ batch s) :
    i ∈ s.intents ∧ i.status = .pending ∧ i.expiresAt ≤ s.now := by
  have hmem := (List.mergeSort_perm _ _).mem_iff.mp (List.mem_of_mem_take h)
  obtain ⟨hstored, hstale⟩ := List.mem_filter.mp hmem
  rw [isStaleIntent, Bool.and_eq_true, decide_eq_true_eq, decide_eq_true_eq] at hstale
  exact ⟨hstored, hstale⟩

theorem distinct_batch (hb : Balanced s) : Distinct PaymentIntentRow.id (batch s) := by
  have hsorted : Distinct PaymentIntentRow.id ((s.intents.filter (isStaleIntent s.now)).mergeSort
      fun a b => a.expiresAt ≤ b.expiresAt) :=
    ((List.mergeSort_perm _ _).map _).nodup_iff.mpr (hb.intentIds.filter _)
  exact List.Nodup.sublist ((List.take_sublist _ _).map _) hsorted

theorem after_keeps
    (hclock : ∀ s now, P s → P { s with now })
    (hturn : ∀ s s' intent codes, Balanced s → P s → intent ∈ s.intents → intent.status = .pending →
      (processStaleIntent intent (verify (replies intent.id)).toOption codes).run s = .ok ((), s') →
      P s')
    (polls : Nat → Poll) (hb : Balanced s) (h : P s) (n : Nat) :
    Balanced (after replies polls s n) ∧ P (after replies polls s n) := by
  induction n with
  | zero => exact ⟨hb, h⟩
  | succ n ih =>
      have hb' := (Onward.clock ih.1 (polls n).now).balanced
      refine processBatch_keeps replies _ hturn _ _ hb' (hclock _ _ ih.2) (distinct_batch hb') ?_
      intro i hi
      exact ⟨(mem_batch hi).1, (mem_batch hi).2.1⟩

theorem after_onward (polls : Nat → Poll) (hb : Balanced s) (n : Nat) :
    Onward s (after replies polls s n) := by
  have hrun := after_keeps (P := fun s' => Onward s s') replies
    (fun s₁ now h => h.trans (Onward.clock h.balanced now))
    (fun s₁ s₂ intent codes hb₁ h hmem hpending hrun =>
      h.trans ((turn_of_run hb₁ hmem hpending hrun).onward hb₁ hmem hpending))
    polls hb (Onward.refl hb) n
  exact hrun.2

theorem after_add (polls : Nat → Poll) (s : State) (n k : Nat) :
    after replies polls s (n + k) =
      after replies (fun j => polls (n + j)) (after replies polls s n) k := by
  induction k with
  | zero => rfl
  | succ k ih => rw [← Nat.add_assoc, after, ih, after]

theorem after_add_onward (polls : Nat → Poll) (hb : Balanced s) (n k : Nat) :
    Onward (after replies polls s n) (after replies polls s (n + k)) := by
  rw [after_add]
  exact after_onward replies _ (after_onward replies polls hb n).balanced k

end Runs

/-! ## Intents that stay -/

section Stays

variable {replies : Nat → Reply} {s₀ : State}

theorem run_of_not_resolvable (ho : Onward s₀ s) (hmem : intent ∈ s.intents)
    (hpending : intent.status = .pending) (hd : Definite reply)
    (hnot : ¬ Resolvable s₀ intent reply) :
    (processStaleIntent intent (verify reply).toOption drawnCodes).run s = .ok ((), s) := by
  obtain ⟨reference, href, hcase⟩ : ∃ reference, intent.providerReference = some reference ∧
      (¬ Refused reply → PaidInFull intent reply ∧ ⟨paymentWebhookScope, reference⟩ ∈ s₀.keys) := by
    simpa [Resolvable] using hnot
  by_cases hrefused : Refused reply
  · obtain ⟨e, hverify⟩ := verify_refused hrefused
    rw [hverify]
    exact run_unanswered href
  · obtain ⟨verification, hverify⟩ := hd.resolve_right hrefused
    obtain ⟨hpaid, hspent⟩ := hcase hrefused
    rw [hverify]
    exact run_spent href ((isFullSuccess_verify hverify).mpr hpaid)
      ((ho.keys intent hmem hpending reference href).mpr hspent)

theorem stays {i : PaymentIntentRow} (polls : Nat → Poll) (hb : Balanced s) (hi : i ∈ s.intents)
    (hd : Definite (replies i.id))
    (hnot : ¬ Resolvable s i (replies i.id)) (n : Nat) :
    i ∈ (after replies polls s n).intents := by
  have hrun := after_keeps (P := fun s' => Onward s s' ∧ i ∈ s'.intents) replies
    (fun s₁ now h => ⟨h.1.trans (Onward.clock h.1.balanced now), h.2⟩)
    (fun s₁ s₂ intent codes hb₁ h hmem hstatus hrun => by
      have hturn : Turn s₁ s₂ intent := turn_of_run hb₁ hmem hstatus hrun
      refine ⟨h.1.trans (hturn.onward hb₁ hmem hstatus), ?_⟩
      by_cases hid : i.id = intent.id
      · obtain rfl : i = intent := hb₁.intentIds.eq_of_key h.2 hmem hid
        rw [run_of_not_resolvable h.1 hmem hstatus hd hnot] at hrun
        cases hrun
        exact h.2
      · exact hturn.others h.2 hid)
    polls hb ⟨Onward.refl hb, hi⟩ n
  exact hrun.2.2

theorem mem_stale {i : PaymentIntentRow} :
    i ∈ stale s ↔ i ∈ s.intents ∧ i.status = .pending ∧ i.expiresAt ≤ s.now := by
  simp [stale, isStaleIntent]

theorem resolvable_of_resolved {i : PaymentIntentRow} (polls : Nat → Poll) (hb : Balanced s)
    (hi : i ∈ stale s) (hd : Definite (replies i.id)) {n : Nat}
    (hresolved : Resolved (after replies polls s n) i.id) : Resolvable s i (replies i.id) := by
  by_contra hnot
  obtain ⟨hstored, hpending, -⟩ := mem_stale.mp hi
  have hstays := stays polls hb hstored hd hnot n
  obtain ⟨i', hi', hid, hcase⟩ := hresolved
  have hb' := (after_onward replies polls hb n).balanced
  obtain rfl : i' = i := hb'.intentIds.eq_of_key hi' hstays hid
  rw [hpending] at hcase
  rcases hcase with ⟨h, -⟩ | h <;> cases h

end Stays

/-! ## Intents that are settled -/

section Settled

variable {replies : Nat → Reply} {s₀ : State} {code : String} {codes : List String}

theorem not_mem_put (row : PaymentIntentRow) (hpending : intent.status = .pending)
    (hstatus : row.status ≠ .pending) (hid : row.id = intent.id) {l : List PaymentIntentRow} :
    intent ∉ put PaymentIntentRow.id row l := by
  intro hmem
  rcases mem_put.mp hmem with ⟨rfl, -⟩ | ⟨-, hne⟩
  · exact hstatus hpending
  · exact hne hid.symm

theorem run_of_resolvable (ho : Onward s₀ s) (hmem : intent ∈ s.intents)
    (hpending : intent.status = .pending) (hd : Definite reply)
    (hres : Resolvable s₀ intent reply) (hfree : Unused s code) :
    ∃ s', (processStaleIntent intent (verify reply).toOption (code :: codes)).run s = .ok ((), s') ∧
      intent ∉ s'.intents := by
  have hget : getIntent s intent.id = some intent := ho.balanced.intentIds.get_eq hmem
  have hgone : intent ∉ (releaseNode intent.originNodeId
      (putIntent s { intent with status := .expired })).intents :=
    not_mem_put { intent with status := .expired } hpending (fun h => by cases h) rfl
  cases href : intent.providerReference with
  | none =>
      refine ⟨_, run_unpaid hget hpending fun reference h => ?_, hgone⟩
      rw [href] at h
      cases h
  | some reference =>
      obtain ⟨hnot, hunspent⟩ := hres reference href
      obtain ⟨verification, hverify⟩ := hd.resolve_right hnot
      rw [hverify]
      cases hfull : isFullSuccess intent verification with
      | false =>
          exact ⟨_, run_unpaid hget hpending fun _ _ => ⟨verification, rfl, hfull⟩, hgone⟩
      | true =>
          have hkey : ⟨paymentWebhookScope, reference⟩ ∉ s.keys := fun h =>
            hunspent ((isFullSuccess_verify hverify).mp hfull)
              ((ho.keys intent hmem hpending reference href).mp h)
          have hunpaid : intent.status ≠ .paid := by
            rw [hpending]
            decide
          have hmem' : intent ∈ (insertKey paymentWebhookScope reference s).intents := hmem
          obtain ⟨s', hconfirm⟩ := confirm_free verification codes hmem'
            (ho.balanced.unplaced hmem hunpaid) hfree
          have hbody : (recoverBody intent.id verification (code :: codes)).run
              (insertKey paymentWebhookScope reference s) = .ok ((), s') := by
            have hget' : getIntent (insertKey paymentWebhookScope reference s) intent.id
                = some intent := hget
            rw [recoverBody, Tx.run_read_bind, hget']
            simpa [hpending] using hconfirm
          have hrecover : (tryRecover intent (some verification) (code :: codes)).run s
              = .ok (true, s') := by
            simp only [tryRecover, href, hfull, if_true]
            exact (Tx.run_bind_of_ok (run_key_unspent hkey hbody)).trans rfl
          refine ⟨s', ?_, ?_⟩
          · exact (Tx.run_bind_of_ok hrecover).trans rfl
          · obtain ⟨order, hconfirmed⟩ := confirmPaid_ok hmem' hconfirm
            rw [hconfirmed.intents]
            exact not_mem_put (paidIntent intent verification s.now) hpending
              (fun h => by cases h) rfl

/-- The batch begins with the intent that has been stale the longest. -/
theorem batch_head {i : PaymentIntentRow} (hi : i ∈ stale s) :
    ∃ head rest, batch s = head :: rest ∧ head.expiresAt ≤ i.expiresAt := by
  have htrans : ∀ a b c : PaymentIntentRow, decide (a.expiresAt ≤ b.expiresAt) = true →
      decide (b.expiresAt ≤ c.expiresAt) = true → decide (a.expiresAt ≤ c.expiresAt) = true := by
    intro a b c hab hbc
    rw [decide_eq_true_eq] at *
    exact hab.trans hbc
  have hsorted := List.pairwise_mergeSort htrans
    (fun a b => by simpa using Nat.le_total a.expiresAt b.expiresAt)
    (s.intents.filter (isStaleIntent s.now))
  have hmem := (List.mergeSort_perm (s.intents.filter (isStaleIntent s.now))
    fun a b => decide (a.expiresAt ≤ b.expiresAt)).mem_iff.mpr hi
  rw [batch]
  cases hl : (s.intents.filter (isStaleIntent s.now)).mergeSort
      (fun a b => decide (a.expiresAt ≤ b.expiresAt)) with
  | nil =>
      rw [hl] at hmem
      cases hmem
  | cons head rest =>
      rw [hl] at hmem hsorted
      refine ⟨head, _, rfl, ?_⟩
      rcases List.mem_cons.mp hmem with rfl | hrest
      · exact le_rfl
      · exact of_decide_eq_true (List.rel_of_pairwise_cons hsorted hrest)

/-- The intents that were stale at `t` and still are pending. -/
def openSince (t : Nat) (s : State) : Finset PaymentIntentRow :=
  (s.intents.filter (isStaleIntent t)).toFinset

theorem mem_openSince {t : Nat} {i : PaymentIntentRow} :
    i ∈ openSince t s ↔ i ∈ s.intents ∧ i.status = .pending ∧ i.expiresAt ≤ t := by
  simp [openSince, isStaleIntent]

theorem Onward.open_subset (h : Onward s s') (t : Nat) : openSince t s' ⊆ openSince t s := by
  intro i hi
  obtain ⟨hmem, hpending, hle⟩ := mem_openSince.mp hi
  exact mem_openSince.mpr ⟨h.pending i hmem hpending, hpending, hle⟩

/-- Of an intent that was stale nothing is open any more. -/
theorem Onward.resolved (h : Onward s s') (hnone : openSince s.now s' = ∅) {i : PaymentIntentRow}
    (hi : i ∈ stale s) : Resolved s' i.id := by
  obtain ⟨hstored, hpending, hle⟩ := mem_stale.mp hi
  obtain ⟨i', hi', hid, hcase⟩ := h.carried i hstored
  rcases hcase with rfl | hpaid | hexpired
  · have hopen : i' ∈ openSince s.now s' := mem_openSince.mpr ⟨hi', hpending, hle⟩
    rw [hnone] at hopen
    cases hopen
  · obtain ⟨o, ho, hfor⟩ := h.balanced.placed i' hi' hpaid
    exact ⟨i', hi', hid, Or.inl ⟨hpaid, o, ho, hfor.trans hid⟩⟩
  · exact ⟨i', hi', hid, Or.inr hexpired⟩

/-- A poll with fresh draws settles the intent that its batch begins with. -/
theorem poll_settles {p : Poll} (ho : Onward s₀ s)
    (hreplies : ∀ i ∈ stale s₀, Definite (replies i.id) ∧ Resolvable s₀ i (replies i.id))
    (hclock : s₀.now ≤ p.now) (hfresh : FreshDraws p s)
    (hopen : (openSince s₀.now s).Nonempty) :
    openSince s₀.now (poll replies p s) ⊂ openSince s₀.now s := by
  obtain ⟨i, hi⟩ := hopen
  obtain ⟨hstored, hpending, hle⟩ := mem_openSince.mp hi
  let s₁ : State := { s with now := p.now }
  have hs₁ : Onward s s₁ := Onward.clock ho.balanced p.now
  have ho₁ : Onward s₀ s₁ := ho.trans hs₁
  obtain ⟨head, rest, hbatch, holdest⟩ :=
    batch_head (s := s₁) (mem_stale.mpr ⟨hstored, hpending, hle.trans hclock⟩)
  have hall : ∀ j ∈ head :: rest, j ∈ s₁.intents ∧ j.status = .pending := fun j hj => by
    have hj' := mem_batch (hbatch ▸ hj)
    exact ⟨hj'.1, hj'.2.1⟩
  have hdistinct : Distinct PaymentIntentRow.id (head :: rest) :=
    hbatch ▸ distinct_batch ho₁.balanced
  obtain ⟨hhead, hstatus⟩ := hall head List.mem_cons_self
  have hstale : head ∈ stale s₀ :=
    mem_stale.mpr ⟨ho.pending head hhead hstatus, hstatus, holdest.trans hle⟩
  obtain ⟨hd, hres⟩ := hreplies head hstale
  obtain ⟨code, codes, hdrawn, hfree⟩ := hfresh head.id
  obtain ⟨s₂, hrun, hgone⟩ : ∃ s₂, (processStaleIntent head (verify (replies head.id)).toOption
      (p.drawn head.id)).run s₁ = .ok ((), s₂) ∧ head ∉ s₂.intents := by
    rw [hdrawn]
    exact run_of_resolvable ho₁ hhead hstatus hd hres hfree
  have hstep : Turn s₁ s₂ head := turn_of_run ho₁.balanced hhead hstatus hrun
  have hs₂ : Onward s₁ s₂ := hstep.onward ho₁.balanced hhead hstatus
  obtain ⟨hnotin, hrest⟩ := List.nodup_cons.mp hdistinct
  have hrestRun := processBatch_keeps (P := Onward s₂) replies p.drawn
    (fun s₃ s₄ intent codes hb h hmem hp hrun =>
      h.trans ((turn_of_run hb hmem hp hrun).onward hb hmem hp))
    rest s₂ hs₂.balanced (Onward.refl hs₂.balanced) hrest fun j hj => by
      have hne : j.id ≠ head.id := fun heq => hnotin (heq ▸ List.mem_map_of_mem hj)
      obtain ⟨hj₁, hj₂⟩ := hall j (List.mem_cons_of_mem _ hj)
      exact ⟨hstep.others hj₁ hne, hj₂⟩
  have hpoll : poll replies p s = processBatch replies p.drawn rest s₂ := by
    rw [poll, hbatch, processBatch, hrun]
  rw [hpoll]
  refine (Finset.ssubset_iff_of_subset ?_).mpr ⟨head, ?_, fun hmem => ?_⟩
  · exact (((hs₁.trans hs₂).trans hrestRun.2).open_subset _)
  · exact mem_openSince.mpr ⟨hhead, hstatus, holdest.trans hle⟩
  · exact hgone (hrestRun.2.pending head (mem_openSince.mp hmem).1 hstatus)

theorem exists_none_open (polls : Nat → Poll) (hb : Balanced s)
    (hreplies : ∀ i ∈ stale s, Definite (replies i.id) ∧ Resolvable s i (replies i.id))
    (hclock : ∀ n, s.now ≤ (polls n).now)
    (hfresh : ∀ n, ∃ m ≥ n, FreshDraws (polls m) (after replies polls s m)) :
    ∃ n, openSince s.now (after replies polls s n) = ∅ := by
  -- By induction on the open intents: the next poll with fresh draws leaves fewer.
  suffices h : ∀ (A : Finset PaymentIntentRow) (n : Nat),
      openSince s.now (after replies polls s n) = A →
        ∃ m, openSince s.now (after replies polls s m) = ∅ from h _ 0 rfl
  intro A
  induction A using Finset.strongInduction with
  | H A ih =>
      rintro n rfl
      obtain ⟨m, hm, hdraws⟩ := hfresh n
      have hsub : openSince s.now (after replies polls s m) ⊆
          openSince s.now (after replies polls s n) := by
        obtain ⟨k, rfl⟩ := Nat.exists_eq_add_of_le hm
        exact (after_add_onward replies polls hb n k).open_subset _
      rcases Finset.eq_empty_or_nonempty (openSince s.now (after replies polls s m)) with
        hnone | hopen
      · exact ⟨m, hnone⟩
      · have honward := after_onward replies polls hb m
        have hless := poll_settles honward hreplies (hclock m) hdraws hopen
        exact ih _ (hless.trans_subset hsub) (m + 1) rfl

end Settled

/-! ## The result -/

/-- Every one of the intents that are stale in a reachable state is settled after
finitely many polls, each that expires with its slot given back, just when no
answer of the provider is a refusal and no payment in full finds its key spent. -/
theorem polls_resolve_iff (d : Deployment) {s₀ : State} (h : Initial s₀) (as : List Action)
    (replies : Nat → Reply) (polls : Nat → Poll)
    (hdefinite : ∀ i ∈ stale (run d s₀ as), Definite (replies i.id))
    (hclock : ∀ n, (run d s₀ as).now ≤ (polls n).now)
    (hfresh : ∀ n, ∃ m ≥ n, FreshDraws (polls m) (after replies polls (run d s₀ as) m)) :
    (∃ n, AllResolved (run d s₀ as) (after replies polls (run d s₀ as) n)) ↔
      ∀ i ∈ stale (run d s₀ as), Resolvable (run d s₀ as) i (replies i.id) := by
  have hb := (run_balanced d h as).2
  constructor
  · rintro ⟨n, hresolved, -⟩ i hi
    exact resolvable_of_resolved polls hb hi (hdefinite i hi) (hresolved i hi)
  · intro hresolvable
    obtain ⟨n, hnone⟩ := exists_none_open polls hb
      (fun i hi => ⟨hdefinite i hi, hresolvable i hi⟩) hclock hfresh
    have ho := after_onward replies polls hb n
    refine ⟨n, fun i hi => ?_, ho.slots⟩
    exact ho.resolved hnone hi

/-- The booking of the demo with its intent stale. -/
def demoStale : State := run demo demoState (demoBooking ++ [.tick paymentIntentTtlMs])

def demoPolls (n : Nat) : Poll := ⟨demoStale.now, fun _ => [if n = 0 then "LOC1" else "LOC2"]⟩

/-- The first poll hears of the payment in full; afterwards nothing is pending. -/
theorem demo_polls_resolve :
    ∃ n, AllResolved demoStale
      (after (fun _ => .answered 200 true none ⟨"success", 180, none⟩) demoPolls demoStale n) := by
  let replies : Nat → Reply := fun _ => .answered 200 true none ⟨"success", 180, none⟩
  have hb : Balanced demoStale := (run_balanced demo demoState_initial _).2
  have hfirst : (∀ o ∈ (after replies demoPolls demoStale 1).orders, o.trackingCode ≠ "LOC2") ∧
      ∀ i ∈ (after replies demoPolls demoStale 1).intents, i.status ≠ .pending := by
    decide +kernel
  have hsettled : ∀ n,
      FreshDraws (demoPolls (1 + n)) (after replies demoPolls demoStale (1 + n)) := by
    intro n
    have hkept := after_keeps
      (P := fun s => (∀ o ∈ s.orders, o.trackingCode ≠ "LOC2") ∧
        ∀ i ∈ s.intents, i.status ≠ .pending) replies (fun _ _ h => h)
      (fun s s' intent codes _ h hmem hp _ => absurd hp (h.2 intent hmem))
      (fun j => demoPolls (1 + j)) (after_onward replies demoPolls hb 1).balanced hfirst n
    intro intentId
    rw [after_add]
    exact ⟨"LOC2", [], by simp [demoPolls], hkept.2.1⟩
  refine (polls_resolve_iff demo demoState_initial (demoBooking ++ [.tick paymentIntentTtlMs])
    replies demoPolls ?_ ?_ ?_).mpr ?_
  · exact fun i _ => Or.inl ⟨_, rfl⟩
  · exact fun _ => le_rfl
  · exact fun n => ⟨1 + n, by omega, hsettled n⟩
  · have hkeys : demoStale.keys = [] := by decide +kernel
    intro i _ reference _
    refine ⟨by simp [replies, Refused], fun _ hspent => ?_⟩
    rw [demoStale] at hkeys
    rw [hkeys] at hspent
    cases hspent

/-- The provider has no such transaction. -/
def unknownReference : Reply :=
  .answered 400 false (some "Transaction reference not found") ⟨"", 0, none⟩

/-- The same intent, whose initialize failed: it is pending after every poll. -/
theorem refused_intent_stays :
    ¬ ∀ (d : Deployment) (s₀ : State) (as : List Action) (replies : Nat → Reply)
      (polls : Nat → Poll), Initial s₀ →
      (∀ i ∈ stale (run d s₀ as), Definite (replies i.id)) →
      (∀ n, (run d s₀ as).now ≤ (polls n).now) →
      (∀ n, ∃ m ≥ n, FreshDraws (polls m) (after replies polls (run d s₀ as) m)) →
      ∃ n, AllResolved (run d s₀ as) (after replies polls (run d s₀ as) n) := by
  intro h
  let replies : Nat → Reply := fun _ => unknownReference
  have hrefused : Refused unknownReference := Or.inr rfl
  have hb : Balanced demoStale := (run_balanced demo demoState_initial _).2
  have hreferred : ∀ i ∈ demoStale.intents, i.providerReference = some 10 := by decide +kernel
  have hnot : ∀ i ∈ demoStale.intents, ¬ Resolvable demoStale i unknownReference :=
    fun i hi hres => (hres 10 (hreferred i hi)).1 hrefused
  have hstill : ∀ n, (after replies demoPolls demoStale n).orders = [] := by
    intro n
    have hkept := after_keeps (P := fun s => Onward demoStale s ∧ s.orders = []) replies
      (fun s now h => ⟨h.1.trans (Onward.clock h.1.balanced now), h.2⟩)
      (fun s s' intent codes hb h hmem hp hrun => by
        have hstored := h.1.pending intent hmem hp
        rw [run_of_not_resolvable h.1 hmem hp (Or.inr hrefused) (hnot intent hstored)] at hrun
        cases hrun
        exact h)
      demoPolls hb ⟨Onward.refl hb, by decide +kernel⟩ n
    exact hkept.2.2
  obtain ⟨n, hresolved, -⟩ := h demo demoState (demoBooking ++ [.tick paymentIntentTtlMs]) replies
    demoPolls demoState_initial (fun _ _ => Or.inr hrefused) (fun _ => le_rfl) fun n =>
      ⟨n, le_rfl, fun _ => ⟨_, [], rfl, by rw [← demoStale, Unused, hstill]; simp⟩⟩
  obtain ⟨i, hi⟩ : ∃ i, i ∈ stale demoStale := List.exists_mem_of_ne_nil _ (by decide +kernel)
  exact hnot i (mem_stale.mp hi).1
    (resolvable_of_resolved demoPolls hb hi (Or.inr hrefused) (hresolved i hi))

end Locoomo.Expiry
