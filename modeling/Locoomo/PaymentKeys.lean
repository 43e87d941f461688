import Locoomo.Books

/-! When a payment's idempotency key is consumed. The webhook inserts the key
before it asks the provider, and commits it even when the answer is no full
success; the poller asks first. The key then belongs to an outcome exactly
when no webhook is answered short of a full success. -/

namespace Locoomo.PaymentKeys

open Locoomo.Delivery Locoomo.Database Locoomo.Routing Locoomo.Payments Locoomo.Handoffs
  Locoomo.System Locoomo.Lockstep Locoomo.Frames Locoomo.Changes Locoomo.Effects Locoomo.Books
  Locoomo.Transactions Relational

/-! ## The property -/

/-- The key of an intent whose reference is its own id. -/
def keyOf (intentId : Nat) : IdempotencyKey := ⟨paymentWebhookScope, intentId⟩

/-- The intent is paid and has its order. -/
structure Settled (s : State) (intentId : Nat) : Prop where
  paid : ∃ i, getIntent s intentId = some i ∧ i.status = .paid
  order : ∃ o ∈ s.orders, o.paymentIntentId = intentId

/-- The key stands for an outcome, and a full payment of a pending intent is
never turned away. -/
structure KeyIsOutcome (s : State) (intentId : Nat) : Prop where
  spent : ∀ i, getIntent s intentId = some i → keyOf intentId ∈ s.keys → i.status ≠ .pending
  webhook : ∀ i verification drawnCodes s', getIntent s intentId = some i →
    i.status = .pending → isFullSuccess i verification = true →
    (handleWebhook intentId (some verification) drawnCodes).run s = .ok ((), s') →
    Settled s' intentId
  poll : ∀ i verification drawnCodes s', getIntent s intentId = some i →
    isStaleIntent s.now i = true → isFullSuccess i verification = true →
    (pollIntent intentId (some verification) drawnCodes).run s = .ok ((), s') →
    Settled s' intentId

/-- The actions of the payment side: webhooks of any reference, polls of any
intent, and time passing. -/
def isPayment : Action → Bool
  | .webhook _ _ _ | .pollIntent _ _ _ | .tick _ => true
  | _ => false

/-- A webhook that would be the first to use the key of a pending intent is
answered with the full success. -/
def AnsweredInFull (intentId : Nat) (s : State) : Action → Prop
  | .webhook reference answer _ => reference = intentId → keyOf intentId ∉ s.keys →
      ∀ i, getIntent s intentId = some i → i.status = .pending →
        ∀ verification, answer = some verification → isFullSuccess i verification = true
  | _ => True

/-! ## Looking up the intent -/

/-- The intent with its reference, in a sound state. -/
structure Tracked (s : State) (intentId : Nat) : Prop where
  aligned : Aligned s
  balanced : Balanced s
  intent : ∃ i, getIntent s intentId = some i ∧ i.providerReference = some intentId

variable {d : Deployment} {s s' : State} {intentId : Nat}

theorem getIntent_put {intent : PaymentIntentRow} (hmem : intent ∈ s.intents)
    (intent' : PaymentIntentRow) (hid : intent'.id = intent.id) :
    get PaymentIntentRow.id intentId (put PaymentIntentRow.id intent' s.intents) =
      if intent.id = intentId then some intent' else getIntent s intentId := by
  split
  · next h =>
      rw [← h, ← hid]
      exact get_put_self ⟨intent, hmem, hid.symm⟩
  · next h =>
      refine get_put_of_ne fun heq => h ?_
      rw [heq, hid]

/-- The reference leads to the intent itself. -/
theorem Tracked.find (h : Tracked s intentId) {i : PaymentIntentRow}
    (hi : getIntent s intentId = some i) : findByReference s intentId = some i := by
  obtain ⟨j, hj, hreference⟩ := h.intent
  obtain rfl := Option.some.inj (hj.symm.trans hi)
  obtain ⟨hmem, hid⟩ := get_some hj
  cases hfound : findByReference s intentId with
  | none =>
      have := List.find?_eq_none.mp hfound j hmem
      simp [hreference] at this
  | some k =>
      have hk : k.providerReference = some intentId := by simpa using List.find?_some hfound
      have hkmem := List.mem_of_find?_eq_some hfound
      have hkid := h.balanced.reference k hkmem intentId hk
      rw [h.balanced.intentIds.eq_of_key hkmem hmem (hkid.symm.trans hid.symm)]

theorem Tracked.step (h : Tracked s intentId) {a : Action}
    (hintent : ∃ i,
      getIntent (exec d s a) intentId = some i ∧ i.providerReference = some intentId) :
    Tracked (exec d s a) intentId := by
  obtain ⟨haligned, hbalanced⟩ := exec_keeps (d := d) balanced_change h.aligned h.balanced a
  exact ⟨haligned, hbalanced, hintent⟩

/-! ## What the payment actions do to the intent and its key -/

/-- The intent and its key, before and after: nothing changed, the key went
in beside a pending intent, or the intent came to its end. -/
inductive Traced (s s' : State) (intentId : Nat) : Prop
  | same (hintent : getIntent s' intentId = getIntent s intentId)
      (hkey : keyOf intentId ∈ s'.keys → keyOf intentId ∈ s.keys)
  | spent (hintent : getIntent s' intentId = getIntent s intentId)
      (hnot : ∀ i, getIntent s intentId = some i → i.status ≠ .pending)
  | ended {i i' : PaymentIntentRow} (hi : getIntent s intentId = some i)
      (hi' : getIntent s' intentId = some i') (hstatus : i'.status ≠ .pending)
      (hreference : i'.providerReference = i.providerReference)

theorem mem_insertKey {reference : Nat} :
    keyOf intentId ∈ (insertKey paymentWebhookScope reference s).keys ↔
      keyOf intentId ∈ s.keys ∨ reference = intentId := by
  rw [insertKey, List.mem_append, List.mem_singleton]
  simp [keyOf, eq_comm]

/-- The intent ends: stored over under its id, with its reference. -/
theorem traced_of_put (hb : Balanced s) {intent : PaymentIntentRow} (hmem : intent ∈ s.intents)
    (intent' : PaymentIntentRow) (hid : intent'.id = intent.id)
    (hended : intent'.status ≠ .pending)
    (hreference : intent'.providerReference = intent.providerReference)
    (hintents : s'.intents = put PaymentIntentRow.id intent' s.intents)
    (hkey : intent.id ≠ intentId → keyOf intentId ∈ s'.keys → keyOf intentId ∈ s.keys) :
    Traced s s' intentId := by
  have hget : getIntent s' intentId =
      if intent.id = intentId then some intent' else getIntent s intentId := by
    rw [getIntent, hintents]
    exact getIntent_put hmem intent' hid
  by_cases h : intent.id = intentId
  · rw [if_pos h] at hget
    refine .ended ?_ hget hended hreference
    rw [getIntent, ← h]
    exact hb.intentIds.get_eq hmem
  · rw [if_neg h] at hget
    exact .same hget (hkey h)

/-- A confirmation under the key of its own intent. -/
theorem traced_of_confirmed (hb : Balanced s) {reference : Nat} {intent : PaymentIntentRow}
    {verification : PaymentVerificationResult} {order : OrderRow} (hmem : intent ∈ s.intents)
    (hreference : intent.providerReference = some reference)
    (hc : Confirmed (insertKey paymentWebhookScope reference s) s' intent verification order) :
    Traced s s' intentId := by
  have hid := hb.reference intent hmem reference hreference
  refine traced_of_put hb hmem (paidIntent intent verification s.now) rfl
    (fun he => by cases he) rfl hc.intents fun hne hkey => ?_
  have hkeys : s'.keys = (insertKey paymentWebhookScope reference s).keys := by rw [hc.frame]
  rw [hkeys, mem_insertKey] at hkey
  exact hkey.resolve_right fun heq => hne (hid.symm.trans heq)

theorem traced_of_webhook (h : Tracked s intentId) {reference : Nat} {answer : VerifyAnswer}
    {drawnCodes : List String}
    (hfull : AnsweredInFull intentId s (.webhook reference answer drawnCodes))
    (hrun : (handleWebhook reference answer drawnCodes).run s = .ok ((), s')) :
    Traced s s' intentId := by
  rcases handleWebhook_ok hrun with ⟨-, rfl⟩ | ⟨hfresh, hbody⟩
  · exact .same rfl fun hkey => hkey
  · rcases webhookBody_ok hbody with ⟨rfl, hskip⟩ | ⟨intent, _, _, hfound, -, hpayable, hc⟩
    · by_cases heq : reference = intentId
      · -- the key went in without a confirmation: the intent was not pending
        subst heq
        refine .spent rfl fun i hi hpending => ?_
        obtain ⟨verification, rfl, hshort⟩ := hskip i (h.find hi) hpending
        rw [hfull rfl hfresh i hi hpending verification rfl] at hshort
        cases hshort
      · exact .same rfl fun hkey => (mem_insertKey.mp hkey).resolve_right heq
    · have hreference : intent.providerReference = some reference := by
        simpa using List.find?_some hfound
      exact traced_of_confirmed h.balanced hpayable.stored hreference hc

theorem traced_of_poll (h : Tracked s intentId) {polledId : Nat} {answer : VerifyAnswer}
    {drawnCodes : List String}
    (hrun : (pollIntent polledId answer drawnCodes).run s = .ok ((), s')) :
    Traced s s' intentId := by
  rcases pollIntent_ok hrun with ⟨rfl, -⟩ | ⟨intent, hget, hstale, hrest⟩
  · exact .same rfl fun hkey => hkey
  · obtain rfl : intent.id = polledId := (get_some hget).2
    have hpending : intent.status = .pending := pending_of_stale hstale
    rcases hrest with ⟨s₁, hrecover, rfl⟩ | ⟨-, rfl⟩
    · rcases tryRecover_ok hget hpending hrecover with ⟨hr, -⟩ | ⟨reference, href, -, hrest⟩
      · cases hr
      · rcases hrest with ⟨rfl, -⟩ | ⟨-, _, _, -, hpayable, hc⟩
        · exact .same rfl fun hkey => hkey
        · exact traced_of_confirmed h.balanced hpayable.stored href hc
    · exact traced_of_put h.balanced (get_some hget).1 { intent with status := .expired } rfl
        (fun he => by cases he) rfl rfl fun _ hkey => hkey

/-- **What a payment action does to an intent and its key**, when webhooks are
answered in full. -/
theorem traced_of_exec (h : Tracked s intentId) {a : Action} (hpay : isPayment a = true)
    (hfull : AnsweredInFull intentId s a) : Traced s (exec d s a) intentId := by
  rcases exec_cases d s a with ⟨s', hrun, he⟩ | ⟨e, -, he⟩
  · rw [he]
    cases a with
    | webhook reference answer drawnCodes => exact traced_of_webhook h hfull hrun
    | pollIntent polledId answer drawnCodes => exact traced_of_poll h hrun
    | tick ms =>
        cases hrun
        exact .same rfl fun hkey => hkey
    | _ => cases hpay
  · have hclerical := rollback_clerical s e
    rw [he]
    exact .same (by rw [getIntent, getIntent, hclerical.intents]) fun hkey => hclerical.keys ▸ hkey

/-! ## The invariant -/

def SpentOnOutcome (s : State) (intentId : Nat) : Prop :=
  ∀ i, getIntent s intentId = some i → keyOf intentId ∈ s.keys → i.status ≠ .pending

theorem Traced.keeps (h : Traced s s' intentId) (hspent : SpentOnOutcome s intentId) :
    SpentOnOutcome s' intentId := by
  cases h with
  | same hintent hkey => exact fun i hi hk => hspent i (hintent ▸ hi) (hkey hk)
  | spent hintent hnot => exact fun i hi _ => hnot i (hintent ▸ hi)
  | ended hi hi' hstatus hreference =>
      intro i hget _
      obtain rfl := Option.some.inj (hi'.symm.trans hget)
      exact hstatus

theorem Traced.intent (h : Traced s s' intentId)
    (hintent : ∃ i, getIntent s intentId = some i ∧ i.providerReference = some intentId) :
    ∃ i, getIntent s' intentId = some i ∧ i.providerReference = some intentId := by
  obtain ⟨i, hi, href⟩ := hintent
  cases h with
  | same hget hkey => exact ⟨i, hget.trans hi, href⟩
  | spent hget hnot => exact ⟨i, hget.trans hi, href⟩
  | ended hi₀ hi' hstatus hreference =>
      obtain rfl := Option.some.inj (hi₀.symm.trans hi)
      exact ⟨_, hi', hreference.trans href⟩

/-- A confirmation of this very intent settles it. -/
theorem settled_of_confirmed {t : State} {i : PaymentIntentRow} {order : OrderRow}
    {verification : PaymentVerificationResult} (hi : getIntent t intentId = some i)
    (hc : Confirmed t s' i verification order) : Settled s' intentId := by
  obtain ⟨hmem, hid⟩ := get_some hi
  refine ⟨⟨paidIntent i verification t.now, ?_, rfl⟩, order, ?_, ?_⟩
  · rw [getIntent, hc.intents, getIntent_put hmem (paidIntent i verification t.now) rfl, if_pos hid]
  · rw [hc.orders]
    exact List.mem_append_right _ (List.mem_singleton.mpr rfl)
  · exact hc.placed.paymentIntentId.trans hid

/-- While the key is free or the intent has ended, a full payment of a pending
intent settles it. -/
theorem Tracked.keyIsOutcome (h : Tracked s intentId) (hspent : SpentOnOutcome s intentId) :
    KeyIsOutcome s intentId where
  spent := hspent
  webhook := by
    intro i verification drawnCodes s' hi hpending hfull hrun
    rcases handleWebhook_ok hrun with ⟨hused, -⟩ | ⟨-, hbody⟩
    · exact absurd hpending (hspent i hi hused)
    · rcases webhookBody_ok hbody with ⟨-, hskip⟩ | ⟨intent, v, order, hfound, hv, -, hc⟩
      · obtain ⟨v, hv, hshort⟩ := hskip i (h.find hi) hpending
        obtain rfl := Option.some.inj hv
        rw [hfull] at hshort
        cases hshort
      · obtain rfl : i = intent := Option.some.inj ((h.find hi).symm.trans hfound)
        exact settled_of_confirmed (t := insertKey paymentWebhookScope intentId s) hi hc
  poll := by
    intro i verification drawnCodes s' hi hstale hfull hrun
    obtain ⟨j, hj, href⟩ := h.intent
    obtain rfl := Option.some.inj (hj.symm.trans hi)
    obtain rfl : j.id = intentId := (get_some hj).2
    have hpending : j.status = .pending := pending_of_stale hstale
    rcases pollIntent_ok hrun with ⟨-, hnone⟩ | ⟨intent, hget, -, hrest⟩
    · rw [hi, Option.filter_some, if_pos hstale] at hnone
      cases hnone
    · obtain rfl := Option.some.inj (hi.symm.trans hget)
      rcases hrest with ⟨s₁, hrecover, rfl⟩ | ⟨hrecover, -⟩
      · rcases tryRecover_ok hget hpending hrecover with ⟨hr, -⟩ | ⟨reference, href', -, hrest⟩
        · cases hr
        · obtain rfl := Option.some.inj (href.symm.trans href')
          rcases hrest with ⟨-, hnone | hused⟩ | ⟨-, _, _, -, -, hc⟩
          · cases hnone
          · exact absurd hpending (hspent j hi hused)
          · exact settled_of_confirmed (t := insertKey paymentWebhookScope j.id s) hi hc
      · rcases tryRecover_ok hget hpending hrecover with ⟨-, -, hshort⟩ | ⟨_, -, hr, -⟩
        · rw [hshort j.id verification href rfl] at hfull
          cases hfull
        · cases hr

/-! ## Runs -/

/-- A webhook answered short of a full success leaves its key beside the
pending intent. -/
theorem exec_short (h : Tracked s intentId) {answer : VerifyAnswer} (drawnCodes : List String)
    {i : PaymentIntentRow} {verification : PaymentVerificationResult}
    (hfresh : keyOf intentId ∉ s.keys) (hi : getIntent s intentId = some i)
    (hpending : i.status = .pending) (hanswer : answer = some verification)
    (hshort : isFullSuccess i verification = false) :
    exec d s (.webhook intentId answer drawnCodes) = insertKey paymentWebhookScope intentId s := by
  have hfind : findByReference (insertKey paymentWebhookScope intentId s) intentId = some i :=
    h.find hi
  have hfresh' : (⟨paymentWebhookScope, intentId⟩ : IdempotencyKey) ∉ s.keys := hfresh
  have hrun : (tx d (.webhook intentId answer drawnCodes)).run s
      = .ok ((), insertKey paymentWebhookScope intentId s) := by
    have hbody : (webhookBody intentId answer drawnCodes).run
        (insertKey paymentWebhookScope intentId s)
          = .ok ((), insertKey paymentWebhookScope intentId s) := by
      simp [webhookBody, hfind, hpending, hanswer, hshort]
    have hkey : (withIdempotency paymentWebhookScope intentId
        (webhookBody intentId answer drawnCodes)).run s
          = .ok (some (), insertKey paymentWebhookScope intentId s) := by
      rw [withIdempotency, Tx.run_query_bind]
      simp only [hfresh', if_false, if_true]
      exact Tx.run_bind_of_ok hbody
    exact Tx.run_bind_of_ok hkey
  rw [exec, hrun]

/-- **Keys and outcomes.** From the booking on, over any run of webhooks and
polls: the key stands for an outcome in every state exactly when no webhook
that first uses the key of the pending intent is answered short of a full
success. -/
theorem key_is_outcome_iff (d : Deployment) {s₀ : State} (h : Initial s₀) (before : List Action)
    {intentId : Nat} {intent : PaymentIntentRow}
    (hintent : getIntent (run d s₀ before) intentId = some intent)
    (href : intent.providerReference = some intentId)
    (hfresh : keyOf intentId ∉ (run d s₀ before).keys) (as : List Action)
    (hpay : ∀ a ∈ as, isPayment a = true) :
    Runs.Always (exec d) (fun s => KeyIsOutcome s intentId) (run d s₀ before) as ↔
      Runs.Meets (exec d) (AnsweredInFull intentId) (run d s₀ before) as := by
  obtain ⟨haligned, hbalanced⟩ := run_balanced d h before
  have htracked : Tracked (run d s₀ before) intentId := ⟨haligned, hbalanced, intent, hintent, href⟩
  have hspent : SpentOnOutcome (run d s₀ before) intentId := fun _ _ hk => absurd hk hfresh
  generalize run d s₀ before = s at htracked hspent
  clear hintent hfresh haligned hbalanced
  induction as generalizing s with
  | nil => exact ⟨fun _ => trivial, fun _ => htracked.keyIsOutcome hspent⟩
  | cons a as ih =>
      have hrest : ∀ a ∈ as, isPayment a = true := fun b hb => hpay b (List.mem_cons_of_mem a hb)
      have hnext : AnsweredInFull intentId s a →
          Tracked (exec d s a) intentId ∧ SpentOnOutcome (exec d s a) intentId := by
        intro hfull
        have htraced := traced_of_exec (d := d) htracked (hpay a List.mem_cons_self) hfull
        exact ⟨htracked.step (htraced.intent htracked.intent), htraced.keeps hspent⟩
      constructor
      · rintro ⟨-, halways⟩
        have hfull : AnsweredInFull intentId s a := by
          cases a with
          | webhook reference answer drawnCodes =>
              rintro rfl hfree i hi hpending verification hanswer
              by_contra hshort
              rw [Bool.not_eq_true] at hshort
              -- the key would be in, the intent pending still
              have hexec := exec_short (d := d) htracked drawnCodes hfree hi
                hpending hanswer hshort
              have hafter := halways.head
              rw [hexec] at hafter
              exact hafter.spent i hi (mem_insertKey.mpr (Or.inr rfl)) hpending
          | _ => trivial
        obtain ⟨htracked', hspent'⟩ := hnext hfull
        exact ⟨hfull, (ih hrest _ htracked' hspent').mp halways⟩
      · rintro ⟨hfull, hmeets⟩
        obtain ⟨htracked', hspent'⟩ := hnext hfull
        exact ⟨htracked.keyIsOutcome hspent, (ih hrest _ htracked' hspent').mpr hmeets⟩

/-- A webhook that the provider answers with `pending` spends the key; the
payment in full that follows is taken for a duplicate. -/
theorem pending_answer_spends_key :
    let s := run demo (run demo demoState demoBooking)
      [.webhook 10 (some ⟨.pending, 0, none⟩) [], .webhook 10 (some demoPayment) ["LOC1"]]
    keyOf 10 ∈ s.keys ∧ (getIntent s 10).map PaymentIntentRow.status = some .pending ∧
      s.orders = [] ∧ ¬ KeyIsOutcome s 10 := by
  intro s
  have hkey : keyOf 10 ∈ s.keys := by decide +kernel
  have hpending : (getIntent s 10).map PaymentIntentRow.status = some .pending := by decide +kernel
  refine ⟨hkey, hpending, by decide +kernel, fun h => ?_⟩
  obtain ⟨i, hi, hstatus⟩ := Option.map_eq_some_iff.mp hpending
  exact h.spent i hi hkey hstatus

/-- Two full answers in a row: one payment, one duplicate. -/
theorem key_is_outcome_of_full_answers :
    Runs.Always (exec demo) (fun s => KeyIsOutcome s 10) (run demo demoState demoBooking)
      [.webhook 10 (some demoPayment) ["LOC1"], .webhook 10 (some demoPayment) ["LOC2"]] := by
  have hfound : (getIntent (run demo demoState demoBooking) 10).isSome = true := by decide +kernel
  obtain ⟨intent, hintent⟩ := Option.isSome_iff_exists.mp hfound
  have href : (getIntent (run demo demoState demoBooking) 10).bind
    PaymentIntentRow.providerReference
      = some 10 := by decide +kernel
  have hamount : (getIntent (run demo demoState demoBooking) 10).map PaymentIntentRow.amountKobo
      = some 180 := by decide +kernel
  rw [hintent] at href hamount
  have hfresh : keyOf 10 ∉ (run demo demoState demoBooking).keys := by decide +kernel
  refine (key_is_outcome_iff demo demoState_initial demoBooking hintent href hfresh _ ?_).mpr ?_
  · decide
  · refine ⟨?_, ?_, trivial⟩
    · intro _ _ i hi _ verification hanswer
      rw [hintent] at hi
      cases hi
      cases hanswer
      simp only [Option.map_some, Option.some.injEq] at hamount
      simp [isFullSuccess, demoPayment, hamount]
    · intro _ hfree
      exact absurd (by decide +kernel) hfree

end Locoomo.PaymentKeys
