import Locoomo.Lib.ReadCommitted
import Locoomo.Books

/-! Webhooks and expiry polls of one intent, racing. The webhook and the
poller's recovery exclude each other by the key. The expiry takes no key: it
re-reads the intent without a lock and saves the whole entity, so a payment
committed in between is overwritten. Intent, order and slot agree as long as
nobody settles the intent on a stale re-read. -/

namespace Locoomo.PaymentRaces

open Locoomo.Delivery Locoomo.Pricing Locoomo.Database Locoomo.Routing Locoomo.Payments
  Locoomo.System Locoomo.OrderMoves Locoomo.LegMoves Locoomo.Frames Locoomo.Changes
  Locoomo.Books ReadCommitted Relational

/-! ## The transactions -/

/-- No payment transaction checks a handoff code, so an abort leaves nothing. -/
def rules : Rules State TxError IdempotencyKey := ⟨State.keys, fun s _ => s⟩

abbrev Charges := World State TxError Unit IdempotencyKey

/-- A webhook, or one turn of the poller, with what the provider answers. -/
inductive Charge
  | webhook (answer : VerifyAnswer) (drawnCodes : List String)
  | poll (answer : VerifyAnswer) (drawnCodes : List String)

def Charge.answer : Charge → VerifyAnswer
  | .webhook answer _ | .poll answer _ => answer

/-- Its transaction for an intent as the batch query read it. -/
def transaction (intent : PaymentIntentRow) : Charge → Db Unit
  | .webhook answer drawnCodes => handleWebhook intent.id answer drawnCodes
  | .poll answer drawnCodes => processStaleIntent intent answer drawnCodes

def charged (s : State) (intent : PaymentIntentRow) (charges : List Charge) : Charges :=
  opened s (charges.map (transaction intent))

/-! ## The property -/

def statusOf (s : State) (intentId : Nat) : Option PaymentIntentStatus :=
  (getIntent s intentId).map PaymentIntentRow.status

def ordersOf (s : State) (intentId : Nat) : List OrderRow :=
  s.orders.filter fun o => o.paymentIntentId = intentId

/-- Since `s₀` the Node's slot was released that often: counters and clamp are
those of `s₀` after as many calls of `releaseCapacitySlot`. -/
structure Released (s₀ : State) (nodeId times : Nat) (s : State) : Prop where
  nodes : s.nodes = ((releaseNode nodeId)^[times] s₀).nodes
  clampHits : s.clampHits = ((releaseNode nodeId)^[times] s₀).clampHits

/-- Intent, order and slot agree. -/
structure Agree (s₀ : State) (intent : PaymentIntentRow) (charges : List Charge) (s : State) :
    Prop where
  paid_iff : statusOf s intent.id = some .paid ↔ (ordersOf s intent.id).length = 1
  expired : statusOf s intent.id = some .expired →
    ordersOf s intent.id = [] ∧ Released s₀ intent.originNodeId 1 s
  kept : statusOf s intent.id = some .paid → Released s₀ intent.originNodeId 0 s
  verified : ordersOf s intent.id ≠ [] → ∃ c ∈ charges, ∃ verification,
    c.answer = some verification ∧ isFullSuccess intent verification = true

/-- The transaction has written more than its idempotency key. -/
def Settles (writes : State → State) : Prop :=
  ∃ s, writes s ≠ { s with keys := (writes s).keys }

/-- A transaction that has settled the intent commits only while the committed
intent is still pending. -/
def OnTime (intentId : Nat) (w : Charges) : ReadCommitted.Action → Prop
  | .step i => ∀ writes held, w.calls[i]? = some (.running (.ret ()) writes held) →
      Settles writes → statusOf w.db intentId = some .pending
  | .crash _ => True

/-! ## Programs -/

/-- Whether the transaction goes through the key. -/
def keyed (intent : PaymentIntentRow) : Charge → Bool
  | .webhook _ _ => true
  | .poll answer _ => intent.providerReference.isSome && answer.any (isFullSuccess intent)

variable {s₀ s s' : State} {intent : PaymentIntentRow}

theorem saveIntent_blind (scope : String) (key : Nat) (i : PaymentIntentRow) :
    Blind (insertKey scope key) (saveIntent i) := by
  refine Blind.andThen (Blind.read fun _ => rfl) fun row => ?_
  cases row with
  | none => exact Blind.write fun _ => rfl
  | some row =>
      refine Blind.write fun s => ?_
      have hget : getIntent (insertKey scope key s) i.id = getIntent s i.id := rfl
      rw [hget]
      cases getIntent s i.id <;> rfl

/-- The expiry does not look at the keys. -/
theorem expire_blind (scope : String) (key intentId : Nat) :
    Blind (insertKey scope key) (expire intentId) := by
  refine Blind.andThen (Blind.read fun _ => rfl) fun fresh => ?_
  cases fresh with
  | none => exact .ret ()
  | some intent =>
      dsimp only
      split
      · exact .ret ()
      · exact Blind.andThen (saveIntent_blind _ _ _) fun _ => Blind.write fun _ => rfl

theorem tryRecover_not_keyed {answer : VerifyAnswer} {drawnCodes : List String}
    (h : keyed intent (.poll answer drawnCodes) = false) :
    ∃ r, tryRecover intent answer drawnCodes = .ret r := by
  unfold tryRecover
  cases href : intent.providerReference with
  | none => exact ⟨_, rfl⟩
  | some reference =>
      cases answer with
      | none => exact ⟨_, rfl⟩
      | some verification =>
          have hshort : isFullSuccess intent verification = false := by
            simpa [keyed, href] using h
          simp only [hshort, Bool.false_eq_true, if_false]
          exact ⟨_, rfl⟩

/-- A charge without the key does not see it. -/
theorem transaction_blind {c : Charge} (h : keyed intent c = false) (scope : String)
    (key : Nat) : Blind (insertKey scope key) (transaction intent c) := by
  cases c with
  | webhook answer drawnCodes => cases h
  | poll answer drawnCodes =>
      obtain ⟨r, hr⟩ := tryRecover_not_keyed h
      rw [transaction, processStaleIntent, hr]
      refine Blind.andThen (.ret r) fun skip => ?_
      cases skip with
      | true => exact .ret ()
      | false => exact expire_blind scope key intent.id

/-- A charge with the key begins with its insert. -/
theorem transaction_keyed {c : Charge} (h : keyed intent c = true)
    (href : ∀ r, intent.providerReference = some r → r = intent.id) :
    ∃ next, transaction intent c = .stmt
      (fun s => if ⟨paymentWebhookScope, intent.id⟩ ∈ s.keys then s
        else insertKey paymentWebhookScope intent.id s) next := by
  cases c with
  | webhook answer drawnCodes =>
      exact ⟨_, withIdempotency_stmt paymentWebhookScope intent.id _ _⟩
  | poll answer drawnCodes =>
      simp only [keyed, Bool.and_eq_true, Option.isSome_iff_exists, Option.any_eq_true] at h
      obtain ⟨⟨reference, hreference⟩, verification, hanswer, hfull⟩ := h
      obtain rfl := href reference hreference
      have hrecover : tryRecover intent answer drawnCodes =
          withIdempotency paymentWebhookScope intent.id
            (recoverBody intent.id verification drawnCodes) >>= fun _ => pure true := by
        simp only [tryRecover, hreference, hanswer, hfull, if_true]
      rw [transaction, processStaleIntent, hrecover, withIdempotency_stmt]
      exact ⟨_, rfl⟩

/-! ## While the intent is pending -/

abbrev chargeKey (intent : PaymentIntentRow) : IdempotencyKey := ⟨paymentWebhookScope, intent.id⟩

/-- The intent as it was booked, in a sound state. -/
structure Fresh (s₀ : State) (intent : PaymentIntentRow) : Prop where
  aligned : Aligned s₀
  balanced : Balanced s₀
  stored : getIntent s₀ intent.id = some intent
  pending : intent.status = .pending

/-- The state while the intent is pending: at most the key is new. -/
inductive Idle (s₀ : State) (intent : PaymentIntentRow) : State → Prop
  | same : Idle s₀ intent s₀
  | key (hfresh : chargeKey intent ∉ s₀.keys) :
      Idle s₀ intent (insertKey paymentWebhookScope intent.id s₀)

/-- A call of a charge with the key: not begun, past the insert, or told that
the key is there. -/
def Sound (intent : PaymentIntentRow) (c : Charge) (s : State)
    (call : Call State TxError Unit IdempotencyKey) : Prop :=
  if keyed intent c then
    call = .running (transaction intent c) id [] ∨ chargeKey intent ∈ call.held ∨
      chargeKey intent ∈ s.keys ∨ call.isRunning = false
  else BlindCall (insertKey paymentWebhookScope intent.id) call

structure Waiting (s₀ : State) (intent : PaymentIntentRow) (charges : List Charge)
    (w : Charges) : Prop where
  idle : Idle s₀ intent w.db
  one : OneHolder (chargeKey intent) w.calls
  calls : ∀ (i : Nat) call, w.calls[i]? = some call → ∃ c, charges[i]? = some c ∧
    Current (transaction intent c) w.db call ∧ Sound intent c w.db call

namespace Idle

theorem intents (h : Idle s₀ intent s) : s.intents = s₀.intents := by
  cases h <;> rfl

theorem orders (h : Idle s₀ intent s) : s.orders = s₀.orders := by
  cases h <;> rfl

theorem nodes (h : Idle s₀ intent s) : s.nodes = s₀.nodes := by
  cases h <;> rfl

theorem clampHits (h : Idle s₀ intent s) : s.clampHits = s₀.clampHits := by
  cases h <;> rfl

theorem getIntent (h : Idle s₀ intent s) (hf : Fresh s₀ intent) :
    Database.getIntent s intent.id = some intent := by
  rw [Database.getIntent, h.intents]
  exact hf.stored

/-- The pending intent has no order. -/
theorem unplaced (h : Idle s₀ intent s) (hf : Fresh s₀ intent) : ordersOf s intent.id = [] := by
  rw [ordersOf, h.orders, List.filter_eq_nil_iff]
  intro o ho
  have hpending : intent.status ≠ .paid := by
    rw [hf.pending]
    decide
  simpa using hf.balanced.unplaced (get_some hf.stored).1 hpending o ho

theorem agree (h : Idle s₀ intent s) (hf : Fresh s₀ intent) (charges : List Charge) :
    Agree s₀ intent charges s := by
  have hstatus : statusOf s intent.id = some .pending := by
    rw [statusOf, h.getIntent hf, Option.map_some, hf.pending]
  have hnone := h.unplaced hf
  refine ⟨?_, ?_, ?_, ?_⟩
  · rw [hstatus, hnone]
    simp
  · rw [hstatus]
    exact fun he => nomatch he
  · rw [hstatus]
    exact fun he => nomatch he
  · exact fun he => absurd hnone he

end Idle

/-! ## How it ends -/

/-- The intent has come to its end, and all agrees. -/
structure Settled (s₀ : State) (intent : PaymentIntentRow) (charges : List Charge) (s : State) :
    Prop where
  ended : statusOf s intent.id ≠ some .pending
  agree : Agree s₀ intent charges s

/-- A confirmation from an idle state settles. -/
theorem settled_of_confirmed (hf : Fresh s₀ intent) {t : State} (ht : Idle s₀ intent s)
    (htkeys : t = { s with keys := t.keys }) {charges : List Charge} {c : Charge}
    (hc : c ∈ charges) {verification : PaymentVerificationResult} {order : OrderRow}
    (hanswer : c.answer = some verification) (hfull : isFullSuccess intent verification = true)
    (h : Confirmed t s' intent verification order) : Settled s₀ intent charges s' := by
  have hintents : t.intents = s₀.intents := by rw [htkeys, ← ht.intents]
  have horders : t.orders = s₀.orders := by rw [htkeys, ← ht.orders]
  have hnodes : t.nodes = s₀.nodes := by rw [htkeys, ← ht.nodes]
  have hclamp : t.clampHits = s₀.clampHits := by rw [htkeys, ← ht.clampHits]
  obtain ⟨hmem, -⟩ := get_some hf.stored
  have hstatus : statusOf s' intent.id = some .paid := by
    have hget : getIntent s' intent.id = some (paidIntent intent verification t.now) := by
      have hrow : ∃ i ∈ t.intents, i.id = (paidIntent intent verification t.now).id :=
        ⟨intent, hintents ▸ hmem, rfl⟩
      rw [getIntent, h.intents]
      exact get_put_self hrow
    rw [statusOf, hget]
    rfl
  have hplaced : ordersOf s' intent.id = [order] := by
    have hnone := ht.unplaced hf
    rw [ordersOf, ht.orders] at hnone
    rw [ordersOf, h.orders, horders, List.filter_append, hnone, List.nil_append]
    simp [h.placed.paymentIntentId, paidIntent]
  refine ⟨by rw [hstatus]; decide, ?_, ?_, ?_, ?_⟩
  · rw [hstatus, hplaced]
    simp
  · rw [hstatus]
    exact fun he => nomatch he
  · refine fun _ => ⟨?_, ?_⟩
    · rw [h.frame]
      exact hnodes
    · rw [h.frame]
      exact hclamp
  · exact fun _ => ⟨c, hc, verification, hanswer, hfull⟩

/-- So does an expiry. -/
theorem settled_of_expired (hf : Fresh s₀ intent) (h : Idle s₀ intent s)
    (charges : List Charge) :
    Settled s₀ intent charges
      (releaseNode intent.originNodeId (putIntent s { intent with status := .expired })) := by
  obtain ⟨hmem, -⟩ := get_some hf.stored
  have hstatus : statusOf (releaseNode intent.originNodeId
      (putIntent s { intent with status := .expired })) intent.id = some .expired := by
    have hget : getIntent (releaseNode intent.originNodeId
        (putIntent s { intent with status := .expired })) intent.id
          = some { intent with status := .expired } := by
      have hrow : ∃ i ∈ s.intents,
          i.id = ({ intent with status := .expired } : PaymentIntentRow).id :=
        ⟨intent, h.intents ▸ hmem, rfl⟩
      exact get_put_self hrow
    rw [statusOf, hget]
    rfl
  have hnone : ordersOf (releaseNode intent.originNodeId
      (putIntent s { intent with status := .expired })) intent.id = [] := h.unplaced hf
  refine ⟨by rw [hstatus]; decide, ?_, ?_, ?_, ?_⟩
  · rw [hstatus, hnone]
    simp
  · refine fun _ => ⟨hnone, ?_, ?_⟩
    · change (releaseNode intent.originNodeId s).nodes = (releaseNode intent.originNodeId s₀).nodes
      simp only [releaseNode, adjustNode, h.nodes]
    · change (releaseNode intent.originNodeId s).clampHits
        = (releaseNode intent.originNodeId s₀).clampHits
      simp only [releaseNode, h.nodes, h.clampHits]
  · rw [hstatus]
    exact fun he => nomatch he
  · exact fun he => absurd hnone he

/-- Keys may still come in afterwards. -/
theorem Settled.keys {charges : List Charge} (h : Settled s₀ intent charges s)
    (hkeys : s' = { s with keys := s'.keys }) : Settled s₀ intent charges s' := by
  have hstatus : statusOf s' intent.id = statusOf s intent.id := by rw [hkeys]; rfl
  have horders : ordersOf s' intent.id = ordersOf s intent.id := by rw [hkeys]; rfl
  have hreleased : ∀ {n}, Released s₀ intent.originNodeId n s →
      Released s₀ intent.originNodeId n s' := by
    intro n hr
    refine ⟨?_, ?_⟩
    · rw [hkeys]
      exact hr.nodes
    · rw [hkeys]
      exact hr.clampHits
  refine ⟨by rw [hstatus]; exact h.ended, ?_, ?_, ?_, ?_⟩
  · rw [hstatus, horders]
    exact h.agree.paid_iff
  · rw [hstatus, horders]
    exact fun he => ⟨(h.agree.expired he).1, hreleased (h.agree.expired he).2⟩
  · rw [hstatus]
    exact fun he => hreleased (h.agree.kept he)
  · rw [horders]
    exact h.agree.verified

/-! ## One step -/

theorem Idle.key_of_fresh (h : Idle s₀ intent s) (hkey : chargeKey intent ∉ s.keys) :
    Idle s₀ intent (insertKey paymentWebhookScope intent.id s) := by
  cases h with
  | same => exact .key hkey
  | key hfresh => exact absurd (List.mem_append_right _ (List.mem_singleton.mpr rfl)) hkey

/-- What a whole transaction does to an idle state: nothing, its key, or it
settles the intent. -/
theorem transaction_ok (hf : Fresh s₀ intent) (h : Idle s₀ intent s) {charges : List Charge}
    {c : Charge} (hc : c ∈ charges) (hrun : (transaction intent c).run s = .ok ((), s')) :
    s' = s ∨ (keyed intent c = true ∧ chargeKey intent ∉ s.keys ∧
      s' = insertKey paymentWebhookScope intent.id s) ∨ Settled s₀ intent charges s' := by
  cases c with
  | webhook answer drawnCodes =>
      rcases handleWebhook_ok hrun with ⟨-, rfl⟩ | ⟨hfresh, hbody⟩
      · exact Or.inl rfl
      · rcases webhookBody_ok hbody with ⟨rfl, -⟩ | ⟨found, v, order, hfound, hv, hpayable, hconf⟩
        · exact Or.inr (Or.inl ⟨rfl, hfresh, rfl⟩)
        · have hmem : found ∈ s₀.intents := by
            rw [← h.intents]
            exact hpayable.stored
          have hreference : found.providerReference = some intent.id := by
            simpa using List.find?_some hfound
          have hid := hf.balanced.reference found hmem intent.id hreference
          obtain rfl : intent = found :=
            hf.balanced.intentIds.eq_of_key (get_some hf.stored).1 hmem hid
          exact Or.inr (Or.inr (settled_of_confirmed hf h rfl hc hv hpayable.full hconf))
  | poll answer drawnCodes =>
      obtain ⟨skip, s₁, hrecover, hrest⟩ := Tx.run_bind_eq_ok.mp hrun
      rcases tryRecover_ok (h.getIntent hf) hf.pending hrecover with
        ⟨rfl, rfl, -⟩ | ⟨reference, -, rfl, hcase⟩
      · rcases expire_ok hrest with ⟨-, hnot⟩ | ⟨i, hi, -, rfl⟩
        · exact absurd hf.pending (hnot intent (h.getIntent hf))
        · obtain rfl : intent = i := Option.some.inj ((h.getIntent hf).symm.trans hi)
          exact Or.inr (Or.inr (settled_of_expired hf h charges))
      · cases hrest
        rcases hcase with ⟨rfl, -⟩ | ⟨-, v, order, hv, hpayable, hconf⟩
        · exact Or.inl rfl
        · exact Or.inr (Or.inr (settled_of_confirmed hf h rfl hc hv hpayable.full hconf))

/-- A statement of the call's own keeps it sound. -/
theorem Sound.moves {c : Charge} {change : State → State} {next : State → Db Unit}
    {writes : State → State} {held : List IdempotencyKey}
    (href : ∀ r, intent.providerReference = some r → r = intent.id)
    (h : Sound intent c s (.running (.stmt change next) writes held)) :
    Sound intent c s (.running (next (writes s)) (change ∘ writes)
      (held ++ inserted rules (writes s) (change (writes s)))) := by
  unfold Sound at h ⊢
  cases hkeyed : keyed intent c with
  | false =>
      simp only [hkeyed, Bool.false_eq_true, if_false] at h ⊢
      exact h.moves
  | true =>
      simp only [hkeyed, if_true] at h ⊢
      rcases h with hbegun | hheld | hkey | hended
      · obtain ⟨hrest, rfl, rfl⟩ := Call.running.inj hbegun
        obtain ⟨next', hprogram⟩ := transaction_keyed hkeyed href
        rw [hprogram] at hrest
        obtain ⟨rfl, -⟩ := Tx.stmt.inj hrest
        by_cases hkey : chargeKey intent ∈ s.keys
        · exact Or.inr (Or.inr (Or.inl hkey))
        · refine Or.inr (Or.inl ?_)
          change chargeKey intent ∈ [] ++ inserted rules s (if chargeKey intent ∈ s.keys then s
            else insertKey paymentWebhookScope intent.id s)
          rw [if_neg hkey, List.nil_append, inserted, List.mem_filter]
          exact ⟨List.mem_append_right _ (List.mem_singleton.mpr rfl), decide_eq_true hkey⟩
      · exact Or.inr (Or.inl (List.mem_append_left _ hheld))
      · exact Or.inr (Or.inr (Or.inl hkey))
      · cases hended

/-- A call that is about to commit a fresh key holds it. -/
theorem Sound.holds {c : Charge} {writes : State → State} {held : List IdempotencyKey}
    (href : ∀ r, intent.providerReference = some r → r = intent.id)
    (h : Sound intent c s (.running (.ret ()) writes held)) (hkeyed : keyed intent c = true)
    (hfresh : chargeKey intent ∉ s.keys) : chargeKey intent ∈ held := by
  simp only [Sound, hkeyed, if_true] at h
  rcases h with hbegun | hheld | hkey | hended
  · have hrest := (Call.running.inj hbegun).1
    obtain ⟨next, hprogram⟩ := transaction_keyed hkeyed href
    rw [hprogram] at hrest
    cases hrest
  · exact hheld
  · exact absurd hkey hfresh
  · cases hended

/-- The other calls, when one call has committed the key alone. -/
theorem after_key {c : Charge} {call : Call State TxError Unit IdempotencyKey}
    (hcurrent : Current (transaction intent c) s call) (hsound : Sound intent c s call)
    (hfresh : chargeKey intent ∉ s.keys) (hfree : chargeKey intent ∉ call.held) :
    Current (transaction intent c) (insertKey paymentWebhookScope intent.id s) call ∧
      Sound intent c (insertKey paymentWebhookScope intent.id s) call := by
  unfold Sound at hsound ⊢
  cases hkeyed : keyed intent c with
  | false =>
      rw [hkeyed] at hsound
      exact ⟨hcurrent.blind (transaction_blind hkeyed _ _) hsound, hsound⟩
  | true =>
      simp only [hkeyed, if_true] at hsound ⊢
      rcases hsound with rfl | hheld | hkey | hended
      · exact ⟨current_opened _ _, Or.inl rfl⟩
      · exact absurd hheld hfree
      · exact absurd hkey hfresh
      · refine ⟨?_, Or.inr (Or.inr (Or.inr hended))⟩
        cases call with
        | running rest writes held => cases hended
        | committed a => trivial
        | failed => trivial

theorem Sound.ended (c : Charge) (s : State) {call : Call State TxError Unit IdempotencyKey}
    (h : call.isRunning = false) :
    Current (transaction intent c) s call ∧ Sound intent c s call := by
  cases call with
  | running rest writes held => cases h
  | committed a =>
      refine ⟨trivial, ?_⟩
      unfold Sound
      split
      · exact Or.inr (Or.inr (Or.inr rfl))
      · trivial
  | failed =>
      refine ⟨trivial, ?_⟩
      unfold Sound
      split
      · exact Or.inr (Or.inr (Or.inr rfl))
      · trivial

/-- **One action while the intent is pending** leaves it pending, or settles it. -/
theorem Waiting.next (hf : Fresh s₀ intent) {charges : List Charge} {w w' : Charges}
    (h : Waiting s₀ intent charges w) (hstep : Step rules w w') :
    Waiting s₀ intent charges w' ∨ Settled s₀ intent charges w'.db := by
  have hone := h.one.step hstep
  obtain ⟨hidle, hheld, hcalls⟩ := h
  have href := hf.balanced.reference intent (get_some hf.stored).1
  have hset : ∀ {i : Nat} {call' : Call State TxError Unit IdempotencyKey},
      (∃ c, charges[i]? = some c ∧ Current (transaction intent c) w.db call' ∧
        Sound intent c w.db call') → ∀ (j : Nat) call, (w.calls.set i call')[j]? = some call →
          ∃ c, charges[j]? = some c ∧ Current (transaction intent c) w.db call ∧
            Sound intent c w.db call :=
    fun hnew => forall_set (fun j call _ hj => hcalls j call hj) hnew
  cases hstep with
  | stays => exact Or.inl ⟨hidle, hone, hcalls⟩
  | moves hi hfree =>
      obtain ⟨c, hc, hcurrent, hsound⟩ := hcalls _ _ hi
      exact Or.inl ⟨hidle, hone, hset ⟨c, hc, hcurrent.moves, hsound.moves href⟩⟩
  | @commits i a writes held hi =>
      obtain ⟨c, hc, hcurrent, hsound⟩ := hcalls _ _ hi
      have hrun := hcurrent.commits
      rcases transaction_ok hf hidle (List.mem_of_getElem? hc) hrun with
        hsame | ⟨hkeyed, hfresh, hkey⟩ | hsettled
      · refine Or.inl ⟨?_, hone, ?_⟩
        · change Idle s₀ intent (writes w.db)
          rw [hsame]
          exact hidle
        · change ∀ (j : Nat) call, (w.calls.set i (.committed a))[j]? = some call → ∃ c,
            charges[j]? = some c ∧ Current (transaction intent c) (writes w.db) call ∧
              Sound intent c (writes w.db) call
          rw [hsame]
          exact hset ⟨c, hc, Sound.ended c w.db rfl⟩
      · have hk : chargeKey intent ∈ held := hsound.holds href hkeyed hfresh
        refine Or.inl ⟨?_, hone, ?_⟩
        · change Idle s₀ intent (writes w.db)
          rw [hkey]
          exact hidle.key_of_fresh hfresh
        · refine forall_set (fun j call hji hj => ?_) ⟨c, hc, Sound.ended c _ rfl⟩
          obtain ⟨c', hc', hcurrent', hsound'⟩ := hcalls j call hj
          have hother : chargeKey intent ∉ call.held :=
            fun hkc => hji (hheld i j _ _ hi hj hk hkc).symm
          change ∃ c, charges[j]? = some c ∧ Current (transaction intent c) (writes w.db) call ∧
            Sound intent c (writes w.db) call
          rw [hkey]
          exact ⟨c', hc', after_key hcurrent' hsound' hfresh hother⟩
      · exact Or.inr hsettled
  | aborts hi =>
      obtain ⟨c, hc, -, -⟩ := hcalls _ _ hi
      exact Or.inl ⟨hidle, hone, hset ⟨c, hc, Sound.ended c w.db rfl⟩⟩
  | crashes hi =>
      obtain ⟨c, hc, -, -⟩ := hcalls _ _ hi
      exact Or.inl ⟨hidle, hone, hset ⟨c, hc, Sound.ended c w.db rfl⟩⟩

/-- **One action afterwards**, on time, adds a key at most. -/
theorem Settled.next {charges : List Charge} {w : Charges} {x : ReadCommitted.Action}
    (h : Settled s₀ intent charges w.db) (htime : OnTime intent.id w x) :
    Settled s₀ intent charges (exec rules w x).db := by
  cases x with
  | crash i =>
      simp only [ReadCommitted.exec]
      split
      · exact h
      · exact h
  | step i =>
      simp only [ReadCommitted.exec]
      split
      · next a writes held hi =>
          by_contra hbroken
          refine h.ended (htime writes held hi ⟨w.db, fun heq => hbroken ?_⟩)
          exact h.keys heq
      · exact h
      · split
        · exact h
        · exact h
      · exact h

/-! ## Runs -/

theorem waiting_charged (s₀ : State) (intent : PaymentIntentRow) (charges : List Charge) :
    Waiting s₀ intent charges (charged s₀ intent charges) where
  idle := .same
  one := oneHolder_opened _ _ _
  calls := by
    intro i call hi
    rw [charged, opened, List.getElem?_map, List.getElem?_map, Option.map_map,
      Option.map_eq_some_iff] at hi
    obtain ⟨c, hc, rfl⟩ := hi
    refine ⟨c, hc, current_opened _ _, ?_⟩
    unfold Sound
    cases hkeyed : keyed intent c with
    | false =>
        simp only [Bool.false_eq_true, if_false]
        exact BlindCall.opened (transaction_blind hkeyed _ _)
    | true => exact Or.inl rfl

/-- **Intent, order and slot agree** in every state of every run of webhooks
and polls whose settling commits are on time. -/
theorem agree_of_on_time (d : Deployment) {initial : State} (h : Initial initial)
    (before : List System.Action) {intent : PaymentIntentRow}
    (hstored : getIntent (run d initial before) intent.id = some intent)
    (hpending : intent.status = .pending) (charges : List Charge)
    (schedule : List ReadCommitted.Action)
    (hmeets : Runs.Meets (exec rules) (OnTime intent.id)
      (charged (run d initial before) intent charges) schedule) :
    Runs.Always (exec rules) (fun w => Agree (run d initial before) intent charges w.db)
      (charged (run d initial before) intent charges) schedule := by
  obtain ⟨haligned, hbalanced⟩ := run_balanced d h before
  have hf : Fresh (run d initial before) intent := ⟨haligned, hbalanced, hstored, hpending⟩
  generalize run d initial before = s₀ at hf hmeets
  have hphase : Runs.Always (exec rules)
      (fun w => Waiting s₀ intent charges w ∨ Settled s₀ intent charges w.db)
      (charged s₀ intent charges) schedule := by
    refine Runs.always_of_meets (fun w x hw htime => ?_)
      (Or.inl (waiting_charged s₀ intent charges)) hmeets
    rcases hw with hwaiting | hsettled
    · exact hwaiting.next hf (exec_step rules w x)
    · exact Or.inr (hsettled.next htime)
  refine hphase.mono fun w hw => ?_
  rcases hw with hwaiting | hsettled
  · exact hwaiting.idle.agree hf charges
  · exact hsettled.agree

/-- The intent of the demo booking. -/
def demoIntent : PaymentIntentRow :=
  (getIntent (run demo demoState demoBooking) 10).get (by decide +kernel)

theorem demoIntent_stored :
    getIntent (run demo demoState demoBooking) demoIntent.id = some demoIntent := by
  have hget : getIntent (run demo demoState demoBooking) 10 = some demoIntent :=
    (Option.some_get _).symm
  have hid : demoIntent.id = 10 := (get_some hget).2
  rw [hid]
  exact hget

/-- A poll that expires the intent, and a webhook that is paid in full. -/
def demoCharges : List Charge :=
  [.poll (some ⟨.pending, 0, none⟩) [], .webhook (some demoPayment) ["LOC1"]]

/-- The poll re-reads the pending intent; the webhook confirms the payment and
commits; the poll saves its copy as expired and releases the slot. -/
theorem stale_expiry_overwrites_payment :
    let s₀ := run demo demoState demoBooking
    let w := Runs.run (ReadCommitted.exec rules) (charged s₀ demoIntent demoCharges)
      ([.step 0] ++ List.replicate 9 (.step 1) ++ List.replicate 5 (.step 0))
    w.calls.map Call.isRunning = [false, false] ∧ statusOf w.db 10 = some .expired ∧
      (ordersOf w.db 10).length = 1 ∧ ¬ Agree s₀ demoIntent demoCharges w.db := by
  intro s₀ w
  have hexpired : statusOf w.db demoIntent.id = some .expired := by decide +kernel
  have horder : ordersOf w.db demoIntent.id ≠ [] := by decide +kernel
  refine ⟨by decide +kernel, by decide +kernel, by decide +kernel, fun h => ?_⟩
  exact horder (h.expired hexpired).1

/-- The same two, the poll's connection lost after its re-read. -/
theorem demo_agree_on_time :
    let s₀ := run demo demoState demoBooking
    let schedule := [.step 0] ++ List.replicate 9 (.step 1) ++ [.crash 0]
    Runs.Always (ReadCommitted.exec rules) (fun w => Agree s₀ demoIntent demoCharges w.db)
      (charged s₀ demoIntent demoCharges) schedule := by
  intro s₀ schedule
  refine agree_of_on_time demo demoState_initial demoBooking demoIntent_stored
    (by decide +kernel) demoCharges schedule ?_
  have hmeets : Runs.Meets (ReadCommitted.exec rules)
      (fun w x => statusOf w.db demoIntent.id = some .pending ∨ x = .crash 0)
      (charged s₀ demoIntent demoCharges) schedule := by
    decide +kernel
  refine hmeets.mono fun w x hx => ?_
  rcases hx with hpending | rfl
  · cases x with
    | step i => exact fun _ _ _ _ => hpending
    | crash i => trivial
  · trivial

end Locoomo.PaymentRaces
