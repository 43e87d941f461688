import Mathlib.Data.List.Perm.Subperm
import Locoomo.Interleaved
import Locoomo.PaymentKeys
import Locoomo.PaymentRaces

/-! What becomes of a charge. A poll asks the provider and settles the intent in
separate steps, with webhooks, bookings and other polls in between. A payment in
full settles a pending intent for good; one that comes after the expiry finds
the intent EXPIRED and is left alone. -/

namespace Locoomo.LatePayments

open Locoomo.Delivery Locoomo.Database Locoomo.Routing Locoomo.Payments Locoomo.System
  Locoomo.Frames Locoomo.Changes Locoomo.Effects Locoomo.Books Locoomo.Transactions
  Locoomo.PaymentKeys Locoomo.PaymentRaces Relational

/-! ## Steps -/

/-- One intent of the poller's batch, as the query read it, and what `verify`
came back with. -/
structure Turn where
  intent : PaymentIntentRow
  answer : Option VerifyAnswer

/-- `refunds` are the intents whose charge was sent back: the provider's `refund`
has no caller. -/
structure Work where
  db : State
  turns : List Turn
  refunds : List Nat

inductive Action
  | atomic (a : System.Action)
  | readStale (intentId : Nat)
  | verify (n : Nat) (answer : VerifyAnswer)
  | settle (n : Nat) (drawnCodes : List String)

def isPoll : System.Action → Bool
  | .pollIntent _ _ _ => true
  | _ => false

def exec (d : Deployment) (w : Work) : Action → Work
  | .atomic a => if isPoll a then w else { w with db := System.exec d w.db a }
  | .readStale intentId =>
      match (getIntent w.db intentId).filter (isStaleIntent w.db.now) with
      | none => w
      | some intent => { w with turns := w.turns ++ [⟨intent, none⟩] }
  | .verify n answer =>
      match w.turns[n]? with
      | some ⟨intent, none⟩ => { w with turns := w.turns.set n ⟨intent, some answer⟩ }
      | _ => w
  | .settle n drawnCodes =>
      match w.turns[n]? with
      | some ⟨intent, some answer⟩ =>
          { w with
            db := Interleaved.commit (processStaleIntent intent answer drawnCodes) w.db
            turns := w.turns.eraseIdx n }
      | _ => w

def run (d : Deployment) (w : Work) (as : List Action) : Work := Runs.run (exec d) w as

/-- A database with no poll under way. -/
def idle (s : State) : Work := ⟨s, [], []⟩

theorem exec_refunds (d : Deployment) (w : Work) (a : Action) :
    (exec d w a).refunds = w.refunds := by
  cases a <;> simp only [exec] <;> split <;> rfl

theorem run_refunds (d : Deployment) (w : Work) (as : List Action) :
    (run d w as).refunds = w.refunds := by
  induction as generalizing w with
  | nil => rfl
  | cons a as ih => exact (ih (exec d w a)).trans (exec_refunds d w a)

/-! ## The property -/

/-- The transaction commits. -/
def Completes (x : Db Unit) (s : State) : Prop := ∃ s', x.run s = .ok ((), s')

instance (x : Db Unit) (s : State) : Decidable (Completes x s) :=
  match h : x.run s with
  | .ok ((), s') => isTrue ⟨s', h⟩
  | .error e => isFalse fun ⟨s', hok⟩ => by
      rw [h] at hok
      cases hok

/-- A webhook or a poll of the intent is handled to completion and `verify`
answers with a success of the full amount. -/
def HandledInFull (w : Work) (intentId : Nat) : Action → Prop
  | .atomic (.webhook reference answer drawnCodes) =>
      (∃ i ∈ getIntent w.db intentId, i.providerReference = some reference ∧
        ∃ verification ∈ answer, isFullSuccess i verification = true) ∧
      Completes (handleWebhook reference answer drawnCodes) w.db
  | .settle n drawnCodes =>
      ∃ turn ∈ w.turns[n]?, turn.intent.id = intentId ∧ turn.intent.providerReference.isSome ∧
        ∃ answer ∈ turn.answer, (∃ verification ∈ answer,
          isFullSuccess turn.intent verification = true) ∧
        Completes (processStaleIntent turn.intent answer drawnCodes) w.db
  | _ => False

instance (w : Work) (intentId : Nat) : ∀ a, Decidable (HandledInFull w intentId a)
  | .atomic (.webhook _ _ _) => inferInstanceAs (Decidable (_ ∧ _))
  | .settle n _ => inferInstanceAs (Decidable (∃ turn ∈ w.turns[n]?, _))
  | .atomic (.tick _) | .atomic (.createPricingRule _) | .atomic (.createSplitRule _)
  | .atomic (.updateProvider _ _) | .atomic (.createIntent _ _)
  | .atomic (.setProviderReference _) | .atomic (.pollIntent _ _ _) | .atomic (.confirm _ _ _)
  | .atomic (.accept _ _) | .atomic (.requestCode _ _ _ _) | .atomic (.resendCode _ _ _)
  | .atomic (.dispatch _ _) | .atomic (.submit _ _) | .atomic (.syncFromSnapshot _ _)
  | .atomic (.cancelLeg _ _ _) | .atomic (.fallbackToInHouse _) | .atomic (.retry _)
  | .atomic .interrupted | .readStale _ | .verify _ _ => isFalse id

/-- PAID, with exactly one order. -/
def PaidOnce (s : State) (intentId : Nat) : Prop :=
  statusOf s intentId = some .paid ∧ (ordersOf s intentId).length = 1

instance (s : State) (intentId : Nat) : Decidable (PaidOnce s intentId) :=
  inferInstanceAs (Decidable (_ ∧ _))

/-- EXPIRED, with no order. -/
def Forfeited (s : State) (intentId : Nat) : Prop :=
  statusOf s intentId = some .expired ∧ ordersOf s intentId = []

/-! ## What becomes of an intent's row -/

/-- An intent keeps its amount and its reference, and its end. -/
structure Onward (i i' : PaymentIntentRow) : Prop where
  id : i'.id = i.id
  amountKobo : i'.amountKobo = i.amountKobo
  reference : ∀ r, i.providerReference = some r → i'.providerReference = some r
  ended : i.status ≠ .pending → i'.status = i.status

theorem Onward.refl (i : PaymentIntentRow) : Onward i i := ⟨rfl, rfl, fun _ h => h, fun _ => rfl⟩

theorem Onward.trans {i i' i'' : PaymentIntentRow} (h : Onward i i') (h' : Onward i' i'') :
    Onward i i'' where
  id := h'.id.trans h.id
  amountKobo := h'.amountKobo.trans h.amountKobo
  reference := fun r hr => h'.reference r (h.reference r hr)
  ended := by
    intro hended
    have hstatus := h.ended hended
    rw [← hstatus] at hended ⊢
    exact h'.ended hended

def Carried (s s' : State) : Prop := ∀ i ∈ s.intents, ∃ i' ∈ s'.intents, Onward i i'

/-- No intent is FAILED: nothing sets that status. -/
def Unfailed (s : State) : Prop := ∀ i ∈ s.intents, i.status ≠ .failed

variable {d : Deployment} {recalls : Bool} {answers : Answers} {s s' s'' : State} {intentId : Nat}

theorem Carried.refl (s : State) : Carried s s := fun i hi => ⟨i, hi, .refl i⟩

theorem Carried.trans (h : Carried s s') (h' : Carried s' s'') : Carried s s'' := by
  intro i hi
  obtain ⟨i', hi', honward⟩ := h i hi
  obtain ⟨i'', hi'', honward'⟩ := h' i' hi'
  exact ⟨i'', hi'', honward.trans honward'⟩

theorem Carried.of_eq (h : s'.intents = s.intents) : Carried s s' :=
  fun i hi => ⟨i, h ▸ hi, .refl i⟩

theorem Carried.get (h : Carried s s') (hb : Balanced s') {i : PaymentIntentRow}
    (hi : getIntent s intentId = some i) : ∃ i', getIntent s' intentId = some i' ∧ Onward i i' := by
  obtain ⟨hmem, hid⟩ := get_some hi
  obtain ⟨i', hi', honward⟩ := h i hmem
  have hkey : i'.id = intentId := honward.id.trans hid
  exact ⟨i', hkey ▸ hb.intentIds.get_eq hi', honward⟩

/-- A pending intent stored over. -/
theorem Carried.put (hb : Balanced s) {intent intent' : PaymentIntentRow}
    (hmem : intent ∈ s.intents) (honward : Onward intent intent')
    (hintents : s'.intents = put PaymentIntentRow.id intent' s.intents) : Carried s s' := by
  intro i hi
  rw [hintents]
  by_cases hid : i.id = intent.id
  · obtain rfl := hb.intentIds.eq_of_key hi hmem hid
    exact ⟨intent', mem_put.mpr (Or.inl ⟨rfl, i, hi, honward.id.symm⟩), honward⟩
  · refine ⟨i, mem_put.mpr (Or.inr ⟨hi, ?_⟩), .refl i⟩
    rw [honward.id]
    exact hid

theorem Unfailed.put (h : Unfailed s) {intent' : PaymentIntentRow}
    (hstatus : intent'.status ≠ .failed)
    (hintents : s'.intents = put PaymentIntentRow.id intent' s.intents) : Unfailed s' := by
  intro i hi
  rw [hintents] at hi
  rcases mem_put.mp hi with ⟨rfl, -⟩ | ⟨hi, -⟩
  · exact hstatus
  · exact h i hi

/-- **Every effect** carries the intents on. -/
theorem carried_effect (hb : Balanced s) (he : Effect recalls answers s s') : Carried s s' := by
  cases he with
  | still h => exact .of_eq h.intents
  | move h => exact .of_eq h.intents
  | book h =>
      intro i hi
      rw [h.eq]
      exact ⟨i, List.mem_append_left _ hi, .refl i⟩
  | refer id h =>
      cases h
      intro i hi
      refine ⟨_, mem_update.mpr ⟨i, hi, rfl⟩, ?_⟩
      split
      · next hid =>
          refine ⟨rfl, rfl, ?_, fun _ => rfl⟩
          intro r hr
          rw [hb.reference i hi r hr, of_decide_eq_true hid]
      · exact .refl i
  | @pay intent verification order _ hpayable h =>
      have honward : Onward intent (paidIntent intent verification s.now) :=
        ⟨rfl, rfl, fun _ hr => hr, fun hended => absurd hpayable.pending hended⟩
      exact .put hb hpayable.stored honward h.intents
  | @expire intent hmem hpending h =>
      have hintents : s'.intents
          = Relational.put PaymentIntentRow.id { intent with status := .expired } s.intents := by
        rw [h]
        rfl
      have honward : Onward intent { intent with status := .expired } :=
        ⟨rfl, rfl, fun _ hr => hr, fun hended => absurd hpending hended⟩
      exact .put hb hmem honward hintents

theorem unfailed_effect (h : Unfailed s) (he : Effect recalls answers s s') : Unfailed s' := by
  cases he with
  | still hs => exact fun i hi => h i (hs.intents ▸ hi)
  | move hs => exact fun i hi => h i (hs.intents ▸ hi)
  | book hb =>
      intro i hi
      rw [hb.eq] at hi
      rcases List.mem_append.mp hi with hi | hi
      · exact h i hi
      · rw [List.mem_singleton.mp hi, hb.status]
        decide
  | refer id hr =>
      cases hr
      intro i hi
      obtain ⟨j, hj, rfl⟩ := mem_update.mp hi
      have hj' := h j hj
      split
      · exact hj'
      · exact hj'
  | pay _ _ hc => exact h.put (fun he => by cases he) hc.intents
  | @expire intent _ _ heq =>
      have hintents : s'.intents
          = Relational.put PaymentIntentRow.id { intent with status := .expired } s.intents := by
        rw [heq]
        rfl
      exact h.put (fun he => by cases he) hintents

/-! ## A poller's turn -/

/-- The recovery transaction, for an answer in full. -/
def Recovers (intent : PaymentIntentRow) (verification : PaymentVerificationResult)
    (drawnCodes : List String) (reference : Nat) (s s' : State) : Prop :=
  (⟨paymentWebhookScope, reference⟩ ∈ s.keys ∧ s' = s) ∨
    (recoverBody intent.id verification drawnCodes).run
      (insertKey paymentWebhookScope reference s) = .ok ((), s')

/-- With a success in full the turn goes through the key. -/
theorem turn_full {intent : PaymentIntentRow} {verification : PaymentVerificationResult}
    {drawnCodes : List String} {reference : Nat} (href : intent.providerReference = some reference)
    (hfull : isFullSuccess intent verification = true)
    (hrun : (processStaleIntent intent (some verification) drawnCodes).run s = .ok ((), s')) :
    Recovers intent verification drawnCodes reference s s' := by
  obtain ⟨skip, s₁, hrecover, hrest⟩ := Tx.run_bind_eq_ok.mp hrun
  simp only [tryRecover, href, hfull, if_true] at hrecover
  obtain ⟨_, s₂, hkey, hret⟩ := Tx.run_bind_eq_ok.mp hrecover
  cases hret
  cases hrest
  rcases withIdempotency_ok hkey with ⟨hused, -, rfl⟩ | ⟨-, _, -, hbody⟩
  · exact Or.inl ⟨hused, rfl⟩
  · exact Or.inr hbody

/-- Any other turn comes to the expiry, or is put off. -/
theorem turn_ok {intent : PaymentIntentRow} {answer : VerifyAnswer} {drawnCodes : List String}
    (hrun : (processStaleIntent intent answer drawnCodes).run s = .ok ((), s')) :
    s' = s ∨ (expire intent.id).run s = .ok ((), s') ∨
      ∃ reference verification, intent.providerReference = some reference ∧
        answer = some verification ∧ isFullSuccess intent verification = true ∧
        Recovers intent verification drawnCodes reference s s' := by
  cases href : intent.providerReference with
  | none =>
      obtain ⟨skip, s₁, hrecover, hrest⟩ := Tx.run_bind_eq_ok.mp hrun
      simp only [tryRecover, href] at hrecover
      cases hrecover
      exact Or.inr (Or.inl hrest)
  | some reference =>
      cases answer with
      | none =>
          obtain ⟨skip, s₁, hrecover, hrest⟩ := Tx.run_bind_eq_ok.mp hrun
          simp only [tryRecover, href] at hrecover
          cases hrecover
          cases hrest
          exact Or.inl rfl
      | some verification =>
          cases hfull : isFullSuccess intent verification with
          | true =>
              exact Or.inr (Or.inr ⟨reference, verification, rfl, rfl, hfull,
                turn_full href hfull hrun⟩)
          | false =>
              obtain ⟨skip, s₁, hrecover, hrest⟩ := Tx.run_bind_eq_ok.mp hrun
              simp only [tryRecover, href, hfull, Bool.false_eq_true, if_false] at hrecover
              cases hrecover
              exact Or.inr (Or.inl hrest)

/-- The row behind a turn may have moved on since the query. -/
def Followed (s : State) (intent : PaymentIntentRow) : Prop :=
  ∃ i, getIntent s intent.id = some i ∧ Onward intent i

theorem Followed.full {intent i : PaymentIntentRow} (honward : Onward intent i)
    {verification : PaymentVerificationResult} (hfull : isFullSuccess intent verification = true) :
    isFullSuccess i verification = true := by
  simpa [isFullSuccess, honward.amountKobo] using hfull

/-- The turn of an intent as it was read, change by change. -/
theorem turn_changes {intent : PaymentIntentRow} {answer : VerifyAnswer} {drawnCodes : List String}
    (h : Followed s intent)
    (hrun : (processStaleIntent intent answer drawnCodes).run s = .ok ((), s')) :
    ChangeSeq d recalls (fun _ => answer) s s' := by
  rcases turn_ok hrun with rfl | hexpire | ⟨reference, verification, -, rfl, hfull, hrecovers⟩
  · exact .refl
  · rcases expire_ok hexpire with ⟨rfl, -⟩ | ⟨i, hi, hpending, rfl⟩
    · exact .refl
    · exact .single (Change.expire (get_some hi).1 hpending rfl)
  · rcases hrecovers with ⟨-, rfl⟩ | hbody
    · exact .refl
    · refine .head (insertKey_change paymentWebhookScope reference) ?_
      rcases recoverBody_ok hbody with ⟨rfl, -⟩ | ⟨i, order, hi, hpending, hconfirmed⟩
      · exact .refl
      · obtain ⟨j, hj, honward⟩ := h
        obtain rfl := Option.some.inj (hj.symm.trans hi)
        exact .single (Change.pay rfl ⟨(get_some hi).1, hpending, Followed.full honward hfull⟩
          hconfirmed)

/-! ## The invariant -/

structure Sound (w : Work) : Prop where
  aligned : Aligned w.db
  balanced : Balanced w.db
  unfailed : Unfailed w.db
  turns : ∀ t ∈ w.turns, Followed w.db t.intent

/-- What a sequence of changes does to sound books. -/
theorem changes_carried (ha : Aligned s) (hb : Balanced s) (hu : Unfailed s)
    (h : ChangeSeq d true answers s s') :
    Aligned s' ∧ Balanced s' ∧ Unfailed s' ∧ Carried s s' :=
  h.keeps (P := fun s' => Balanced s' ∧ Unfailed s' ∧ Carried s s')
    (fun haligned hp hchange => by
      obtain ⟨hbalanced, hunfailed, hcarried⟩ := hp
      have heffect := effect_of_change haligned.inStep hchange
      exact ⟨balanced_change haligned hbalanced hchange, unfailed_effect hunfailed heffect,
        hcarried.trans (carried_effect hbalanced heffect)⟩)
    ha ⟨hb, hu, .refl s⟩

theorem Followed.carried {intent : PaymentIntentRow} (h : Followed s intent) (hc : Carried s s')
    (hb : Balanced s') : Followed s' intent := by
  obtain ⟨i, hi, honward⟩ := h
  obtain ⟨i', hi', honward'⟩ := hc.get hb hi
  exact ⟨i', hi', honward.trans honward'⟩

/-- Other turns, after a sequence of changes. -/
theorem Sound.change {w : Work} (hw : Sound w) {turns : List Turn}
    (hturns : ∀ t ∈ turns, t ∈ w.turns) (h : ChangeSeq d true answers w.db s') :
    Sound { w with db := s', turns } ∧ Carried w.db s' := by
  obtain ⟨ha, hb, hu, hc⟩ := changes_carried hw.aligned hw.balanced hw.unfailed h
  exact ⟨⟨ha, hb, hu, fun t ht => (hw.turns t (hturns t ht)).carried hc hb⟩, hc⟩

/-- **Every step** keeps the books and carries every intent on. -/
theorem Sound.step {w : Work} (hw : Sound w) (a : Action) :
    Sound (exec d w a) ∧ Carried w.db (exec d w a).db := by
  cases a with
  | atomic a =>
      simp only [exec]
      split
      · exact ⟨hw, .refl _⟩
      · exact hw.change (fun t ht => ht) (exec_changes_recalling hw.aligned a)
  | readStale intentId =>
      simp only [exec]
      split
      · exact ⟨hw, .refl _⟩
      · next intent hfound =>
          obtain ⟨hget, -⟩ := Option.filter_eq_some_iff.mp hfound
          refine ⟨⟨hw.aligned, hw.balanced, hw.unfailed, ?_⟩, .refl _⟩
          intro t ht
          rcases List.mem_append.mp ht with ht | ht
          · exact hw.turns t ht
          · rw [List.mem_singleton.mp ht]
            exact ⟨intent, (get_some hget).2 ▸ hget, .refl intent⟩
  | verify n answer =>
      simp only [exec]
      split
      · next intent hturn =>
          refine ⟨⟨hw.aligned, hw.balanced, hw.unfailed, ?_⟩, .refl _⟩
          intro t ht
          rcases List.mem_or_eq_of_mem_set ht with ht | rfl
          · exact hw.turns t ht
          · exact hw.turns ⟨intent, none⟩ (List.mem_of_getElem? hturn)
      · exact ⟨hw, .refl _⟩
  | settle n drawnCodes =>
      simp only [exec]
      split
      · next intent answer hturn =>
          have hfollowed : Followed w.db intent := hw.turns _ (List.mem_of_getElem? hturn)
          have hchanges : ChangeSeq d true (fun _ => answer) w.db
              (Interleaved.commit (processStaleIntent intent answer drawnCodes) w.db) := by
            rcases Interleaved.commit_cases (processStaleIntent intent answer drawnCodes) w.db with
              ⟨s', hrun, heq⟩ | ⟨e, -, heq⟩
            · rw [heq]
              exact turn_changes hfollowed hrun
            · rw [heq]
              exact .single (Change.clerical (rollback_clerical w.db e))
          exact hw.change (fun t ht => List.mem_of_mem_eraseIdx ht) hchanges
      · exact ⟨hw, .refl _⟩

/-- **Every run** does. -/
theorem Sound.run {w : Work} (hw : Sound w) (as : List Action) :
    Sound (run d w as) ∧ Carried w.db (run d w as).db := by
  refine Runs.run_invariant (P := fun w' => Sound w' ∧ Carried w.db w'.db) ?_ ⟨hw, .refl _⟩ as
  rintro w' a ⟨hsound, hcarried⟩
  obtain ⟨hsound', hcarried'⟩ := hsound.step (d := d) a
  exact ⟨hsound', hcarried.trans hcarried'⟩

theorem sound_of_initial (h : Initial s) : Sound (idle s) where
  aligned := aligned_of_initial h
  balanced := balanced_of_initial h
  unfailed := by
    intro i hi
    simp [idle, h.intents] at hi
  turns := by simp [idle]

/-! ## A charge in full -/

theorem paidOnce_of_paid (hb : Balanced s) (h : statusOf s intentId = some .paid) :
    PaidOnce s intentId := by
  refine ⟨h, ?_⟩
  obtain ⟨i, hi, hpaid⟩ := Option.map_eq_some_iff.mp h
  obtain ⟨hmem, hid⟩ := get_some hi
  obtain ⟨o, ho, heq⟩ := hb.placed i hmem hpaid
  have hpos : 0 < (ordersOf s intentId).length :=
    List.length_pos_of_mem (List.mem_filter.mpr ⟨ho, decide_eq_true (heq.trans hid)⟩)
  have hsub : ordersOf s intentId ⊆ [o] := by
    intro o' ho'
    obtain ⟨hmem', heq'⟩ := List.mem_filter.mp ho'
    have hkey : o'.paymentIntentId = o.paymentIntentId :=
      (of_decide_eq_true heq').trans (heq.trans hid).symm
    exact List.mem_singleton.mpr (hb.oneOrder.eq_of_key hmem' ho hkey)
  have hle : (ordersOf s intentId).length ≤ 1 :=
    (List.Nodup.subperm (hb.oneOrder.nodup.filter _) hsub).length_le
  omega

theorem forfeited_of_expired (hb : Balanced s) (h : statusOf s intentId = some .expired) :
    Forfeited s intentId := by
  refine ⟨h, ?_⟩
  obtain ⟨i, hi, hexpired⟩ := Option.map_eq_some_iff.mp h
  obtain ⟨hmem, hid⟩ := get_some hi
  have hne : i.status ≠ .paid := by
    rw [hexpired]
    decide
  refine List.filter_eq_nil_iff.mpr fun o ho heq => ?_
  exact hb.unplaced hmem hne o ho ((of_decide_eq_true heq).trans hid.symm)

/-- An intent that has ended stays so. -/
theorem Carried.statusOf (h : Carried s s') (hb : Balanced s') {status : PaymentIntentStatus}
    (hne : status ≠ .pending) (hs : statusOf s intentId = some status) :
    statusOf s' intentId = some status := by
  obtain ⟨i, hi, rfl⟩ := Option.map_eq_some_iff.mp hs
  obtain ⟨i', hi', honward⟩ := h.get hb hi
  rw [PaymentRaces.statusOf, hi', Option.map_some, honward.ended hne]

/-- The recovery of an intent under its key. -/
theorem recovers_ok {i : PaymentIntentRow} {intent : PaymentIntentRow} {reference : Nat}
    {verification : PaymentVerificationResult} {drawnCodes : List String}
    (hi : getIntent s intent.id = some i)
    (hrecovers : Recovers intent verification drawnCodes reference s s') :
    (s' = { s with keys := s'.keys } ∧
        (⟨paymentWebhookScope, reference⟩ ∈ s.keys ∨ i.status ≠ .pending)) ∨
      i.status = .pending ∧ Settled s' intent.id := by
  rcases hrecovers with ⟨hused, rfl⟩ | hbody
  · exact Or.inl ⟨rfl, Or.inl hused⟩
  · rcases recoverBody_ok hbody with ⟨rfl, hended⟩ | ⟨j, order, hj, hpending, hconfirmed⟩
    · exact Or.inl ⟨rfl, Or.inr (hended i hi)⟩
    · obtain rfl : i = j := Option.some.inj (hi.symm.trans hj)
      exact Or.inr ⟨hpending,
        settled_of_confirmed (t := insertKey paymentWebhookScope reference s) hi hconfirmed⟩

theorem statusOf_of_settled (h : Settled s intentId) : statusOf s intentId = some .paid := by
  obtain ⟨i, hi, hpaid⟩ := h.paid
  rw [statusOf, hi, Option.map_some, hpaid]

/-- **What a charge in full comes to**: a pending intent with its key unspent is
settled; otherwise at most the key is written. -/
theorem handled_ok {w : Work} (hw : Sound w) {a : Action} (h : HandledInFull w intentId a) :
    ∃ i, getIntent w.db intentId = some i ∧
      ((exec d w a).db = { w.db with keys := (exec d w a).db.keys } ∧
          (keyOf intentId ∈ w.db.keys ∨ i.status ≠ .pending) ∨
        i.status = .pending ∧ Settled (exec d w a).db intentId) := by
  cases a with
  | atomic a =>
      cases a with
      | webhook reference answer drawnCodes =>
          obtain ⟨⟨i, hi, href, verification, hverified, hfull⟩, s', hrun⟩ := h
          obtain rfl : answer = some verification := hverified
          obtain ⟨hmem, hid⟩ := get_some hi
          obtain rfl : reference = intentId :=
            (hw.balanced.reference i hmem reference href).trans hid
          have htracked : Tracked w.db reference := ⟨hw.aligned, hw.balanced, i, hi, href⟩
          have hexec : (exec d w (.atomic (.webhook reference (some verification) drawnCodes))).db
              = s' := by
            have hrun' : (tx d (.webhook reference (some verification) drawnCodes)).run w.db
                = .ok ((), s') := hrun
            simp [exec, isPoll, System.exec, hrun']
          rw [hexec]
          refine ⟨i, hi, ?_⟩
          rcases handleWebhook_ok hrun with ⟨hused, rfl⟩ | ⟨-, hbody⟩
          · exact Or.inl ⟨rfl, Or.inl hused⟩
          · rcases webhookBody_ok hbody with ⟨rfl, hskip⟩ |
              ⟨j, v, order, hfound, -, hpayable, hconf⟩
            · refine Or.inl ⟨rfl, Or.inr fun hpending => ?_⟩
              obtain ⟨v, hv, hshort⟩ := hskip i (htracked.find hi) hpending
              obtain rfl := Option.some.inj hv
              rw [hfull] at hshort
              cases hshort
            · obtain rfl : i = j := Option.some.inj ((htracked.find hi).symm.trans hfound)
              exact Or.inr ⟨hpayable.pending,
                settled_of_confirmed (t := insertKey paymentWebhookScope reference w.db) hi hconf⟩
      | _ => cases h
  | settle n drawnCodes =>
      obtain ⟨⟨intent, answered⟩, hturn, rfl, href, answer, hanswered, ⟨verification, hverified,
        hfull⟩, s', hrun⟩ := h
      obtain rfl : answered = some answer := hanswered
      obtain rfl : answer = some verification := hverified
      obtain ⟨reference, href⟩ := Option.isSome_iff_exists.mp href
      rw [Option.mem_def] at hturn
      obtain ⟨i, hi, honward⟩ : Followed w.db intent := hw.turns _ (List.mem_of_getElem? hturn)
      have hkey : reference = intent.id := by
        obtain ⟨hmem, hid⟩ := get_some hi
        exact (hw.balanced.reference i hmem reference (honward.reference reference href)).trans hid
      have hexec : (exec d w (.settle n drawnCodes)).db = s' := by
        simp [exec, hturn, Interleaved.commit, hrun]
      rw [hexec]
      refine ⟨i, hi, ?_⟩
      have hrecovers := recovers_ok hi (turn_full href hfull hrun)
      rwa [hkey] at hrecovers
  | readStale _ => cases h
  | verify _ _ => cases h

/-- **A charge in full is kept** unless it comes after the expiry. Once it has
been handled, with the key not spent beside a pending intent, the intent is PAID
with exactly one order for good. Found EXPIRED, it is left alone for good:
nothing but the key is written, and no refund is asked for. -/
theorem full_charge_is_kept (d : Deployment) {s₀ : State} (h : Initial s₀)
    (before after : List Action)
    (a : Action) (intentId : Nat) (hfull : HandledInFull (run d (idle s₀) before) intentId a) :
    let w := run d (idle s₀) before
    let last := run d (exec d w a) after
    (statusOf w.db intentId ≠ some .expired → SpentOnOutcome w.db intentId →
        PaidOnce last.db intentId) ∧
      (statusOf w.db intentId = some .expired →
        (exec d w a).db = { w.db with keys := (exec d w a).db.keys } ∧
          Forfeited last.db intentId ∧ intentId ∉ last.refunds) := by
  intro w last
  have hw : Sound w := ((sound_of_initial h).run before).1
  have hw' : Sound (exec d w a) := (hw.step a).1
  obtain ⟨hlast, hcarried⟩ := hw'.run (d := d) after
  obtain ⟨i, hi, hcase⟩ := handled_ok (d := d) hw hfull
  have hstatus : statusOf w.db intentId = some i.status := by
    rw [statusOf, hi, Option.map_some]
  constructor
  · intro hne hspent
    refine paidOnce_of_paid hlast.balanced ?_
    rcases hcase with ⟨heq, hwhy⟩ | ⟨-, hsettled⟩
    · have hended : i.status ≠ .pending := hwhy.elim (hspent i hi) id
      have hpaid : i.status = .paid := by
        have hunfailed := hw.unfailed i (get_some hi).1
        rw [hstatus] at hne
        cases hs : i.status with
        | pending => exact absurd hs hended
        | paid => rfl
        | failed => exact absurd hs hunfailed
        | expired => exact absurd (congrArg some hs) hne
      have hsame : (exec d w a).db.intents = w.db.intents := by rw [heq]
      refine hcarried.statusOf hlast.balanced (by decide) ?_
      rw [statusOf, getIntent, hsame, ← getIntent, ← statusOf, hstatus, hpaid]
    · exact hcarried.statusOf hlast.balanced (by decide) (statusOf_of_settled hsettled)
  · intro hexpired
    have hended : i.status = .expired := Option.some.inj (hstatus.symm.trans hexpired)
    rcases hcase with ⟨heq, -⟩ | ⟨hpending, -⟩
    · have hsame : (exec d w a).db.intents = w.db.intents := by rw [heq]
      refine ⟨heq, ?_, ?_⟩
      · refine forfeited_of_expired hlast.balanced (hcarried.statusOf hlast.balanced (by decide) ?_)
        rw [statusOf, getIntent, hsame, ← getIntent, ← statusOf, hexpired]
      · have hnone : last.refunds = [] := by
          rw [run_refunds, exec_refunds, run_refunds]
          rfl
        rw [hnone]
        exact List.not_mem_nil
    · rw [hended] at hpending
      cases hpending

/-! ## Two payments past their time -/

/-- A poll begins on the booking, and the provider answers. -/
def demoStale (answer : PaymentVerificationResult) : Work :=
  run demo (idle demoState) (demoBooking.map .atomic ++
    [.atomic (.tick paymentIntentTtlMs), .readStale 10, .verify 0 (some answer)])

def demoWebhook : Action := .atomic (.webhook 10 (some demoPayment) ["LOC1"])

/-- The poll hears of the payment; a webhook settles it first. -/
theorem demo_charge_kept :
    PaidOnce (run demo (exec demo (demoStale demoPayment) demoWebhook) [.settle 0 ["LOC2"]]).db
      10 := by
  have hfull : HandledInFull (demoStale demoPayment) 10 demoWebhook := by decide +kernel
  have hkept := full_charge_is_kept demo demoState_initial _ [.settle 0 ["LOC2"]] demoWebhook 10
    hfull
  refine hkept.1 ?_ fun i _ hkey => ?_
  · decide +kernel
  · exact absurd hkey (by decide +kernel)

/-- The customer pays once the poll has been told that the payment is pending.
The webhook is handled to completion and the provider confirms the payment in
full, yet the intent stays EXPIRED: no order, no refund, not even a message. -/
theorem late_payment_is_ignored :
    let w := exec demo (demoStale ⟨.pending, 0, none⟩) (.settle 0 [])
    let w' := exec demo w demoWebhook
    HandledInFull w 10 demoWebhook ∧ ¬ (PaidOnce w'.db 10 ∨ 10 ∈ w'.refunds) ∧
      statusOf w'.db 10 = some .expired ∧ w'.db.orders = [] ∧ w'.db.outbox = w.db.outbox := by
  refine ⟨?_, ?_, ?_, ?_, ?_⟩ <;> decide +kernel

end Locoomo.LatePayments
