import Locoomo.HistorySteps
import Locoomo.LegWork
import Locoomo.Money
import Locoomo.StepEffects

/-! The idempotency keys of the confirming steps, over every run. A step's key
is in the table only once the order has walked the step's edge, and no order
ever walks back over it; so a step that still can move its order is never
turned away as a duplicate. -/

namespace Locoomo.StepKeys

open Locoomo.Delivery Locoomo.Database Locoomo.Routing Locoomo.Logistics Locoomo.Handoffs
  Locoomo.Payments Locoomo.System Locoomo.OrderMoves Locoomo.LegMoves Locoomo.Lockstep
  Locoomo.Frames Locoomo.Changes Locoomo.Transactions Locoomo.StepEffects Locoomo.Histories
  Locoomo.LegWork Relational

variable {d : Deployment} {s s' : State}

/-! ## How far an order is -/

/-- No edge of the order state machine goes down, and the steps at a counter
go up. -/
def stage : OrderStatus → Nat
  | .awaitingDropOff | .cancelled | .disputed => 0
  | .parcelReceivedAtOrigin | .riderAssigned => 1
  | .inTransit => 2
  | .arrivedAtDestination | .returnInitiated => 3
  | .readyForCollection | .returnInTransit => 4
  | .completed | .returnedToOrigin => 5
  | .readyForSenderCollection => 6
  | .returnCompleted => 7

theorem stage_move (m : OrderMove) : stage m.source ≤ stage m.target := by
  cases m <;> simp [stage, OrderMove.source, OrderMove.target]

theorem stage_edge (step : ConfirmStep) : stage (edgeOf step).1 < stage (edgeOf step).2 := by
  cases step <;> decide

/-- The orders are all still there, and none of them has gone back. -/
def Onwards (s s' : State) : Prop :=
  ∀ orderId o, getOrder s orderId = some o →
    ∃ o', getOrder s' orderId = some o' ∧ stage o.status ≤ stage o'.status

theorem onwards_frame : Tx.Frame Onwards where
  refl _ := fun _ o ho => ⟨o, ho, le_rfl⟩
  trans h₁ h₂ := by
    intro orderId o ho
    obtain ⟨o₁, ho₁, hle₁⟩ := h₁ orderId o ho
    obtain ⟨o₂, ho₂, hle₂⟩ := h₂ orderId o₁ ho₁
    exact ⟨o₂, ho₂, hle₁.trans hle₂⟩

theorem onwards_of_orders (h : s'.orders = s.orders) : Onwards s s' := by
  intro orderId o ho
  exact ⟨o, by rwa [getOrder, h], le_rfl⟩

/-- **No entry takes an order back.** -/
theorem onwards_of_entry {asks : Bool} (h : Entry asks s s') : Onwards s s' := by
  cases h with
  | aside h => exact onwards_of_orders h.orders
  | opened h =>
      intro orderId o ho
      refine ⟨o, ?_, le_rfl⟩
      rw [h.eq]
      change (s.orders ++ _).find? _ = some o
      rw [List.find?_append]
      change (getOrder s orderId).or _ = some o
      rw [ho]
      rfl
  | @stepped m moved h =>
      intro orderId o ho
      rw [h.eq]
      have hid := m.row_id s.orders moved
      by_cases heq : orderId = moved.id
      · subst heq
        obtain rfl : moved = o := Option.some.inj (h.found.symm.trans ho)
        refine ⟨m.row s.orders moved, ?_, ?_⟩
        · rw [← hid]
          exact get_put_self ⟨moved, (getOrder_mem ho).1, hid.symm⟩
        · rw [m.row_status, h.source]
          exact stage_move m
      · refine ⟨o, ?_, le_rfl⟩
        rw [← ho]
        refine get_put_of_ne fun h => heq ?_
        rw [h, hid]

theorem onwards_of_history {asks : Bool} (h : History asks s s') : Onwards s s' := by
  induction h with
  | refl => exact onwards_frame.refl s
  | tail _ hlast ih => exact onwards_frame.trans ih (onwards_of_entry hlast)

/-! ## The invariant -/

/-- The key of a step is spent only by walking the step's edge. -/
def Keyed (s : State) : Prop :=
  ∀ step orderId, (⟨ConfirmStep.scope step, orderId⟩ : IdempotencyKey) ∈ s.keys →
    ∃ o, getOrder s orderId = some o ∧ stage (edgeOf step).2 ≤ stage o.status

theorem scope_ne_payment (step : ConfirmStep) : step.scope ≠ paymentWebhookScope := by
  cases step <;> decide

theorem Keyed.onwards (h : Keyed s) (hs : Onwards s s')
    (hkeys : ∀ k ∈ s'.keys, k ∈ s.keys ∨ k.scope = paymentWebhookScope) : Keyed s' := by
  intro step orderId hk
  rcases hkeys _ hk with hk | hscope
  · obtain ⟨o, ho, hle⟩ := h step orderId hk
    obtain ⟨o', ho', hle'⟩ := hs orderId o ho
    exact ⟨o', ho', hle.trans hle'⟩
  · exact absurd hscope (scope_ne_payment step)

/-- While the order stands before the edge, the key is free. -/
theorem Keyed.free (h : Keyed s) {step : ConfirmStep} {orderId : Nat} {o : OrderRow}
    (ho : getOrder s orderId = some o) (hsource : o.status = (edgeOf step).1) :
    (⟨step.scope, orderId⟩ : IdempotencyKey) ∉ s.keys := by
  intro hk
  obtain ⟨o', ho', hle⟩ := h step orderId hk
  obtain rfl : o = o' := Option.some.inj (ho.symm.trans ho')
  rw [hsource] at hle
  exact absurd (stage_edge step) (Nat.not_lt.mpr hle)

theorem scope_injective {step step' : ConfirmStep} (h : step.scope = step'.scope) :
    step = step' := by
  revert h
  cases step <;> cases step' <;> decide

/-- What a payment's transaction does to the keys. -/
theorem payment_keys {asked : PaymentIntentRow → Prop} {answer : VerifyAnswer}
    (h : PaymentEffect asked answer s s') :
    ∀ k ∈ s'.keys, k ∈ s.keys ∨ k.scope = paymentWebhookScope := by
  have inserted : ∀ reference, ∀ k ∈ (insertKey paymentWebhookScope reference s).keys,
      k ∈ s.keys ∨ k.scope = paymentWebhookScope := by
    intro reference k hk
    rcases List.mem_append.mp hk with hk | hk
    · exact Or.inl hk
    · rw [List.mem_singleton.mp hk]
      exact Or.inr rfl
  cases h with
  | idle => exact fun k hk => Or.inl hk
  | keyed reference => exact inserted reference
  | paid reference _ _ _ hconfirmed =>
      rw [hconfirmed.frame]
      exact inserted reference
  | expired hmem hpending => exact fun k hk => Or.inl hk

/-- A step of the system spends no step's key but by confirming the step. -/
theorem tx_keyed (hs : Aligned s) (h : Keyed s) {a : Action}
    (hrun : (tx d a).run s = .ok ((), s')) : Keyed s' := by
  have honwards : Onwards s s' := onwards_of_history (tx_history d a s () s' hrun)
  have same : s'.keys = s.keys → Keyed s' := fun heq =>
    h.onwards honwards fun k hk => Or.inl (heq ▸ hk)
  cases hclerical : isClerical a with
  | true => exact same (tx_clerical d hclerical s () s' hrun).keys
  | false =>
      cases hlegs : isLegWork a with
      | true => exact same (tx_apart hlegs s () s' hrun).keys
      | false =>
          cases a with
          | createIntent payerId dto =>
              obtain ⟨intent, s₁, hcreate, hret⟩ := Tx.run_bind_eq_ok.mp hrun
              cases hret
              exact same (by rw [(createIntent_ok hcreate).eq]; rfl)
          | setProviderReference intentId =>
              cases hrun
              exact same rfl
          | webhook reference answer drawnCodes =>
              exact h.onwards honwards (payment_keys (handleWebhook_effect hrun))
          | pollIntent intentId answer drawnCodes =>
              exact h.onwards honwards (payment_keys (pollIntent_effect hrun))
          | confirm step orderId args =>
              obtain ⟨o, s₁, hconfirm, hret⟩ := Tx.run_bind_eq_ok.mp hrun
              cases hret
              rcases confirm_ok hconfirm with ⟨-, -, rfl⟩ | ⟨-, hbody⟩
              · exact h
              · have hkey : Change d false (fun _ => none) s (insertKey step.scope orderId s) :=
                  insertKey_change _ _
                have hlogged := stepBody_logs (hkey.aligned hs) hbody
                intro step' orderId' hk
                rw [hlogged.keys] at hk
                rcases List.mem_append.mp hk with hk | hk
                · obtain ⟨p, hp, hle⟩ := h step' orderId' hk
                  obtain ⟨p', hp', hle'⟩ := honwards orderId' p hp
                  exact ⟨p', hp', hle.trans hle'⟩
                · rw [List.mem_singleton, IdempotencyKey.mk.injEq] at hk
                  obtain ⟨hscope, rfl⟩ := hk
                  obtain rfl := scope_injective hscope
                  exact ⟨o, hlogged.current, by rw [hlogged.status]⟩
          | _ =>
              first
                | exact absurd hclerical.symm Bool.false_ne_true
                | exact absurd hlegs.symm Bool.false_ne_true

/-! ## Runs -/

/-- What the confirming steps rely on, in every reachable state. -/
structure Orderly (s : State) : Prop where
  aligned : Aligned s
  keyed : Keyed s
  earned : Money.Earned s

theorem Orderly.exec (h : Orderly s) (a : Action) : Orderly (System.exec d s a) := by
  obtain ⟨haligned, hearned⟩ := exec_keeps (d := d) (P := Money.Earned)
    (fun hs hp hc => hp.keep hs.inStep (Effects.effect_of_change hs.inStep hc)) h.aligned h.earned a
  refine ⟨haligned, ?_, hearned⟩
  rcases exec_cases d s a with ⟨s', hrun, he⟩ | ⟨e, -, he⟩
  · rw [he]
    exact tx_keyed h.aligned h.keyed hrun
  · rw [he]
    have hclerical := rollback_clerical s e
    refine h.keyed.onwards (onwards_of_orders hclerical.orders) fun k hk => Or.inl ?_
    rwa [hclerical.keys] at hk

theorem orderly_of_initial (h : Initial s) : Orderly s where
  aligned := Books.aligned_of_initial h
  keyed := by
    intro step orderId hk
    rw [h.keys] at hk
    cases hk
  earned := Money.earned_of_initial h

/-- **The steps' keys in every run.** -/
theorem run_orderly (d : Deployment) {s₀ : State} (h : Initial s₀) (as : List Action) :
    Orderly (System.run d s₀ as) :=
  Runs.run_invariant (fun _ a h => h.exec a) (orderly_of_initial h) as

end Locoomo.StepKeys
