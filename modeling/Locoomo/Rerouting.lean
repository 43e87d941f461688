import Locoomo.Attempts
import Mathlib.Algebra.Order.BigOperators.Group.List

/-! Automatic re-routing comes to an end. The router gives a courier an order
only while attempts are left, so each courier's attempts are a budget that
every routed leg spends from. -/

namespace Locoomo.Rerouting

open Locoomo.Delivery Locoomo.Database Locoomo.Routing Locoomo.Logistics Locoomo.Handoffs
  Locoomo.System Locoomo.Frames Locoomo.Turns Locoomo.Interleaved Locoomo.Attempts Relational

variable {d : Deployment} {s s' : State}

/-! ## Steps -/

/-- An admin changes a courier's settings. -/
def isSettings : System.Action → Bool
  | .updateProvider _ _ => true
  | _ => false

/-- Who decides on the leg a transaction may create. -/
def actionCause : System.Action → Cause
  | .dispatch _ providerKey => causeOf providerKey
  | .confirm step _ _ => stepCause step
  | .accept _ _ => .claimed
  | .cancelLeg _ _ thenRouteTo => causeOf thenRouteTo
  | .fallbackToInHouse _ => .forced
  | _ => .routed

theorem tx_steps (d : Deployment) {a : System.Action} (hfixed : isSettings a = false) :
    Tx.Keeps (Steps (actionCause a)) (tx d a) := by
  have frame := steps_frame (actionCause a)
  have settled : ∀ {α : Type} {x : Db α}, Tx.Keeps Settled x → Tx.Keeps (Steps (actionCause a)) x :=
    fun hx => hx.mono Settled.steps
  have write : ∀ {f : State → State}, (∀ s, (f s).legs = s.legs) →
      (∀ s, (f s).providers = s.providers) → (∀ s, s.nextId ≤ (f s).nextId) →
      Tx.Keeps (Steps (actionCause a)) (Tx.write f : Db Unit) := fun hlegs hproviders hnext =>
    settled (settled_frame.write fun s => settled_of_legs (hlegs s) (hproviders s) (hnext s))
  have noted : ∀ {α : Type} {x : Db α}, Tx.Keeps Noted x → Tx.Keeps (Steps (actionCause a)) x :=
    fun hx => settled (hx.mono fun h => settled_of_calm (calm_of_noted h))
  cases a with
  | tick ms => exact write (fun _ => rfl) (fun _ => rfl) fun _ => le_rfl
  | createPricingRule rule => exact write (fun _ => rfl) (fun _ => rfl) fun _ => Nat.le_succ _
  | createSplitRule rule => exact write (fun _ => rfl) (fun _ => rfl) fun _ => Nat.le_succ _
  | updateProvider key dto => cases hfixed
  | createIntent payerId dto =>
      refine frame.bind (settled fun s intent s' h => ?_) fun _ => frame.pure ()
      rw [(createIntent_ok h).eq]
      exact settled_of_legs rfl rfl (Nat.le_succ _)
  | setProviderReference intentId => exact write (fun _ => rfl) (fun _ => rfl) fun _ => le_rfl
  | webhook reference answer drawnCodes =>
      exact settled fun _ _ _ h => settled_of_payment (handleWebhook_effect h)
  | pollIntent intentId answer drawnCodes =>
      exact settled fun _ _ _ h => settled_of_payment (pollIntent_effect h)
  | confirm step orderId args =>
      exact frame.bind (confirm_steps _ _ _ _) fun _ => frame.pure ()
  | accept orderId riderId => exact accept_steps _ _ _
  | requestCode orderId riderId type rawCode => exact noted (requestCode_noted _ _ _ _ _)
  | resendCode orderId operatorNodeIds drawnCode => exact noted (resendCode_noted _ _ _ _)
  | dispatch orderId providerKey =>
      exact frame.bind (frame.read _) fun _ => frame.bind (frame.ensure _ _) fun _ =>
        frame.bind (dispatch_steps _ _ _) fun _ => frame.pure ()
  | submit legId answer => exact Attempts.submit_steps _ _ _
  | syncFromSnapshot providerKey snapshot =>
      exact frame.bind (syncFromSnapshot_steps _ _ _) fun _ => frame.pure ()
  | cancelLeg legId reason thenRouteTo =>
      exact frame.bind (cancelLeg_steps _ _ _ _) fun _ => frame.pure ()
  | fallbackToInHouse legId =>
      exact frame.bind (frame.read _) fun _ => frame.bind (frame.expect _ _) fun _ =>
        frame.bind (frame.bind (frame.ensure _ _) fun _ => frame.ensure _ _) fun _ =>
          frame.bind (cancelLeg_steps _ _ _ _) fun _ => frame.ensure _ _
  | retry legId => exact noted (retry_noted d legId)
  | interrupted => exact frame.reject _

theorem rollback_settled (s : State) (e : TxError) : Settled s (rollback s e) := by
  unfold rollback
  split <;> exact settled_of_legs rfl rfl le_rfl

theorem commit_steps {cause : Cause} {x : Db Unit} (hx : Tx.Keeps (Steps cause) x) (s : State) :
    Steps cause s (commit x s) := by
  rcases commit_cases x s with ⟨s', h, he⟩ | ⟨e, -, he⟩
  · rw [he]
    exact hx s () s' h
  · rw [he]
    exact (rollback_settled s e).steps

/-- Who decides on the leg a step may create. -/
def causeIn (w : Work) : Interleaved.Action → Cause
  | .atomic a => actionCause a
  | .cancelLocally i =>
      match w.endings[i]? with
      | none => .routed
      | some ending => causeOf ending.kind.thenRouteTo
  | _ => .routed

/-- The courier settings stay as they are. -/
def keepsSettings : Interleaved.Action → Bool
  | .atomic a => !isSettings a
  | _ => true

/-- **Every step** creates legs as its cause allows. -/
theorem exec_steps {w : Work} (hw : Traced w) (hn : Numbered w.db) {a : Interleaved.Action}
    (hfixed : keepsSettings a = true) :
    Numbered (Interleaved.exec d w a).db ∧
      LegSeq (causeIn w a) w.db (Interleaved.exec d w a).db := by
  have still : Numbered w.db ∧ LegSeq (causeIn w a) w.db w.db := ⟨hn, .refl⟩
  cases a with
  | atomic a =>
      simp only [Interleaved.exec]
      split
      · exact still
      · have hsettings : isSettings a = false := by simpa [keepsSettings] using hfixed
        exact commit_steps (tx_steps d hsettings) w.db hn
  | writeSubmit i =>
      simp only [Interleaved.exec]
      split
      · next leg answer hsub =>
          obtain ⟨row, hrow⟩ := hw.submissions _ (List.mem_of_getElem? hsub)
          exact commit_steps (writeAnswer_steps d hrow.forward answer) w.db hn
      · exact still
  | cancelLocally i =>
      simp only [Interleaved.exec]
      split
      · exact still
      · next ending hending =>
          split
          · have frame := steps_frame (causeOf ending.kind.thenRouteTo)
            have hend : Tx.Keeps (Steps (causeOf ending.kind.thenRouteTo)) (endLeg d ending) :=
              frame.bind (cancelLeg_steps _ _ _ _) fun _ => frame.pure ()
            simp only [causeIn, hending]
            exact commit_steps hend w.db hn
          · exact still
  | readSubmit legId => simp only [Interleaved.exec]; split <;> exact still
  | answerSubmit i answer => simp only [Interleaved.exec]; split <;> exact still
  | readOverdue => exact still
  | readFallback legId => simp only [Interleaved.exec]; split <;> exact still
  | cancelAtProvider i accepted =>
      simp only [Interleaved.exec]
      split
      · exact still
      · split <;> exact still

/-! ## The budget -/

/-- The attempts the enabled couriers have left on an order. -/
def budget (providers : List LogisticsProviderRow) (l : List Origin) (orderId : Nat) : Nat :=
  ((providers.filter LogisticsProviderRow.enabled).map fun row =>
    row.maxAttempts - attempts l orderId row.key).sum

theorem attempts_append (l : List Origin) (o : Origin) (orderId : Nat) (key : String) :
    attempts (l ++ [o]) orderId key
      = attempts l orderId key + if o.orderId = orderId ∧ o.providerKey = key then 1 else 0 := by
  rw [attempts, List.countP_append, List.countP_singleton, attempts]
  simp only [decide_eq_true_eq]

theorem budget_append_le (providers : List LogisticsProviderRow) (l : List Origin) (o : Origin)
    (orderId : Nat) : budget providers (l ++ [o]) orderId ≤ budget providers l orderId := by
  refine List.sum_le_sum fun row _ => ?_
  rw [attempts_append]
  omega

/-- A routed leg costs its courier an attempt. -/
theorem budget_append_lt {providers : List LogisticsProviderRow} {l : List Origin} {o : Origin}
    (h : HasAttemptsLeft providers l o) :
    budget providers (l ++ [o]) o.orderId < budget providers l o.orderId := by
  obtain ⟨row, hrow, henabled, hkey, hlt⟩ := h
  refine List.sum_lt_sum _ _ (fun row _ => ?_) ⟨row, List.mem_filter.mpr ⟨hrow, henabled⟩, ?_⟩
  · rw [attempts_append]
    omega
  · rw [attempts_append, if_pos ⟨rfl, hkey.symm⟩, hkey]
    omega

/-! ## What a step adds -/

/-- The legs a step adds stand behind the others, each routed one within its
courier's attempts. -/
structure Adds (cause : Cause) (s s' : State) : Prop where
  providers : s'.providers = s.providers
  kept : origins s <+: origins s'
  routed : cause = .routed → ∀ i o, (origins s).length ≤ i → (origins s')[i]? = some o →
    HasAttemptsLeft s.providers ((origins s').take i) o
  spent : cause = .routed → ∀ orderId,
    (origins s').countP (ofOrder orderId) + budget s.providers (origins s') orderId ≤
      (origins s).countP (ofOrder orderId) + budget s.providers (origins s) orderId
  budget : ∀ orderId,
    budget s.providers (origins s') orderId ≤ budget s.providers (origins s) orderId

theorem LegSeq.adds {cause : Cause} (h : LegSeq cause s s') : Adds cause s s' := by
  induction h with
  | refl =>
      refine ⟨rfl, List.prefix_refl _, fun _ i o hi ho => ?_, fun _ _ => le_rfl, fun _ => le_rfl⟩
      rw [List.getElem?_eq_none hi] at ho
      cases ho
  | @tail s₁ s₂ _ hlast ih =>
      cases hlast with
      | settled h =>
          refine ⟨h.providers.trans ih.providers, ?_, ?_, ?_, ?_⟩
          · rw [h.origins]
            exact ih.kept
          · rw [h.origins]
            exact ih.routed
          · rw [h.origins]
            exact ih.spent
          · rw [h.origins]
            exact ih.budget
      | @created o h =>
          have hcut : ∀ i, i ≤ (origins s₁).length →
              (origins s₁ ++ [o]).take i = (origins s₁).take i := fun i hi =>
            List.take_append_of_le_length hi
          refine ⟨h.providers.trans ih.providers, ?_, fun hcause i x hi hx => ?_,
            fun hcause orderId => ?_, fun orderId => ?_⟩
          · rw [h.origins]
            exact ih.kept.trans (List.prefix_append _ _)
          · rw [h.origins] at hx ⊢
            rcases Nat.lt_or_ge i (origins s₁).length with hlt | hge
            · rw [List.getElem?_append_left hlt] at hx
              rw [hcut i hlt.le]
              exact ih.routed hcause i x hi hx
            · rw [List.getElem?_append_right hge] at hx
              rw [List.getElem?_singleton] at hx
              split at hx
              · next hzero =>
                  obtain rfl := Option.some.inj hx
                  obtain rfl : i = (origins s₁).length := by omega
                  rw [hcut _ le_rfl, List.take_length, ← ih.providers]
                  exact h.routed hcause
              · cases hx
          · have hspent := ih.spent hcause orderId
            rw [h.origins, List.countP_append, List.countP_singleton]
            by_cases hid : o.orderId = orderId
            · subst hid
              have hlt := budget_append_lt (h.routed hcause)
              rw [ih.providers] at hlt
              simp only [ofOrder, decide_true, if_true]
              omega
            · have hle := budget_append_le s.providers (origins s₁) o orderId
              simp only [ofOrder, hid, decide_false, Bool.false_eq_true, if_false]
              omega
          · rw [h.origins]
            exact (budget_append_le _ _ _ _).trans (ih.budget orderId)

/-! ## Runs -/

/-- The legs a step creates. -/
def newLegs (d : Deployment) (w : Work) (a : Interleaved.Action) : List DeliveryLegRow :=
  (Interleaved.exec d w a).db.legs.drop w.db.legs.length

/-- The legs of an order that the run creates for such a cause. -/
def created (d : Deployment) (orderId : Nat) (p : Cause → Bool) :
    Work → List Interleaved.Action → List DeliveryLegRow
  | _, [] => []
  | w, a :: as =>
      (if p (causeIn w a) then (newLegs d w a).filter fun leg => leg.orderId = orderId else []) ++
        created d orderId p (Interleaved.exec d w a) as

/-- Tables as they stand in a run with fixed settings. -/
structure Steady (providers : List LogisticsProviderRow) (w : Work) : Prop where
  traced : Traced w
  numbered : Numbered w.db
  providers : w.db.providers = providers

theorem Steady.exec {providers : List LogisticsProviderRow} {w : Work} (h : Steady providers w)
    {a : Interleaved.Action} (hfixed : keepsSettings a = true) :
    Steady providers (Interleaved.exec d w a) ∧
      Adds (causeIn w a) w.db (Interleaved.exec d w a).db := by
  obtain ⟨hn, hseq⟩ := exec_steps (d := d) h.traced h.numbered hfixed
  have hadds := LegSeq.adds hseq
  exact ⟨⟨h.traced.exec a, hn, hadds.providers.trans h.providers⟩, hadds⟩

theorem steady_of_initial (h : Initial s) : Steady s.providers (idle s) := by
  have hnone : origins (idle s).db = [] := by
    change s.legs.map origin = []
    rw [h.legs, List.map_nil]
  refine ⟨traced_of_initial h, ⟨?_, ?_, ?_, ?_⟩, rfl⟩
  all_goals rw [hnone]
  · exact List.nodup_nil
  · simp
  · simp
  · simp

theorem Steady.run {providers : List LogisticsProviderRow} {w : Work} (h : Steady providers w)
    {as : List Interleaved.Action} (hfixed : ∀ a ∈ as, keepsSettings a = true) :
    Steady providers (Interleaved.run d w as) := by
  induction as generalizing w with
  | nil => exact h
  | cons a as ih =>
      exact ih (h.exec (hfixed a List.mem_cons_self)).1 fun b hb =>
        hfixed b (List.mem_cons_of_mem a hb)

/-- The new legs of an order, counted among all its legs. -/
theorem length_newLegs {w : Work} {a : Interleaved.Action}
    (hkept : origins w.db <+: origins (Interleaved.exec d w a).db) (orderId : Nat) :
    ((newLegs d w a).filter fun leg => leg.orderId = orderId).length
        + (origins w.db).countP (ofOrder orderId)
      = (origins (Interleaved.exec d w a).db).countP (ofOrder orderId) := by
  have hsplit : origins (Interleaved.exec d w a).db
      = origins w.db ++ (newLegs d w a).map origin := by
    obtain ⟨rest, hrest⟩ := hkept
    have hdrop := congrArg (List.drop (origins w.db).length) hrest
    rw [List.drop_left, origins, origins, List.length_map, ← List.map_drop] at hdrop
    rw [newLegs, ← hdrop, hrest]
  rw [hsplit, List.countP_append, countP_ofOrder, ← List.countP_eq_length_filter, Nat.add_comm]

/-- **The budget pays** for every routed leg of an order. -/
theorem created_routed_le {providers : List LogisticsProviderRow} {w : Work}
    (h : Steady providers w) {as : List Interleaved.Action}
    (hfixed : ∀ a ∈ as, keepsSettings a = true) (orderId : Nat) :
    (created d orderId (· = .routed) w as).length ≤ budget providers (origins w.db) orderId := by
  induction as generalizing w with
  | nil => exact Nat.zero_le _
  | cons a as ih =>
      obtain ⟨hsteady, hadds⟩ := h.exec (d := d) (hfixed a List.mem_cons_self)
      have hrest := ih hsteady fun b hb => hfixed b (List.mem_cons_of_mem a hb)
      have hbudget := hadds.budget orderId
      rw [h.providers] at hbudget
      rw [created, List.length_append]
      split
      · next hcause =>
          have hspent := hadds.spent (of_decide_eq_true hcause) orderId
          have hcount := length_newLegs hadds.kept orderId
          rw [h.providers] at hspent
          omega
      · rw [List.length_nil]
        omega

theorem created_split (orderId : Nat) (w : Work) (as : List Interleaved.Action) :
    (created d orderId (· ≠ .claimed) w as).length
      = (created d orderId (· = .routed) w as).length
        + (created d orderId (· = .forced) w as).length := by
  induction as generalizing w with
  | nil => rfl
  | cons a as ih =>
      simp only [created, List.length_append, ih]
      cases causeIn w a <;> simp <;> omega

/-- **Re-routing is bounded** and attempts are numbered without gaps. A leg
that routing creates goes to an enabled courier with attempts left; an order is
dispatched no more often than its enabled couriers' `maxAttempts` and its
forced fallbacks allow; and its legs are numbered from one as they come. -/
theorem rerouting_is_bounded (d : Deployment) {s₀ : State} (h : Initial s₀)
    (as : List Interleaved.Action) (hfixed : ∀ a ∈ as, keepsSettings a = true) (orderId : Nat) :
    (∀ a, keepsSettings a = true → causeIn (Interleaved.run d (idle s₀) as) a = .routed →
      ∀ i leg, (Interleaved.run d (idle s₀) as).db.legs.length ≤ i →
        (Interleaved.run d (idle s₀) (as ++ [a])).db.legs[i]? = some leg →
        ∃ row ∈ s₀.providers, row.enabled = true ∧ row.key = leg.providerKey ∧
          ((Interleaved.run d (idle s₀) (as ++ [a])).db.legs.take i).countP
            (fun l => decide (l.orderId = leg.orderId ∧ l.providerKey = leg.providerKey))
              < row.maxAttempts) ∧
      (created d orderId (· ≠ .claimed) (idle s₀) as).length
        ≤ ((s₀.providers.filter LogisticsProviderRow.enabled).map
            LogisticsProviderRow.maxAttempts).sum
          + (created d orderId (· = .forced) (idle s₀) as).length ∧
      ((Interleaved.run d (idle s₀) as).db.legs.filter fun leg => leg.orderId = orderId).map
          DeliveryLegRow.attemptNumber
        = List.range' 1
          ((Interleaved.run d (idle s₀) as).db.legs.countP fun leg => leg.orderId = orderId) := by
  have hstart := steady_of_initial h
  have hsteady := hstart.run (d := d) hfixed
  refine ⟨fun a ha hcause i leg hi hleg => ?_, ?_, ?_⟩
  · obtain ⟨-, hadds⟩ := hsteady.exec (d := d) ha
    have hlast : Interleaved.run d (idle s₀) (as ++ [a])
        = Interleaved.exec d (Interleaved.run d (idle s₀) as) a := Runs.run_snoc _ _ _ _
    rw [hlast] at hleg ⊢
    have hmem : (origins (Interleaved.exec d (Interleaved.run d (idle s₀) as) a).db)[i]?
        = some (origin leg) := by
      rw [origins, List.getElem?_map, hleg]
      rfl
    have hleft := hadds.routed hcause i (origin leg) (by rwa [origins, List.length_map]) hmem
    rw [hsteady.providers] at hleft
    obtain ⟨row, hrow, henabled, hkey, hlt⟩ := hleft
    rw [origins, ← List.map_take, attempts_eq] at hlt
    exact ⟨row, hrow, henabled, hkey, hlt⟩
  · have hle := created_routed_le (d := d) hstart hfixed orderId
    have hbudget : budget s₀.providers (origins (idle s₀).db) orderId
        ≤ ((s₀.providers.filter LogisticsProviderRow.enabled).map
            LogisticsProviderRow.maxAttempts).sum :=
      List.sum_le_sum fun row _ => Nat.sub_le _ _
    rw [created_split]
    omega
  · have hattempts := hsteady.numbered.attempts orderId
    rw [origins, countP_ofOrder, List.filter_map, List.map_map] at hattempts
    exact hattempts

/-- The remote courier refuses, the only attempt it has; the in-house pool is
next. -/
def demoRefusal : List Interleaved.Action :=
  (demoBooking ++ [.webhook 10 (some demoPayment) ["LOC1"], .confirm .dropOff 11 (demoArgs ""),
    .submit 12 (.refused "no courier nearby")] : List System.Action).map .atomic

theorem demo_rerouting :
    (created demo 11 (· ≠ .claimed) (idle demoState) demoRefusal).map
        DeliveryLegRow.providerKey = ["sendii", "in_house"] ∧
      (created demo 11 (· ≠ .claimed) (idle demoState) demoRefusal).length
        ≤ ((demoState.providers.filter LogisticsProviderRow.enabled).map
            LogisticsProviderRow.maxAttempts).sum
          + (created demo 11 (· = .forced) (idle demoState) demoRefusal).length :=
  ⟨by decide +kernel,
    (rerouting_is_bounded demo demoState_initial demoRefusal (by decide) 11).2.1⟩

end Locoomo.Rerouting
