import Mathlib.Data.List.Basic
import Mathlib.Data.List.Induction

/-! Runs of a deterministic system: the state after a list of actions, the
invariant rule, guarded runs (every action meets a condition on the state it
is taken in), and properties of every state along a run. -/

namespace Runs

variable {σ α : Type}

/-- The state after the actions, taken in order. -/
def run (exec : σ → α → σ) (s : σ) (as : List α) : σ := as.foldl exec s

@[simp] theorem run_nil (exec : σ → α → σ) (s : σ) : run exec s [] = s := rfl

@[simp] theorem run_cons (exec : σ → α → σ) (s : σ) (a : α) (as : List α) :
    run exec s (a :: as) = run exec (exec s a) as := rfl

theorem run_append (exec : σ → α → σ) (s : σ) (as bs : List α) :
    run exec s (as ++ bs) = run exec (run exec s as) bs := List.foldl_append

theorem run_snoc (exec : σ → α → σ) (s : σ) (as : List α) (a : α) :
    run exec s (as ++ [a]) = exec (run exec s as) a := run_append exec s as [a]

/-- Every action of the run meets `cond` in the state it is taken in. -/
def Meets (exec : σ → α → σ) (cond : σ → α → Prop) : σ → List α → Prop
  | _, [] => True
  | s, a :: as => cond s a ∧ Meets exec cond (exec s a) as

/-- `P` holds in every state of the run, the first and the last included. -/
def Always (exec : σ → α → σ) (P : σ → Prop) : σ → List α → Prop
  | s, [] => P s
  | s, a :: as => P s ∧ Always exec P (exec s a) as

instance decidableMeets {exec : σ → α → σ} {cond : σ → α → Prop}
    [∀ s a, Decidable (cond s a)] : ∀ s as, Decidable (Meets exec cond s as)
  | _, [] => isTrue trivial
  | s, a :: as =>
      have : Decidable (Meets exec cond (exec s a) as) := decidableMeets (exec s a) as
      inferInstanceAs (Decidable (cond s a ∧ Meets exec cond (exec s a) as))

instance decidableAlways {exec : σ → α → σ} {P : σ → Prop} [∀ s, Decidable (P s)] :
    ∀ s as, Decidable (Always exec P s as)
  | s, [] => inferInstanceAs (Decidable (P s))
  | s, a :: as =>
      have : Decidable (Always exec P (exec s a) as) := decidableAlways (exec s a) as
      inferInstanceAs (Decidable (P s ∧ Always exec P (exec s a) as))

theorem Meets.mono {exec : σ → α → σ} {cond cond' : σ → α → Prop}
    (h : ∀ s a, cond s a → cond' s a) {s : σ} {as : List α} (hm : Meets exec cond s as) :
    Meets exec cond' s as := by
  induction as generalizing s with
  | nil => trivial
  | cons a as ih => exact ⟨h s a hm.1, ih hm.2⟩

theorem Meets.and {exec : σ → α → σ} {cond cond' : σ → α → Prop} {s : σ} {as : List α}
    (h : Meets exec cond s as) (h' : Meets exec cond' s as) :
    Meets exec (fun s a => cond s a ∧ cond' s a) s as := by
  induction as generalizing s with
  | nil => trivial
  | cons a as ih => exact ⟨⟨h.1, h'.1⟩, ih h.2 h'.2⟩

theorem meets_of_forall {exec : σ → α → σ} {cond : σ → α → Prop} (h : ∀ s a, cond s a) (s : σ)
    (as : List α) : Meets exec cond s as := by
  induction as generalizing s with
  | nil => trivial
  | cons a as ih => exact ⟨h s a, ih _⟩

/-- An invariant kept by every guarded action holds in every state of a guarded run. -/
theorem always_of_meets {exec : σ → α → σ} {cond : σ → α → Prop} {P : σ → Prop}
    (hstep : ∀ s a, P s → cond s a → P (exec s a)) {s : σ} {as : List α} (h0 : P s)
    (h : Meets exec cond s as) : Always exec P s as := by
  induction as generalizing s with
  | nil => exact h0
  | cons a as ih => exact ⟨h0, ih (hstep s a h0 h.1) h.2⟩

/-- An invariant that every action keeps where the assumption `Q` holds, in a
run that never leaves `Q`. -/
theorem always_of_always {exec : σ → α → σ} {P Q : σ → Prop}
    (hstep : ∀ s a, P s → Q s → P (exec s a)) {s : σ} {as : List α} (h0 : P s)
    (h : Always exec Q s as) : Always exec P s as := by
  induction as generalizing s with
  | nil => exact h0
  | cons a as ih => exact ⟨h0, ih (hstep s a h0 h.1) h.2⟩

theorem Always.head {exec : σ → α → σ} {P : σ → Prop} {s : σ} {as : List α}
    (h : Always exec P s as) : P s := by
  cases as with
  | nil => exact h
  | cons a as => exact h.1

/-- A property that an action reaches only under the condition. -/
theorem meets_of_always {exec : σ → α → σ} {cond : σ → α → Prop} {P : σ → Prop}
    (h : ∀ s a, P (exec s a) → cond s a) {s : σ} {as : List α} (hP : Always exec P s as) :
    Meets exec cond s as := by
  induction as generalizing s with
  | nil => trivial
  | cons a as ih => exact ⟨h s a hP.2.head, ih hP.2⟩

/-- A guarded run from an invariant the guarded actions keep meets what each of
them has where the invariant holds. -/
theorem Meets.of_invariant {exec : σ → α → σ} {cond cond' : σ → α → Prop} {I : σ → Prop}
    (hinv : ∀ s a, I s → cond s a → I (exec s a)) (h : ∀ s a, I s → cond s a → cond' s a) {s : σ}
    {as : List α} (h0 : I s) (hm : Meets exec cond s as) : Meets exec cond' s as := by
  induction as generalizing s with
  | nil => trivial
  | cons a as ih => exact ⟨h s a h0 hm.1, ih (hinv s a h0 hm.1) hm.2⟩

/-- Under an invariant `I`, a property that an action keeps just when it meets
the condition holds throughout a run just when every action meets it. -/
theorem always_iff_meets {exec : σ → α → σ} {cond : σ → α → Prop} {I P : σ → Prop}
    (hinv : ∀ s a, I s → I (exec s a)) (hiff : ∀ s a, I s → P s → (P (exec s a) ↔ cond s a))
    {s : σ} (hI : I s) (hP : P s) (as : List α) :
    Always exec P s as ↔ Meets exec cond s as := by
  induction as generalizing s with
  | nil => exact ⟨fun _ => trivial, fun _ => hP⟩
  | cons a as ih =>
      constructor
      · rintro ⟨-, h⟩
        have hP' : P (exec s a) := Always.head h
        exact ⟨(hiff s a hI hP).mp hP', (ih (hinv s a hI) hP').mp h⟩
      · rintro ⟨hcond, h⟩
        have hP' : P (exec s a) := (hiff s a hI hP).mpr hcond
        exact ⟨hP, (ih (hinv s a hI) hP').mpr h⟩

theorem Always.mono {exec : σ → α → σ} {P Q : σ → Prop} (hPQ : ∀ s, P s → Q s) {s : σ}
    {as : List α} (h : Always exec P s as) : Always exec Q s as := by
  induction as generalizing s with
  | nil => exact hPQ s h
  | cons a as ih => exact ⟨hPQ s h.1, ih h.2⟩

theorem Always.last {exec : σ → α → σ} {P : σ → Prop} {s : σ} {as : List α}
    (h : Always exec P s as) : P (run exec s as) := by
  induction as generalizing s with
  | nil => exact h
  | cons a as ih => exact ih h.2

/-- **The invariant rule.** -/
theorem always_invariant {exec : σ → α → σ} {P : σ → Prop} (hstep : ∀ s a, P s → P (exec s a))
    {s : σ} (h0 : P s) (as : List α) : Always exec P s as := by
  have hmeets : Meets exec (fun _ _ => True) s as := meets_of_forall (fun _ _ => trivial) s as
  exact always_of_meets (fun s a hs _ => hstep s a hs) h0 hmeets

theorem run_invariant {exec : σ → α → σ} {P : σ → Prop} (hstep : ∀ s a, P s → P (exec s a))
    {s : σ} (h0 : P s) (as : List α) : P (run exec s as) :=
  (always_invariant hstep h0 as).last

/-- Actions that never do anything can be left out. -/
theorem run_filter {exec : σ → α → σ} {idle : α → Bool}
    (hidle : ∀ s a, idle a = true → exec s a = s) (s : σ) (as : List α) :
    run exec s as = run exec s (as.filter fun a => !idle a) := by
  induction as generalizing s with
  | nil => rfl
  | cons a as ih =>
      cases ha : idle a with
      | true => rw [run_cons, hidle s a ha, List.filter_cons_of_neg (by simp [ha]), ih]
      | false => rw [run_cons, List.filter_cons_of_pos (by simp [ha]), run_cons, ih]

/-! ## Projections -/

/-- What the run does to another system, when an action takes `steps` there. -/
def trace {τ : Type} (exec : σ → α → σ) (steps : σ → α → List τ) : σ → List α → List τ
  | _, [] => []
  | s, a :: as => steps s a ++ trace exec steps (exec s a) as

/-- **The projection rule.** A system that shows every action as steps of another
one shows every run as a run of it. -/
theorem run_trace {τ υ : Type} {exec : σ → α → σ} {exec' : υ → τ → υ} {steps : σ → α → List τ}
    (view : σ → υ) (hstep : ∀ s a, view (exec s a) = run exec' (view s) (steps s a)) (s : σ)
    (as : List α) : view (run exec s as) = run exec' (view s) (trace exec steps s as) := by
  induction as generalizing s with
  | nil => rfl
  | cons a as ih =>
      rw [run_cons, ih, hstep, trace, run_append]

theorem trace_snoc {τ : Type} (exec : σ → α → σ) (steps : σ → α → List τ) (s : σ) (as : List α)
    (a : α) :
    trace exec steps s (as ++ [a]) = trace exec steps s as ++ steps (run exec s as) a := by
  induction as generalizing s with
  | nil => simp [trace]
  | cons b as ih => rw [List.cons_append, trace, ih, trace, List.append_assoc, run_cons]

/-! ## Histories -/

/-- **The history rule**: an invariant of the actions so far with the state they
have led to. -/
theorem run_history {exec : σ → α → σ} {s : σ} {I : List α → σ → Prop} (h0 : I [] s)
    (hstep : ∀ as a, I as (run exec s as) → I (as ++ [a]) (exec (run exec s as) a))
    (as : List α) : I as (run exec s as) := by
  induction as using List.reverseRecOn with
  | nil => exact h0
  | append_singleton as a ih =>
      rw [run_snoc]
      exact hstep as a ih

/-- What every step of a run keeps, once it holds, holds from then on. -/
theorem run_onward {exec : σ → α → σ} {s : σ} {P : σ → Prop}
    (hstep : ∀ as a, P (run exec s as) → P (exec (run exec s as) a)) (as bs : List α)
    (h : P (run exec s as)) : P (run exec s (as ++ bs)) := by
  rw [run_append]
  refine run_history (I := fun _ s' => P s') h (fun bs a hP => ?_) bs
  rw [← run_append] at hP ⊢
  exact hstep (as ++ bs) a hP

/-- One of the actions was taken where the condition held. -/
def Earlier (exec : σ → α → σ) (s : σ) (as : List α) (P : σ → α → Prop) : Prop :=
  ∃ before a after, as = before ++ a :: after ∧ P (run exec s before) a

theorem Earlier.snoc {exec : σ → α → σ} {s : σ} {as : List α} {P : σ → α → Prop}
    (h : Earlier exec s as P) (a : α) : Earlier exec s (as ++ [a]) P := by
  obtain ⟨before, b, after, rfl, hP⟩ := h
  exact ⟨before, b, after ++ [a], by simp, hP⟩

theorem earlier_last {exec : σ → α → σ} {s : σ} {as : List α} {a : α} {P : σ → α → Prop}
    (h : P (run exec s as) a) : Earlier exec s (as ++ [a]) P :=
  ⟨as, a, [], rfl, h⟩

theorem Earlier.mono {exec : σ → α → σ} {s : σ} {as : List α} {P Q : σ → α → Prop}
    (h : Earlier exec s as P) (hPQ : ∀ s a, P s a → Q s a) : Earlier exec s as Q := by
  obtain ⟨before, b, after, heq, hP⟩ := h
  exact ⟨before, b, after, heq, hPQ _ _ hP⟩

end Runs
