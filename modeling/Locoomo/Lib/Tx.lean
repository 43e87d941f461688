import Mathlib.Logic.Basic

/-! Database transactions as programs of statements. A statement reads the
state and changes it; a transaction ends by returning a value or by aborting.
`run` is a transaction taken as a whole: it commits with a value and a new
state, or fails with an error, in which case no state comes back and nothing
it did survives. The rules take a committed composite apart and put
invariants of statements together. -/

/-- A transaction over states `σ` that aborts with errors `ε`. -/
inductive Tx (σ ε α : Type) : Type
  | ret (a : α)
  | abort (e : ε)
  | stmt (change : σ → σ) (next : σ → Tx σ ε α)

namespace Tx

variable {σ ε α β γ : Type}

def andThen (x : Tx σ ε α) (f : α → Tx σ ε β) : Tx σ ε β :=
  match x with
  | ret a => f a
  | abort e => abort e
  | stmt change next => stmt change fun s => andThen (next s) f

instance : Monad (Tx σ ε) where
  pure := ret
  bind := andThen

def reject (e : ε) : Tx σ ε α := abort e

/-- Read something off the state. -/
def read (f : σ → α) : Tx σ ε α := stmt id fun s => ret (f s)

/-- Change the state. -/
def write (f : σ → σ) : Tx σ ε Unit := stmt f fun _ => ret ()

/-- Change the state and read off it in one statement, as `… RETURNING` does. -/
def query (f : σ → α × σ) : Tx σ ε α := stmt (fun s => (f s).2) fun s => ret (f s).1

/-- The value of an option, or abort. -/
def expect (o : Option α) (e : ε) : Tx σ ε α :=
  match o with
  | some a => ret a
  | none => abort e

/-- Abort unless the condition holds. -/
def ensure (b : Bool) (e : ε) : Tx σ ε Unit := if b then ret () else abort e

/-- The whole transaction at once. -/
def run : Tx σ ε α → σ → Except ε (α × σ)
  | ret a, s => .ok (a, s)
  | abort e, _ => .error e
  | stmt change next, s => run (next s) (change s)

/-! ## Taking a committed transaction apart -/

theorem run_bind_eq_ok {x : Tx σ ε α} {f : α → Tx σ ε β} {s : σ} {r : β × σ} :
    (x >>= f).run s = .ok r ↔ ∃ a s', x.run s = .ok (a, s') ∧ (f a).run s' = .ok r := by
  change (andThen x f).run s = .ok r ↔ _
  induction x generalizing s with
  | ret a =>
      constructor
      · exact fun h => ⟨a, s, rfl, h⟩
      · rintro ⟨_, _, h, h'⟩
        cases h
        exact h'
  | abort e => simp [andThen, run]
  | stmt change next ih => simpa [andThen, run] using ih s

theorem run_bind_eq_error {x : Tx σ ε α} {f : α → Tx σ ε β} {s : σ} {e : ε} :
    (x >>= f).run s = .error e ↔
      x.run s = .error e ∨ ∃ a s', x.run s = .ok (a, s') ∧ (f a).run s' = .error e := by
  change (andThen x f).run s = .error e ↔ _
  induction x generalizing s with
  | ret a =>
      constructor
      · exact fun h => Or.inr ⟨a, s, rfl, h⟩
      · rintro (h | ⟨_, _, h, h'⟩)
        · cases h
        · cases h
          exact h'
  | abort e' => simp [andThen, run]
  | stmt change next ih => simpa [andThen, run] using ih s

/-- A step whose outcome is known is replaced by what follows it. -/
theorem run_bind_of_ok {x : Tx σ ε α} {f : α → Tx σ ε β} {s s' : σ} {a : α}
    (h : x.run s = .ok (a, s')) : (x >>= f).run s = (f a).run s' := by
  change (andThen x f).run s = _
  induction x generalizing s with
  | ret b =>
      simp only [run, Except.ok.injEq, Prod.mk.injEq] at h
      rw [andThen, h.1, h.2]
  | abort e => simp [run] at h
  | stmt change next ih => exact ih s h

theorem run_bind_of_error {x : Tx σ ε α} {f : α → Tx σ ε β} {s : σ} {e : ε}
    (h : x.run s = .error e) : (x >>= f).run s = .error e :=
  run_bind_eq_error.mpr (Or.inl h)

/-- Continuations that run alike may be exchanged. -/
theorem run_bind_congr {x : Tx σ ε α} {f g : α → Tx σ ε β} {s : σ}
    (h : ∀ a s', (f a).run s' = (g a).run s') : (x >>= f).run s = (x >>= g).run s := by
  change (andThen x f).run s = (andThen x g).run s
  induction x generalizing s with
  | ret a => exact h a s
  | abort e => rfl
  | stmt change next ih => exact ih s

@[simp] theorem run_pure (a : α) (s : σ) : (pure a : Tx σ ε α).run s = .ok (a, s) := rfl

@[simp] theorem run_read (f : σ → α) (s : σ) : (read f : Tx σ ε α).run s = .ok (f s, s) := rfl

@[simp] theorem run_write (f : σ → σ) (s : σ) : (write f : Tx σ ε Unit).run s = .ok ((), f s) :=
  rfl

@[simp] theorem run_query (f : σ → α × σ) (s : σ) : (query f : Tx σ ε α).run s = .ok (f s) := rfl

@[simp] theorem run_reject (e : ε) (s : σ) : (reject e : Tx σ ε α).run s = .error e := rfl

@[simp] theorem run_pure_bind (a : α) (g : α → Tx σ ε β) (s : σ) :
    ((pure a : Tx σ ε α) >>= g).run s = (g a).run s := rfl

@[simp] theorem run_read_bind (f : σ → α) (g : α → Tx σ ε β) (s : σ) :
    (read f >>= g).run s = (g (f s)).run s := rfl

@[simp] theorem run_write_bind (f : σ → σ) (g : Unit → Tx σ ε β) (s : σ) :
    (write f >>= g).run s = (g ()).run (f s) := rfl

@[simp] theorem run_query_bind (f : σ → α × σ) (g : α → Tx σ ε β) (s : σ) :
    (query f >>= g).run s = (g (f s).1).run (f s).2 := rfl

@[simp] theorem run_reject_bind (e : ε) (g : α → Tx σ ε β) (s : σ) :
    ((reject e : Tx σ ε α) >>= g).run s = .error e := rfl

@[simp] theorem expect_some (a : α) (e : ε) : (expect (some a) e : Tx σ ε α) = pure a := rfl

@[simp] theorem expect_none (e : ε) : (expect none e : Tx σ ε α) = reject e := rfl

@[simp] theorem ensure_true (e : ε) : (ensure true e : Tx σ ε Unit) = pure () := rfl

@[simp] theorem ensure_false (e : ε) : (ensure false e : Tx σ ε Unit) = reject e := rfl

theorem run_expect_eq_ok {o : Option α} {e : ε} {s s' : σ} {a : α} :
    (expect o e : Tx σ ε α).run s = .ok (a, s') ↔ o = some a ∧ s = s' := by
  cases o with
  | none => simp
  | some b => simp

theorem run_ensure_eq_ok {b : Bool} {e : ε} {s s' : σ} {u : Unit} :
    (ensure b e : Tx σ ε Unit).run s = .ok (u, s') ↔ b = true ∧ s = s' := by
  cases b with
  | true => simp
  | false => simp

/-! ## Relations between the state before and after a commit -/

/-- A commit relates the state before to the state after by `R`. -/
def Keeps (R : σ → σ → Prop) (x : Tx σ ε α) : Prop := ∀ s a s', x.run s = .ok (a, s') → R s s'

theorem Keeps.mono {R R' : σ → σ → Prop} {x : Tx σ ε α} (h : Keeps R x)
    (hR : ∀ {s s'}, R s s' → R' s s') : Keeps R' x :=
  fun s a s' hx => hR (h s a s' hx)

theorem Keeps.ite {R : σ → σ → Prop} {c : Prop} [Decidable c] {x y : Tx σ ε α} (hx : Keeps R x)
    (hy : Keeps R y) : Keeps R (if c then x else y) := by
  split
  · exact hx
  · exact hy

/-- A relation that statements may be checked against one by one. -/
structure Frame (R : σ → σ → Prop) : Prop where
  refl : ∀ s, R s s
  trans : ∀ {s₁ s₂ s₃}, R s₁ s₂ → R s₂ s₃ → R s₁ s₃

namespace Frame

variable {R : σ → σ → Prop}

theorem pure (F : Frame R) (a : α) : Keeps R (Pure.pure a : Tx σ ε α) := by
  intro s b s' h
  cases h
  exact F.refl s

theorem read (F : Frame R) (f : σ → α) : Keeps R (Tx.read f : Tx σ ε α) := by
  intro s b s' h
  cases h
  exact F.refl s

theorem reject (_ : Frame R) (e : ε) : Keeps R (Tx.reject e : Tx σ ε α) := by
  intro s b s' h
  cases h

theorem write (_ : Frame R) {f : σ → σ} (h : ∀ s, R s (f s)) :
    Keeps R (Tx.write f : Tx σ ε Unit) := by
  intro s b s' hs
  cases hs
  exact h s

theorem query (_ : Frame R) {f : σ → α × σ} (h : ∀ s, R s (f s).2) :
    Keeps R (Tx.query f : Tx σ ε α) := by
  intro s b s' hs
  cases hs
  exact h s

theorem expect (F : Frame R) (o : Option α) (e : ε) : Keeps R (Tx.expect o e : Tx σ ε α) := by
  cases o with
  | none => exact F.reject e
  | some a => exact F.pure a

theorem ensure (F : Frame R) (b : Bool) (e : ε) : Keeps R (Tx.ensure b e : Tx σ ε Unit) := by
  cases b with
  | false => exact F.reject e
  | true => exact F.pure ()

theorem bind (F : Frame R) {x : Tx σ ε α} {f : α → Tx σ ε β} (hx : Keeps R x)
    (hf : ∀ a, Keeps R (f a)) : Keeps R (x >>= f) := by
  intro s b s'' h
  obtain ⟨a, s', h₁, h₂⟩ := run_bind_eq_ok.mp h
  exact F.trans (hx s a s' h₁) (hf a s' b s'' h₂)

/-- A relation that says a projection of the state is left alone. -/
theorem of_eq {γ : Type} (g : σ → γ) : Frame fun s s' : σ => g s' = g s where
  refl _ := rfl
  trans h₁ h₂ := h₂.trans h₁

end Frame

/-! ## Errors -/

/-- The transaction aborts with errors of `P` only. -/
def AbortsIn (P : ε → Prop) (x : Tx σ ε α) : Prop := ∀ s e, x.run s = .error e → P e

namespace AbortsIn

variable {P : ε → Prop}

theorem pure (a : α) : AbortsIn P (Pure.pure a : Tx σ ε α) := by
  intro s e h
  cases h

theorem read (f : σ → α) : AbortsIn P (Tx.read f : Tx σ ε α) := by
  intro s e h
  cases h

theorem write (f : σ → σ) : AbortsIn P (Tx.write f : Tx σ ε Unit) := by
  intro s e h
  cases h

theorem query (f : σ → α × σ) : AbortsIn P (Tx.query f : Tx σ ε α) := by
  intro s e h
  cases h

theorem reject {e : ε} (he : P e) : AbortsIn P (Tx.reject e : Tx σ ε α) := by
  intro s e' h
  cases h
  exact he

theorem expect (o : Option α) {e : ε} (he : P e) :
    AbortsIn P (Tx.expect o e : Tx σ ε α) := by
  cases o with
  | none => exact reject he
  | some a => exact pure a

theorem ensure (b : Bool) {e : ε} (he : P e) :
    AbortsIn P (Tx.ensure b e : Tx σ ε Unit) := by
  cases b with
  | false => exact reject he
  | true => exact pure ()

theorem bind {x : Tx σ ε α} {f : α → Tx σ ε β} (hx : AbortsIn P x)
    (hf : ∀ a, AbortsIn P (f a)) : AbortsIn P (x >>= f) := by
  intro s e h
  rcases run_bind_eq_error.mp h with h₁ | ⟨a, s', -, h₂⟩
  · exact hx s e h₁
  · exact hf a s' e h₂

theorem ite {c : Prop} [Decidable c] {x y : Tx σ ε α} (hx : AbortsIn P x)
    (hy : AbortsIn P y) : AbortsIn P (if c then x else y) := by
  split
  · exact hx
  · exact hy

end AbortsIn

end Tx
