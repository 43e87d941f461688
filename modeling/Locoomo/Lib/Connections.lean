import Mathlib.Logic.Basic

/-! A transaction on a connection, statement by statement. The first statement
that fails aborts it: every later one is refused, and a commit rolls back. A
failed statement can therefore be caught, but not tried again. -/

namespace Connections

variable {σ ε α : Type}

structure Connection (σ : Type) where
  db : σ
  aborted : Bool

/-- The error of a statement. -/
inductive SqlError (ε : Type)
  | failed (e : ε)
  | inFailedTransaction
  deriving DecidableEq, Repr

/-- A statement, of which nothing remains where it fails. -/
def exec (c : Connection σ) (stmt : σ → Except ε (α × σ)) :
    Except (SqlError ε) α × Connection σ :=
  if c.aborted then (.error .inFailedTransaction, c)
  else
    match stmt c.db with
    | .ok (a, db) => (.ok a, ⟨db, false⟩)
    | .error e => (.error (.failed e), { c with aborted := true })

/-- `COMMIT`: what the database holds afterwards, where anything was committed. -/
def commit (c : Connection σ) : Option σ := if c.aborted then none else some c.db

/-- A loop that catches the errors of `retry`, with `left` attempts after the one
numbered `k`, whose statement is `stmts k`. -/
def attempts (retry : SqlError ε → Bool) (stmts : Nat → σ → Except ε (α × σ)) :
    (left k : Nat) → Connection σ → Except (SqlError ε) α × Connection σ
  | 0, k, c => exec c (stmts k)
  | left + 1, k, c =>
      match exec c (stmts k) with
      | (.ok a, c) => (.ok a, c)
      | (.error e, c) => if retry e then attempts retry stmts left (k + 1) c else (.error e, c)

section Attempts

variable {retry : SqlError ε → Bool} {stmts : Nat → σ → Except ε (α × σ)} {left k : Nat}
  {db db' : σ} {a : α} {e : ε}

theorem exec_ok {stmt : σ → Except ε (α × σ)} (h : stmt db = .ok (a, db')) :
    exec ⟨db, false⟩ stmt = (.ok a, ⟨db', false⟩) := by
  simp [exec, h]

theorem exec_error {stmt : σ → Except ε (α × σ)} (h : stmt db = .error e) :
    exec ⟨db, false⟩ stmt = (.error (.failed e), ⟨db, true⟩) := by
  simp [exec, h]

theorem attempts_ok (h : stmts k db = .ok (a, db')) :
    attempts retry stmts left k ⟨db, false⟩ = (.ok a, ⟨db', false⟩) := by
  cases left with
  | zero => exact exec_ok h
  | succ left => rw [attempts, exec_ok h]

/-- On an aborted connection no attempt succeeds. -/
theorem attempts_aborted (left k : Nat) (db : σ) :
    ∃ e, attempts retry stmts left k ⟨db, true⟩ = (.error e, ⟨db, true⟩) := by
  have hexec : ∀ k, exec ⟨db, true⟩ (stmts k) = (.error .inFailedTransaction, ⟨db, true⟩) :=
    fun k => rfl
  induction left generalizing k with
  | zero => exact ⟨_, hexec k⟩
  | succ left ih =>
      rw [attempts, hexec]
      simp only
      split
      · exact ih (k + 1)
      · exact ⟨_, rfl⟩

/-- **Only the first attempt counts.** -/
theorem attempts_error (h : stmts k db = .error e) :
    ∃ e', attempts retry stmts left k ⟨db, false⟩ = (.error e', ⟨db, true⟩) := by
  cases left with
  | zero => exact ⟨_, exec_error h⟩
  | succ left =>
      rw [attempts, exec_error h]
      simp only
      split
      · exact attempts_aborted left (k + 1) db
      · exact ⟨_, rfl⟩

end Attempts

end Connections
