import Mathlib.Algebra.Order.Ring.Rat
import Mathlib.Tactic.Linarith

/-! Floating-point numbers as far as bounds on them go: the infinities, overflow
and `NaN` are there, and what rounding does to a rational is a parameter. -/

inductive Double
  | nan
  | negInf
  | fin (q : ℚ)
  | inf
  deriving DecidableEq

namespace Double

/-- The order of the numbers; `NaN` compares with nothing. -/
def le : Double → Double → Prop
  | nan, _ | _, nan => False
  | negInf, _ | _, inf => True
  | fin p, fin q => p ≤ q
  | _, _ => False

instance : ∀ x y, Decidable (le x y)
  | nan, _ => isFalse nofun
  | negInf, nan | fin _, nan | inf, nan => isFalse nofun
  | negInf, negInf | negInf, fin _ | negInf, inf | fin _, inf | inf, inf => isTrue trivial
  | fin p, fin q => inferInstanceAs (Decidable (p ≤ q))
  | fin _, negInf | inf, negInf | inf, fin _ => isFalse nofun

/-- Rounding to the nearest number: order is kept and zero is exact. -/
structure Rounding where
  round : ℚ → Double
  round_zero : round 0 = fin 0
  mono : ∀ {p q : ℚ}, p ≤ q → le (round p) (round q)

def mul (r : Rounding) : Double → Double → Double
  | nan, _ | _, nan => nan
  | fin p, fin q => r.round (p * q)
  | inf, inf | negInf, negInf => inf
  | inf, negInf | negInf, inf => negInf
  | fin p, inf | inf, fin p => if p = 0 then nan else if 0 < p then inf else negInf
  | fin p, negInf | negInf, fin p => if p = 0 then nan else if 0 < p then negInf else inf

/-- `2 ** n`: from 1024 on it is past the largest number. -/
def twoPow (n : Nat) : Double := if n < 1024 then fin (2 ^ n) else inf

/-- `Math.min`. -/
def min (x y : Double) : Double := if x = nan ∨ y = nan then nan else if le x y then x else y

/-- `Math.max`. -/
def max (x y : Double) : Double := if x = nan ∨ y = nan then nan else if le x y then y else x

def isFinite : Double → Bool
  | fin _ => true
  | _ => false

/-- Both bounds included. -/
def Between (lo hi x : Double) : Prop := le lo x ∧ le x hi

variable {r : Rounding} {x y z : Double}

theorem ne_nan_of_le_right (h : le x y) : y ≠ nan := by
  rintro rfl
  cases x <;> exact h

theorem ne_nan_of_le_left (h : le x y) : x ≠ nan := by
  rintro rfl
  exact h

theorem le_refl (h : x ≠ nan) : le x x := by
  cases x with
  | nan => exact absurd rfl h
  | negInf => trivial
  | fin q => exact le_rfl (a := q)
  | inf => trivial

theorem le_total (hx : x ≠ nan) (hy : y ≠ nan) : le x y ∨ le y x := by
  cases x <;> cases y <;> simp_all [le, Rat.le_total]

theorem round_ne_nan (r : Rounding) (q : ℚ) : r.round q ≠ nan :=
  ne_nan_of_le_left (r.mono (le_rfl (a := q)))

theorem le_min (hx : le z x) (hy : le z y) : le z (min x y) := by
  have hnan : ¬ (x = nan ∨ y = nan) := by
    rintro (h | h)
    · exact ne_nan_of_le_right hx h
    · exact ne_nan_of_le_right hy h
  unfold min
  rw [if_neg hnan]
  split
  · exact hx
  · exact hy

theorem min_le_right (hx : x ≠ nan) (hy : y ≠ nan) : le (min x y) y := by
  unfold min
  rw [if_neg (by simp [hx, hy])]
  split
  · next h => exact h
  · exact le_refl hy

theorem min_nan (y : Double) : min nan y = nan := by simp [min]

theorem le_max_left (hx : x ≠ nan) (hy : y ≠ nan) : le x (max x y) := by
  unfold max
  rw [if_neg (by simp [hx, hy])]
  split
  · next h => exact h
  · exact le_refl hx

/-- A product of a number from zero on with a power of two is one too, unless it is
zero times the overflown power. -/
theorem mul_twoPow_nonneg (h : le (fin 0) x) (n : Nat) :
    le (fin 0) (mul r x (twoPow n)) ∨ x = fin 0 ∧ 1024 ≤ n ∧ mul r x (twoPow n) = nan := by
  unfold twoPow
  split
  · left
    cases x with
    | nan => exact h
    | negInf => exact absurd h id
    | fin q =>
        have hq : (0 : ℚ) ≤ q := h
        have hle := r.mono (mul_nonneg hq (pow_nonneg (by decide) n : (0 : ℚ) ≤ 2 ^ n))
        rw [r.round_zero] at hle
        exact hle
    | inf =>
        have hpos : (0 : ℚ) < 2 ^ n := pow_pos (by decide) n
        simp [mul, hpos, hpos.ne', le]
  · next hn =>
      cases x with
      | nan => exact absurd h id
      | negInf => exact absurd h id
      | fin q =>
          have hq : (0 : ℚ) ≤ q := h
          rcases hq.eq_or_lt with rfl | hpos
          · exact .inr ⟨rfl, by omega, by simp [mul]⟩
          · left
            simp [mul, hpos, hpos.ne', le]
      | inf => exact .inl trivial

end Double
