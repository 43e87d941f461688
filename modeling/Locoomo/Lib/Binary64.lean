import Mathlib.Algebra.Order.Ring.Rat
import Mathlib.Data.Int.Log
import Mathlib.Data.Rat.Floor
import Mathlib.Tactic.Linarith

/-! Double-precision numbers as rationals. A number is 53 significant bits and an
exponent; an operation gives the number nearest to its exact result. There is no
overflow here. -/

namespace Binary64

/-! ## Rounding -/

/-- To the nearest integer, and halfway between two of them to the even one. -/
def roundEven (x : ℚ) : ℤ :=
  if x - ⌊x⌋ < 1 / 2 ∨ x - ⌊x⌋ = 1 / 2 ∧ ⌊x⌋ % 2 = 0 then ⌊x⌋ else ⌊x⌋ + 1

/-- The exponent of the last bit: at least that of the subnormal numbers. -/
def lastBit (q : ℚ) : ℤ := max (Int.log 2 |q| - 52) (-1074)

/-- The number nearest to `q`. -/
def nearest (q : ℚ) : ℚ := roundEven (q / 2 ^ lastBit q) * 2 ^ lastBit q

variable {p q x y : ℚ} {n : ℤ}

theorem floor_le_roundEven (x : ℚ) : ⌊x⌋ ≤ roundEven x := by
  unfold roundEven
  split <;> omega

theorem roundEven_le_floor (x : ℚ) : roundEven x ≤ ⌊x⌋ + 1 := by
  unfold roundEven
  split <;> omega

theorem roundEven_intCast (n : ℤ) : roundEven n = n := by simp [roundEven]

theorem roundEven_mono (h : x ≤ y) : roundEven x ≤ roundEven y := by
  rcases (Int.floor_mono h).lt_or_eq with hlt | heq
  · have hx := roundEven_le_floor x
    have hy := floor_le_roundEven y
    omega
  · -- between the same integers, what is rounded up stays so further on
    unfold roundEven
    rw [heq]
    split
    · split <;> omega
    · next hup =>
        rw [if_neg]
        rintro (hbelow | ⟨hhalf, heven⟩)
        · exact hup (.inl (by linarith))
        · rcases (show x - ⌊y⌋ ≤ 1 / 2 by linarith).lt_or_eq with hbelow | hhalf'
          · exact hup (.inl hbelow)
          · exact hup (.inr ⟨hhalf', heven⟩)

/-! ## Order -/

theorem two_zpow_pos (n : ℤ) : (0 : ℚ) < 2 ^ n := zpow_pos (by decide) n

/-- A power of two is a whole number of last bits. -/
theorem exists_mul_lastBit (h : lastBit q ≤ n) : ∃ k : ℤ, (2 : ℚ) ^ n = k * 2 ^ lastBit q := by
  refine ⟨2 ^ (n - lastBit q).toNat, ?_⟩
  have hexp : n = ((n - lastBit q).toNat : ℤ) + lastBit q := by omega
  rw [Int.cast_pow, Int.cast_ofNat, ← zpow_natCast, ← zpow_add₀ (by decide), ← hexp]

theorem nearest_le (hbit : lastBit q ≤ n) (h : q ≤ 2 ^ n) : nearest q ≤ 2 ^ n := by
  obtain ⟨k, hk⟩ := exists_mul_lastBit hbit
  rw [hk] at h ⊢
  have hround : roundEven (q / 2 ^ lastBit q) ≤ k := by
    rw [← roundEven_intCast k]
    exact roundEven_mono ((div_le_iff₀ (two_zpow_pos _)).mpr h)
  exact mul_le_mul_of_nonneg_right (by exact_mod_cast hround) (two_zpow_pos _).le

theorem le_nearest (hbit : lastBit q ≤ n) (h : 2 ^ n ≤ q) : 2 ^ n ≤ nearest q := by
  obtain ⟨k, hk⟩ := exists_mul_lastBit hbit
  rw [hk] at h ⊢
  have hround : k ≤ roundEven (q / 2 ^ lastBit q) := by
    rw [← roundEven_intCast k]
    exact roundEven_mono ((le_div_iff₀ (two_zpow_pos _)).mpr h)
  exact mul_le_mul_of_nonneg_right (by exact_mod_cast hround) (two_zpow_pos _).le

theorem nearest_nonneg (h : 0 ≤ q) : 0 ≤ nearest q := by
  have hfloor : 0 ≤ ⌊q / 2 ^ lastBit q⌋ := Int.floor_nonneg.mpr (div_nonneg h (two_zpow_pos _).le)
  have hround : 0 ≤ roundEven (q / 2 ^ lastBit q) := hfloor.trans (floor_le_roundEven _)
  exact mul_nonneg (by exact_mod_cast hround) (two_zpow_pos _).le

/-- **Rounding keeps the order** of what is not negative: among numbers with the
same last bit, and past a power of two, which is a number itself. -/
theorem nearest_mono (h0 : 0 ≤ p) (h : p ≤ q) : nearest p ≤ nearest q := by
  rcases h0.eq_or_lt with rfl | hpos
  · have hzero : nearest 0 = 0 := by simp [nearest, roundEven]
    rw [hzero]
    exact nearest_nonneg h
  · have hp : |p| = p := abs_of_pos hpos
    have hq : |q| = q := abs_of_pos (hpos.trans_le h)
    have hlog : Int.log 2 p ≤ Int.log 2 q := Int.log_mono_right hpos h
    by_cases hbit : lastBit p = lastBit q
    · rw [nearest, nearest, hbit]
      have hdiv : p / 2 ^ lastBit q ≤ q / 2 ^ lastBit q :=
        div_le_div_of_nonneg_right h (two_zpow_pos _).le
      exact mul_le_mul_of_nonneg_right (by exact_mod_cast roundEven_mono hdiv) (two_zpow_pos _).le
    · have hbits : Int.log 2 p < Int.log 2 q ∧ lastBit p ≤ Int.log 2 q ∧
          lastBit q ≤ Int.log 2 q := by
        unfold lastBit at hbit ⊢
        rw [hp, hq] at *
        omega
      obtain ⟨hlt, hpbit, hqbit⟩ := hbits
      have hbelow : p ≤ 2 ^ Int.log 2 q :=
        calc p ≤ 2 ^ (Int.log 2 p + 1) := (Int.lt_zpow_succ_log_self one_lt_two p).le
          _ ≤ 2 ^ Int.log 2 q := zpow_le_zpow_right₀ one_le_two hlt
      have habove : (2 : ℚ) ^ Int.log 2 q ≤ q :=
        Int.zpow_log_le_self one_lt_two (hpos.trans_le h)
      exact (nearest_le hpbit hbelow).trans (le_nearest hqbit habove)

end Binary64
