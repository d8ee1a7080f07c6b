/-
Module: Crosswalk.Proofs.Rounding
Purpose: Rounding and decimal size in terms of rational numbers. Scaling down divides by a power of ten,
  rounding to an integer is off by one half at most, and the decade of a quotient is the exponent of its
  leading digit.
Main exports: cast_tenPow, digitCount_bounds, scaleDown_pos, scaleDown_value, halfEven_near, decade_bounds
-/
import Crosswalk.Proofs.Decimal.Numeral
import Mathlib.Tactic.Linarith

namespace Crosswalk

/-- A power of ten among the rational numbers. -/
theorem cast_tenPow (k : Nat) : ((tenPow k : Nat) : ℚ) = 10 ^ k := by
  exact_mod_cast (rfl : tenPow k = 10 ^ k)

/-- A power of two among the rational numbers. -/
theorem cast_twoPow (k : Nat) : ((twoPow k : Nat) : ℚ) = 2 ^ k := by
  exact_mod_cast (rfl : twoPow k = 2 ^ k)

theorem zpow_ten_pos (e : Int) : (0 : ℚ) < 10 ^ e :=
  zpow_pos (by norm_num) e

/-- The number of digits tells the size of a number. -/
theorem digitCount_bounds {n : Nat} (positive : n ≠ 0) :
    (10 : ℚ) ^ ((digitCount n : Int) - 1) ≤ n ∧ (n : ℚ) < 10 ^ (digitCount n : Int) := by
  have digits := digitCount_pos n
  have first : (digitCount n : Int) - 1 = (digitCount n - 1 : Nat) := by omega
  rw [first, zpow_natCast, zpow_natCast, ← cast_tenPow, ← cast_tenPow]
  exact ⟨by exact_mod_cast tenPow_le_of_ne_zero positive, by exact_mod_cast lt_tenPow_digitCount n⟩

/-! ### Scaling -/

theorem scaleDown_pos (num : Nat) {den : Nat} (positive : 0 < den) (k : Int) :
    0 < (scaleDown num den k).2 := by
  unfold scaleDown
  split
  · exact Nat.mul_pos positive (tenPow_pos _)
  · exact positive

/-- A quotient scaled down is the quotient divided by the power of ten. -/
theorem scaleDown_value (num : Nat) {den : Nat} (positive : 0 < den) (k : Int) :
    ((scaleDown num den k).1 : ℚ) / (scaleDown num den k).2 = num / den / 10 ^ k := by
  have nonzero : (den : ℚ) ≠ 0 := by exact_mod_cast positive.ne'
  unfold scaleDown
  split
  next up =>
      obtain ⟨j, rfl⟩ := Int.eq_ofNat_of_zero_le up
      rw [Int.toNat_natCast, zpow_natCast]
      push_cast
      rw [cast_tenPow, div_div]
  next down =>
      obtain ⟨j, total⟩ := Int.eq_ofNat_of_zero_le (a := -k) (by omega)
      have power : (10 : ℚ) ^ k = (10 ^ j)⁻¹ := by
        rw [← zpow_natCast, ← total, ← zpow_neg, neg_neg]
      rw [total, Int.toNat_natCast, power]
      push_cast
      rw [cast_tenPow]
      field_simp

/-! ### Rounding to integers -/

/-- Rounding to an integer is off by one half at most. -/
theorem halfEven_near (n : Nat) {d : Nat} (positive : 0 < d) :
    (halfEven n d : ℚ) - 1 / 2 ≤ n / d ∧ (n / d : ℚ) ≤ halfEven n d + 1 / 2 := by
  have whole : (0 : ℚ) < d := by exact_mod_cast positive
  have near : 2 * halfEven n d * d ≤ 2 * n + d ∧ 2 * n ≤ 2 * halfEven n d * d + d := by
    have parts := Nat.div_add_mod n d
    have below := Nat.mod_lt n positive
    have shifted : 2 * (n / d + 1) * d = 2 * (n / d * d) + 2 * d := by ring
    have unshifted : 2 * (n / d) * d = 2 * (n / d * d) := by ring
    rw [Nat.mul_comm] at parts
    simp only [halfEven]
    split_ifs <;> constructor <;> simp only [shifted, unshifted] <;> omega
  have low : (2 * halfEven n d * d : ℚ) ≤ 2 * n + d := by exact_mod_cast near.1
  have high : (2 * n : ℚ) ≤ 2 * halfEven n d * d + d := by exact_mod_cast near.2
  rw [le_div_iff₀ whole, div_le_iff₀ whole]
  constructor <;> linarith

/-! ### Decades -/

/-- The decade of a positive quotient is the exponent of its leading digit. -/
theorem decade_bounds {num den : Nat} (positive : num ≠ 0) (positiveDen : 0 < den) :
    (10 : ℚ) ^ decade num den ≤ num / den ∧ (num / den : ℚ) < 10 ^ (decade num den + 1) := by
  have whole : (0 : ℚ) < den := by exact_mod_cast positiveDen
  obtain ⟨low, high⟩ := digitCount_bounds positive
  obtain ⟨lowDen, highDen⟩ := digitCount_bounds positiveDen.ne'
  have scaled := scaleDown_value num positiveDen ((digitCount num : Int) - digitCount den)
  have divisor : (0 : ℚ) < (scaleDown num den ((digitCount num : Int) - digitCount den)).2 := by
    exact_mod_cast scaleDown_pos num positiveDen _
  have power := zpow_ten_pos ((digitCount num : Int) - digitCount den)
  -- the quotient lies in the decade that the numbers of digits suggest, or in the one below it
  have above : (10 : ℚ) ^ ((digitCount num : Int) - digitCount den - 1) ≤ num / den := by
    rw [le_div_iff₀ whole]
    calc (10 : ℚ) ^ ((digitCount num : Int) - digitCount den - 1) * den
        ≤ 10 ^ ((digitCount num : Int) - digitCount den - 1) * 10 ^ (digitCount den : Int) :=
          mul_le_mul_of_nonneg_left highDen.le (zpow_ten_pos _).le
      _ = 10 ^ ((digitCount num : Int) - 1) := by
          rw [← zpow_add₀ (by norm_num)]
          congr 1
          omega
      _ ≤ num := low
  have below : (num / den : ℚ) < 10 ^ ((digitCount num : Int) - digitCount den + 1) := by
    rw [div_lt_iff₀ whole]
    calc (num : ℚ) < 10 ^ (digitCount num : Int) := high
      _ = 10 ^ ((digitCount num : Int) - digitCount den + 1) * 10 ^ ((digitCount den : Int) - 1) := by
          rw [← zpow_add₀ (by norm_num)]
          congr 1
          omega
      _ ≤ 10 ^ ((digitCount num : Int) - digitCount den + 1) * den :=
          mul_le_mul_of_nonneg_left lowDen (zpow_ten_pos _).le
  unfold decade
  dsimp only
  split
  next reached =>
      have atLeast : (1 : ℚ) ≤ num / den / 10 ^ ((digitCount num : Int) - digitCount den) := by
        rw [← scaled, le_div_iff₀ divisor, one_mul]
        exact_mod_cast reached
      rw [le_div_iff₀ power, one_mul] at atLeast
      exact ⟨atLeast, below⟩
  next missed =>
      have lessThan : (num / den / 10 ^ ((digitCount num : Int) - digitCount den) : ℚ) < 1 := by
        rw [← scaled, div_lt_iff₀ divisor, one_mul]
        exact_mod_cast not_le.mp missed
      rw [div_lt_iff₀ power, one_mul] at lessThan
      rw [sub_add_cancel]
      exact ⟨above, lessThan⟩

end Crosswalk
