/-
Module: Crosswalk.Proofs.Binary64.Overflow
Purpose: Where rounding leaves the finite doubles. A quotient rounds to an infinity from the midpoint on that
  lies between the greatest finite magnitude and the limit; there the tie goes to the even significand, which
  is the limit's.
Main exports: Binary64.overflowThreshold, Binary64.nearest_lt_limit_iff, Binary64.ofUnits_of_lt,
  Binary64.ofUnits_of_le
-/
import Crosswalk.Binary64.Arithmetic
import Mathlib.Tactic.Ring
import Mathlib.Tactic.Linarith

namespace Crosswalk

theorem twoPow_succ (k : Nat) : twoPow (k + 1) = 2 * twoPow k :=
  Nat.pow_succ'

theorem twoPow_lt_twoPow {j k : Nat} (less : j < k) : twoPow j < twoPow k :=
  Nat.pow_lt_pow_right (by decide) less

/-- A quotient rounds to less than an even number exactly if it lies below the midpoint before that number. -/
theorem halfEven_lt_iff {n d bound : Nat} (positive : 0 < d) (even : bound % 2 = 0) :
    halfEven n d < bound ↔ 2 * n < (2 * bound - 1) * d := by
  obtain ⟨q, quotient⟩ : ∃ q, n / d = q := ⟨_, rfl⟩
  obtain ⟨r, remainder⟩ : ∃ r, n % d = r := ⟨_, rfl⟩
  have parts : n = q * d + r := by rw [← quotient, ← remainder, Nat.mul_comm, Nat.div_add_mod]
  have small : r < d := remainder ▸ Nat.mod_lt n positive
  have total : 2 * n = 2 * q * d + 2 * r := by rw [parts]; ring
  rw [total]
  -- a number of halves of `d` decides, unless the quotient is a midpoint itself
  have below (halves : Nat) (less : 2 * q + halves ≤ 2 * bound - 1) : 2 * q * d + halves * d ≤ (2 * bound - 1) * d := by
    rw [← Nat.add_mul]
    exact Nat.mul_le_mul_right d less
  have above (halves : Nat) (more : 2 * bound - 1 ≤ 2 * q + halves) : (2 * bound - 1) * d ≤ 2 * q * d + halves * d := by
    rw [← Nat.add_mul]
    exact Nat.mul_le_mul_right d more
  simp only [halfEven, quotient, remainder]
  split_ifs with under beyond qEven
  · rcases Nat.lt_or_ge q bound with less | more
    · have := below 1 (by omega)
      exact iff_of_true less (by omega)
    · have := above 0 (by omega)
      exact iff_of_false (by omega) (by omega)
  · rcases Nat.lt_or_ge (q + 1) bound with less | more
    · have := below 2 (by omega)
      exact iff_of_true less (by omega)
    · have := above 1 (by omega)
      exact iff_of_false (by omega) (by omega)
  · rcases Nat.lt_or_ge q bound with less | more
    · have := below 2 (by omega)
      exact iff_of_true less (by omega)
    · have := above 1 (by omega)
      exact iff_of_false (by omega) (by omega)
  · rcases Nat.lt_or_ge (q + 1) bound with less | more
    · have := below 2 (by omega)
      exact iff_of_true less (by omega)
    · have := above 1 (by omega)
      exact iff_of_false (by omega) (by omega)

namespace Binary64

/-- From this number of units on magnitudes round to an infinity. -/
def overflowThreshold : Nat :=
  limit - twoPow 2044

theorem limit_eq : limit = twoPow 53 * twoPow 2045 :=
  twoPow_add 53 2045

theorem overflowThreshold_eq : overflowThreshold = (2 * twoPow 53 - 1) * twoPow 2044 := by
  rw [overflowThreshold, limit_eq, twoPow_succ 2044, Nat.sub_mul, Nat.one_mul, Nat.mul_left_comm, Nat.mul_assoc]

theorem spareBits_of_lt {q spare : Nat} (low : twoPow (52 + spare) ≤ q) (high : q < twoPow (53 + spare)) :
    spareBits q = spare := by
  have nonzero : q ≠ 0 := by have := twoPow_pos (52 + spare); omega
  have atLeast : 52 + spare ≤ q.log2 := (Nat.le_log2 nonzero).mpr low
  have below : q.log2 < 53 + spare := (Nat.log2_lt nonzero).mpr high
  simp only [spareBits, significandBits]
  omega

theorem overflowThreshold_le_limit : overflowThreshold ≤ limit :=
  Nat.sub_le _ _

theorem twoPow_le_overflowThreshold : twoPow 2097 ≤ overflowThreshold := by
  have double : limit = 2 * twoPow 2097 := twoPow_succ 2097
  have smaller : twoPow 2044 ≤ twoPow 2097 := twoPow_le_twoPow (by decide)
  unfold overflowThreshold
  omega

/-- Rounding a quotient takes it to the next power of two at most. -/
theorem nearest_le_twoPow (n d : Nat) {size : Nat} (small : n / d < twoPow size) (wide : significandBits ≤ size) :
    nearest n d ≤ twoPow size := by
  have spare : spareBits (n / d) ≤ size - significandBits := by
    rcases Nat.eq_zero_or_pos (n / d) with zero | positive
    · rw [zero]
      exact Nat.zero_le _
    · have := (Nat.log2_lt positive.ne').mpr small
      simp only [spareBits]
      omega
  have := halfEven_le n (d * twoPow (spareBits (n / d)))
  have := quotient_lt_twoPow n d
  calc nearest n d ≤ twoPow significandBits * twoPow (spareBits (n / d)) :=
        Nat.mul_le_mul_right _ (by omega)
    _ = twoPow (significandBits + spareBits (n / d)) := (twoPow_add ..).symm
    _ ≤ twoPow size := twoPow_le_twoPow (by omega)

/-- Rounding a quotient does not take it below a power of two. -/
theorem twoPow_le_nearest (n d : Nat) {size : Nat} (large : twoPow size ≤ n / d) (wide : significandBits ≤ size) :
    twoPow size ≤ nearest n d := by
  have nonzero : n / d ≠ 0 := by have := twoPow_pos size; omega
  have bits : size ≤ (n / d).log2 := (Nat.le_log2 nonzero).mpr large
  obtain ⟨spare, shape⟩ : ∃ spare, (n / d).log2 = 52 + spare := ⟨(n / d).log2 - 52, by
    simp only [significandBits] at wide
    omega⟩
  have spareBits_eq : spareBits (n / d) = spare := by
    simp only [spareBits, significandBits]
    omega
  have quotient : twoPow 52 ≤ n / (d * twoPow spare) := by
    rw [← Nat.div_div_eq_div_mul, Nat.le_div_iff_mul_le (twoPow_pos spare), ← twoPow_add, ← shape]
    exact twoPow_log2_le nonzero
  calc twoPow size ≤ twoPow (52 + spare) := twoPow_le_twoPow (shape ▸ bits)
    _ = twoPow 52 * twoPow spare := twoPow_add ..
    _ ≤ nearest n d := by
      rw [nearest, spareBits_eq]
      exact Nat.mul_le_mul_right _ (quotient.trans (le_halfEven _ _))

/-- A quotient rounds to a finite magnitude exactly if it lies below the threshold. -/
theorem nearest_lt_limit_iff {n d : Nat} (positive : 0 < d) :
    nearest n d < limit ↔ n < overflowThreshold * d := by
  rcases Nat.lt_or_ge (n / d) (twoPow 2097) with small | large
  · have finite : nearest n d < limit :=
      (nearest_le_twoPow n d small (by decide)).trans_lt
        (by have := twoPow_pos 2097; have : limit = 2 * twoPow 2097 := twoPow_succ 2097; omega)
    refine iff_of_true finite ?_
    exact (Nat.div_lt_iff_lt_mul positive).mp (small.trans_le twoPow_le_overflowThreshold)
  rcases Nat.lt_or_ge (n / d) limit with below | beyond
  · -- the last power of two below the limit: a place is 2 ^ 2045, and the limit has an even significand there
    have spare : spareBits (n / d) = 2045 := spareBits_of_lt large below
    have scaled : (2 * twoPow 53 - 1) * (d * twoPow 2045) = 2 * (overflowThreshold * d) := by
      rw [overflowThreshold_eq, twoPow_succ 2044]
      ring
    rw [nearest, spare, limit_eq, Nat.mul_lt_mul_right (twoPow_pos 2045),
      halfEven_lt_iff (Nat.mul_pos positive (twoPow_pos 2045)) (by decide +kernel), scaled]
    omega
  · refine iff_of_false (not_lt.mpr (twoPow_le_nearest n d beyond (by decide))) (not_lt.mpr ?_)
    calc overflowThreshold * d ≤ limit * d := Nat.mul_le_mul_right _ overflowThreshold_le_limit
      _ ≤ n := (Nat.le_div_iff_mul_le positive).mp beyond

section Rounding

variable (negative : Bool) {n d : Nat} (positive : 0 < d)
include positive

theorem ofUnits_of_lt (below : n < overflowThreshold * d) :
    ∃ isMagnitude, ofUnits negative n d = .finite negative (nearest n d) isMagnitude :=
  ⟨_, dif_pos ((nearest_lt_limit_iff positive).mpr below)⟩

theorem ofUnits_of_le (beyond : overflowThreshold * d ≤ n) : ofUnits negative n d = .infinity negative :=
  dif_neg fun finite => absurd ((nearest_lt_limit_iff positive).mp finite) (not_lt.mpr beyond)

end Rounding

example : ofInt (twoPow 1024 - twoPow 970) = .infinity false ∧
    ofInt (twoPow 1024 - twoPow 970 - 1) = ofInt (twoPow 1024 - twoPow 971) := by decide +kernel

end Binary64

end Crosswalk
