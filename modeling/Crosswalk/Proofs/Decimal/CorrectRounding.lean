/-
Module: Crosswalk.Proofs.Decimal.CorrectRounding
Purpose: Sums, differences, products and quotients are the exact ones, rounded once. A summand far below the last
  digit of the other one may be replaced by any number of its sign that is as far below: the sum stays between
  the same two neighbouring multiples of a power of ten, and the numbers at which rounding turns from one result
  to the next are multiples of that power themselves.
Main exports: Decimal.SameCell, Decimal.RoundsTo.of_sameCell, Decimal.add_computes, Decimal.subtract_computes,
  Decimal.multiply_computes, Decimal.divide_computes
-/
import Crosswalk.Proofs.Decimal.Nearest

namespace Crosswalk.Decimal

/-! ### Cells -/

/-- Two numbers lie between the same two neighbouring multiples of a step. -/
def SameCell (step x y : ℚ) : Prop :=
  ∃ m : ℤ, (m * step < x ∧ x < (m + 1) * step) ∧ (m * step < y ∧ y < (m + 1) * step)

section Cells

variable {step x y : ℚ} (positive : 0 < step) (cell : SameCell step x y)
include positive cell

/-- A multiple below one of the numbers is below the other one. -/
theorem SameCell.lt_of_le {c : ℤ} (below : c * step ≤ x) : c * step < y := by
  obtain ⟨m, ⟨-, high⟩, low, -⟩ := cell
  have less : (c : ℚ) < m + 1 := lt_of_mul_lt_mul_right (below.trans_lt high) positive.le
  have le : c ≤ m := Int.lt_add_one_iff.mp (by exact_mod_cast less)
  exact (mul_le_mul_of_nonneg_right (by exact_mod_cast le) positive.le).trans_lt low

/-- A multiple above one of the numbers is above the other one. -/
theorem SameCell.lt_of_ge {c : ℤ} (above : x ≤ c * step) : y < c * step := by
  obtain ⟨m, ⟨low, -⟩, -, high⟩ := cell
  have less : (m : ℚ) < c := lt_of_mul_lt_mul_right (low.trans_le above) positive.le
  have le : m + 1 ≤ c := Int.add_one_le_iff.mpr (by exact_mod_cast less)
  exact high.trans_le (mul_le_mul_of_nonneg_right (by exact_mod_cast le) positive.le)

/-- The magnitudes lie between two neighbouring multiples, too: zero is a multiple, so the signs are the same. -/
theorem SameCell.abs : SameCell step |x| |y| := by
  obtain ⟨m, ⟨low, high⟩, low', high'⟩ := cell
  rcases le_or_gt 0 m with nonneg | negative
  · have base : 0 ≤ m * step := mul_nonneg (by exact_mod_cast nonneg) positive.le
    rw [abs_of_pos (base.trans_lt low), abs_of_pos (base.trans_lt low')]
    exact ⟨m, ⟨low, high⟩, low', high'⟩
  · have next : (m : ℚ) + 1 ≤ 0 := by exact_mod_cast negative
    have top : (m + 1) * step ≤ 0 := mul_nonpos_of_nonpos_of_nonneg next positive.le
    rw [abs_of_neg (high.trans_le top), abs_of_neg (high'.trans_le top)]
    refine ⟨-m - 1, ?_, ?_⟩ <;> push_cast <;> constructor <;> linarith

end Cells

section Decades

variable {k : ℤ} {x y : ℚ} (cell : SameCell (10 ^ k) x y)
include cell

/-- Numbers of one cell have the same leading digit: no larger power of ten than its width lies inside it. -/
theorem SameCell.leadingExponent_eq (nonzero : x ≠ 0) (le : k ≤ leadingExponent x) :
    leadingExponent y = leadingExponent x := by
  have positive := zpow_ten_pos k
  have sizes := cell.abs positive
  have low := (le_leadingExponent_iff nonzero).mp le_rfl
  have high := (leadingExponent_lt_iff nonzero).mp (Int.lt_add_one_iff.mpr le_rfl)
  rw [zpow_ten_multiple le] at low
  rw [zpow_ten_multiple (le.trans (Int.le_add_one le_rfl))] at high
  apply Crosswalk.leadingExponent_eq
  · rw [zpow_ten_multiple le]
    exact (sizes.lt_of_le positive low).le
  · rw [zpow_ten_multiple (le.trans (Int.le_add_one le_rfl))]
    exact sizes.lt_of_ge positive high.le

/-- Numbers of one cell are rounded alike if the cell is fifty places below their leading digits: the numbers
    halfway between two rounded ones are multiples of its width. -/
theorem RoundsTo.of_sameCell (nonzero : x ≠ 0) (far : k + 50 ≤ leadingExponent x) {rounded : ℚ}
    (rounds : RoundsTo x rounded) : RoundsTo y rounded := by
  have positive := zpow_ten_pos k
  have place : lastPlace y = lastPlace x := by
    rw [lastPlace, cell.leadingExponent_eq nonzero (by omega), lastPlace]
  obtain ⟨n, rfl, nearest⟩ := rounds
  obtain ⟨h, half⟩ : ∃ h : ℤ, lastPlace x / 2 = h * 10 ^ k := by
    refine ⟨5 * (tenPow (max (leadingExponent x - 49) (-1000048) - 1 - k).toNat : ℤ), ?_⟩
    rw [lastPlace, Int.cast_mul, mul_assoc, ← zpow_ten_multiple (by omega), zpow_sub_one₀ (by norm_num)]
    push_cast
    ring
  -- the two points at which rounding turns to the neighbours of the rounded number
  have whole : lastPlace x = 2 * (h * 10 ^ k) := by
    rw [← half]
    ring
  have lower : (((2 * n - 1) * h : ℤ) : ℚ) * 10 ^ k = n * lastPlace x - lastPlace x / 2 := by
    rw [half, whole]
    push_cast
    ring
  have upper : (((2 * n + 1) * h : ℤ) : ℚ) * 10 ^ k = n * lastPlace x + lastPlace x / 2 := by
    rw [half, whole]
    push_cast
    ring
  obtain ⟨low, high⟩ := abs_le.mp nearest.near
  have above := cell.lt_of_le positive (c := (2 * n - 1) * h) (by rw [lower]; linarith)
  have below := cell.lt_of_ge positive (c := (2 * n + 1) * h) (by rw [upper]; linarith)
  rw [lower] at above
  rw [upper] at below
  have inside : |y - n * lastPlace x| < lastPlace x / 2 := abs_lt.mpr ⟨by linarith, by linarith⟩
  exact ⟨n, by rw [place], by rw [place]; exact ⟨inside.le, fun tie => absurd tie inside.ne⟩⟩

end Decades

/-! ### Summands without influence -/

/-- Next to a multiple of a power of ten, fifty-one places below its leading digit, the summands that are smaller
    than the power have the same influence on the rounded sum if they have one sign. -/
theorem RoundsTo.replace {x y y' rounded : ℚ} {k m : ℤ} (multiple : x = m * 10 ^ k)
    (far : (10 : ℚ) ^ (k + 51) ≤ |x|) (small : |y| < 10 ^ k) (small' : |y'| < 10 ^ k) (sign : 0 < y * y')
    (rounds : RoundsTo (x + y') rounded) : RoundsTo (x + y) rounded := by
  obtain ⟨low, high⟩ := abs_lt.mp small
  obtain ⟨low', high'⟩ := abs_lt.mp small'
  have cell : SameCell (10 ^ k) (x + y') (x + y) := by
    rcases pos_and_pos_or_neg_and_neg_of_mul_pos sign with ⟨above, above'⟩ | ⟨below, below'⟩
    · refine ⟨m, ?_, ?_⟩ <;> constructor <;> linarith
    · refine ⟨m - 1, ?_, ?_⟩ <;> push_cast <;> constructor <;> linarith
  have positive := zpow_ten_pos k
  have size : (10 : ℚ) ^ (k + 50) ≤ |x + y'| := by
    have tenfold : (10 : ℚ) ^ (k + 51) = 10 * 10 ^ (k + 50) := by
      rw [← zpow_one_add₀ (by norm_num)]
      ring_nf
    have smaller : (10 : ℚ) ^ k ≤ 10 ^ (k + 50) := zpow_le_zpow_right₀ (by norm_num) (by omega)
    have apart := abs_sub_abs_le_abs_sub x (-y')
    rw [abs_neg, sub_neg_eq_add] at apart
    linarith
  have nonzero : x + y' ≠ 0 := abs_pos.mp ((zpow_ten_pos _).trans_le size)
  exact rounds.of_sameCell cell nonzero ((le_leadingExponent_iff nonzero).mpr size)

section Parts

variable {a : Int} (nonzero : a ≠ 0) (e : Int)
include nonzero

/-- The leading digit tells the size of a number with a sign. -/
theorem abs_parts_bounds :
    (10 : ℚ) ^ leading a e ≤ |(a * 10 ^ e : ℚ)| ∧ |(a * 10 ^ e : ℚ)| < 10 ^ (leading a e + 1) := by
  have bounds := leading_bounds (Int.natAbs_ne_zero.mpr nonzero) e
  rwa [← abs_signed_mul (a < 0), signed_natAbs, leading, Int.natAbs_natCast, ← leading] at bounds

theorem parts_ne_zero : (a * 10 ^ e : ℚ) ≠ 0 :=
  mul_ne_zero (by exact_mod_cast nonzero) (zpow_ten_pos e).ne'

end Parts

section Cutting

variable {a ea b eb : Int}

/-- A sum with a summand cut down is rounded like the sum itself. -/
theorem RoundsTo.of_cut (nonzero : a ≠ 0) (nonzeroOther : b ≠ 0) (far : leading b eb < influence a ea)
    {rounded : ℚ} (rounds : RoundsTo (a * 10 ^ ea + b.sign * 10 ^ (influence a ea - 1)) rounded) :
    RoundsTo (a * 10 ^ ea + b * 10 ^ eb) rounded := by
  have least : influence a ea ≤ ea := min_le_left ..
  have places : influence a ea + 51 ≤ leading a ea := by
    have limit : influence a ea ≤ leading a ea - (precision + 1 : Nat) := min_le_right ..
    have fifty : precision = 50 := rfl
    omega
  generalize influence a ea = k at far least places rounds
  have small : |(b * 10 ^ eb : ℚ)| < 10 ^ k :=
    (abs_parts_bounds nonzeroOther eb).2.trans_le (zpow_le_zpow_right₀ (by norm_num) (by omega))
  have unit : |(b.sign : ℚ)| = 1 := by
    exact_mod_cast Int.abs_sign_of_ne_zero nonzeroOther
  have small' : |(b.sign * 10 ^ (k - 1) : ℚ)| < 10 ^ k := by
    rw [abs_mul, unit, one_mul, abs_of_pos (zpow_ten_pos _)]
    exact zpow_lt_zpow_right₀ (by norm_num) (by omega)
  have sign : (0 : ℚ) < b * 10 ^ eb * (b.sign * 10 ^ (k - 1)) := by
    have product : (0 : ℚ) < b * b.sign := by
      rw [← Int.cast_mul, mul_comm, Int.sign_mul_self_eq_natAbs]
      exact_mod_cast Int.natAbs_pos.mpr nonzeroOther
    rw [mul_mul_mul_comm]
    exact mul_pos product (mul_pos (zpow_ten_pos eb) (zpow_ten_pos (k - 1)))
  refine rounds.replace (m := a * tenPow (ea - k).toNat) ?_ ?_ small small' sign
  · rw [zpow_ten_multiple least, Int.cast_mul, mul_assoc]
  · exact (zpow_le_zpow_right₀ (by norm_num) places).trans (abs_parts_bounds nonzero ea).1

theorem cutTo_of_lt (far : leading b eb < influence a ea) : cutTo a ea b eb = (b.sign, influence a ea - 1) :=
  if_pos far

theorem cutTo_of_le (near : influence a ea ≤ leading b eb) : cutTo a ea b eb = (b, eb) :=
  if_neg (not_lt.mpr near)

/-- A summand that is cut down is too small for the other one to be. -/
theorem influence_le_of_lt (far : leading b eb < influence a ea) : influence b eb ≤ leading a ea := by
  unfold influence at *
  omega

end Cutting

/-! ### Operations -/

/-- What is computed for a number is computed for the numbers that are rounded to the same result. -/
theorem Computes.congr {exact other : ℚ} {computed : Except Signal Decimal} (computes : Computes exact computed)
    (same : ∀ rounded, RoundsTo exact rounded → RoundsTo other rounded) : Computes other computed := by
  obtain ⟨rounded, rounds, outcome⟩ := computes
  exact ⟨rounded, same rounded rounds, outcome⟩

/-- Two numbers brought to one exponent, added and rounded. -/
theorem align_computes (a ea b eb : Int) :
    Computes (a * 10 ^ ea + b * 10 ^ eb)
      (roundParts ((align a ea b eb).1 + (align a ea b eb).2.1) (align a ea b eb).2.2) := by
  obtain ⟨left, right⟩ := align_value a ea b eb
  rw [← left, ← right, ← add_mul, ← Int.cast_add]
  exact roundParts_computes _ _

/-- At most one of the summands is cut down, and that does not change the rounded sum. -/
theorem addFinite_computes (a ea b eb : Int) : Computes (a * 10 ^ ea + b * 10 ^ eb) (addFinite a ea b eb) := by
  unfold addFinite
  split
  next isZero =>
      rw [isZero, Int.cast_zero, zero_mul, zero_add]
      exact roundParts_computes b eb
  next nonzero =>
      split
      next isZero =>
          rw [isZero, Int.cast_zero, zero_mul, add_zero]
          exact roundParts_computes a ea
      next nonzeroOther =>
          rcases lt_or_ge (leading b eb) (influence a ea) with far | near
          · rw [cutTo_of_lt far, cutTo_of_le (influence_le_of_lt far)]
            exact (align_computes ..).congr fun rounded => .of_cut nonzero nonzeroOther far
          · rw [cutTo_of_le near]
            rcases lt_or_ge (leading a ea) (influence b eb) with far | near
            · rw [cutTo_of_lt far]
              have computes := align_computes a.sign (influence b eb - 1) b eb
              rw [add_comm] at computes ⊢
              exact computes.congr fun rounded => .of_cut nonzeroOther nonzero far
            · rw [cutTo_of_le near]
              exact align_computes a ea b eb

/-- A quotient is negative if the signs differ. -/
theorem signed_div (a b : Int) :
    (signed (decide (a < 0) != decide (b < 0)) a.natAbs : ℚ) / b.natAbs = a / b := by
  have magnitude (n : Int) : (n.natAbs : ℚ) = if n < 0 then -(n : ℚ) else n := by
    rw [Nat.cast_natAbs, Int.cast_abs]
    split
    next negative => exact abs_of_neg (by exact_mod_cast negative)
    next positive => exact abs_of_nonneg (by exact_mod_cast not_lt.mp positive)
  rw [cast_signed, magnitude, magnitude]
  by_cases negative : a < 0 <;> by_cases negativeOther : b < 0 <;>
    simp [negative, negativeOther, div_neg, neg_div]

section Operations

variable {x y : Decimal} {a b : ℚ} (first : x.Denotes a) (second : y.Denotes b)

theorem Denotes.opposite (denotes : x.Denotes a) : x.opposite.Denotes (-a) := by
  obtain ⟨coefficient, exponent, canonical, rfl, rfl⟩ := denotes.exists_finite
  exact denotes_finite.mpr (by push_cast; ring)

/-- A decimal that denotes a number is rounded as the number is. -/
theorem rounded_computes (denotes : x.Denotes a) : Computes a x.rounded := by
  obtain ⟨coefficient, exponent, canonical, rfl, rfl⟩ := denotes.exists_finite
  exact roundParts_computes coefficient exponent

include first second

theorem add_computes : Computes (a + b) (add x y) := by
  obtain ⟨_, _, _, rfl, rfl⟩ := first.exists_finite
  obtain ⟨_, _, _, rfl, rfl⟩ := second.exists_finite
  exact addFinite_computes ..

theorem subtract_computes : Computes (a - b) (subtract x y) := by
  rw [sub_eq_add_neg]
  exact add_computes first second.opposite

theorem multiply_computes : Computes (a * b) (multiply x y) := by
  obtain ⟨coefficient, exponent, _, rfl, rfl⟩ := first.exists_finite
  obtain ⟨coefficient', exponent', _, rfl, rfl⟩ := second.exists_finite
  have computes := roundParts_computes (coefficient * coefficient') (exponent + exponent')
  rwa [zpow_add₀ (by norm_num), Int.cast_mul, mul_mul_mul_comm] at computes

theorem divide_computes (nonzero : b ≠ 0) : Computes (a / b) (divide x y) := by
  obtain ⟨coefficient, exponent, _, rfl, rfl⟩ := first.exists_finite
  obtain ⟨coefficient', exponent', _, rfl, rfl⟩ := second.exists_finite
  have present : coefficient' ≠ 0 := by
    rintro rfl
    simp at nonzero
  have computes := round_computes (decide (coefficient < 0) != decide (coefficient' < 0)) coefficient.natAbs
    (Int.natAbs_pos.mpr present) (exponent - exponent')
  rw [signed_div, zpow_sub₀ (by norm_num), div_mul_div_comm] at computes
  simpa only [divide, if_neg present] using computes

end Operations

end Crosswalk.Decimal
