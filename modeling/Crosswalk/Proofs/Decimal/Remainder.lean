/-
Module: Crosswalk.Proofs.Decimal.Remainder
Purpose: Remainders are exact. The remainder of a division whose quotient is truncated toward zero has no more
  digits than one of the operands: its last digit is the last one of either, and it is smaller than the divisor
  and not greater than the dividend. So the remainder of numbers of the arithmetic is one of them, and the only
  limit is that of the quotient.
Main exports: truncated, Decimal.IsRemainder, Decimal.preciseParts_tmod, Decimal.remainder_leaves
-/
import Crosswalk.Proofs.Decimal.CorrectRounding

namespace Crosswalk

/-! ### Truncated quotients -/

/-- A number without the digits behind its point. -/
def truncated (q : ℚ) : ℤ :=
  if 0 ≤ q then ⌊q⌋ else ⌈q⌉

/-- An integer that lies between zero and a number, less than one away from the number, is the number
    truncated. -/
theorem truncated_eq {q : ℚ} {n : ℤ} (near : |q - n| < 1) (side : q = n ∨ 0 < (q - n) * q) :
    truncated q = n := by
  obtain ⟨low, high⟩ := abs_lt.mp near
  unfold truncated
  split
  next nonneg =>
      have above : (n : ℚ) ≤ q := by
        rcases side with same | apart
        · exact same.ge
        · exact (sub_pos.mp (pos_of_mul_pos_left apart nonneg)).le
      exact Int.floor_eq_iff.mpr ⟨above, by linarith⟩
  next negative =>
      have below : q ≤ n := by
        rcases side with same | apart
        · exact same.le
        · exact (sub_neg.mp (neg_of_mul_pos_left apart (not_le.mp negative).le)).le
      exact Int.ceil_eq_iff.mpr ⟨by linarith, below⟩

namespace Decimal

/-- What is left of a number when a truncated multiple of another one is taken from it. -/
structure IsRemainder (a b r : ℚ) : Prop where
  parts : a = truncated (a / b) * b + r
  small : |r| < |b|
  sign : r = 0 ∨ 0 < r * a

section Parts

variable {a b r : ℚ}

/-- Any multiple that leaves less than the divisor, with the sign of the dividend, is the truncated one. -/
theorem IsRemainder.of_multiple {n : ℤ} (parts : a = n * b + r) (small : |r| < |b|)
    (sign : r = 0 ∨ 0 < r * a) : IsRemainder a b r := by
  have nonzero : b ≠ 0 := abs_pos.mp ((abs_nonneg r).trans_lt small)
  have rest : a / b - n = r / b := by
    rw [parts]
    field_simp
    ring
  have quotient : truncated (a / b) = n := by
    apply truncated_eq
    · rw [rest, abs_div, div_lt_one (abs_pos.mpr nonzero)]
      exact small
    · rw [rest, ← sub_eq_zero, rest, div_mul_div_comm]
      rcases sign with nothing | same
      · exact .inl (by rw [nothing, zero_div])
      · exact .inr (div_pos same (mul_self_pos.mpr nonzero))
  exact ⟨by rwa [quotient], small, sign⟩

/-- Nothing is taken from a number that is smaller than the divisor. -/
theorem IsRemainder.of_small (small : |a| < |b|) : IsRemainder a b a := by
  refine .of_multiple (n := 0) (by simp) small ?_
  by_cases isZero : a = 0
  · exact .inl isZero
  · exact .inr (mul_self_pos.mpr isZero)

end Parts

/-! ### Aligned operands -/

/-- A truncated remainder of integers is zero or has the sign of the dividend. -/
theorem tmod_eq_zero_or_pos (x y : Int) : x.tmod y = 0 ∨ 0 < x.tmod y * x := by
  rcases lt_trichotomy x 0 with negative | rfl | positive
  · have sign : x.tmod y ≤ 0 := by
      rw [← neg_nonneg, ← Int.neg_tmod]
      exact Int.tmod_nonneg y (by omega)
    rcases sign.eq_or_lt with nothing | below
    · exact .inl nothing
    · exact .inr (mul_pos_of_neg_of_neg below negative)
  · exact .inl (Int.zero_tmod y)
  · rcases (Int.tmod_nonneg y positive.le).eq_or_lt with nothing | above
    · exact .inl nothing.symm
    · exact .inr (mul_pos above positive)

section Aligned

variable {x y : Int} (nonzero : y ≠ 0) (e : Int)
include nonzero

/-- The remainder of coefficients is that of the numbers. -/
theorem isRemainder_tmod : IsRemainder (x * 10 ^ e) (y * 10 ^ e) (x.tmod y * 10 ^ e) := by
  have power := zpow_ten_pos e
  have parts : (x : ℚ) = x.tdiv y * y + x.tmod y := by
    exact_mod_cast (Int.tdiv_mul_add_tmod x y).symm
  have small : |(x.tmod y : ℚ)| < |(y : ℚ)| := by
    rw [← Int.cast_abs, ← Int.cast_abs, ← Nat.cast_natAbs, ← Nat.cast_natAbs, Int.natAbs_tmod]
    exact_mod_cast Nat.mod_lt _ (Int.natAbs_pos.mpr nonzero)
  have sign : (x.tmod y : ℚ) = 0 ∨ (0 : ℚ) < x.tmod y * x := by
    exact_mod_cast tmod_eq_zero_or_pos x y
  refine .of_multiple (n := x.tdiv y) ?_ ?_ ?_
  · rw [← mul_assoc, ← add_mul, ← parts]
  · rw [abs_mul, abs_mul]
    exact mul_lt_mul_of_pos_right small (abs_pos.mpr power.ne')
  · rcases sign with nothing | same
    · exact .inl (by rw [nothing, zero_mul])
    · right
      rw [mul_mul_mul_comm]
      exact mul_pos same (mul_pos power power)

/-- The truncated quotient has too many digits exactly if the quotient has. -/
theorem tenPow_le_tdiv_iff (k : Nat) :
    tenPow k ≤ (x.tdiv y).natAbs ↔ (10 : ℚ) ^ k ≤ |(x * 10 ^ e : ℚ) / (y * 10 ^ e)| := by
  have positive := Int.natAbs_pos.mpr nonzero
  have whole : (0 : ℚ) < y.natAbs := by exact_mod_cast positive
  have quotient : (x.tdiv y).natAbs = x.natAbs / y.natAbs := Int.natAbs_tdiv x y
  rw [quotient, Nat.le_div_iff_mul_le positive, mul_div_mul_right _ _ (zpow_ten_pos e).ne', abs_div,
    ← Int.cast_abs, ← Int.cast_abs, ← Nat.cast_natAbs, ← Nat.cast_natAbs, le_div_iff₀ whole,
    ← cast_tenPow]
  norm_cast

end Aligned

/-- A number of the arithmetic with a lesser coefficient is one, too. -/
theorem PreciseParts.of_natAbs_le {a b e : Int} (precise : PreciseParts a e) (le : b.natAbs ≤ a.natAbs) :
    PreciseParts b e := by
  have digits := digitCount_mono le
  have greatest := precise.greatest
  rw [leading] at greatest
  exact ⟨digits.trans precise.digits, precise.least, by rw [leading]; omega⟩

section Operands

variable {a ea b eb : Int}

/-- The coefficient with the lesser exponent is not shifted. -/
theorem align_of_le (le : eb ≤ ea) : (align a ea b eb).2 = (b, eb) := by
  simp [align, Int.min_eq_right le, tenPow]

theorem align_of_ge (ge : ea ≤ eb) : (align a ea b eb).1 = a ∧ (align a ea b eb).2.2 = ea := by
  simp [align, Int.min_eq_left ge, tenPow]

/-- The remainder of aligned coefficients has no more digits than the operand that is not shifted. -/
theorem preciseParts_tmod (precise : PreciseParts a ea) (precise' : PreciseParts b eb) (nonzero : b ≠ 0) :
    PreciseParts ((align a ea b eb).1.tmod (align a ea b eb).2.1) (align a ea b eb).2.2 := by
  rcases Int.le_total eb ea with le | ge
  · rw [align_of_le le]
    refine precise'.of_natAbs_le ?_
    rw [Int.natAbs_tmod]
    exact (Nat.mod_lt _ (Int.natAbs_pos.mpr nonzero)).le
  · rw [(align_of_ge ge).1, (align_of_ge ge).2]
    refine precise.of_natAbs_le ?_
    rw [Int.natAbs_tmod]
    exact Nat.mod_le _ _

variable (nonzero : a ≠ 0) (nonzeroOther : b ≠ 0)
include nonzero nonzeroOther

theorem abs_lt_of_leading_lt (below : leading a ea < leading b eb) :
    |(a * 10 ^ ea : ℚ)| < |(b * 10 ^ eb : ℚ)| :=
  (abs_parts_bounds nonzero ea).2.trans_le
    ((zpow_le_zpow_right₀ (by norm_num) below).trans (abs_parts_bounds nonzeroOther eb).1)

/-- A quotient is as large as the distance of the leading digits says. -/
theorem tenPow_le_quotient {k : Nat} (far : leading b eb + (k + 1) ≤ leading a ea) :
    (10 : ℚ) ^ k ≤ |(a * 10 ^ ea : ℚ) / (b * 10 ^ eb)| := by
  rw [abs_div, le_div_iff₀ (abs_pos.mpr (parts_ne_zero nonzeroOther eb))]
  calc (10 : ℚ) ^ k * |(b * 10 ^ eb : ℚ)|
      ≤ 10 ^ k * 10 ^ (leading b eb + 1) :=
        mul_le_mul_of_nonneg_left (abs_parts_bounds nonzeroOther eb).2.le (by positivity)
    _ = 10 ^ (leading b eb + (k + 1)) := by
        rw [← zpow_natCast, ← zpow_add₀ (by norm_num)]
        congr 1
        omega
    _ ≤ 10 ^ leading a ea := zpow_le_zpow_right₀ (by norm_num) far
    _ ≤ |(a * 10 ^ ea : ℚ)| := (abs_parts_bounds nonzero ea).1

end Operands

/-! ### Remainders of decimals -/

/-- The remainder of two numbers, or nothing if their quotient has more digits than the precision before the
    point. -/
def Leaves (a b : ℚ) (computed : Except Signal Decimal) : Prop :=
  (|a / b| < 10 ^ 50 ∧ ∃ r amount, computed = .ok amount ∧ amount.Denotes r ∧ IsRemainder a b r) ∨
    (10 ^ 50 ≤ |a / b| ∧ computed = .error .invalidOperation)

/-- A dividend that is smaller than the divisor is left as it is. -/
theorem leaves_dividend {a ea : Int} (precise : PreciseParts a ea) {b : ℚ}
    (small : |(a * 10 ^ ea : ℚ)| < |b|) : Leaves (a * 10 ^ ea) b (roundParts a ea) := by
  have nonzero : 0 < |b| := (abs_nonneg _).trans_lt small
  have quotient : |(a * 10 ^ ea : ℚ) / b| < 1 := by
    rwa [abs_div, div_lt_one nonzero]
  refine .inl ⟨quotient.trans (by norm_num), _, _, roundParts_of_precise precise, denotes_ofParts _ _, ?_⟩
  exact .of_small small

/-- The remainder of two numbers of the arithmetic is exact. -/
theorem remainder_leaves {x y : Decimal} (precise : x.Precise) (precise' : y.Precise) {a b : ℚ}
    (first : x.Denotes a) (second : y.Denotes b) (nonzero : b ≠ 0) : Leaves a b (remainder x y) := by
  obtain ⟨a, ea, _, rfl, rfl⟩ := first.exists_finite
  obtain ⟨b, eb, _, rfl, rfl⟩ := second.exists_finite
  have present : b ≠ 0 := by
    rintro rfl
    simp at nonzero
  have fifty : precision = 50 := rfl
  simp only [remainder, if_neg present]
  split
  next isZero =>
      subst isZero
      have nothing : roundParts 0 ea = .ok zero := by simp [roundParts, round]
      rw [← nothing]
      refine leaves_dividend precise ?_
      rw [Int.cast_zero, zero_mul, abs_zero]
      exact abs_pos.mpr nonzero
  next positive =>
      split
      next below => exact leaves_dividend precise (abs_lt_of_leading_lt positive present below)
      next =>
          split
          next far =>
              exact .inr ⟨tenPow_le_quotient positive present (by omega), rfl⟩
          next =>
              obtain ⟨left, right⟩ := align_value a ea b eb
              have remainder := preciseParts_tmod precise precise' present
              have shifted : (align a ea b eb).2.1 ≠ 0 := by
                intro isZero
                rw [isZero, Int.cast_zero, zero_mul] at right
                exact nonzero right.symm
              rw [← left, ← right]
              have limit := tenPow_le_tdiv_iff (x := (align a ea b eb).1) shifted (align a ea b eb).2.2 50
              split
              next above => exact .inr ⟨limit.mp above, rfl⟩
              next within =>
                  refine .inl ⟨not_le.mp fun above => within (limit.mpr above), _, _,
                    roundParts_of_precise remainder, denotes_ofParts _ _, ?_⟩
                  exact isRemainder_tmod shifted _

end Decimal

end Crosswalk
