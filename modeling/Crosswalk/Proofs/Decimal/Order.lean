/-
Module: Crosswalk.Proofs.Decimal.Order
Purpose: Decimals are ordered as the numbers that they denote. The place of a decimal is a rational number or
  one of the two ends; numbers with one place are one number, and comparing two decimals, digit by digit if
  need be, compares their places.
Main exports: Decimal.place, Decimal.place_injective, Decimal.compare_compares, Decimal.less_iff,
  Decimal.lessOrEqual_iff
-/
import Crosswalk.Proofs.Rounding
import Mathlib.Order.Compare
import Mathlib.Order.WithBot

namespace Crosswalk.Decimal

/-! ### Places -/

/-- The place of a number: the rational number that it denotes, or one of the ends. -/
def place : Decimal → WithBot (WithTop ℚ)
  | .finite coefficient exponent _ => ((coefficient * 10 ^ exponent : ℚ) : WithTop ℚ)
  | .infinity negative => if negative then ⊥ else (⊤ : WithTop ℚ)

theorem place_finite_inj {a b : ℚ} :
    (((a : WithTop ℚ) : WithBot (WithTop ℚ)) = ((b : WithTop ℚ) : WithBot (WithTop ℚ))) ↔ a = b := by
  rw [WithBot.coe_inj, WithTop.coe_inj]

theorem place_ofParts (coefficient exponent : Int) :
    (ofParts coefficient exponent).place = ((coefficient * 10 ^ exponent : ℚ) : WithTop ℚ) := by
  rw [ofParts, place, stripZeros_value]

/-- The place of a finite number is none of the ends. -/
theorem place_finite_ne {coefficient exponent : Int} {canonical : IsCanonical coefficient exponent}
    (negative : Bool) : (finite coefficient exponent canonical).place ≠ (infinity negative).place := by
  cases negative with
  | false => exact fun same => WithTop.coe_ne_top (WithBot.coe_injective same)
  | true => exact WithBot.coe_ne_bot

/-- A number is determined by its place. -/
theorem place_injective {a b : Decimal} (same : a.place = b.place) : a = b := by
  cases a with
  | finite a ea canonical =>
      cases b with
      | finite b eb canonicalOther =>
          obtain ⟨rfl, rfl⟩ := canonical.unique canonicalOther (place_finite_inj.mp same)
          rfl
      | infinity negative => exact absurd same (place_finite_ne negative)
  | infinity negative =>
      cases b with
      | finite => exact absurd same.symm (place_finite_ne negative)
      | infinity other => cases negative <;> cases other <;> simp [place] at same ⊢

/-! ### Comparison of magnitudes -/

/-- The leading digit tells the size of a number. -/
theorem leading_bounds {n : Nat} (positive : n ≠ 0) (e : Int) :
    (10 : ℚ) ^ leading n e ≤ n * 10 ^ e ∧ n * 10 ^ e < (10 : ℚ) ^ (leading n e + 1) := by
  obtain ⟨low, high⟩ := digitCount_bounds positive
  have first : leading n e = ((digitCount n : Int) - 1) + e := by
    simp only [leading, Int.natAbs_natCast]
    omega
  have next : leading n e + 1 = (digitCount n : Int) + e := by
    rw [first]
    omega
  rw [next, first, zpow_add₀ (by norm_num), zpow_add₀ (by norm_num)]
  exact ⟨mul_le_mul_of_nonneg_right low (zpow_ten_pos e).le, mul_lt_mul_of_pos_right high (zpow_ten_pos e)⟩

/-- Aligned coefficients denote the same numbers at their common exponent. -/
theorem align_value (a ea b eb : Int) :
    ((align a ea b eb).1 : ℚ) * 10 ^ (align a ea b eb).2.2 = a * 10 ^ ea ∧
      ((align a ea b eb).2.1 : ℚ) * 10 ^ (align a ea b eb).2.2 = b * 10 ^ eb := by
  have shift (c e least : Int) (above : least ≤ e) :
      ((c * tenPow (e - least).toNat : Int) : ℚ) * 10 ^ least = c * 10 ^ e := by
    have power : ((tenPow (e - least).toNat : Nat) : ℚ) = 10 ^ (e - least) := by
      rw [cast_tenPow, ← zpow_natCast, Int.toNat_of_nonneg (by omega)]
    rw [Int.cast_mul, Int.cast_natCast, power, mul_assoc, ← zpow_add₀ (by norm_num)]
    ring_nf
  exact ⟨shift a ea _ (min_le_left ea eb), shift b eb _ (min_le_right ea eb)⟩

/-- Magnitudes are compared as the numbers that they are. -/
theorem compareMagnitudes_compares (a : Nat) (ea : Int) (b : Nat) (eb : Int) :
    (compareMagnitudes a ea b eb).Compares ((a : ℚ) * 10 ^ ea) (b * 10 ^ eb) := by
  unfold compareMagnitudes
  split
  next zero =>
      rcases lt_trichotomy a b with below | rfl | above
      · obtain rfl : a = 0 := zero.resolve_right (by omega)
        have positive : (0 : ℚ) < b := by exact_mod_cast below
        rw [compare_lt_iff_lt.mpr below, Nat.cast_zero, zero_mul]
        exact mul_pos positive (zpow_ten_pos eb)
      · obtain rfl : a = 0 := zero.elim id id
        rw [compare_eq_iff_eq.mpr rfl, Nat.cast_zero, zero_mul, zero_mul]
        exact rfl
      · obtain rfl : b = 0 := zero.resolve_left (by omega)
        have positive : (0 : ℚ) < a := by exact_mod_cast above
        rw [compare_gt_iff_gt.mpr above, Nat.cast_zero, zero_mul]
        exact mul_pos positive (zpow_ten_pos ea)
  next nonzero =>
      obtain ⟨positive, positiveOther⟩ := not_or.mp nonzero
      obtain ⟨low, high⟩ := leading_bounds positive ea
      obtain ⟨lowOther, highOther⟩ := leading_bounds positiveOther eb
      rcases lt_trichotomy (leading a ea) (leading b eb) with below | same | above
      · rw [compare_lt_iff_lt.mpr below]
        have between : (10 : ℚ) ^ (leading a ea + 1) ≤ 10 ^ leading b eb :=
          zpow_le_zpow_right₀ (by norm_num) (by omega)
        exact high.trans_le (between.trans lowOther)
      · rw [compare_eq_iff_eq.mpr same]
        obtain ⟨left, right⟩ := align_value a ea b eb
        rw [Int.cast_natCast] at left right
        rw [← left, ← right]
        have scaled : StrictMono fun x : Int => (x : ℚ) * 10 ^ (align a ea b eb).2.2 :=
          fun x y less => mul_lt_mul_of_pos_right (by exact_mod_cast less) (zpow_ten_pos _)
        have compared := cmp_compares (align a ea b eb).1 (align a ea b eb).2.1
        rw [cmp_eq_compare] at compared
        exact scaled.compares.mpr compared
      · rw [compare_gt_iff_gt.mpr above]
        have between : (10 : ℚ) ^ (leading b eb + 1) ≤ 10 ^ leading a ea :=
          zpow_le_zpow_right₀ (by norm_num) (by omega)
        exact highOther.trans_le (between.trans low)

/-! ### Comparison of numbers -/

theorem compares_neg {order : Ordering} {x y : ℚ} (compares : order.Compares (-y) (-x)) :
    order.Compares x y := by
  cases order with
  | lt => exact neg_lt_neg_iff.mp compares
  | eq => exact (neg_inj.mp compares).symm
  | gt => exact neg_lt_neg_iff.mp compares

/-- Finite numbers are compared by sign, and those of one sign by magnitude. -/
theorem compare_finite {a ea b eb : Int} (canonical : IsCanonical a ea) (canonicalOther : IsCanonical b eb) :
    ((finite a ea canonical).compare (finite b eb canonicalOther)).Compares
      ((a : ℚ) * 10 ^ ea) (b * 10 ^ eb) := by
  have magnitude (n : Int) : (0 ≤ n → (n.natAbs : ℚ) = n) ∧ (n < 0 → (n.natAbs : ℚ) = -n) := by
    rw [Nat.cast_natAbs, Int.cast_abs]
    constructor
    · exact fun positive => abs_of_nonneg (by exact_mod_cast positive)
    · exact fun negative => abs_of_neg (by exact_mod_cast negative)
  have below {n e m f : Int} (negative : n < 0) (other : 0 ≤ m) : (n : ℚ) * 10 ^ e < m * 10 ^ f := by
    have less : (n : ℚ) < 0 := by exact_mod_cast negative
    have more : (0 : ℚ) ≤ m := by exact_mod_cast other
    exact (mul_neg_of_neg_of_pos less (zpow_ten_pos e)).trans_le (mul_nonneg more (zpow_ten_pos f).le)
  change (if a < 0 then if b < 0 then compareMagnitudes b.natAbs eb a.natAbs ea else Ordering.lt
    else if b < 0 then Ordering.gt else compareMagnitudes a.natAbs ea b.natAbs eb).Compares _ _
  split
  next negative =>
      split
      next negativeOther =>
          apply compares_neg
          rw [← neg_mul, ← neg_mul, ← (magnitude a).2 negative, ← (magnitude b).2 negativeOther]
          exact compareMagnitudes_compares b.natAbs eb a.natAbs ea
      next positiveOther => exact below negative (not_lt.mp positiveOther)
  next positive =>
      split
      next negativeOther => exact below negativeOther (not_lt.mp positive)
      next positiveOther =>
          rw [← (magnitude a).1 (not_lt.mp positive), ← (magnitude b).1 (not_lt.mp positiveOther)]
          exact compareMagnitudes_compares a.natAbs ea b.natAbs eb

/-- Comparing two numbers compares their places. -/
theorem compare_compares (a b : Decimal) : (a.compare b).Compares a.place b.place := by
  have ends (x : ℚ) : (⊥ : WithBot (WithTop ℚ)) < (x : WithTop ℚ) ∧
      ((x : WithTop ℚ) : WithBot (WithTop ℚ)) < (⊤ : WithTop ℚ) :=
    ⟨WithBot.bot_lt_coe _, WithBot.coe_lt_coe.mpr (WithTop.coe_lt_top x)⟩
  cases a with
  | finite a ea canonical =>
      cases b with
      | finite b eb canonicalOther =>
          have embedded : StrictMono fun x : ℚ => ((x : WithTop ℚ) : WithBot (WithTop ℚ)) :=
            fun x y less => WithBot.coe_lt_coe.mpr (WithTop.coe_lt_coe.mpr less)
          exact embedded.compares.mpr (compare_finite canonical canonicalOther)
      | infinity other =>
          cases other with
          | true => exact (ends _).1
          | false => exact (ends _).2
  | infinity negative =>
      cases negative with
      | true =>
          cases b with
          | finite => exact (ends _).1
          | infinity other =>
              cases other with
              | true => exact rfl
              | false => exact WithBot.bot_lt_coe _
      | false =>
          cases b with
          | finite => exact (ends _).2
          | infinity other =>
              cases other with
              | true => exact WithBot.bot_lt_coe _
              | false => exact rfl

theorem less_iff {a b : Decimal} : a.less b = true ↔ a.place < b.place := by
  rw [less, beq_iff_eq]
  exact (compare_compares a b).eq_lt

theorem lessOrEqual_iff {a b : Decimal} : a.lessOrEqual b = true ↔ a.place ≤ b.place := by
  rw [lessOrEqual, bne_iff_ne]
  exact (compare_compares a b).ne_gt

end Crosswalk.Decimal
