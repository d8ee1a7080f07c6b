/-
Module: Crosswalk.Proofs.Decimal.Range
Purpose: The numbers that decimal arithmetic gives. A rounded number has no more digits than the precision and
  lies between the limits of the exponent, so rounding it once more, to change its sign, succeeds and changes
  nothing else.
Main exports: Decimal.InRange, Decimal.round_inRange, Decimal.add_inRange, Decimal.multiply_inRange,
  Decimal.divide_inRange, Decimal.remainder_inRange, Decimal.negate_of_inRange
-/
import Crosswalk.Proofs.Rounding

namespace Crosswalk.Decimal

/-- The numbers of the arithmetic: precise ones, and infinities. -/
def InRange : Decimal → Prop
  | .finite coefficient exponent _ => PreciseParts coefficient exponent
  | .infinity _ => True

theorem Precise.inRange {amount : Decimal} (precise : amount.Precise) : amount.InRange := by
  cases amount with
  | finite => exact precise
  | infinity => exact trivial

theorem zero_inRange : zero.InRange :=
  ⟨by decide +kernel, by decide, by decide +kernel⟩

/-! ### Rounded numbers -/

/-- Zeros taken off a coefficient are taken off its digits. -/
theorem stripZeros_parts {coefficient : Int} (nonzero : coefficient ≠ 0) (exponent : Int) :
    ∃ k : Nat, (stripZeros coefficient exponent).1 * tenPow k = coefficient ∧
      (stripZeros coefficient exponent).2 = exponent + k := by
  fun_induction stripZeros coefficient exponent with
  | case1 => exact absurd rfl nonzero
  | case2 coefficient exponent _ lastDigit ih =>
      obtain ⟨k, parts, shifted⟩ := ih (by omega)
      refine ⟨k + 1, ?_, by omega⟩
      rw [tenPow_succ, Nat.cast_mul, ← mul_assoc, parts]
      push_cast
      omega
  | case3 => exact ⟨0, by simp [tenPow], by simp⟩

/-- A coefficient up to the first power of ten beyond the precision leaves precise parts, if its leading digit
    and its exponent are within the limits. -/
theorem ofParts_inRange {coefficient exponent : Int} (bound : coefficient.natAbs ≤ tenPow precision)
    (least : leastExponent ≤ exponent) (greatest : leading coefficient exponent ≤ greatestExponent) :
    (ofParts coefficient exponent).InRange := by
  by_cases nonzero : coefficient = 0
  · subst nonzero
    have none : stripZeros 0 exponent = (0, 0) := by simp [stripZeros]
    simp only [ofParts, none]
    exact zero_inRange
  · obtain ⟨k, parts, shifted⟩ := stripZeros_parts nonzero exponent
    have canonical := stripZeros_canonical coefficient exponent
    change PreciseParts (stripZeros coefficient exponent).1 (stripZeros coefficient exponent).2
    rw [shifted]
    generalize (stripZeros coefficient exponent).1 = stripped at parts canonical
    have magnitude : stripped.natAbs * tenPow k = coefficient.natAbs := by
      rw [← parts, Int.natAbs_mul, Int.natAbs_natCast]
    have positive : stripped.natAbs ≠ 0 := by
      intro none
      rw [none, Nat.zero_mul] at magnitude
      omega
    have digits : digitCount coefficient.natAbs = digitCount stripped.natAbs + k := by
      rw [← magnitude, digitCount_mul_tenPow positive]
    -- the power of ten itself ends in a zero
    have below : stripped.natAbs < tenPow (49 + 1) := by
      have atMost : stripped.natAbs ≤ tenPow (49 + 1) :=
        (Nat.le_mul_of_pos_right _ (tenPow_pos k)).trans (magnitude.trans_le bound)
      refine lt_of_le_of_ne atMost fun full => ?_
      rw [tenPow_succ] at full
      have lastDigit := canonical.resolve_right (by omega)
      omega
    have short := digitCount_le_of_lt below
    rw [leading] at greatest
    exact ⟨short, by omega, by rw [leading]; omega⟩

/-- A quotient brought to the last digit that is kept of it is at most a power of ten beyond the precision. -/
theorem halfEven_le_tenPow {num den : Nat} (positive : num ≠ 0) (positiveDen : 0 < den) (exponent : Int) :
    halfEven (scaleDown num den (lastKept (exponent + decade num den) - exponent)).1
      (scaleDown num den (lastKept (exponent + decade num den) - exponent)).2 ≤ tenPow precision := by
  have kept : decade num den + 1 ≤ (lastKept (exponent + decade num den) - exponent) + precision := by
    have fifty : precision = 50 := rfl
    simp only [lastKept]
    omega
  have divisor := scaleDown_pos num positiveDen (lastKept (exponent + decade num den) - exponent)
  have value := scaleDown_value num positiveDen (lastKept (exponent + decade num den) - exponent)
  generalize lastKept (exponent + decade num den) - exponent = shift at kept divisor value ⊢
  have whole : (0 : ℚ) < (scaleDown num den shift).2 := by exact_mod_cast divisor
  have short : ((scaleDown num den shift).1 : ℚ) / (scaleDown num den shift).2 < tenPow precision := by
    rw [value, div_lt_iff₀ (zpow_ten_pos shift), cast_tenPow, ← zpow_natCast, ← zpow_add₀ (by norm_num)]
    refine (decade_bounds positive positiveDen).2.trans_le (zpow_le_zpow_right₀ (by norm_num) ?_)
    omega
  rw [div_lt_iff₀ whole] at short
  have quotient : (scaleDown num den shift).1 / (scaleDown num den shift).2 < tenPow precision :=
    (Nat.div_lt_iff_lt_mul divisor).mpr (by exact_mod_cast short)
  exact (halfEven_le _ _).trans quotient

/-- What is rounded is in the range of the arithmetic. -/
theorem round_inRange {negative : Bool} {num den : Nat} {exponent : Int} {amount : Decimal}
    (positive : 0 < den) (rounds : round negative num den exponent = .ok amount) : amount.InRange := by
  unfold round at rounds
  split at rounds
  · cases rounds
    exact zero_inRange
  next nonzero =>
    dsimp only at rounds
    split at rounds
    · cases rounds
    · split at rounds
      · cases rounds
        exact zero_inRange
      · split at rounds
        · cases rounds
        next within =>
          cases rounds
          have magnitude (n : Nat) : (signed negative n).natAbs = n := by
            unfold signed
            split <;> omega
          refine ofParts_inRange ?_ (le_max_right _ _) ?_
          · rw [magnitude]
            exact halfEven_le_tenPow nonzero positive exponent
          · rw [leading, magnitude]
            rw [leading, Int.natAbs_natCast] at within
            exact not_lt.mp within

/-! ### Results of the arithmetic -/

theorem roundParts_inRange {coefficient exponent : Int} {amount : Decimal}
    (rounds : roundParts coefficient exponent = .ok amount) : amount.InRange :=
  round_inRange one_pos rounds

section Results

variable {a b amount : Decimal}

theorem add_inRange (computed : add a b = .ok amount) : amount.InRange := by
  unfold add at computed
  split at computed
  · unfold addFinite at computed
    split at computed
    · exact roundParts_inRange computed
    · split at computed
      · exact roundParts_inRange computed
      · exact roundParts_inRange computed
  · split at computed
    · cases computed
      exact trivial
    · cases computed
  · cases computed
    exact trivial
  · cases computed
    exact trivial

theorem subtract_inRange (computed : subtract a b = .ok amount) : amount.InRange :=
  add_inRange computed

theorem multiply_inRange (computed : multiply a b = .ok amount) : amount.InRange := by
  unfold multiply at computed
  split at computed
  · exact roundParts_inRange computed
  · cases computed
    exact trivial
  · split at computed <;> cases computed
    exact trivial
  · split at computed <;> cases computed
    exact trivial

theorem divide_inRange (computed : divide a b = .ok amount) : amount.InRange := by
  unfold divide at computed
  split at computed
  · split at computed
    · cases computed
    next nonzero => exact round_inRange (Int.natAbs_pos.mpr nonzero) computed
  · cases computed
  · cases computed
    exact trivial
  · cases computed
    exact zero_inRange

theorem remainder_inRange (computed : remainder a b = .ok amount) : amount.InRange := by
  unfold remainder at computed
  split at computed
  · split at computed
    · cases computed
    · split at computed
      · cases computed
        exact zero_inRange
      · split at computed
        · exact roundParts_inRange computed
        · split at computed
          · cases computed
          · dsimp only at computed
            split at computed
            · cases computed
            · exact roundParts_inRange computed
  · cases computed
  · exact roundParts_inRange computed

/-- A number of the arithmetic with the opposite sign is one, too. -/
theorem negate_of_inRange (inRange : a.InRange) : ∃ b, a.negate = .ok b ∧ b.InRange := by
  cases a with
  | infinity negative => exact ⟨.infinity !negative, rfl, trivial⟩
  | finite coefficient exponent canonical =>
      have opposite : PreciseParts (-coefficient) exponent := by
        refine ⟨?_, inRange.least, ?_⟩
        · rw [Int.natAbs_neg]
          exact inRange.digits
        · rw [leading, Int.natAbs_neg]
          exact inRange.greatest
      have rounds := roundParts_of_precise opposite
      exact ⟨_, rounds, roundParts_inRange rounds⟩

end Results

end Crosswalk.Decimal
