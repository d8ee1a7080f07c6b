/-
Module: Crosswalk.Proofs.Decimal.Writing
Purpose: Numbers are written as they are given. A sign, a coefficient and an exponent can be chosen in many ways
  for one number, with zeros behind the coefficient or with a sign before a zero; written as they are, these are
  the text of the one decimal that they make.
Main exports: Decimal.digits_mul_tenPow, Numeral.write, Numeral.write_eq_render, Numeral.ofNumeral_eq_iff,
  Numeral.isShort_iff
-/
import Crosswalk.Proofs.Decimal.Numeral
import Crosswalk.Proofs.Decimal.Range
import Mathlib.Data.Nat.Factorization.Basic

namespace Crosswalk

namespace Decimal

/-- A number with zeros behind it is written with zeros behind it. -/
theorem digits_mul_tenPow {n : Nat} (positive : 0 < n) (k : Nat) :
    digits (n * tenPow k) = digits n ++ List.replicate k '0' := by
  induction k with
  | zero => simp [tenPow]
  | succ k ih =>
      have scaled : 0 < n * tenPow k := Nat.mul_pos positive (tenPow_pos k)
      have last := Nat.toDigits_append_toDigits (b := 10) (d := 0) (by decide) scaled (by decide)
      rw [Nat.add_zero, ← digits, ih] at last
      rw [tenPow_succ, ← Nat.mul_assoc, Nat.mul_comm, digits, ← last, List.replicate_succ', List.append_assoc]
      rfl

/-- What is rounded is no infinity. -/
theorem round_finite {negative : Bool} {num den : Nat} {exponent : Int} {amount : Decimal}
    (rounded : round negative num den exponent = .ok amount) :
    ∃ coefficient exponent canonical, amount = .finite coefficient exponent canonical := by
  cases amount with
  | finite coefficient exponent canonical => exact ⟨coefficient, exponent, canonical, rfl⟩
  | infinity =>
      unfold round at rounded
      dsimp only at rounded
      split_ifs at rounded <;> cases rounded

end Decimal

namespace Numeral

open Decimal

/-! ### Numbers as they are given -/

/-- The rational number that a sign, a coefficient and an exponent denote. -/
def value (numeral : Numeral) : ℚ :=
  numeral.signedCoefficient * 10 ^ numeral.exponent

/-- No digit but zeros stands behind the point. -/
def IsWhole (numeral : Numeral) : Prop :=
  0 ≤ numeral.exponent ∨ tenPow (-numeral.exponent).toNat ∣ numeral.coefficient

instance (numeral : Numeral) : Decidable numeral.IsWhole :=
  inferInstanceAs (Decidable (_ ∨ _))

/-- The digits before the point. -/
def wholePart (numeral : Numeral) : Nat :=
  if 0 ≤ numeral.exponent then numeral.coefficient * tenPow numeral.exponent.toNat
  else numeral.coefficient / tenPow (-numeral.exponent).toNat

/-- The text of a number as it is given. A whole number is written as an integer, which has no zero with a
    sign, and not too many digits; other numbers are rounded, which takes off zeros at the end, and written
    with a point. -/
def write (numeral : Numeral) : Except WritingError String :=
  if numeral.IsWhole then
    if digitCount numeral.wholePart ≤ Text.mostDigits then
      .ok (String.ofList
        (signText (numeral.negative && numeral.wholePart != 0) ++ Decimal.digits numeral.wholePart))
    else .error .tooLong
  else
    match round numeral.negative numeral.coefficient 1 numeral.exponent with
    | .ok (.finite coefficient exponent _) =>
      .ok <| String.ofList <|
        if coefficient = 0 then signText numeral.negative ++ ['0'] else positional coefficient exponent
    | .ok (.infinity negative) => .ok (infinity negative).format
    | .error _ => .error .overflow

/-! ### Numbers without zeros at the end -/

theorem signed_lt_zero (negative : Bool) {n : Nat} (positive : n ≠ 0) :
    decide (signed negative n < 0) = negative := by
  cases negative <;> simp [signed]
  omega

theorem natAbs_signed (negative : Bool) (n : Nat) : (signed negative n).natAbs = n := by
  cases negative <;> simp [signed]

section Stripped

variable {numeral : Numeral} {stripped zeros : Nat} (noZero : ¬ 10 ∣ stripped)
  (parts : numeral.coefficient = stripped * tenPow zeros)
include parts

/-- Zeros taken off a coefficient are counted by the exponent. -/
theorem ofNumeral_stripped :
    ofNumeral numeral = ofParts (signed numeral.negative stripped) (numeral.exponent + zeros) := by
  have exponent : numeral.exponent = numeral.exponent + zeros - zeros := by omega
  have coefficient : numeral.signedCoefficient = signed numeral.negative stripped * tenPow zeros :=
    (congrArg (signed numeral.negative) parts).trans (signed_mul ..)
  rw [ofNumeral, coefficient, exponent, ofParts_mul_tenPow, ← exponent]

include noZero in
/-- A number is whole if there are as many zeros as digits behind the point. -/
theorem isWhole_iff : numeral.IsWhole ↔ 0 ≤ numeral.exponent + zeros := by
  rw [IsWhole, parts]
  constructor
  · rintro (nonneg | divides)
    · omega
    · by_contra negative
      obtain ⟨more, places⟩ : ∃ more : Nat, (-numeral.exponent).toNat = more + 1 + zeros :=
        ⟨(-numeral.exponent).toNat - 1 - zeros, by omega⟩
      rw [places, tenPow_add] at divides
      have left := (Nat.mul_dvd_mul_iff_right (tenPow_pos zeros)).mp divides
      exact noZero ((Dvd.intro_left _ (tenPow_succ more).symm).trans left)
  · intro enough
    rcases Int.le_total 0 numeral.exponent with nonneg | negative
    · exact .inl nonneg
    · exact .inr (Dvd.dvd.mul_left (Nat.pow_dvd_pow 10 (by omega)) stripped)

theorem wholePart_eq (whole : 0 ≤ numeral.exponent + zeros) :
    numeral.wholePart = stripped * tenPow (numeral.exponent + zeros).toNat := by
  unfold wholePart
  rw [parts]
  split
  next nonneg =>
      have total : (numeral.exponent + zeros).toNat = zeros + numeral.exponent.toNat := by omega
      rw [total, tenPow_add, Nat.mul_assoc]
  next negative =>
      have total : zeros = (numeral.exponent + zeros).toNat + (-numeral.exponent).toNat := by omega
      nth_rewrite 1 [total]
      rw [tenPow_add, ← Nat.mul_assoc, Nat.mul_div_cancel _ (tenPow_pos _)]

include noZero in
/-- A number other than zero is written as the decimal that it makes. -/
theorem write_of_stripped : numeral.write = (ofNumeral numeral).render := by
  have positive : stripped ≠ 0 := fun isZero => noZero (isZero ▸ Nat.dvd_zero 10)
  have canonical : IsCanonical (signed numeral.negative stripped) (numeral.exponent + zeros) := by
    left
    cases numeral.negative <;> simp only [signed] <;> omega
  rw [ofNumeral_stripped parts, ofParts_canonical canonical, write]
  simp only [isWhole_iff noZero parts, render, format]
  split
  next whole =>
      have present : stripped * tenPow (numeral.exponent + zeros).toNat ≠ 0 :=
        Nat.mul_ne_zero positive (tenPow_pos _).ne'
      have size : leading (signed numeral.negative stripped) (numeral.exponent + zeros) < Text.mostDigits ↔
          digitCount (stripped * tenPow (numeral.exponent + zeros).toNat) ≤ Text.mostDigits := by
        rw [leading, natAbs_signed, digitCount_mul_tenPow positive]
        omega
      simp only [wholePart_eq parts whole, bne_iff_ne.mpr present, Bool.and_true, positional, if_pos whole,
        natAbs_signed, signed_lt_zero _ positive, digits_mul_tenPow (Nat.pos_of_ne_zero positive), size]
  next fractional =>
      have same : round numeral.negative numeral.coefficient 1 numeral.exponent =
          roundParts (signed numeral.negative stripped) (numeral.exponent + zeros) := by
        have shifted := round_mul_tenPow numeral.negative stripped (numeral.exponent + zeros) zeros
        rw [← parts, Int.add_sub_cancel] at shifted
        rw [roundParts, natAbs_signed, signed_lt_zero _ positive, shifted]
      rw [same]
      cases rounded : roundParts (signed numeral.negative stripped) (numeral.exponent + zeros) with
      | error => rfl
      | ok amount =>
          obtain ⟨coefficient, exponent, isCanonical, rfl⟩ := round_finite rounded
          simp only [signed_lt_zero _ positive]

end Stripped

/-- However a number is given, it is written as the decimal that it makes. -/
theorem write_eq_render (numeral : Numeral) : numeral.write = (ofNumeral numeral).render := by
  by_cases isZero : numeral.coefficient = 0
  · have whole : numeral.IsWhole := .inr (isZero ▸ Nat.dvd_zero _)
    have nothing : numeral.wholePart = 0 := by simp [wholePart, isZero]
    have none : numeral.signedCoefficient = 0 := by simp [signedCoefficient, isZero]
    have decimal : ofNumeral numeral = Decimal.zero := by
      rw [ofNumeral, none]
      exact (ofParts_eq_iff.mpr (by simp)).trans (ofParts_canonical (.inr ⟨rfl, rfl⟩))
    have small : digitCount 0 ≤ Text.mostDigits ∧ leading 0 0 < Text.mostDigits := by decide +kernel
    rw [write, if_pos whole, nothing, decimal]
    simp [Decimal.zero, render, format, positional, signText, small]
  · obtain ⟨zeros, stripped, noZero, parts⟩ :=
      Nat.exists_eq_pow_mul_and_not_dvd isZero 10 (by decide)
    exact write_of_stripped noZero (parts.trans (Nat.mul_comm _ _))

example : (write ⟨true, 0, -3⟩).toOption = some "0" ∧ (write ⟨false, 1500, -2⟩).toOption = some "15" := by
  decide +kernel

/-! ### Numbers that keep all their digits -/

/-- Parts denote one number exactly if they make one decimal. -/
theorem ofNumeral_eq_iff {first second : Numeral} :
    ofNumeral first = ofNumeral second ↔ first.value = second.value :=
  ofParts_eq_iff

/-- A number given with no more digits than the precision, whose first and last digits lie between the limits
    of the exponent, is precise. -/
theorem precise_of_bounds {numeral : Numeral} (digits : digitCount numeral.coefficient ≤ precision)
    (least : leastExponent ≤ numeral.exponent)
    (greatest : leading numeral.coefficient numeral.exponent ≤ greatestExponent) :
    (ofNumeral numeral).Precise := by
  have magnitude : numeral.signedCoefficient.natAbs = numeral.coefficient := natAbs_signed ..
  have below : numeral.coefficient < tenPow precision :=
    (lt_tenPow_digitCount _).trans_le (Nat.pow_le_pow_right (by decide) digits)
  have top : leading numeral.signedCoefficient numeral.exponent ≤ greatestExponent := by
    rw [leading, magnitude]
    exact greatest
  exact ofParts_inRange (magnitude.trans_le below.le) least top

/-- A number is short if it is not whole, or has no more digits before the point than are written. -/
theorem isShort_iff {numeral : Numeral} :
    (ofNumeral numeral).IsShort ↔ (numeral.IsWhole → digitCount numeral.wholePart ≤ Text.mostDigits) := by
  rw [← not_iff_not, ← render_eq_tooLong_iff, ← write_eq_render, write, Classical.not_imp]
  by_cases whole : numeral.IsWhole
  · simp [whole]
  · rw [if_neg whole]
    split <;> simp [whole]

end Numeral

end Crosswalk
