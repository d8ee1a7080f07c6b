/-
Module: Crosswalk.Proofs.Value.Arithmetic
Purpose: Arithmetic of structural values, in terms of the rational numbers that they denote. A known finite
  number may have any number of digits; sums, differences, products and quotients are the exact ones, rounded
  once, and only those beyond the limits are refused. Remainders of numbers of the arithmetic are not rounded.
Main exports: Value.Yields, Value.arithmetic_correctlyRounded, Value.modulo_isRemainder
-/
import Crosswalk.Proofs.Decimal.Remainder
import Crosswalk.Operation

namespace Crosswalk

namespace Value

open Decimal

/-- An operation yields an exact number, rounded, or is refused if that is beyond the limits. -/
def Yields (exact : ℚ) (outcome : Outcome Value) : Prop :=
  ∃ rounded, RoundsTo exact rounded ∧
    (WithinLimits rounded → ∃ amount, outcome = .ok (.number amount) ∧ amount.Denotes rounded) ∧
    (¬ WithinLimits rounded → outcome = .error (.operation [] (.arithmetic .overflow)))

section Known

variable {compute : Decimal → Decimal → Except Signal Decimal} {x y amount : Decimal}

theorem arithmetic_of_ok (computed : compute x y = .ok amount) :
    arithmetic compute (.number x) (.number y) = .ok (.number amount) := by
  change ((compute x y).mapError _).map Value.number = _
  rw [computed]
  rfl

theorem arithmetic_of_error {signal : Signal} (signalled : compute x y = .error signal) :
    arithmetic compute (.number x) (.number y) = .error (.operation [] (.arithmetic signal)) := by
  change ((compute x y).mapError _).map Value.number = _
  rw [signalled]
  rfl

/-- What decimals compute is what their values yield. -/
theorem yields_of_computes {exact : ℚ} (computes : Computes exact (compute x y)) :
    Yields exact (arithmetic compute (.number x) (.number y)) := by
  obtain ⟨rounded, rounds, ⟨within, amount, computed, denotes⟩ | ⟨beyond, overflow⟩⟩ := computes
  · refine ⟨rounded, rounds, fun _ => ⟨amount, arithmetic_of_ok computed, denotes⟩, ?_⟩
    exact fun beyond => absurd within beyond
  · refine ⟨rounded, rounds, ?_, fun _ => arithmetic_of_error overflow⟩
    exact fun within => absurd within beyond

theorem dividing_zero :
    dividing compute (.number x) (.number zero) = .error (.operation [] .divisionByZero) :=
  rfl

/-- A divisor other than zero is divided by. -/
theorem dividing_of_denotes {b : ℚ} (denotes : y.Denotes b) (nonzero : b ≠ 0) :
    dividing compute (.number x) (.number y) = arithmetic compute (.number x) (.number y) := by
  have present : y ≠ zero := by
    rintro rfl
    exact nonzero (denotes.unique denotes_zero)
  change (if y = zero then _ else _) = _
  rw [if_neg present]

end Known

section Results

variable {x y : Decimal} {a b : ℚ} (first : x.Denotes a) (second : y.Denotes b)
include first second

/-- Whatever finite numbers are added, subtracted, multiplied or divided, with any number of digits, the result
    is the exact one, rounded to fifty digits, half to even, but to no digit below the least exponent; or it is
    refused, exactly if the rounded result has its leading digit above the greatest exponent. Nothing is divided
    by zero. -/
theorem arithmetic_correctlyRounded :
    Yields (a + b) (add (.number x) (.number y)) ∧
      Yields (a - b) (subtract (.number x) (.number y)) ∧
      Yields (a * b) (multiply (.number x) (.number y)) ∧
      (b ≠ 0 → Yields (a / b) (divide (.number x) (.number y))) ∧
      (b = 0 → divide (.number x) (.number y) = .error (.operation [] .divisionByZero)) := by
  refine ⟨yields_of_computes (add_computes first second), yields_of_computes (subtract_computes first second),
    yields_of_computes (multiply_computes first second), fun nonzero => ?_, ?_⟩
  · rw [divide, dividing_of_denotes second nonzero]
    exact yields_of_computes (divide_computes first second nonzero)
  · rintro rfl
    rw [second.injective denotes_zero]
    exact dividing_zero

end Results

/-- A number halfway between two rounded ones is rounded to the even one, but with the least summand to the upper
    one. -/
theorem arithmetic_correctlyRounded_aboveHalf :
    (ofInt (10 ^ 50 + 5)).Denotes (10 ^ 50 + 5) ∧ (ofParts 1 (-1000)).Denotes (10 ^ (-1000 : Int)) ∧
      Yields (10 ^ 50 + 5 + 10 ^ (-1000 : Int))
        (add (.number (ofInt (10 ^ 50 + 5))) (.number (ofParts 1 (-1000)))) ∧
      add (.number (ofInt (10 ^ 50 + 5))) (.number (ofParts 1 (-1000))) =
        .ok (.number (ofInt (10 ^ 50 + 10))) := by
  have first : (ofInt (10 ^ 50 + 5)).Denotes (10 ^ 50 + 5) := by
    have denotes := denotes_ofInt (10 ^ 50 + 5)
    rwa [Int.cast_add, Int.cast_pow, Int.cast_ofNat, Int.cast_ofNat] at denotes
  have second : (ofParts 1 (-1000)).Denotes (10 ^ (-1000 : Int)) := by
    have denotes := denotes_ofParts 1 (-1000)
    rwa [Int.cast_one, one_mul] at denotes
  have computed : (ofInt (10 ^ 50 + 5)).add (ofParts 1 (-1000)) = .ok (ofInt (10 ^ 50 + 10)) := by
    decide +kernel
  exact ⟨first, second, (arithmetic_correctlyRounded first second).1, arithmetic_of_ok computed⟩

/-! ### Remainders -/

/-- The remainder of two numbers of no more than fifty digits, between the limits of the exponent, is what the
    truncated quotient leaves, without any rounding; it is refused exactly if that quotient has more than fifty
    digits. -/
theorem modulo_isRemainder {x y : Decimal} (precise : x.Precise) (precise' : y.Precise) {a b : ℚ}
    (first : x.Denotes a) (second : y.Denotes b) (nonzero : b ≠ 0) :
    (⌊|a / b|⌋ < 10 ^ 50 → ∃ r amount, modulo (.number x) (.number y) = .ok (.number amount) ∧
        amount.Denotes r ∧ IsRemainder a b r) ∧
      (10 ^ 50 ≤ ⌊|a / b|⌋ →
        modulo (.number x) (.number y) = .error (.operation [] (.arithmetic .invalidOperation))) := by
  have limit : ⌊|a / b|⌋ < 10 ^ 50 ↔ |a / b| < 10 ^ 50 := by
    rw [Int.floor_lt]
    norm_cast
  rw [modulo, dividing_of_denotes second nonzero]
  rcases remainder_leaves precise precise' first second nonzero with
    ⟨small, r, amount, computed, denotes, isRemainder⟩ | ⟨large, invalid⟩
  · refine ⟨fun _ => ⟨r, amount, arithmetic_of_ok computed, denotes, isRemainder⟩, fun above => ?_⟩
    exact absurd (limit.mpr small) (not_lt.mpr above)
  · refine ⟨fun below => absurd (limit.mp below) (not_lt.mpr large), fun _ => arithmetic_of_error invalid⟩

/-- The exponents of the operands may lie far apart; the remainder has the sign of the dividend. -/
theorem modulo_isRemainder_negative :
    (ofParts (-1) 40).Precise ∧ (ofParts 7 (-9)).Precise ∧ (ofParts (-1) 40).Denotes (-1 * 10 ^ (40 : Int)) ∧
      (ofParts 7 (-9)).Denotes (7 * 10 ^ (-9 : Int)) ∧
      (∃ r amount, modulo (.number (ofParts (-1) 40)) (.number (ofParts 7 (-9))) = .ok (.number amount) ∧
        amount.Denotes r ∧ IsRemainder (-1 * 10 ^ (40 : Int)) (7 * 10 ^ (-9 : Int)) r) ∧
      modulo (.number (ofParts (-1) 40)) (.number (ofParts 7 (-9))) = .ok (.number (ofParts (-3) (-9))) := by
  have precise : (ofParts (-1) 40).Precise :=
    ofParts_inRange (by decide +kernel) (by decide) (by decide +kernel)
  have precise' : (ofParts 7 (-9)).Precise :=
    ofParts_inRange (by decide +kernel) (by decide) (by decide +kernel)
  have first : (ofParts (-1) 40).Denotes (-1 * 10 ^ (40 : Int)) := by
    exact_mod_cast denotes_ofParts (-1) 40
  have second : (ofParts 7 (-9)).Denotes (7 * 10 ^ (-9 : Int)) := by
    exact_mod_cast denotes_ofParts 7 (-9)
  have computed : (ofParts (-1) 40).remainder (ofParts 7 (-9)) = .ok (ofParts (-3) (-9)) := by
    decide +kernel
  have remainder := (modulo_isRemainder precise precise' first second (by norm_num)).1 (by
    rw [Int.floor_lt]
    norm_num)
  have same : modulo (.number (ofParts (-1) 40)) (.number (ofParts 7 (-9))) =
      arithmetic Decimal.remainder (.number (ofParts (-1) 40)) (.number (ofParts 7 (-9))) :=
    dividing_of_denotes second (by norm_num)
  exact ⟨precise, precise', first, second, remainder, same.trans (arithmetic_of_ok computed)⟩

end Value

end Crosswalk
