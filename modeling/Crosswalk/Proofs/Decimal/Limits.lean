/-
Module: Crosswalk.Proofs.Decimal.Limits
Purpose: Numbers that stay within the limits of the exponent when they are rounded. Such a number has an
  absolute value, and a text if it is not whole or short enough. They are the numbers whose leading digit lies
  below the greatest exponent, those that texts are read as, and those that doubles stand for. Numbers beyond the
  limits exist: one with a million digits before the point and one behind it has no text.
Main exports: Decimal.Rounds, Decimal.Rounds.magnitude, Decimal.Rounds.render, Decimal.rounds_of_parse,
  Decimal.rounds_of_toDecimal?, Decimal.render_of_long
-/
import Crosswalk.Proofs.Decimal.Range

namespace Crosswalk.Decimal

/-- Rounding a number does not take it above the greatest exponent. -/
def Rounds (amount : Decimal) : Prop :=
  ∃ result, amount.rounded = .ok result

theorem rounds_infinity (negative : Bool) : (infinity negative).Rounds :=
  ⟨_, rfl⟩

/-- Whether a number can be rounded does not depend on its sign. -/
theorem exists_round_sign {negative : Bool} {num den : Nat} {exponent : Int}
    (rounds : ∃ amount, round negative num den exponent = .ok amount) (other : Bool) :
    ∃ amount, round other num den exponent = .ok amount := by
  obtain ⟨amount, rounds⟩ := rounds
  unfold round at rounds ⊢
  dsimp only at rounds ⊢
  split_ifs at rounds ⊢ <;> exact ⟨_, rfl⟩

/-- The absolute value of such a number is one. -/
theorem Rounds.magnitude {amount : Decimal} (rounds : amount.Rounds) :
    ∃ result, amount.magnitude = .ok result := by
  unfold Decimal.magnitude
  split
  next =>
      cases amount with
      | infinity negative => exact ⟨_, rfl⟩
      | finite coefficient exponent canonical =>
          change ∃ result, round (-coefficient < 0) (-coefficient).natAbs 1 exponent = .ok result
          rw [Int.natAbs_neg]
          exact exists_round_sign rounds _
  next => exact rounds

/-- Such a number has a text, if it is not too long. -/
theorem Rounds.render {amount : Decimal} (rounds : amount.Rounds) (short : amount.IsShort) :
    amount.render = .ok amount.format := by
  cases amount with
  | infinity negative => rfl
  | finite coefficient exponent canonical =>
      obtain ⟨result, rounds⟩ : ∃ result, roundParts coefficient exponent = .ok result := rounds
      rw [Decimal.render, rounds]
      split
      next whole => exact if_pos (short whole)
      next => rfl

/-! ### Numbers that can be rounded -/

/-- The numbers of the arithmetic have been rounded already. -/
theorem InRange.rounds {amount : Decimal} (inRange : amount.InRange) : amount.Rounds := by
  cases amount with
  | infinity negative => exact rounds_infinity negative
  | finite coefficient exponent canonical => exact ⟨_, roundParts_of_precise inRange⟩

/-- A number whose leading digit lies below the greatest exponent can be rounded. -/
theorem rounds_ofParts {coefficient exponent : Int}
    (bound : exponent + digitCount coefficient.natAbs ≤ greatestExponent) :
    (ofParts coefficient exponent).Rounds := by
  have stripped := stripZeros_leading coefficient exponent
  have one : (1 : Int) ≤ greatestExponent := by decide
  exact exists_round _ _ (by omega)

/-- What a text is read as has been rounded. -/
theorem rounds_of_parse {text : String} {amount : Decimal} (reads : parse text = .ok amount) :
    amount.Rounds := by
  unfold parse at reads
  split at reads
  next numeral _ =>
      cases rounded : round numeral.negative numeral.coefficient 1 numeral.exponent with
      | error signal => rw [rounded] at reads; cases reads
      | ok result =>
          rw [rounded] at reads
          obtain rfl := Except.ok.inj reads
          exact (round_inRange one_pos rounded).rounds
  next => split at reads <;> cases reads

/-- The number that a double stands for can be rounded. -/
theorem rounds_of_toDecimal? {x : Binary64} {amount : Decimal} (stands : x.toDecimal? = some amount) :
    amount.Rounds := by
  unfold Binary64.toDecimal? at stands
  split at stands
  · cases stands
  · cases stands
    exact rounds_infinity _
  next negative units isMagnitude =>
      have most : (Text.mostDigits : Int) ≤ greatestExponent := by decide
      split at stands
      next n whole =>
          obtain rfl := Option.some.inj stands
          have short := Binary64.digitCount_of_toInt? whole
          exact rounds_ofParts (by omega)
      next =>
          obtain rfl := Option.some.inj stands
          exact rounds_ofParts ((Binary64.shortest_within isMagnitude negative).trans most)

/-! ### Numbers that cannot be rounded -/

/-- A whole number whose leading digit lies above the greatest exponent is not rounded. -/
theorem round_of_greatest {negative : Bool} {n : Nat} {exponent : Int} (positive : n ≠ 0)
    (beyond : greatestExponent < leading n exponent) : round negative n 1 exponent = .error .overflow := by
  have top : exponent + decade n 1 = leading n exponent := by
    rw [decade_one positive, leading, Int.natAbs_natCast]
    omega
  rw [round, if_neg positive]
  exact if_pos (top ▸ beyond)

/-- A number cannot be written if it has too many digits before the point and one behind it. -/
theorem render_of_long {k : Nat} (long : greatestExponent < k) :
    (ofParts (tenPow (k + 1) + 5) (-1)).render = .error .overflow := by
  have canonical : IsCanonical (tenPow (k + 1) + 5) (-1) := by
    left
    rw [tenPow_succ]
    omega
  have digits : k + 1 < digitCount (tenPow (k + 1) + 5) :=
    (Nat.pow_lt_pow_iff_right (by decide)).mp
      (lt_of_le_of_lt (Nat.le_add_right _ 5) (lt_tenPow_digitCount (tenPow (k + 1) + 5)))
  have beyond : greatestExponent < leading (tenPow (k + 1) + 5 : Nat) (-1) := by
    rw [leading, Int.natAbs_natCast]
    omega
  have overflow : roundParts (tenPow (k + 1) + 5) (-1) = .error .overflow :=
    round_of_greatest (Nat.succ_ne_zero _) beyond
  rw [ofParts_canonical canonical, render, if_neg (by decide), overflow]

/-- A number of a million and one digits before the point, with one digit behind it. -/
def beyondWriting : Decimal :=
  ofParts (tenPow 1000001 + 5) (-1)

theorem render_beyondWriting : beyondWriting.render = .error .overflow :=
  render_of_long (k := 1000000) (by decide)

end Crosswalk.Decimal
