/-
Module: Crosswalk.Decimal.Basic
Purpose: Decimal numbers of any size, and two infinities. A number has one representation, so equality of
  representations is equality of numbers.
Main exports: Decimal, Decimal.ofParts, Decimal.ofInt, Decimal.compare, Decimal.toInt?
-/
import Crosswalk.Rounding

namespace Crosswalk

/-- The canonical parts of a finite decimal: the coefficient does not end in a zero, and zero has the
    exponent zero. -/
def Decimal.IsCanonical (coefficient exponent : Int) : Prop :=
  coefficient % 10 ≠ 0 ∨ (coefficient = 0 ∧ exponent = 0)

instance (coefficient exponent : Int) : Decidable (Decimal.IsCanonical coefficient exponent) :=
  inferInstanceAs (Decidable (_ ∨ _))

/-- A decimal number: `coefficient * 10 ^ exponent`, or an infinity. -/
inductive Decimal where
  | finite (coefficient exponent : Int) (canonical : Decimal.IsCanonical coefficient exponent)
  | infinity (negative : Bool)
deriving DecidableEq

namespace Decimal

/-- Moves the zeros at the end of a coefficient into the exponent. -/
def stripZeros (coefficient exponent : Int) : Int × Int :=
  if coefficient = 0 then (0, 0)
  else if coefficient % 10 = 0 then stripZeros (coefficient / 10) (exponent + 1)
  else (coefficient, exponent)
termination_by coefficient.natAbs
decreasing_by omega

theorem stripZeros_canonical (coefficient exponent : Int) :
    IsCanonical (stripZeros coefficient exponent).1 (stripZeros coefficient exponent).2 := by
  fun_induction stripZeros coefficient exponent with
  | case1 => exact .inr ⟨rfl, rfl⟩
  | case2 _ _ _ _ ih => exact ih
  | case3 _ _ _ lastDigit => exact .inl lastDigit

/-- The number `coefficient * 10 ^ exponent`, whatever the parts. -/
def ofParts (coefficient exponent : Int) : Decimal :=
  .finite (stripZeros coefficient exponent).1 (stripZeros coefficient exponent).2
    (stripZeros_canonical coefficient exponent)

/-- An integer as a decimal, exactly. -/
def ofInt (n : Int) : Decimal :=
  ofParts n 0

/-- The number zero. -/
def zero : Decimal :=
  .finite 0 0 (.inr ⟨rfl, rfl⟩)

/-- The exponent of the leading digit of a nonzero number with these parts. -/
def leading (coefficient exponent : Int) : Int :=
  exponent + digitCount coefficient.natAbs - 1

/-- A finite number without digits after the point. -/
def isInteger : Decimal → Bool
  | .finite _ exponent _ => 0 ≤ exponent
  | .infinity _ => false

/-- The integer that a decimal is, if it is one. -/
def toInt? : Decimal → Option Int
  | .finite coefficient exponent _ =>
    if 0 ≤ exponent then some (coefficient * tenPow exponent.toNat) else none
  | .infinity _ => none

/-- A number below zero. -/
def isNegative : Decimal → Bool
  | .finite coefficient _ _ => coefficient < 0
  | .infinity negative => negative

/-- The number with the opposite sign, exactly. -/
def opposite : Decimal → Decimal
  | .finite coefficient exponent canonical =>
    .finite (-coefficient) exponent (by unfold IsCanonical at *; omega)
  | .infinity negative => .infinity !negative

/-- The two coefficients at the lesser of the two exponents, and that exponent. -/
def align (a ea b eb : Int) : Int × Int × Int :=
  let e := min ea eb
  (a * tenPow (ea - e).toNat, b * tenPow (eb - e).toNat, e)

/-- Order of finite numbers of one sign, given as magnitudes: by the leading digit's exponent, then
    digit by digit. Numbers that differ in the former are never brought to one exponent, which could be
    far from both. -/
def compareMagnitudes (a : Nat) (ea : Int) (b : Nat) (eb : Int) : Ordering :=
  if a = 0 ∨ b = 0 then compare a b
  else (compare (leading a ea) (leading b eb)).then
    (let (x, y, _) := align a ea b eb; compare x y)

/-- Numerical order. -/
def compare : Decimal → Decimal → Ordering
  | .infinity true, .infinity true => .eq
  | .infinity true, _ => .lt
  | .infinity false, .infinity false => .eq
  | .infinity false, _ => .gt
  | .finite .., .infinity negative => if negative then .gt else .lt
  | .finite a ea _, .finite b eb _ =>
    if a < 0 then
      if b < 0 then compareMagnitudes b.natAbs eb a.natAbs ea else .lt
    else if b < 0 then .gt else compareMagnitudes a.natAbs ea b.natAbs eb

/-- Numerically less. -/
def less (a b : Decimal) : Bool :=
  a.compare b == .lt

/-- Numerically less or equal. -/
def lessOrEqual (a b : Decimal) : Bool :=
  a.compare b != .gt

example : ofParts 1200 (-1) = ofInt 120 := by decide +kernel
example : (ofInt (-3)).less (ofParts 15 (-1)) = true := by decide +kernel

end Decimal

end Crosswalk
