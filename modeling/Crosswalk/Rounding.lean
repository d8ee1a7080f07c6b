/-
Module: Crosswalk.Rounding
Purpose: Rounding of exact quotients, and their decimal size. Every inexact number in this library is an
  exact quotient of natural numbers rounded once, to nearest, with ties to the even neighbour.
Main exports: halfEven, digitCount, scaleDown, decade
-/
import Crosswalk.Power

namespace Crosswalk

/-- The integer nearest to `n / d`; of two nearest ones the even one. -/
def halfEven (n d : Nat) : Nat :=
  let quotient := n / d
  let remainder := n % d
  if 2 * remainder < d then quotient
  else if d < 2 * remainder then quotient + 1
  else if quotient % 2 = 0 then quotient
  else quotient + 1

theorem le_halfEven (n d : Nat) : n / d ≤ halfEven n d := by
  simp only [halfEven]
  repeat' split
  all_goals omega

theorem halfEven_le (n d : Nat) : halfEven n d ≤ n / d + 1 := by
  simp only [halfEven]
  repeat' split
  all_goals omega

/-- The number of decimal digits of a number below `10 ^ 2 ^ k`: a number that has more than half as many
    digits as this allows is cut off after the lower half. -/
def digitCountBelow : Nat → Nat → Nat
  | 0, _ => 1
  | k + 1, n =>
    let half := tenPow (twoPow k)
    if n < half then digitCountBelow k n else digitCountBelow k (n / half) + twoPow k

/-- The number of decimal digits of a natural number. Zero has one. -/
@[irreducible]
def digitCount (n : Nat) : Nat :=
  digitCountBelow (n.log2.log2 + 1) n

/-- Numerator and denominator of `num / den` divided by `10 ^ k`. -/
def scaleDown (num den : Nat) (k : Int) : Nat × Nat :=
  if 0 ≤ k then (num, den * tenPow k.toNat) else (num * tenPow (-k).toNat, den)

/-- The exponent of the leading digit of a positive quotient: the `k` with
    `10 ^ k ≤ num / den < 10 ^ (k + 1)`. -/
def decade (num den : Nat) : Int :=
  let guess := (digitCount num : Int) - digitCount den
  let (n, d) := scaleDown num den guess
  if d ≤ n then guess else guess - 1

example : halfEven 5 2 = 2 ∧ halfEven 7 2 = 4 ∧ halfEven 8 3 = 3 := by decide
example : digitCount 0 = 1 ∧ digitCount 99 = 2 ∧ digitCount 100 = 3 := by decide +kernel
example : decade 999 10 = 1 ∧ decade 1 3 = -1 ∧ decade 100 1 = 2 := by decide +kernel

end Crosswalk
