/-
Module: Crosswalk.Binary64.Arithmetic
Purpose: Rounding to doubles and their arithmetic: the exact result, rounded to the nearest double with
  ties to the even significand. Results beyond the greatest double are infinite.
Main exports: Binary64.ofUnits, Binary64.ofInt, Binary64.ofNumeral, Binary64.add, Binary64.subtract,
  Binary64.multiply, Binary64.divide, Binary64.negate, Binary64.floor?
-/
import Crosswalk.Binary64.Basic
import Crosswalk.Text.Numeral

namespace Crosswalk.Binary64

/-! ### Rounding -/

/-- The magnitude nearest to `n / d` units, without regard to the limit. -/
def nearest (n d : Nat) : Nat :=
  halfEven n (d * twoPow (spareBits (n / d))) * twoPow (spareBits (n / d))

theorem log2_mul_twoPow {q : Nat} (positive : q ≠ 0) (s : Nat) :
    (q * twoPow s).log2 = q.log2 + s := by
  have power : 0 < twoPow s := twoPow_pos s
  have nonzero : q * twoPow s ≠ 0 := Nat.mul_ne_zero positive (Nat.ne_of_gt power)
  refine (Nat.log2_eq_iff nonzero).mpr ⟨?_, ?_⟩
  · calc twoPow (q.log2 + s) = twoPow q.log2 * twoPow s := twoPow_add ..
      _ ≤ q * twoPow s := Nat.mul_le_mul_right _ (twoPow_log2_le positive)
  · calc q * twoPow s < twoPow (q.log2 + 1) * twoPow s :=
        Nat.mul_lt_mul_of_pos_right (lt_twoPow_log2_succ q) power
      _ = twoPow (q.log2 + s + 1) := by rw [← twoPow_add, Nat.add_right_comm]

theorem twoPow_spareBits_dvd {q : Nat} (small : q ≤ twoPow significandBits) (s : Nat) :
    twoPow (spareBits (q * twoPow s)) ∣ q * twoPow s := by
  rcases Nat.eq_zero_or_pos q with none | positive
  · simp [none]
  · rcases Nat.lt_or_eq_of_le small with below | full
    · have bits : q.log2 < significandBits := (Nat.log2_lt (Nat.ne_of_gt positive)).mpr below
      refine Nat.dvd_mul_left_of_dvd (twoPow_dvd_twoPow ?_) q
      rw [spareBits, log2_mul_twoPow (Nat.ne_of_gt positive)]
      omega
    · rw [full, ← twoPow_add]
      refine twoPow_dvd_twoPow ?_
      rw [spareBits, log2_twoPow]
      simp only [significandBits]
      omega

theorem quotient_lt_twoPow (n d : Nat) :
    n / (d * twoPow (spareBits (n / d))) < twoPow significandBits := by
  generalize hs : spareBits (n / d) = s
  rw [← Nat.div_div_eq_div_mul, Nat.div_lt_iff_lt_mul (twoPow_pos s)]
  calc n / d < twoPow ((n / d).log2 + 1) := lt_twoPow_log2_succ _
    _ ≤ twoPow (significandBits + s) :=
      twoPow_le_twoPow (by rw [← hs]; simp only [spareBits]; omega)
    _ = twoPow significandBits * twoPow s := twoPow_add ..

theorem nearest_spareBits (n d : Nat) : nearest n d % twoPow (spareBits (nearest n d)) = 0 := by
  refine Nat.mod_eq_zero_of_dvd (twoPow_spareBits_dvd ?_ _)
  have := halfEven_le n (d * twoPow (spareBits (n / d)))
  have := quotient_lt_twoPow n d
  omega

/-- The double nearest to `n / d` units with a sign. -/
def ofUnits (negative : Bool) (n d : Nat) : Binary64 :=
  if below : nearest n d < limit then .finite negative (nearest n d) ⟨below, nearest_spareBits n d⟩
  else .infinity negative

/-- The double nearest to an integer. -/
def ofInt (n : Int) : Binary64 :=
  ofUnits (n < 0) (n.natAbs * one) 1

/-- The double nearest to `coefficient * 10 ^ exponent`, with a sign. Numbers far outside the range of
    doubles are recognized by the exponent of their leading digit. -/
def ofParts (negative : Bool) (coefficient : Nat) (exponent : Int) : Binary64 :=
  let top := exponent + digitCount coefficient
  if coefficient = 0 ∨ top < -330 then zero negative
  else if 330 < top then .infinity negative
  else
    let (n, d) := scaleDown (coefficient * one) 1 (-exponent)
    ofUnits negative n d

/-- The double nearest to the number that a numeral denotes. -/
def ofNumeral (numeral : Numeral) : Binary64 :=
  ofParts numeral.negative numeral.coefficient numeral.exponent

/-! ### Arithmetic

A result that is not a number is a new datum: `fresh` is its payload. It keeps the sign of an operand
that is not a number, the first one if both are, and is negative where the operands are numbers. -/

/-- The result of an operation on an operand that is not a number, or without a value. -/
def unordered (fresh : Nat) : Binary64 → Binary64 → Binary64
  | .nan negative _, _ => .nan negative fresh
  | _, .nan negative _ => .nan negative fresh
  | _, _ => .nan true fresh

/-- The sum. A sum of zero is negative only if both summands are. -/
def add (fresh : Nat) (a b : Binary64) : Binary64 :=
  match a, b with
  | .finite s u _, .finite t v _ =>
    let sum := signedUnits s u + signedUnits t v
    if sum = 0 then zero (s && t) else ofUnits (sum < 0) sum.natAbs 1
  | .infinity s, .infinity t => if s = t then .infinity s else unordered fresh a b
  | .infinity s, .finite .. => .infinity s
  | .finite .., .infinity t => .infinity t
  | _, _ => unordered fresh a b

/-- The number with the opposite sign, as the result of an operation. -/
def negate (fresh : Nat) : Binary64 → Binary64
  | .nan negative _ => .nan (!negative) fresh
  | a => a.opposite

/-- The difference. -/
def subtract (fresh : Nat) (a b : Binary64) : Binary64 :=
  match a, b with
  | .nan .., _ => unordered fresh a b
  | _, .nan .. => unordered fresh a b
  | _, _ => add fresh a b.opposite

/-- The product. -/
def multiply (fresh : Nat) (a b : Binary64) : Binary64 :=
  match a, b with
  | .finite s u _, .finite t v _ => ofUnits (s != t) (u * v) one
  | .infinity s, .infinity t => .infinity (s != t)
  | .infinity s, .finite t v _ => if v = 0 then unordered fresh a b else .infinity (s != t)
  | .finite s u _, .infinity t => if u = 0 then unordered fresh a b else .infinity (s != t)
  | _, _ => unordered fresh a b

/-- The sign of a double; data that are not numbers have one too. -/
def isNegative : Binary64 → Bool
  | .finite negative .. => negative
  | .infinity negative => negative
  | .nan negative _ => negative

/-- The quotient. Division by zero gives an infinity, or the standard datum that is not a number where the
    dividend is zero or not a number. -/
def divide (fresh : Nat) (a b : Binary64) : Binary64 :=
  if b.isZero then
    if a.isZero || a.isNaN then standardNaN else .infinity (a.isNegative != b.isNegative)
  else
    match a, b with
    | .finite s u _, .finite t v _ => ofUnits (s != t) (u * one) v
    | .infinity _, .infinity _ => unordered fresh a b
    | .infinity s, .finite t _ _ => .infinity (s != t)
    | .finite s _ _, .infinity t => zero (s != t)
    | _, _ => unordered fresh a b

/-- The greatest integer that is not above a finite double. -/
def floor? : Binary64 → Option Int
  | .finite negative units _ => some (Int.fdiv (signedUnits negative units) one)
  | _ => none

example : (ofInt 1).bits = 0x3ff0000000000000 ∧ (ofInt (-2)).bits = 0xc000000000000000 := by
  decide +kernel
example : (ofParts false 1 (-1)).bits = 0x3fb999999999999a := by decide +kernel
example : (add 0 (ofParts false 1 (-1)) (ofParts false 2 (-1))).bits = 0x3fd3333333333334 := by
  decide +kernel
example : (ofParts false 5 (-324)).bits = 1 ∧ ofParts false 1 309 = .infinity false := by
  decide +kernel

end Crosswalk.Binary64
