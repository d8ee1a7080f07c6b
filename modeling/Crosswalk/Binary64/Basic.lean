/-
Module: Crosswalk.Binary64.Basic
Purpose: Double-precision binary numbers. Every finite double is a multiple of the least positive one, so a
  double is a sign and a natural number of these units, and exact arithmetic on doubles is arithmetic on
  natural numbers.
Main exports: Binary64, Binary64.rank, Binary64.less, Binary64.numericallyEqual, Binary64.bits
-/
import Crosswalk.Rounding

namespace Crosswalk

namespace Binary64

/-- The number of bits of a significand. -/
def significandBits : Nat := 53

/-- One is this power of two of units. -/
def unitExponent : Nat := 1074

/-- The number one in units. -/
def one : Nat := twoPow unitExponent

/-- All finite magnitudes lie below this number of units. -/
def limit : Nat := twoPow 2098

/-- The number of low bits of a magnitude that its significand does not reach. -/
def spareBits (units : Nat) : Nat :=
  units.log2 + 1 - significandBits

/-- A magnitude of a double: it is below the limit, and its spare bits are zero. -/
def IsMagnitude (units : Nat) : Prop :=
  units < limit ∧ units % twoPow (spareBits units) = 0

instance (units : Nat) : Decidable (IsMagnitude units) :=
  inferInstanceAs (Decidable (_ ∧ _))

end Binary64

/-- A double: a magnitude in units of the least positive double with a sign, an infinity, or a datum that
    is not a number. The payload tells data of the last kind apart; the payload zero belongs to the
    standard one. -/
inductive Binary64 where
  | finite (negative : Bool) (units : Nat) (isMagnitude : Binary64.IsMagnitude units)
  | infinity (negative : Bool)
  | nan (negative : Bool) (payload : Nat)
deriving DecidableEq

namespace Binary64

theorem isMagnitude_zero : IsMagnitude 0 := by decide +kernel

/-- Zero, with a sign. -/
def zero (negative : Bool) : Binary64 :=
  .finite negative 0 isMagnitude_zero

/-- The standard datum that is not a number. -/
def standardNaN : Binary64 :=
  .nan false 0

/-- Not a number. -/
def isNaN : Binary64 → Bool
  | .nan .. => true
  | _ => false

/-- A magnitude with a sign, as an integer number of units. -/
def signedUnits (negative : Bool) (units : Nat) : Int :=
  if negative then -(units : Int) else units

/-- The place of a number in the numerical order, in units; both zeros have one place. The infinities lie
    at the limits. -/
def rank : Binary64 → Option Int
  | .finite negative units _ => some (signedUnits negative units)
  | .infinity negative => some (signedUnits negative limit)
  | .nan .. => none

/-- A comparison of ranks, which fails for data that are not numbers. -/
def compareBy (holds : Int → Int → Bool) (a b : Binary64) : Bool :=
  match a.rank, b.rank with
  | some x, some y => holds x y
  | _, _ => false

/-- Numerically less. -/
def less : Binary64 → Binary64 → Bool :=
  compareBy fun x y => x < y

/-- Numerically less or equal. -/
def lessOrEqual : Binary64 → Binary64 → Bool :=
  compareBy fun x y => x ≤ y

/-- Numerically equal: the two zeros are, and a datum that is not a number equals nothing. -/
def numericallyEqual : Binary64 → Binary64 → Bool :=
  compareBy fun x y => x == y

/-- A zero of either sign. -/
def isZero : Binary64 → Bool
  | .finite _ units _ => units == 0
  | _ => false

/-- The integer that a double is, if it is one. -/
def toInt? : Binary64 → Option Int
  | .finite negative units _ =>
    if units % one = 0 then some (signedUnits negative (units / one)) else none
  | _ => none

/-- The number with the opposite sign. -/
def opposite : Binary64 → Binary64
  | .finite negative units isMagnitude => .finite (!negative) units isMagnitude
  | .infinity negative => .infinity !negative
  | .nan negative payload => .nan (!negative) payload

/-- The 64 bits of a number in the interchange format: the sign, eleven bits of exponent, and the
    significand without its leading bit. The format's data that are not numbers are not told apart
    here. -/
def bits : Binary64 → Nat
  | .finite negative units _ =>
    (if negative then twoPow 63 else 0)
      + (if units < twoPow 52 then units
         else (spareBits units + 1) * twoPow 52 + (units / twoPow (spareBits units) - twoPow 52))
  | .infinity negative => (if negative then twoPow 63 else 0) + 2047 * twoPow 52
  | .nan negative _ => (if negative then twoPow 63 else 0) + 2047 * twoPow 52 + twoPow 51

end Binary64

end Crosswalk
