/-
Module: Crosswalk.Decimal.Arithmetic
Purpose: Decimal arithmetic of fixed precision. A result is the exact one rounded once: to 50 significant
  digits, half to even, but to no digit below the least exponent. Numbers whose leading digit would lie
  above the greatest exponent are an overflow, and expressions without a value an invalid operation.
Main exports: Signal, Decimal.round, Decimal.add, Decimal.subtract, Decimal.multiply, Decimal.divide,
  Decimal.remainder, Decimal.negate, Decimal.magnitude
-/
import Crosswalk.Decimal.Basic

namespace Crosswalk

/-- Why an arithmetic operation has no result. -/
inductive Signal where
  | overflow
  | invalidOperation
deriving DecidableEq, Repr

/-- The name of a signal in messages. -/
def Signal.name : Signal → String
  | .overflow => "Overflow"
  | .invalidOperation => "InvalidOperation"

namespace Decimal

/-- The number of significant digits that a rounded number has at most. -/
def precision : Nat := 50

/-- The greatest exponent of a leading digit. -/
def greatestExponent : Int := 999999

/-- The least exponent of a last digit. -/
def leastExponent : Int := -1000048

/-- The coefficient with a sign. -/
def signed (negative : Bool) (n : Nat) : Int :=
  if negative then -(n : Int) else n

/-- The exponent of the last digit that is kept of a number whose leading digit has the exponent
    `top`. -/
def lastKept (top : Int) : Int :=
  max (top - (precision - 1 : Nat)) leastExponent

/-- Rounds the number `num / den * 10 ^ exponent`, with a minus sign if `negative`. A number whose leading
    digit lies two places below the least exponent is nearer to zero than to any other number. -/
def round (negative : Bool) (num den : Nat) (exponent : Int) : Except Signal Decimal :=
  if num = 0 then .ok zero
  else
    let top := exponent + decade num den
    if greatestExponent < top then .error .overflow
    else if top < leastExponent - 1 then .ok zero
    else
      let last := lastKept top
      let (n, d) := scaleDown num den (last - exponent)
      let coefficient := halfEven n d
      if greatestExponent < leading coefficient last then .error .overflow
      else .ok (ofParts (signed negative coefficient) last)

/-- Rounds a number given by its parts. -/
def roundParts (coefficient exponent : Int) : Except Signal Decimal :=
  round (coefficient < 0) coefficient.natAbs 1 exponent

/-- Rounds a decimal; infinities stay. -/
def rounded : Decimal → Except Signal Decimal
  | .finite coefficient exponent _ => roundParts coefficient exponent
  | .infinity negative => .ok (.infinity negative)

/-- The exponent below which a summand has no influence on a rounded sum beyond its sign, if the other
    summand has these parts: that summand and all midpoints between rounded numbers near it are
    multiples of the power of ten with this exponent. -/
def influence (coefficient exponent : Int) : Int :=
  min exponent (leading coefficient exponent - (precision + 1 : Nat))

/-- The second of two nonzero summands, cut down to a number of the same sign that gives the same rounded
    sum. It keeps the sum of numbers of very different size short. -/
def cutTo (a ea b eb : Int) : Int × Int :=
  if leading b eb < influence a ea then (b.sign, influence a ea - 1) else (b, eb)

/-- The rounded sum of two finite numbers. -/
def addFinite (a ea b eb : Int) : Except Signal Decimal :=
  if a = 0 then roundParts b eb
  else if b = 0 then roundParts a ea
  else
    let (b', eb') := cutTo a ea b eb
    let (a', ea') := cutTo b eb a ea
    let (x, y, e) := align a' ea' b' eb'
    roundParts (x + y) e

/-- The rounded sum. Opposite infinities have none. -/
def add : Decimal → Decimal → Except Signal Decimal
  | .finite a ea _, .finite b eb _ => addFinite a ea b eb
  | .infinity negative, .infinity negative' =>
    if negative = negative' then .ok (.infinity negative) else .error .invalidOperation
  | .infinity negative, .finite .. => .ok (.infinity negative)
  | .finite .., .infinity negative => .ok (.infinity negative)

/-- The rounded difference. -/
def subtract (a b : Decimal) : Except Signal Decimal :=
  add a b.opposite

/-- The rounded product. Zero times an infinity has none. -/
def multiply : Decimal → Decimal → Except Signal Decimal
  | .finite a ea _, .finite b eb _ => roundParts (a * b) (ea + eb)
  | .infinity negative, .infinity negative' => .ok (.infinity (negative != negative'))
  | .infinity negative, .finite b _ _ =>
    if b = 0 then .error .invalidOperation else .ok (.infinity (negative != decide (b < 0)))
  | .finite a _ _, .infinity negative =>
    if a = 0 then .error .invalidOperation else .ok (.infinity (negative != decide (a < 0)))

/-- The rounded quotient. A divisor of zero is refused, like a quotient of infinities. -/
def divide : Decimal → Decimal → Except Signal Decimal
  | .finite a ea _, .finite b eb _ =>
    if b = 0 then .error .invalidOperation
    else round (decide (a < 0) != decide (b < 0)) a.natAbs b.natAbs (ea - eb)
  | .infinity _, .infinity _ => .error .invalidOperation
  | .infinity negative, .finite b _ _ => .ok (.infinity (negative != decide (b < 0)))
  | .finite .., .infinity _ => .ok zero

/-- The remainder of the quotient truncated toward zero; it has the sign of the dividend. The truncated
    quotient must not have more digits than the precision. -/
def remainder : Decimal → Decimal → Except Signal Decimal
  | .finite a ea _, .finite b eb _ =>
    if b = 0 then .error .invalidOperation
    else if a = 0 then .ok zero
    else if leading a ea < leading b eb then roundParts a ea
    else if leading b eb + (precision + 1 : Nat) < leading a ea then .error .invalidOperation
    else
      let (x, y, e) := align a ea b eb
      if tenPow precision ≤ (x.tdiv y).natAbs then .error .invalidOperation
      else roundParts (x.tmod y) e
  | .infinity _, _ => .error .invalidOperation
  | .finite a ea _, .infinity _ => roundParts a ea

/-- The number with the opposite sign, rounded. -/
def negate (a : Decimal) : Except Signal Decimal :=
  a.opposite.rounded

/-- The absolute value, rounded. -/
def magnitude (a : Decimal) : Except Signal Decimal :=
  if a.isNegative then a.negate else a.rounded

example : (add (ofInt 1) (ofParts 5 (-1))).toOption = some (ofParts 15 (-1)) := by decide +kernel
example : (divide (ofInt 1) (ofInt 8)).toOption = some (ofParts 125 (-3)) := by decide +kernel
example : (remainder (ofInt (-7)) (ofInt 3)).toOption = some (ofInt (-1)) := by decide +kernel
example : (add (ofParts 9 999999) (ofParts 9 999999)).toOption = none := by decide +kernel

end Decimal

end Crosswalk
