/-
Module: Crosswalk.Binary64.Shortest
Purpose: The shortest decimal that denotes a double: of all decimals that round to it those with the fewest
  digits, and of these the nearest to it.
Main exports: Binary64.shortest, Binary64.toDecimal?
-/
import Crosswalk.Binary64.Basic
import Crosswalk.Decimal.Basic

namespace Crosswalk.Binary64

/-- A decimal `coefficient * 10 ^ exponent` lies among the numbers that round to a magnitude. The interval
    reaches half a unit of the last place to both sides; below a power of two the places are half as
    wide, except among the least magnitudes. Its ends belong to it if the significand is even. Both
    sides are compared in quarters of a place. -/
def roundsTo (units coefficient : Nat) (exponent : Int) : Bool :=
  let place := twoPow (spareBits units)
  let below := if units = twoPow units.log2 ∧ 1 < place then place else 2 * place
  let (n, d) := scaleDown (4 * coefficient * one) 1 (-exponent)
  let low := (4 * units - below) * d
  let high := (4 * units + 2 * place) * d
  if units / place % 2 = 0 then low ≤ n && n ≤ high else low < n && n < high

/-- A decimal that rounds to a magnitude, with `count` digits after its leading one: of the two next to the
    magnitude on that grid the nearer one if it does, or else the other. Of two equally near ones the even
    one counts as nearer. -/
def neighbour? (units : Nat) (top : Int) (count : Nat) : Option (Nat × Int) :=
  let exponent := top - count
  let (n, d) := scaleDown units one exponent
  let floor := n / d
  let near := halfEven n d
  let far := if near = floor then floor + 1 else floor
  if roundsTo units near exponent then some (near, exponent)
  else if roundsTo units far exponent then some (far, exponent)
  else none

/-- Coefficient and exponent of the shortest decimal for a positive magnitude. Seventeen digits always
    suffice. -/
def shortest (units : Nat) : Nat × Int :=
  let top := decade units one
  ((List.range 17).findSome? (neighbour? units top)).getD (0, 0)

/-- The decimal that stands for a double: an integer stands for itself, and every other finite double has
    the shortest decimal that denotes it. -/
def toDecimal? : Binary64 → Option Decimal
  | .nan .. => none
  | .infinity negative => some (.infinity negative)
  | .finite negative units isMagnitude =>
    match (finite negative units isMagnitude).toInt? with
    | some n => some (Decimal.ofInt n)
    | none =>
      let (coefficient, exponent) := shortest units
      some (Decimal.ofParts (signedUnits negative coefficient) exponent)

example : shortest 1 = (5, -324) := by decide +kernel

end Crosswalk.Binary64
