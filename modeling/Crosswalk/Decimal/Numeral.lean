/-
Module: Crosswalk.Decimal.Numeral
Purpose: Reading decimals from numerals and writing them as text. Reading rounds to the precision of the
  arithmetic. Whole numbers are written in full, unless they are too long; other numbers are rounded and
  written with a point and without an exponent.
Main exports: Decimal.NumeralError, Decimal.parse, Decimal.ofNumeral, Decimal.format, Decimal.WritingError,
  Decimal.render
-/
import Crosswalk.Decimal.Arithmetic
import Crosswalk.Text.Numeral

namespace Crosswalk.Decimal

/-- Why a text is not read as a number. -/
inductive NumeralError where
  /-- The text is not a numeral. -/
  | notANumeral
  /-- The text is a numeral but denotes no number of the arithmetic, or a line end follows it. -/
  | outOfRange
deriving DecidableEq, Repr

/-- The number that a numeral denotes, exactly. -/
def ofNumeral (numeral : Numeral) : Decimal :=
  ofParts numeral.signedCoefficient numeral.exponent

/-- Reads a text as a number. A numeral followed by one line end is recognized as a numeral, but it
    denotes nothing. -/
def parse (text : String) : Except NumeralError Decimal :=
  match Numeral.ofChars? text.toList with
  | some numeral =>
    (round numeral.negative numeral.coefficient 1 numeral.exponent).mapError fun _ => .outOfRange
  | none =>
    if text.toList.getLast? = some '\n' && (Numeral.ofChars? text.toList.dropLast).isSome
    then .error .outOfRange else .error .notANumeral

/-- The decimal digits of a natural number. -/
def digits (n : Nat) : List Char :=
  Nat.toDigits 10 n

/-- A minus sign for a negative number. -/
def signText (negative : Bool) : List Char :=
  if negative then ['-'] else []

/-- A number written without an exponent: with zeros after its coefficient, or with a point and as many
    digits after it as the exponent says. -/
def positional (coefficient exponent : Int) : List Char :=
  let ds := digits coefficient.natAbs
  let body :=
    if 0 ≤ exponent then ds ++ List.replicate exponent.toNat '0'
    else
      let places := (-exponent).toNat
      let padded := List.replicate (places + 1 - ds.length) '0' ++ ds
      padded.take (padded.length - places) ++ '.' :: padded.drop (padded.length - places)
  signText (coefficient < 0) ++ body

/-- The text that a number would have if all texts were written: `render` says which are. A number that is
    not whole is rounded first; if that leaves zero, its sign stays. -/
def format : Decimal → String
  | .infinity negative => if negative then "-Infinity" else "Infinity"
  | .finite coefficient exponent _ =>
    String.ofList <|
      if 0 ≤ exponent then positional coefficient exponent
      else
        match roundParts coefficient exponent with
        | .ok (.finite c e _) =>
          if c = 0 then signText (coefficient < 0) ++ ['0'] else positional c e
        | _ => positional coefficient exponent

/-- Why a number is not written. -/
inductive WritingError where
  /-- The number is whole and has more digits than are written. -/
  | tooLong
  /-- The number is not whole, and rounding takes its leading digit above the greatest exponent. -/
  | overflow
deriving DecidableEq, Repr

/-- The text of a number, if it is written. -/
def render (amount : Decimal) : Except WritingError String :=
  match amount with
  | .infinity _ => .ok amount.format
  | .finite coefficient exponent _ =>
    if 0 ≤ exponent then
      if leading coefficient exponent < Text.mostDigits then .ok amount.format else .error .tooLong
    else
      match roundParts coefficient exponent with
      | .ok _ => .ok amount.format
      | .error _ => .error .overflow

example : (ofParts 125 (-2)).format = "1.25" ∧ (ofParts (-5) (-3)).format = "-0.005" := by
  decide +kernel
example : (ofParts 12 3).format = "12000" := by decide +kernel
example : (parse "1.50").toOption = some (ofParts 15 (-1)) := by decide +kernel
example : (parse "1\n").toOption = none := by decide +kernel

end Crosswalk.Decimal
