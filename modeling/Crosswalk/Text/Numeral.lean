/-
Module: Crosswalk.Text.Numeral
Purpose: The grammar of decimal numerals: an optional sign, digits with an optional point (or a point and
  digits after it), and an optional exponent. Digits may come from any script.
Main exports: Numeral, Numeral.ofChars?
-/
import Crosswalk.Text.Digit

namespace Crosswalk

/-- What a numeral denotes, before any rounding: `coefficient * 10 ^ exponent`, negated if it has a minus
    sign. Leading and trailing zeros are kept. -/
structure Numeral where
  negative : Bool
  coefficient : Nat
  exponent : Int
deriving DecidableEq, Repr

namespace Numeral

open Text

/-- An optional sign at the front of a text: whether it is a minus sign, and the rest. -/
def takeSign : List Char → Bool × List Char
  | '-' :: rest => (true, rest)
  | '+' :: rest => (false, rest)
  | text => (false, text)

/-- The digits after an optional point, and the rest. -/
def takeFraction : List Char → List Char × List Char
  | '.' :: rest => (rest.takeWhile isDigit, rest.dropWhile isDigit)
  | text => ([], text)

/-- The exponent that ends a numeral: absent, or a letter e with an optional sign and digits. -/
def exponent? : List Char → Option Int
  | [] => some 0
  | c :: rest =>
    if c = 'e' ∨ c = 'E' then
      let (negative, digits) := takeSign rest
      if digits.isEmpty || !digits.all isDigit then none
      else if negative then some (-(digitsValue digits : Int)) else some (digitsValue digits)
    else none

/-- Reads a whole text as a numeral. -/
def ofChars? (text : List Char) : Option Numeral :=
  let (negative, body) := takeSign text
  let whole := body.takeWhile isDigit
  let (fraction, rest) := takeFraction (body.dropWhile isDigit)
  if whole.isEmpty && fraction.isEmpty then none
  else (exponent? rest).map fun exponent =>
    ⟨negative, digitsValue (whole ++ fraction), exponent - fraction.length⟩

/-- The signed coefficient of a numeral. -/
def signedCoefficient (numeral : Numeral) : Int :=
  if numeral.negative then -(numeral.coefficient : Int) else numeral.coefficient

example : ofChars? "-12.50e3".toList = some ⟨true, 1250, 1⟩ := by decide +kernel
example : ofChars? ".e3".toList = none ∧ ofChars? "1e".toList = none := by decide +kernel

end Numeral

end Crosswalk
