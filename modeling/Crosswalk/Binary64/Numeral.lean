/-
Module: Crosswalk.Binary64.Numeral
Purpose: The texts of host numbers. A host prints whole numbers below 10^15 in full and all others with 14
  significant digits, positionally or with an exponent, whichever its rule says; and it reads decimal and
  hexadecimal numerals between blanks.
Main exports: Binary64.format, Binary64.parse
-/
import Crosswalk.Binary64.Arithmetic
import Crosswalk.Decimal.Numeral
import Crosswalk.Text.Blank
import Crosswalk.Text.Case

namespace Crosswalk.Binary64

/-! ### Printing -/

/-- The number of significant digits that a host prints. -/
def shownDigits : Nat := 14

/-- The digits without the zeros at their end. -/
def dropLastZeros (digits : List Char) : List Char :=
  (digits.reverse.dropWhile (· = '0')).reverse

/-- Digits with a point after the first `whole` of them; no point without digits after it. -/
def withPoint (whole : Nat) (digits : List Char) : List Char :=
  let fraction := dropLastZeros (digits.drop whole)
  digits.take whole ++ (if fraction.isEmpty then [] else '.' :: fraction)

/-- An exponent with its sign and at least two digits. -/
def exponentText (exponent : Int) : List Char :=
  let digits := Decimal.digits exponent.natAbs
  'e' :: (if exponent < 0 then '-' else '+')
    :: (if digits.length < 2 then '0' :: digits else digits)

/-- A positive magnitude with the shown number of significant digits, half to even. Numbers from 10^-4 on
    whose point falls within the digits are written positionally. -/
def significant (units : Nat) : List Char :=
  let top := decade units one
  let (n, d) := scaleDown units one (top - (shownDigits - 1 : Nat))
  let rounded := halfEven n d
  let top := if rounded = tenPow shownDigits then top + 1 else top
  let digits := (Decimal.digits rounded).take shownDigits
  if top < -4 ∨ (shownDigits : Int) ≤ top then withPoint 1 digits ++ exponentText top
  else if 0 ≤ top then withPoint (top.toNat + 1) digits
  else withPoint 1 (List.replicate (-top).toNat '0' ++ digits)

/-- The text of a host number. -/
def format : Binary64 → String
  | .nan negative _ => if negative then "-nan" else "nan"
  | .infinity negative => if negative then "-inf" else "inf"
  | .finite negative units isMagnitude =>
    String.ofList <|
      match (finite negative units isMagnitude).toInt? with
      | some n =>
        if n.natAbs < tenPow 15 then Decimal.positional n 0
        else Decimal.signText negative ++ significant units
      | none => Decimal.signText negative ++ significant units

/-! ### Reading -/

/-- The value of a hexadecimal digit: a decimal digit of any script, or one of the letters a to f. -/
def hexadecimalValue? (c : Char) : Option Nat :=
  match Text.digitValue? c with
  | some value => some value
  | none => if 'a' ≤ c ∧ c ≤ 'f' then some (c.toNat - 'a'.toNat + 10) else none

/-- The number that hexadecimal digits denote, if all of them are. -/
def hexadecimal? (digits : List Char) : Option Nat :=
  digits.foldlM (fun value c => (hexadecimalValue? c).map (16 * value + ·)) 0

/-- A hexadecimal numeral is too large for a double. -/
structure TooLarge where
deriving DecidableEq, Repr

/-- Reads a text as a host number: blanks around it do not matter, nor do capitals. A decimal numeral
    beyond the greatest double is infinite, while a hexadecimal one is refused. -/
def parse (text : String) : Except TooLarge (Option Binary64) :=
  let body := Text.lower (Text.strip text.toList)
  let (negative, unsigned) := Numeral.takeSign body
  match unsigned with
  | '0' :: 'x' :: digits =>
    if digits.isEmpty then .ok none
    else match hexadecimal? digits with
      | none => .ok none
      | some n =>
        match ofUnits negative (n * one) 1 with
        | .infinity _ => .error {}
        | value => .ok (some (if n = 0 then zero false else value))
  | _ => .ok ((Numeral.ofChars? body).map ofNumeral)

example : (ofInt 42).format = "42" ∧ (ofParts false 1 16).format = "1e+16" := by decide +kernel
example : (ofParts false 1 (-1)).format = "0.1" ∧ (ofParts true 15 (-8)).format = "-1.5e-07" := by
  decide +kernel
example : (parse " 0x1F ").toOption = some (some (ofInt 31)) := by decide +kernel
example : (parse "1_0").toOption = some none := by decide +kernel

end Crosswalk.Binary64
