/-
Module: Crosswalk.Document.Yaml.Number
Purpose: The numbers that scalars denote. Integers are binary, octal, decimal, hexadecimal or in groups to the
  base sixty, and the last form is there for real numbers too. Lines between digits do not count. A scalar
  with a stated tag may have any text, so that blanks around the digits and digits of other scripts occur.
Main exports: integerOf, realOf
-/
import Crosswalk.Binary64.Arithmetic
import Crosswalk.Document.Defect
import Crosswalk.Text.Blank
import Crosswalk.Text.Case

namespace Crosswalk.Document.Yaml

/-- The text without the lines between its digits. -/
def withoutLines (text : String) : List Char :=
  text.toList.filter (· ≠ '_')

/-- The value of a digit: a decimal digit of any script, or a letter, of which all stand for more than
    nine. -/
def digitValue? (c : Char) : Option Nat :=
  match Text.digitValue? c with
  | some value => some value
  | none =>
    if 'a' ≤ c ∧ c ≤ 'z' then some (c.toNat - 'a'.toNat + 10)
    else if 'A' ≤ c ∧ c ≤ 'Z' then some (c.toNat - 'A'.toNat + 10)
    else none

/-- The number that digits to a base denote, if all of them are. -/
def digits? (base : Nat) (digits : List Char) : Option Nat :=
  if digits.isEmpty then none
  else digits.foldlM (fun value c =>
    match digitValue? c with
    | some digit => if digit < base then some (base * value + digit) else none
    | none => none) 0

/-- The letter after a zero that announces digits to a base. -/
def baseLetter? : Nat → Option Char
  | 2 => some 'b'
  | 8 => some 'o'
  | 16 => some 'x'
  | _ => none

/-- The digits after the letter that announces the base, if it is there. -/
def withoutBase (base : Nat) (text : List Char) : List Char :=
  match text with
  | '0' :: letter :: digits => if baseLetter? base = some letter.toLower then digits else text
  | _ => text

/-- The integer to a base that a text denotes: blanks may surround it, and it may have a sign. -/
def integerTo? (base : Nat) (text : List Char) : Option Int := do
  let (negative, unsigned) := Numeral.takeSign (Text.strip text)
  let digits := withoutBase base unsigned
  if base = 10 && Text.mostDigits < digits.length then none
  else
    let n ← digits? base digits
    some (if negative then -(n : Int) else n)

/-- The integer that a text without a sign denotes. -/
def magnitude? (text : List Char) : Option Int :=
  match text with
  | ['0'] => some 0
  | '0' :: 'b' :: digits => integerTo? 2 digits
  | '0' :: 'x' :: digits => integerTo? 16 digits
  | '0' :: _ => integerTo? 8 text
  | _ => do
    let groups ← (text.splitOn ':').mapM (integerTo? 10)
    some (groups.foldl (fun high low => 60 * high + low) 0)

/-- The integer that a scalar denotes. -/
def integerOf (text : String) : Except Defect Int :=
  let (negative, unsigned) := Numeral.takeSign (withoutLines text)
  if unsigned.isEmpty then .error .noDigits
  else match magnitude? unsigned with
    | some n => .ok (if negative then -n else n)
    | none => .error .undefined

/-- The real number that a text denotes without groups. -/
def decimal? (text : List Char) : Option Binary64 :=
  let body := Text.strip text
  let (negative, unsigned) := Numeral.takeSign body
  if unsigned = "inf".toList ∨ unsigned = "infinity".toList then some (.infinity negative)
  else if unsigned = "nan".toList then some Binary64.standardNaN
  else (Numeral.ofChars? body).map Binary64.ofNumeral

/-- The sum of groups to the base sixty, the last of which comes first. Every step is rounded. -/
def sixties (sum : Binary64) (unit : Nat) : List Binary64 → Binary64
  | [] => sum
  | group :: rest =>
    sixties (sum.add 0 (group.multiply 0 (Binary64.ofInt unit))) (unit * 60) rest

/-- The real number that a text without a sign denotes. -/
def realMagnitude? (text : List Char) : Option Binary64 :=
  if text = ".inf".toList then some (.infinity false)
  else if text = ".nan".toList then some Binary64.standardNaN
  else if text.contains ':' then do
    let groups ← (text.splitOn ':').mapM decimal?
    some (sixties (Binary64.zero false) 1 groups.reverse)
  else decimal? text

/-- The real number that a scalar denotes. -/
def realOf (text : String) : Except Defect Binary64 :=
  let lowered := Text.lower (withoutLines text)
  if lowered.isEmpty then .error .noDigits
  else
    let (negative, unsigned) := Numeral.takeSign lowered
    match realMagnitude? unsigned with
    | some x => .ok (if negative then x.opposite else x)
    | none => .error .undefined

example : (integerOf "-0x_1F").toOption = some (-31) ∧ (integerOf "010").toOption = some 8 := by
  decide +kernel
example : (integerOf "1:30").toOption = some 90 ∧ (integerOf "0b_").toOption = none := by decide +kernel
example : (realOf "1:30.5").toOption = some (Binary64.ofParts false 905 (-1)) := by decide +kernel
example : (realOf "-.INF").toOption = some (.infinity true) := by decide +kernel

end Crosswalk.Document.Yaml
