/-
Module: Crosswalk.Text.Digit
Purpose: Decimal digits of all scripts. A numeral may be written with the decimal digits of any script,
  and a digit has the same value whichever script it comes from. Hexadecimal digits of escapes belong to
  ASCII.
Main exports: digitValue?, isDigit, digitsValue, mostDigits, hexadecimalValue?
-/
import Crosswalk.Power

namespace Crosswalk.Text

/-- The code point of the digit zero of every script with decimal digits; the digits one to nine follow
    each of them. -/
def digitZeros : List Nat := [
  0x0030, 0x0660, 0x06F0, 0x07C0, 0x0966, 0x09E6, 0x0A66, 0x0AE6, 0x0B66, 0x0BE6, 0x0C66, 0x0CE6,
  0x0D66, 0x0DE6, 0x0E50, 0x0ED0, 0x0F20, 0x1040, 0x1090, 0x17E0, 0x1810, 0x1946, 0x19D0, 0x1A80,
  0x1A90, 0x1B50, 0x1BB0, 0x1C40, 0x1C50, 0xA620, 0xA8D0, 0xA900, 0xA9D0, 0xA9F0, 0xAA50, 0xABF0,
  0xFF10, 0x104A0, 0x10D30, 0x11066, 0x110F0, 0x11136, 0x111D0, 0x112F0, 0x11450, 0x114D0,
  0x11650, 0x116C0, 0x11730, 0x118E0, 0x11950, 0x11C50, 0x11D50, 0x11DA0, 0x16A60, 0x16AC0,
  0x16B50, 0x1D7CE, 0x1D7D8, 0x1D7E2, 0x1D7EC, 0x1D7F6, 0x1E140, 0x1E2F0, 0x1E950, 0x1FBF0 ]

/-- The value of a decimal digit. -/
def digitValue? (c : Char) : Option Nat :=
  digitZeros.findSome? fun origin =>
    if origin ≤ c.toNat && c.toNat < origin + 10 then some (c.toNat - origin) else none

/-- A decimal digit of some script. -/
def isDigit (c : Char) : Bool :=
  (digitValue? c).isSome

/-- One more digit: the digits of the current block denote `block`, and `scale` is the power of ten for
    them; the digits before the block denote `high`. A full block is put behind these. A character that is
    no digit counts as zero. -/
def addDigit : Nat × Nat × Nat → Char → Nat × Nat × Nat
  | (high, block, scale), c =>
    let block := 10 * block + (digitValue? c).getD 0
    let scale := 10 * scale
    if scale < blockScale then (high, block, scale) else (high * scale + block, 0, 1)
where
  /-- The power of ten for the digits of a full block. -/
  blockScale : Nat := tenPow 100

/-- The number that a run of digits denotes, most significant digit first, behind the number `high` that
    the digits before it denote. The digits are taken in blocks, so that a long run takes few
    multiplications of long numbers. -/
def digitsValueFrom (high : Nat) (digits : List Char) : Nat :=
  let (high, block, scale) := digits.foldl addDigit (high, 0, 1)
  high * scale + block

/-- The number that a run of digits denotes. -/
def digitsValue (digits : List Char) : Nat :=
  digitsValueFrom 0 digits

/-- Integers are read and written in decimal with at most this many digits. -/
def mostDigits : Nat := 4300

/-- The value of a hexadecimal digit of ASCII. -/
def hexadecimalValue? (c : Char) : Option Nat :=
  if '0' ≤ c ∧ c ≤ '9' then some (c.toNat - '0'.toNat)
  else if 'a' ≤ c ∧ c ≤ 'f' then some (c.toNat - 'a'.toNat + 10)
  else if 'A' ≤ c ∧ c ≤ 'F' then some (c.toNat - 'A'.toNat + 10)
  else none

example : digitsValue ['0', '4', '2'] = 42 := by decide

end Crosswalk.Text
