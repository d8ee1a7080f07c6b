/-
Module: Crosswalk.Text.Base64
Purpose: Bytes written with 64 characters, four of them for three bytes. Other characters are passed over, and
  the text ends at the padding that completes a group of four.
Main exports: ofBase64?
-/

namespace Crosswalk.Text

/-- The six bits that a character stands for. -/
def sextet? (c : Char) : Option Nat :=
  if 'A' ≤ c ∧ c ≤ 'Z' then some (c.toNat - 'A'.toNat)
  else if 'a' ≤ c ∧ c ≤ 'z' then some (c.toNat - 'a'.toNat + 26)
  else if '0' ≤ c ∧ c ≤ '9' then some (c.toNat - '0'.toNat + 52)
  else if c = '+' then some 62
  else if c = '/' then some 63
  else none

/-- The sextets of a text. Of a group that is not complete the padding must make it so; `place` counts the
    sextets of the present group, and `padding` the signs for padding after the last of them. -/
def sextets? (place padding : Nat) : List Char → Option (List Nat)
  | [] => if place = 0 then some [] else none
  | c :: rest =>
    if c = '=' then
      if 2 ≤ place ∧ 4 ≤ place + padding + 1 then some [] else sextets? place (padding + 1) rest
    else
      match sextet? c with
      | none => sextets? place padding rest
      | some sextet => (sextets? ((place + 1) % 4) 0 rest).map (sextet :: ·)

/-- The bytes of sextets. Bits that do not fill a byte are dropped. -/
def bytesOfSextets : List Nat → List UInt8
  | a :: b :: c :: d :: rest =>
    UInt8.ofNat (a * 4 + b / 16) :: UInt8.ofNat (b % 16 * 16 + c / 4) :: UInt8.ofNat (c % 4 * 64 + d)
      :: bytesOfSextets rest
  | [a, b, c] => [UInt8.ofNat (a * 4 + b / 16), UInt8.ofNat (b % 16 * 16 + c / 4)]
  | [a, b] => [UInt8.ofNat (a * 4 + b / 16)]
  | _ => []

/-- The bytes that a text denotes. -/
def ofBase64? (text : List Char) : Option (List UInt8) :=
  (sextets? 0 0 text).map bytesOfSextets

example : ofBase64? "aGk=".toList = some [104, 105] := by decide +kernel
example : ofBase64? "aGk".toList = none ∧ ofBase64? "a Gkh".toList = some [104, 105, 33] := by
  decide +kernel

end Crosswalk.Text
