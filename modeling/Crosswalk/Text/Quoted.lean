/-
Module: Crosswalk.Text.Quoted
Purpose: Texts between quotation marks. Keys in paths and messages stand between double quotes, with
  backslashes before quotes and backslashes. Values in messages about numerals and settings stand
  between the quotation marks that need the fewest escapes, with characters that cannot be printed
  written as hexadecimal escapes. Bytes are quoted like the characters with their codes, of which only
  those of ASCII can be printed.
Main exports: quoteKey, quoteValue, quoteBytes
-/
import Crosswalk.Text.Printable

namespace Crosswalk.Text

/-- Backslashes put before every double quote and backslash. -/
def escapeKey : List Char → List Char
  | [] => []
  | c :: rest => if c = '"' ∨ c = '\\' then '\\' :: c :: escapeKey rest else c :: escapeKey rest

/-- A key between double quotes. -/
def quoteKey (key : String) : String :=
  String.ofList ('"' :: escapeKey key.toList ++ ['"'])

/-- A number in hexadecimal digits, with zeros in front up to `width`. -/
def hexadecimal (width n : Nat) : List Char :=
  let digits := Nat.toDigits 16 n
  List.replicate (width - digits.length) '0' ++ digits

/-- One character of a quoted value: a line end, tab, backslash or the quotation mark itself gets a
    backslash, and a character that cannot be printed becomes an escape of the least sufficient
    width. -/
def escapeValueChar (mark c : Char) : List Char :=
  if c = mark ∨ c = '\\' then ['\\', c]
  else if c = '\n' then ['\\', 'n']
  else if c = '\r' then ['\\', 'r']
  else if c = '\t' then ['\\', 't']
  else if isPrintable c then [c]
  else if c.toNat ≤ 0xFF then '\\' :: 'x' :: hexadecimal 2 c.toNat
  else if c.toNat ≤ 0xFFFF then '\\' :: 'u' :: hexadecimal 4 c.toNat
  else '\\' :: 'U' :: hexadecimal 8 c.toNat

/-- A value stands between single quotes, unless it holds a single quote and no double quote. -/
def valueMark (text : List Char) : Char :=
  if text.contains '\x27' && !text.contains '\x22' then '\x22' else '\x27'

/-- A value between quotation marks. -/
def quoteValue (value : String) : String :=
  let mark := valueMark value.toList
  String.ofList (mark :: value.toList.flatMap (escapeValueChar mark) ++ [mark])

/-- Bytes between quotation marks, with a letter before them. -/
def quoteBytes (content : List UInt8) : String :=
  let text := content.map fun byte => Char.ofNat byte.toNat
  let mark := valueMark text
  let escape (c : Char) : List Char :=
    if c.toNat < 0x7F then escapeValueChar mark c else '\\' :: 'x' :: hexadecimal 2 c.toNat
  String.ofList ('b' :: mark :: text.flatMap escape ++ [mark])

example : quoteKey "a\"b" = "\"a\\\"b\"" := by decide +kernel
example : quoteBytes [104, 105, 0, 233] = "b'hi\\x00\\xe9'" := by decide +kernel
example : quoteValue "it's" = "\"it's\"" ∧ quoteValue "a\x00" = "'a\\x00'" := by decide +kernel

end Crosswalk.Text
