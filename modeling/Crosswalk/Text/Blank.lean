/-
Module: Crosswalk.Text.Blank
Purpose: Blank characters and the removal of blanks around a text. The class holds the separators of
  Unicode and the ASCII controls that separate lines, columns and records.
Main exports: isBlank, strip
-/
import Crosswalk.Text.Ranges

namespace Crosswalk.Text

/-- The code points of blank characters. -/
def blankRanges : Ranges :=
  [ (0x09, 0x0D), (0x1C, 0x20), (0x85, 0x85), (0xA0, 0xA0), (0x1680, 0x1680), (0x2000, 0x200A),
    (0x2028, 0x2029), (0x202F, 0x202F), (0x205F, 0x205F), (0x3000, 0x3000) ]

/-- A character that may surround a numeral without belonging to it. -/
def isBlank (c : Char) : Bool :=
  blankRanges.contains c.toNat

/-- The text without the blanks at its two ends. -/
def strip (text : List Char) : List Char :=
  ((text.dropWhile isBlank).reverse.dropWhile isBlank).reverse

example : isBlank ' ' = true ∧ isBlank '\t' = true ∧ isBlank 'a' = false := by decide

end Crosswalk.Text
