/-
Module: Crosswalk.Document.Yaml.Character
Purpose: The characters of YAML texts: which ones are permitted, which ones end a line or a word, and which
  ones names and tags are made of. Line ends with a carriage return are single line feeds by the time that
  these classes are asked.
Main exports: isPermitted, isBreak, isGap, endsWord, endsField, endsLine, atMarker
-/
import Crosswalk.Text.Ranges

namespace Crosswalk.Document.Yaml

/-- The code points of permitted characters: everything but controls and what is no character. -/
def permittedRanges : Text.Ranges :=
  [ (0x09, 0x0A), (0x0D, 0x0D), (0x20, 0x7E), (0x85, 0x85), (0xA0, 0xD7FF), (0xE000, 0xFFFD),
    (0x10000, 0x10FFFF) ]

/-- A character that may occur in a text. -/
def isPermitted (c : Char) : Bool :=
  permittedRanges.contains c.toNat

/-- The character that may stand before a text to tell its byte order. -/
def byteOrderMark : Char := '\ufeff'

/-- A character that ends a line. -/
def isBreak (c : Char) : Bool :=
  ['\n', '\u0085', '\u2028', '\u2029'].contains c

/-- Spaces and tabs within a line. -/
def isGap (c : Char) : Bool :=
  c = ' ' || c = '\t'

/-- A line ends here. -/
def endsLine : List Char → Bool
  | [] => true
  | c :: _ => isBreak c

/-- A line ends here, or there is a space. -/
def endsField : List Char → Bool
  | [] => true
  | c :: _ => c = ' ' || isBreak c

/-- A line ends here, or there is a space or tab. -/
def endsWord : List Char → Bool
  | [] => true
  | c :: _ => isGap c || isBreak c

/-- Three times the same character and nothing else in the word: what separates documents. -/
def atMarkerOf (c : Char) (text : List Char) : Bool :=
  text.take 3 = [c, c, c] && endsWord (text.drop 3)

/-- A line that starts here separates documents. -/
def atMarker (text : List Char) : Bool :=
  atMarkerOf '-' text || atMarkerOf '.' text

/-- A character of an anchor's name or of a directive's. -/
def isNameChar (c : Char) : Bool :=
  c.isAlphanum || c = '-' || c = '_'

/-- A character of a tag. -/
def isTagChar (c : Char) : Bool :=
  c.isAlphanum
    || ['-', ';', '/', '?', ':', '@', '&', '=', '+', '$', ',', '_', '.', '!', '~', '*', '\x27', '(', ')',
        '[', ']', '%'].contains c

/-- Characters that no plain scalar starts with. -/
def isIndicator (c : Char) : Bool :=
  ['-', '?', ':', ',', '[', ']', '\x7b', '\x7d', '#', '&', '*', '!', '|', '>', '\x27', '\x22', '%', '@',
    '\x60'].contains c

/-- Characters that structure flow collections. -/
def isFlowMark (c : Char) : Bool :=
  [',', '[', ']', '\x7b', '\x7d'].contains c

/-- The text with every line end, also one with a carriage return, as a single line feed. -/
def unifyLineEnds : List Char → List Char
  | '\r' :: '\n' :: rest => '\n' :: unifyLineEnds rest
  | '\r' :: rest => '\n' :: unifyLineEnds rest
  | c :: rest => c :: unifyLineEnds rest
  | [] => []

example : atMarkerOf '-' "--- a".toList = true ∧ atMarkerOf '-' "---a".toList = false := by
  decide +kernel

end Crosswalk.Document.Yaml
