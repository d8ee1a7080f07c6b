/-
Module: Crosswalk.Document.Json
Purpose: Reading JSON documents. Beyond the standard the literals NaN, Infinity and -Infinity are read as
  real numbers; of repeated keys the last one counts.
Main exports: Document.ofJson
-/
import Crosswalk.Document.Basic
import Crosswalk.Document.Defect

namespace Crosswalk.Document.Json

/-- What is read from the front of a text, and what is left of it. -/
abbrev Reader (α : Type) := List Char → Except Defect (α × List Char)

/-- Blanks between tokens. -/
def isSpace (c : Char) : Bool :=
  c = ' ' || c = '\t' || c = '\n' || c = '\r'

/-- The text without blanks at its front. -/
def skipSpace (text : List Char) : List Char :=
  text.dropWhile isSpace

/-- The code unit that four hexadecimal digits denote. -/
def codeUnit? (a b c d : Char) : Option Nat := do
  some ((← Text.hexadecimalValue? a) * 4096 + (← Text.hexadecimalValue? b) * 256
    + (← Text.hexadecimalValue? c) * 16 + (← Text.hexadecimalValue? d))

/-- The character of a simple escape. -/
def escaped? : Char → Option Char
  | '"' => some '"'
  | '\\' => some '\\'
  | '/' => some '/'
  | 'b' => some '\x08'
  | 'f' => some '\x0c'
  | 'n' => some '\n'
  | 'r' => some '\r'
  | 't' => some '\t'
  | _ => none

/-- A leading and a trailing surrogate stand for one character together. -/
def surrogatePair? (high low : Nat) : Option Char :=
  if 0xD800 ≤ high && high < 0xDC00 && 0xDC00 ≤ low && low < 0xE000 then
    some (Char.ofNat (0x10000 + (high - 0xD800) * 0x400 + (low - 0xDC00)))
  else none

/-- The rest of a string after its opening quote; `read` holds the characters before, the last first. -/
def stringRest (read : List Char) : Reader String
  | '"' :: rest => .ok (String.ofList read.reverse, rest)
  | '\\' :: 'u' :: a :: b :: c :: d :: '\\' :: 'u' :: e :: f :: g :: h :: rest =>
    match codeUnit? a b c d, codeUnit? e f g h with
    | some high, some low =>
      match surrogatePair? high low with
      | some whole => stringRest (whole :: read) rest
      | none => stringRest (Char.ofNat high :: read) ('\\' :: 'u' :: e :: f :: g :: h :: rest)
    | some high, none =>
      stringRest (Char.ofNat high :: read) ('\\' :: 'u' :: e :: f :: g :: h :: rest)
    | none, _ => .error .malformed
  | '\\' :: 'u' :: a :: b :: c :: d :: rest =>
    match codeUnit? a b c d with
    | some unit => stringRest (Char.ofNat unit :: read) rest
    | none => .error .malformed
  | '\\' :: c :: rest =>
    match escaped? c with
    | some plain => stringRest (plain :: read) rest
    | none => .error .malformed
  | c :: rest => if c.toNat < 0x20 then .error .malformed else stringRest (c :: read) rest
  | [] => .error .malformed

/-- The name of a member: a string. -/
def name : Reader String
  | '"' :: rest => stringRest [] rest
  | _ => .error .malformed

/-- The digits at the front of a text, of which there must be one, and the rest of it. -/
def digits1 (text : List Char) : Option (List Char × List Char) :=
  let digits := text.takeWhile Char.isDigit
  if digits.isEmpty then none else some (digits, text.dropWhile Char.isDigit)

/-- The fraction of a number, if one follows. -/
def fraction (text : List Char) : List Char × List Char :=
  match text with
  | '.' :: rest =>
    match digits1 rest with
    | some (digits, rest) => ('.' :: digits, rest)
    | none => ([], text)
  | _ => ([], text)

/-- The exponent of a number, if one follows. -/
def exponent (text : List Char) : List Char × List Char :=
  match text with
  | c :: rest =>
    if c = 'e' ∨ c = 'E' then
      let (sign, rest) := match rest with
        | '+' :: rest => (['+'], rest)
        | '-' :: rest => (['-'], rest)
        | _ => ([], rest)
      match digits1 rest with
      | some (digits, rest) => ('e' :: sign ++ digits, rest)
      | none => ([], text)
    else ([], text)
  | [] => ([], text)

/-- The digits before the point of a number. No digit follows a zero at the front. -/
def wholeDigits (text : List Char) : Option (List Char × List Char) :=
  match text with
  | '0' :: rest => some (['0'], rest)
  | _ => digits1 text

/-- A number after its sign: an integer if it has neither fraction nor exponent. An integer with too many
    digits is none. -/
def number (negative : Bool) : Reader Document := fun text =>
  match wholeDigits text with
  | none => .error .malformed
  | some (whole, rest) =>
    let (fractionText, rest) := fraction rest
    let (exponentText, rest) := exponent rest
    if fractionText.isEmpty && exponentText.isEmpty then
      if whole.length ≤ Text.mostDigits then
        let magnitude := Text.digitsValue whole
        .ok (.integer (if negative then -(magnitude : Int) else magnitude), rest)
      else .error .undefined
    else
      match Numeral.ofChars? (whole ++ fractionText ++ exponentText) with
      | some numeral => .ok (.real (Binary64.ofNumeral { numeral with negative := negative }), rest)
      | none => .error .malformed

/-- The rest of the text after a word, if it starts with it. -/
def after? (word : String) (text : List Char) : Option (List Char) :=
  if word.toList.isPrefixOf text then some (text.drop word.length) else none

/-- A literal word, or a number. -/
def atom : Reader Document := fun text =>
  match after? "null" text, after? "true" text, after? "false" text with
  | some rest, _, _ => .ok (.null, rest)
  | _, some rest, _ => .ok (.boolean true, rest)
  | _, _, some rest => .ok (.boolean false, rest)
  | _, _, _ =>
    match after? "NaN" text, after? "Infinity" text, after? "-Infinity" text with
    | some rest, _, _ => .ok (.real Binary64.standardNaN, rest)
    | _, some rest, _ => .ok (.real (.infinity false), rest)
    | _, _, some rest => .ok (.real (.infinity true), rest)
    | _, _, _ =>
      match text with
      | '-' :: rest => number true rest
      | _ => number false text

mutual

/-- A value. The fuel bounds the nesting and the number of parts. -/
def value : Nat → Reader Document
  | 0, _ => .error .malformed
  | fuel + 1, text =>
    match text with
    | '"' :: rest => (stringRest [] rest).map fun (read, rest) => (.string read, rest)
    | '[' :: rest =>
      match skipSpace rest with
      | ']' :: rest => .ok (.sequence [], rest)
      | rest => (elements fuel [] rest).map fun (items, rest) => (.sequence items, rest)
    | '\x7b' :: rest =>
      match skipSpace rest with
      | '\x7d' :: rest => .ok (.mapping [], rest)
      | rest => (members fuel [] rest).map fun (entries, rest) => (.mapping entries, rest)
    | _ => atom text

/-- The elements of an array up to its end; `read` holds those before, the last first. -/
def elements : Nat → List Document → Reader (List Document)
  | 0, _, _ => .error .malformed
  | fuel + 1, read, text => do
    let (item, rest) ← value fuel text
    match skipSpace rest with
    | ',' :: rest => elements fuel (item :: read) (skipSpace rest)
    | ']' :: rest => .ok ((item :: read).reverse, rest)
    | _ => .error .malformed

/-- The members of an object up to its end; `read` holds those before. -/
def members : Nat → List (Document × Document) → Reader (List (Document × Document))
  | 0, _, _ => .error .malformed
  | fuel + 1, read, text => do
    let (key, rest) ← name text
    match skipSpace rest with
    | ':' :: rest => do
      let (item, rest) ← value fuel (skipSpace rest)
      let read := putKey (.string key) item read
      match skipSpace rest with
      | ',' :: rest => members fuel read (skipSpace rest)
      | '\x7d' :: rest => .ok (read, rest)
      | _ => .error .malformed
    | _ => .error .malformed

end

end Json

/-- Reads a whole text as a JSON document. -/
def ofJson (text : String) : Except Defect Document := do
  let chars := Json.skipSpace text.toList
  let (document, rest) ← Json.value (chars.length + 1) chars
  if (Json.skipSpace rest).isEmpty then .ok document else .error .malformed

end Crosswalk.Document
