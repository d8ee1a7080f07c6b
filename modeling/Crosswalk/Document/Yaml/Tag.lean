/-
Module: Crosswalk.Document.Yaml.Tag
Purpose: The sorts of data that tags stand for, and the sort of a plain scalar without a tag, which its text
  shows: null, truth values, integers, real numbers and points in time have texts of their own, and
  everything else is a string.
Main exports: Tag, Tag.ofName, Tag.ofPlain
-/
import Crosswalk.Document.Yaml.Character
import Crosswalk.Text.Numeral

namespace Crosswalk.Document.Yaml

/-- A sort of data. -/
inductive Tag where
  | null
  | boolean
  | integer
  | real
  | timestamp
  | string
  | binary
  | sequence
  | mapping
  | set
  /-- A sequence of mappings with one entry each. -/
  | pairs
  /-- A key of a mapping whose value's entries belong to the mapping. -/
  | merge
  /-- A key of a mapping whose value stands for the mapping. -/
  | value
  | other
deriving DecidableEq, Repr

namespace Tag

/-- What the names of the common tags start with. -/
def commonStart : String := "tag:yaml.org,2002:"

/-- The tags by their names after the common start. -/
def names : List (String × Tag) :=
  [ ("null", .null), ("bool", .boolean), ("int", .integer), ("float", .real), ("timestamp", .timestamp),
    ("str", .string), ("binary", .binary), ("seq", .sequence), ("map", .mapping), ("set", .set),
    ("omap", .pairs), ("pairs", .pairs), ("merge", .merge), ("value", .value) ]

/-- The tag with a full name. -/
def ofName (name : String) : Tag :=
  ((names.find? fun entry => commonStart ++ entry.1 = name).map Prod.snd).getD .other

/-! ### Plain scalars -/

/-- The spellings of a word in small letters, with a capital, and in capitals. -/
def spellings (word : List Char) : List (List Char) :=
  let capitals := word.map Char.toUpper
  let leading := word.takeWhile fun c => !c.isAlpha
  let letters := word.drop leading.length
  [word, leading ++ (letters.take 1).map Char.toUpper ++ letters.drop 1, capitals]

/-- A text is one of the words in one of their spellings. -/
def isOneOf (words : List String) (text : List Char) : Bool :=
  words.any fun word => (spellings word.toList).contains text

/-- A decimal digit, or the line that may stand between digits. -/
def isDigitOrLine (c : Char) : Bool :=
  c.isDigit || c = '_'

/-- Groups of one or two digits below sixty, with a colon before each; there is at least one. -/
def isSixties (text : List Char) : Bool :=
  match text.splitOn ':' with
  | [] :: groups => !groups.isEmpty && groups.all isGroup
  | _ => false
where
  /-- One or two digits, the number below sixty. -/
  isGroup : List Char → Bool
    | [a] => a.isDigit
    | [a, b] => '0' ≤ a && a ≤ '5' && b.isDigit
    | _ => false

/-- The text of an integer: binary, octal, decimal, hexadecimal, or in groups to the base sixty. -/
def isInteger (text : List Char) : Bool :=
  match (Numeral.takeSign text).2 with
  | '0' :: 'b' :: digits =>
    !digits.isEmpty && digits.all fun c => c = '0' || c = '1' || c = '_'
  | '0' :: 'x' :: digits =>
    !digits.isEmpty && digits.all fun c =>
      isDigitOrLine c || ('a' ≤ c && c ≤ 'f') || ('A' ≤ c && c ≤ 'F')
  | '0' :: digits => digits.all fun c => ('0' ≤ c && c ≤ '7') || c = '_'
  | c :: rest =>
    let others := rest.dropWhile isDigitOrLine
    c.isDigit && (others.isEmpty || isSixties others)
  | [] => false

/-- An exponent of a real number, which has a sign, or none. -/
def isExponent : List Char → Bool
  | [] => true
  | e :: sign :: digits =>
    (e = 'e' || e = 'E') && (sign = '+' || sign = '-') && !digits.isEmpty && digits.all Char.isDigit
  | _ => false

/-- The text of a real number: with a point, and before it groups to the base sixty if it has any. Without
    digits before the point it has no sign. -/
def isReal (text : List Char) : Bool :=
  let (whole, rest) :=
    let unsigned := (Numeral.takeSign text).2
    (unsigned.takeWhile isDigitOrLine, unsigned.dropWhile isDigitOrLine)
  if isOneOf [".inf"] (Numeral.takeSign text).2 then true
  else if [".nan", ".NaN", ".NAN"].any fun word => word.toList = text then true
  else match whole, rest with
    | [], '.' :: digits =>
      text.head? = some '.' && digits.head?.any Char.isDigit
        && isExponent (digits.dropWhile isDigitOrLine)
    | c :: _, '.' :: digits => c.isDigit && isExponent (digits.dropWhile isDigitOrLine)
    | c :: _, ':' :: _ =>
      let groups := rest.takeWhile (· ≠ '.')
      c.isDigit && isSixties groups && match rest.drop groups.length with
        | '.' :: digits => digits.all isDigitOrLine
        | _ => false
    | _, _ => false

/-- The sort of a plain scalar. -/
def ofPlain (text : List Char) (isTimestamp : List Char → Bool) : Tag :=
  if text.isEmpty || text = ['~'] || isOneOf ["null"] text then .null
  else if isOneOf ["yes", "no", "true", "false", "on", "off"] text then .boolean
  else if isReal text then .real
  else if isInteger text then .integer
  else if isTimestamp text then .timestamp
  else if text = ['<', '<'] then .merge
  else if text = ['='] then .value
  else .string

example : isInteger "0_1".toList = true ∧ isInteger "08".toList = false := by decide +kernel
example : isInteger "1:30".toList = true ∧ isInteger "-0x_F".toList = true := by decide +kernel
example : isReal "1.e+3".toList = true ∧ isReal "-.5".toList = false := by decide +kernel
example : isReal "1e3".toList = false ∧ isReal "-1:30.5".toList = true := by decide +kernel

end Tag

end Crosswalk.Document.Yaml
