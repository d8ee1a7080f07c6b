/-
Module: Crosswalk.Document.Basic
Purpose: The data of configuration documents, and how a datum is shown in a message. Keys of mappings may be
  any scalars. A datum with an integer that is too long to be written is not shown.
Main exports: Document, Document.shown?, Document.isBlank, Document.putKey, Document.field?
-/
import Crosswalk.Binary64.Arithmetic
import Crosswalk.Binary64.Shortest
import Crosswalk.Decimal.Numeral
import Crosswalk.Document.Calendar
import Crosswalk.Text.Quoted

namespace Crosswalk

/-- A datum of a document. -/
inductive Document where
  | null
  | boolean (flag : Bool)
  | integer (n : Int)
  | real (x : Binary64)
  | string (text : String)
  | bytes (content : List UInt8)
  | day (d : Day)
  | moment (m : Moment)
  | sequence (items : List Document)
  | mapping (entries : List (Document × Document))
  /-- Keys without values. -/
  | set (keys : List Document)
  /-- Entries in an order, which may repeat keys. -/
  | pairs (entries : List (Document × Document))
deriving Inhabited

namespace Document

/-- A positive magnitude with as few digits as denote it: positional from 10^-4 up to 10^16, and with an
    exponent of at least two digits beyond. A whole number has one zero after its point. -/
def shownMagnitude (coefficient : Nat) (exponent : Int) : List Char :=
  let digits := Decimal.digits coefficient
  let point := exponent + digits.length
  if -4 < point ∧ point ≤ 16 then
    if 0 ≤ exponent then digits ++ List.replicate exponent.toNat '0' ++ ['.', '0']
    else Decimal.positional coefficient exponent
  else
    let shownExponent := Decimal.digits (point - 1).natAbs
    let fraction := digits.drop 1
    digits.take 1 ++ (if fraction.isEmpty then [] else '.' :: fraction)
      ++ 'e' :: (if point - 1 < 0 then '-' else '+')
      :: (if shownExponent.length < 2 then '0' :: shownExponent else shownExponent)

/-- A real number in a message. -/
def shownReal : Binary64 → List Char
  | .nan .. => ['n', 'a', 'n']
  | .infinity negative => Decimal.signText negative ++ ['i', 'n', 'f']
  | .finite negative units _ =>
    Decimal.signText negative ++
      if units = 0 then ['0', '.', '0']
      else
        let (coefficient, exponent) := Binary64.shortest units
        match Decimal.ofParts coefficient exponent with
        | .finite c e _ => shownMagnitude c.natAbs e
        | .infinity _ => []

/-- An integer in a message, if it is not too long. -/
def shownInteger? (n : Int) : Option String :=
  if digitCount n.natAbs ≤ Text.mostDigits then some (toString n) else none

/-- Parts with commas between them and the text around them. -/
def enclosed (before after : String) (parts : List String) : String :=
  before ++ ", ".intercalate parts ++ after

mutual

/-- A datum in a message. -/
def shown? : Document → Option String
  | .null => some "None"
  | .boolean flag => some (if flag then "True" else "False")
  | .integer n => shownInteger? n
  | .real x => some (String.ofList (shownReal x))
  | .string text => some (Text.quoteValue text)
  | .bytes content => some (Text.quoteBytes content)
  | .day d => some d.shown
  | .moment m => some m.shown
  | .sequence items => (shownItems? items).map (enclosed "[" "]")
  | .mapping entries => (shownEntries? "" ": " "" entries).map (enclosed "\x7b" "\x7d")
  | .set keys =>
    if keys.isEmpty then some "set()" else (shownItems? keys).map (enclosed "\x7b" "\x7d")
  | .pairs entries => (shownEntries? "(" ", " ")" entries).map (enclosed "[" "]")
termination_by structural document => document

/-- The data of a sequence in a message. -/
def shownItems? : List Document → Option (List String)
  | [] => some []
  | item :: rest =>
    match item.shown?, shownItems? rest with
    | some first, some others => some (first :: others)
    | _, _ => none
termination_by structural items => items

/-- Entries in a message, each with a text before, between and after its key and value. -/
def shownEntries? (before between after : String) : List (Document × Document) → Option (List String)
  | [] => some []
  | (key, value) :: rest =>
    match key.shown?, value.shown?, shownEntries? before between after rest with
    | some shownKey, some shownValue, some others =>
      some ((before ++ shownKey ++ between ++ shownValue ++ after) :: others)
    | _, _, _ => none
termination_by structural entries => entries

end

/-- A datum that counts as nothing: null, false, zero, or empty. -/
def isBlank : Document → Bool
  | .null => true
  | .boolean flag => !flag
  | .integer n => n = 0
  | .real x => x.isZero
  | .string text => text.isEmpty
  | .bytes content => content.isEmpty
  | .day _ | .moment _ => false
  | .sequence items => items.isEmpty
  | .mapping entries => entries.isEmpty
  | .set keys => keys.isEmpty
  | .pairs entries => entries.isEmpty

/-- The integer that a scalar is as a key: one and zero stand for the truth values too. -/
def keyInteger? : Document → Option Int
  | .boolean flag => some (if flag then 1 else 0)
  | .integer n => some n
  | .real x => x.toInt?
  | _ => none

/-- Equality of scalars as keys of a mapping: numbers and truth values are equal by value, and a real number
    that is not one is the same key as another one. -/
def sameKey : Document → Document → Bool
  | .null, .null => true
  | .string a, .string b => a = b
  | .bytes a, .bytes b => a = b
  | .day a, .day b => a = b
  | .moment a, .moment b => a = b
  | .real x, .real y => x.numericallyEqual y || (x.isNaN && y.isNaN)
  | a, b =>
    match keyInteger? a, keyInteger? b with
    | some m, some n => m = n
    | _, _ => false

/-- Adds an entry to a mapping: a key that is there gets the new value. -/
def putKey (key value : Document) : List (Document × Document) → List (Document × Document)
  | [] => [(key, value)]
  | (k, v) :: rest => if sameKey k key then (k, value) :: rest else (k, v) :: putKey key value rest

/-- The value of a text key. -/
def field? (entries : List (Document × Document)) (name : String) : Option Document :=
  (entries.find? fun entry => sameKey entry.1 (.string name)).map Prod.snd

example : (Document.real (Binary64.ofParts false 15 15)).shown? = some "1.5e+16" := by decide +kernel
example : (Document.sequence [.integer 1, .boolean true]).shown? = some "[1, True]" := by decide +kernel

end Document

end Crosswalk
