/-
Module: Crosswalk.Document.Yaml.Timestamp
Purpose: Reading points in time: a day, or a day and a time with a fraction and an offset from the universal
  time if it has them.
Main exports: Timestamp, Timestamp.ofText?, Timestamp.isPlain, Timestamp.toDocument
-/
import Crosswalk.Document.Basic
import Crosswalk.Document.Defect
import Crosswalk.Document.Yaml.Character

namespace Crosswalk.Document.Yaml

/-- A day or a time, which the calendar may not have. -/
inductive Timestamp where
  | date (day : Day)
  | time (moment : Moment)
deriving DecidableEq, Repr

namespace Timestamp

/-- The number that between `least` and `most` digits at the front denote, and the rest. -/
def takeNumber (least most : Nat) (text : List Char) : Option (Nat × List Char) :=
  let digits := (text.take most).takeWhile Char.isDigit
  if digits.length < least then none
  else some (Text.digitsValue digits, text.drop digits.length)

/-- The rest after a character. -/
def takeChar (c : Char) : List Char → Option (List Char)
  | first :: rest => if first = c then some rest else none
  | [] => none

/-- A day at the front. -/
def takeDay (text : List Char) : Option (Day × List Char) := do
  let (year, rest) ← takeNumber 4 4 text
  let (month, rest) ← takeNumber 1 2 (← takeChar '-' rest)
  let (ofMonth, rest) ← takeNumber 1 2 (← takeChar '-' rest)
  some (⟨year, month, ofMonth⟩, rest)

/-- The rest after what stands between a day and a time: a letter or gaps. -/
def takeDivider (text : List Char) : Option (List Char) :=
  match text with
  | 'T' :: rest => some rest
  | 't' :: rest => some rest
  | c :: rest => if isGap c then some (rest.dropWhile isGap) else none
  | [] => none

/-- The microseconds of a fraction at the front, if there is one. Further digits do not count. -/
def takeFraction (text : List Char) : Nat × List Char :=
  match text with
  | '.' :: rest =>
    let digits := rest.takeWhile Char.isDigit
    let shown := digits.take 6
    (Text.digitsValue (shown ++ List.replicate (6 - shown.length) '0'), rest.drop digits.length)
  | _ => (0, text)

/-- An offset in seconds that ends the text, if there is one. -/
def offset? (text : List Char) : Option (Option Int) :=
  if text.isEmpty then some none
  else match text.dropWhile isGap with
    | ['Z'] => some (some 0)
    | sign :: rest =>
      if sign = '+' ∨ sign = '-' then do
        let (hours, rest) ← takeNumber 1 2 rest
        let minutes ← match rest with
          | [] => some 0
          | _ => do
            let (minutes, rest) ← takeNumber 2 2 (← takeChar ':' rest)
            if rest.isEmpty then some minutes else none
        let seconds : Int := (hours * 3600 + minutes * 60 : Nat)
        some (some (if sign = '-' then -seconds else seconds))
      else none
    | [] => none

/-- The point in time that a text has the form of. -/
def ofText? (text : List Char) : Option Timestamp := do
  let (stated, rest) ← takeDay text
  if rest.isEmpty then some (.date stated)
  else
    let (hour, rest) ← takeNumber 1 2 (← takeDivider rest)
    let (minute, rest) ← takeNumber 2 2 (← takeChar ':' rest)
    let (second, rest) ← takeNumber 2 2 (← takeChar ':' rest)
    let (microsecond, rest) := takeFraction rest
    let offset ← offset? rest
    some (.time { day := stated, hour, minute, second, microsecond, offset })

/-- A text without a tag is a point in time. A day alone has two digits for month and day. -/
def isPlain (text : List Char) : Bool :=
  match ofText? text with
  | some (.date _) => text.length = 10
  | some (.time _) => true
  | none => false

/-- The point in time, if the calendar has it. -/
def toDocument : Timestamp → Except Defect Document
  | .date d => if d.isValid then .ok (.day d) else .error .undefined
  | .time m => if m.isValid then .ok (.moment m) else .error .undefined

example : isPlain "2001-12-14 21:59:43.10 -5".toList = true ∧ isPlain "2001-1-1".toList = false := by
  decide +kernel

end Timestamp

end Crosswalk.Document.Yaml
