/-
Module: Crosswalk.Value.Access
Purpose: Looking into structural values: the data of primitive values, the number of elements, elements by
  position or key, attributes by name, and plain data without types.
Main exports: Value.truth, Value.text, Value.amount, Value.length, Value.index, Value.getAttribute, Plain,
  Value.plain
-/
import Crosswalk.Value.Build

namespace Crosswalk

/-- Data without structural types. -/
inductive Plain where
  | null
  | bool (flag : Bool)
  | number (amount : Decimal)
  | string (text : String)
  | sequence (items : List Plain)
  | mapping (entries : List (String × Plain))
deriving Inhabited

namespace Value

mutual

/-- The data of a value without its type. An unknown part has none. -/
def plain : Value → Outcome Plain
  | .null _ => .ok .null
  | .unknown _ => .error (.invalid .unknownValue)
  | .bool flag => .ok (.bool flag)
  | .number amount => .ok (.number amount)
  | .string text => .ok (.string text)
  | .list _ items => (plainItems items).map .sequence
  | .set _ items => (plainItems items).map .sequence
  | .tuple items => (plainItems items).map .sequence
  | .map _ entries => (plainEntries entries).map .mapping
  | .object entries => (plainEntries entries).map .mapping
termination_by structural value => value

/-- The data of several values. -/
def plainItems : List Value → Outcome (List Plain)
  | [] => .ok []
  | item :: rest => do .ok ((← plain item) :: (← plainItems rest))
termination_by structural items => items

/-- The data of entries, under the same keys. -/
def plainEntries : List (String × Value) → Outcome (List (String × Plain))
  | [] => .ok []
  | (key, value) :: rest => do .ok ((key, ← plain value) :: (← plainEntries rest))
termination_by structural entries => entries

end

end Value

namespace Value

/-- Refuses a value that is not of the wanted sort. The refusal shows the value's data, so that an unknown
    part inside it is the failure that is reported. -/
def refuse {α : Type} (value : Value) (cause : InvalidCause) : Outcome α :=
  if value.isAbsent then .error (.invalid cause)
  else match value.plain with
    | .ok _ => .error (.invalid cause)
    | .error fault => .error fault

/-- The truth value of a bool with data. -/
def truth : Value → Outcome Bool
  | .bool flag => .ok flag
  | other => other.refuse .notAKnownBool

/-- The text of a string with data. -/
def text : Value → Outcome String
  | .string text => .ok text
  | other => other.refuse .notAKnownString

/-- The amount of a number with data. -/
def amount : Value → Outcome Decimal
  | .number amount => .ok amount
  | other => other.refuse .notAKnownNumber

/-- The number of elements of a collection or tuple, or of characters of a string. A tuple has its length
    from its type, so it is known even where the tuple is not. -/
def length : Value → Outcome Value
  | .list _ items => .ok (ofNat items.length)
  | .set _ items => .ok (ofNat items.length)
  | .map _ entries => .ok (ofNat entries.length)
  | .tuple items => .ok (ofNat items.length)
  | .string text => .ok (ofNat text.length)
  | .null ty =>
    match ty with
    | .list _ | .set _ | .map _ | .tuple _ | .string => .error (.operation [] .nullLength)
    | _ => .error (.operation [] (.noLength ty))
  | .unknown ty =>
    match ty with
    | .tuple elements => .ok (ofNat elements.length)
    | .list _ | .set _ | .map _ | .string => .ok (.unknown .number)
    | _ => .error (.operation [] (.noLength ty))
  | other => .error (.operation [] (.noLength other.type))

/-- The position that a key denotes: a known whole number. An infinite one is too large for a position. -/
def position (key : Value) : Outcome Int :=
  match key with
  | .number amount =>
    match amount with
    | .infinity _ => .error .tooLarge
    | .finite .. =>
      match amount.toInt? with
      | some n => .ok n
      | none => .error (.operation [] .wholeNumberRequired)
  | _ => .error (.operation [] .numberRequired)

/-- The element at a position that may lie outside. -/
def elementAt {α : Type} (items : List α) (position : Int) : Outcome α :=
  if position < 0 then .error (.operation [] .outOfRange)
  else match items[position.toNat]? with
    | some item => .ok item
    | none => .error (.operation [] .outOfRange)

/-- The element of a list or tuple at a position, or of a map at a key. The elements of an unknown value
    are unknown, but the key is examined all the same. -/
def index (value key : Value) : Outcome Value :=
  match value with
  | .list _ items => position key >>= elementAt items
  | .tuple items => position key >>= elementAt items
  | .map _ entries =>
    match key with
    | .string name =>
      match entries.lookup name with
      | some element => .ok element
      | none => .error (.operation [] .noSuchKey)
    | _ => .error (.operation [] .stringRequired)
  | .null _ => .error (.operation [] .indexOfNull)
  | .unknown (.list element) => (position key).map fun _ => .unknown element
  | .unknown (.tuple elements) => (position key >>= elementAt elements).map .unknown
  | .unknown (.map element) =>
    match key with
    | .string _ => .ok (.unknown element)
    | _ => .error (.operation [] .stringRequired)
  | other => .error (.operation [] (.notIndexable other.type))

/-- The attribute of an object with a name. -/
def getAttribute (value : Value) (name : String) : Outcome Value :=
  match value.type with
  | .object attributes =>
    match Ty.attribute? attributes name with
    | none => .error (.operation [] (.unsupportedAttribute name))
    | some ty =>
      match value with
      | .object entries =>
        match entries.lookup name with
        | some element => .ok element
        | none => .error (.operation [] (.unsupportedAttribute name))
      | .unknown _ => .ok (.unknown ty)
      | _ => .error (.operation [] .attributeOfNull)
  | ty => .error (.operation [] (.noAttributes ty))

end Value

end Crosswalk
