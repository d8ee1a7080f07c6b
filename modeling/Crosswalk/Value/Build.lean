/-
Module: Crosswalk.Value.Build
Purpose: The constructors of structural values. They normalize texts, refuse numbers that are not numbers,
  drop repeated elements of sets, and see that the elements of a collection have its element type.
Main exports: Value.ofText, Value.ofNat, Value.ofBinary64, Value.ofNumeralText, Value.listOf, Value.setOf,
  Value.mapOf, Value.objectOf, Value.tupleOf
-/
import Crosswalk.Value.Basic
import Crosswalk.Entries
import Crosswalk.Fault
import Crosswalk.Binary64.Shortest
import Crosswalk.Text.Normal

namespace Crosswalk.Value

/-- A string value: the text in its canonically composed form. -/
def ofText (text : String) : Value :=
  .string (Text.normalize text)

/-- A natural number as a value. -/
def ofNat (n : Nat) : Value :=
  .number (Decimal.ofInt n)

/-- A host number as a value. -/
def ofBinary64 (x : Binary64) : Outcome Value :=
  match x.toDecimal? with
  | some amount => .ok (.number amount)
  | none => .error (.invalid .notANumber)

/-- Reads a numeral as an amount. -/
def amountOfText (text : String) : Outcome Decimal :=
  (Decimal.parse text).mapError fun error => .invalid (.numeral error text)

/-- Reads a numeral as a value. -/
def ofNumeralText (text : String) : Outcome Value :=
  (amountOfText text).map .number

/-- The element type of a collection: the one that is asked for, or that of the first element. Each element
    must have it, unless it is the dynamic type. -/
def elementType (collection : String) (items : List Value) (asked : Option Ty) : Outcome Ty :=
  match asked, items with
  | none, [] => .error (.invalid (.elementTypeRequired collection))
  | some element, _ => check element
  | none, first :: _ => check first.type
where
  /-- The type itself, if all elements have it. -/
  check (element : Ty) : Outcome Ty :=
    match items.find? fun item => item.type ≠ element && !element.isDynamic with
    | some item => .error (.invalid (.elementMismatch collection item.type element))
    | none => .ok element

/-- A list value. -/
def listOf (items : List Value) (asked : Option Ty) : Outcome Value :=
  (elementType "list" items asked).map fun element => .list element items

/-- The elements without those that are exactly equal to an earlier one. -/
def withoutRepeats (items : List Value) : List Value :=
  items.foldl (fun kept item => if kept.any (exactlyEqual item) then kept else kept ++ [item]) []

/-- A set value. -/
def setOf (items : List Value) (asked : Option Ty) : Outcome Value :=
  let members := withoutRepeats items
  (elementType "set" members asked).map fun element => .set element members

/-- A map value. -/
def mapOf (pairs : List (String × Value)) (asked : Option Ty) : Outcome Value :=
  let entries := entriesOf pairs
  (elementType "map" (entries.map Prod.snd) asked).map fun element => .map element entries

/-- An object value. -/
def objectOf (pairs : List (String × Value)) : Value :=
  .object (entriesOf pairs)

/-- A tuple value. -/
def tupleOf (items : List Value) : Value :=
  .tuple items

end Crosswalk.Value
