/-
Module: Crosswalk.Value.Convert
Purpose: Conversion of structural values between types. Primitive values convert by their text, collections
  and structures part by part. Where the wanted type has dynamic parts, the converted elements of a
  collection must agree on one type. A failure carries the path to the part that does not convert.
Main exports: Value.convertTo, Value.convert
-/
import Crosswalk.Value.Build
import Crosswalk.Ty.Convertible

namespace Crosswalk.Value

/-- The failure of a value to become the wanted type. -/
def mismatch {α : Type} (want : Ty) : Outcome α :=
  .error (.conversion [] (.required want))

/-- Conversion of a null or unknown value: it takes the wanted type, but keeps its own where the wanted
    one has dynamic parts. -/
def convertAbsent (want : Ty) (value : Value) : Outcome Value :=
  if !value.type.canConvert want then mismatch want
  else if want.hasDynamic then .ok value
  else .ok (if value.isKnown then .null want else .unknown want)

/-- Conversion of data to a primitive type. -/
def convertPrimitive (want : Ty) (value : Value) : Outcome Value :=
  match want, value with
  | .string, .number amount => (amount.render.mapError Fault.ofWriting).map ofText
  | .string, .bool flag => .ok (ofText (if flag then "true" else "false"))
  | .number, .string text =>
    match Decimal.parse text with
    | .ok amount => .ok (.number amount)
    | .error _ => mismatch want
  | .bool, .string text =>
    if text = "true" then .ok (.bool true)
    else if text = "false" then .ok (.bool false)
    else mismatch want
  | _, _ => mismatch want

/-- Brings an already converted element to the type that its siblings agreed on. The types that differ
    from it are the dynamic type and, where the common type is string, the primitive types; so nothing
    has to be converted inside the element. -/
def settle (common : Ty) (value : Value) : Outcome Value :=
  if common.isDynamic || value.type = common then .ok value
  else if value.isAbsent then convertAbsent common value
  else convertPrimitive common value

/-- Values with the step that leads to each. -/
abbrev Located := List (Step × Value)

/-- Converts each of the values; a failure is located by its step. -/
def convertEach (convertOne : Value → Outcome Value) (located : Located) : Outcome Located :=
  located.mapM fun (step, value) => (Outcome.under step (convertOne value)).map (step, ·)

/-- The elements of a collection after conversion, with their common type. An element type without dynamic
    parts is the common type; otherwise the elements determine it, and `fallback` is the one of a
    collection without elements. -/
def commonElements (element fallback : Ty) (converted : Located) : Outcome (List Value × Ty) :=
  if !element.hasDynamic then .ok (converted.map Prod.snd, element)
  else if converted.isEmpty then .ok ([], fallback)
  else
    match Ty.unify (converted.map fun entry => entry.2.type) with
    | none => .error (.conversion [] .inconsistentTypes)
    | some common => do
      let settled ← convertEach (settle common) converted
      .ok (settled.map Prod.snd, common)

/-- The elements of a list, set or tuple with their positions, and their type if they have one. -/
def sequence? : Value → Option (Located × Option Ty)
  | .list element items => some (atPositions items, some element)
  | .set element items => some (atPositions items, some element)
  | .tuple items => some (atPositions items, none)
  | _ => none
where
  /-- Values with their positions. -/
  atPositions (items : List Value) : Located :=
    items.zipIdx.map fun (item, i) => (.position i, item)

/-- The entries of a map or object, and the element type of a map. -/
def mapping? : Value → Option (List (String × Value) × Option Ty)
  | .map element entries => some (entries, some element)
  | .object entries => some (entries, none)
  | _ => none

/-- The element type that an empty collection gets: the wanted one, or where that is dynamic the one that
    the collection has. -/
def fallbackType (element : Ty) (own : Option Ty) : Ty :=
  if element.isDynamic then own.getD element else element

/-- The first key of a map that the wanted object type has no attribute for. -/
def unsupported? (wants : List (String × Ty)) (value : Value) : Option String :=
  match value with
  | .map _ entries =>
    (entries.find? fun entry => (Ty.attribute? wants entry.1).isNone).map Prod.fst
  | _ => none

mutual

/-- Conversion to a wanted type. -/
def convertTo (want : Ty) (value : Value) : Outcome Value :=
  if want.isDynamic || value.type = want then .ok value
  else if value.isAbsent then convertAbsent want value
  else
    match want with
    | .bool | .number | .string | .dynamic => convertPrimitive want value
    | .list element =>
      match sequence? value with
      | none => mismatch want
      | some (located, own) => do
        let converted ← convertEach (fun item => convertTo element item) located
        let (items, common) ← commonElements element (fallbackType element own) converted
        listOf items (some common)
    | .set element =>
      match sequence? value with
      | none => mismatch want
      | some (located, own) => do
        let converted ← convertEach (fun item => convertTo element item) located
        let (items, common) ← commonElements element (fallbackType element own) converted
        setOf items (some common)
    | .map element =>
      match mapping? value with
      | none => mismatch want
      | some (entries, own) => do
        let located := entries.map fun (key, item) => (Step.key key, item)
        let converted ← convertEach (fun item => convertTo element item) located
        let (items, common) ← commonElements element (fallbackType element own) converted
        mapOf ((entries.map Prod.fst).zip items) (some common)
    | .tuple wants =>
      match sequence? value with
      | none => mismatch want
      | some (located, _) =>
        if located.length = wants.length then (convertElements wants located).map .tuple
        else .error (.conversion [] (.tupleLength wants.length))
    | .object wants =>
      match mapping? value with
      | none => mismatch want
      | some (entries, _) =>
        match unsupported? wants value with
        | some key => .error (.conversion [] (.unsupportedAttribute key))
        | none => (convertAttributes wants entries).map .object
termination_by structural want

/-- Conversion of located values to a type each. -/
def convertElements : List Ty → Located → Outcome (List Value)
  | want :: wants, (step, value) :: rest => do
    let converted ← Outcome.under step (convertTo want value)
    .ok (converted :: (← convertElements wants rest))
  | _, _ => .ok []
termination_by structural wants => wants

/-- Conversion of entries to the wanted attributes, in the order of the attributes. -/
def convertAttributes : List (String × Ty) → List (String × Value) → Outcome (List (String × Value))
  | [], _ => .ok []
  | (name, want) :: wants, entries =>
    match entries.lookup name with
    | none => .error (.conversion [] (.attributeRequired name))
    | some value => do
      let converted ← Outcome.under (.attr name) (convertTo want value)
      .ok ((name, converted) :: (← convertAttributes wants entries))
termination_by structural wants => wants

end

/-- Conversion of a value to a type. -/
def convert (value : Value) (want : Ty) : Outcome Value :=
  convertTo want value

end Crosswalk.Value
