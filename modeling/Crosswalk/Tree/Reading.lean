/-
Module: Crosswalk.Tree.Reading
Purpose: Reading host values as structural values: the type that a value implies, and its conversion to a
  wanted type. Both are computed by one fold over the tree. Of every table entry the fold knows the position
  and text of its key and the reading of its value, and the wanted type decides how the entries are put
  together: by position for lists, sets and tuples, by key text for maps and objects.
Main exports: Reading, Entry, Tree.read, Tree.implied, Tree.convert
-/
import Crosswalk.Tree.Basic
import Crosswalk.Value.Access
import Crosswalk.Value.Convert

namespace Crosswalk

/-- What can be read from a host value. -/
structure Reading where
  /-- The type that the value implies. -/
  implied : Outcome Ty
  /-- The value converted to a wanted type. -/
  convert : Ty → Outcome Value

/-- What is known of a table entry. -/
structure Entry where
  /-- The position that the key denotes, if it is a whole number. -/
  position : Option Int
  /-- The text of the key. -/
  text : Outcome String
  /-- The reading of the value. -/
  reading : Reading

namespace Reading

/-- Host values of the kind do not become values of the wanted type, or of any. -/
def notAllowed {α : Type} (kind : HostKind) : Outcome α :=
  .error (.conversion [] (.notAllowed kind.name))

/-- Nil is a null of every type. -/
def nil : Reading where
  implied := .ok .dynamic
  convert want := .ok (.null want)

/-- A value that has no structural counterpart. -/
def unsupported (kind : HostKind) : Reading where
  implied := notAllowed kind
  convert _ := notAllowed kind

/-- A wrapped structural value is converted as such. -/
def wrapped (value : Value) : Reading where
  implied := .ok value.type
  convert want := value.convert (if want.isDynamic then value.type else want)

/-- A host value of a primitive kind, with its own structural form. Its truth is asked for where a bool is
    wanted, and its own form is converted further where another primitive type is. -/
def scalar (kind : HostKind) (truthy : Bool) (ownType : Ty) (own : Outcome Value) : Reading where
  implied := .ok ownType
  convert want :=
    if want.isDynamic || want = ownType then own
    else match want with
      | .bool => .ok (.bool truthy)
      | .number | .string => own >>= fun value => value.convert want
      | _ => notAllowed kind

/-- A host number; one that is not a number has no structural form. -/
def ofNumber (x : Binary64) : Outcome Value :=
  match x.toDecimal? with
  | some amount => .ok (.number amount)
  | none => .error (.conversion [] .notANumber)

/-! ### Tables -/

/-- The entries under the texts of their keys, which must all be different. -/
def byText (entries : List Entry) : Outcome (List (String × Reading)) :=
  go [] entries
where
  /-- The entries after those that were found before. -/
  go (found : List (String × Reading)) : List Entry → Outcome (List (String × Reading))
    | [] => .ok found
    | entry :: rest => do
      let text ← entry.text
      if found.any fun other => other.1 = text then
        .error (.conversion [] (.duplicateKey text))
      else go (found ++ [(text, entry.reading)]) rest

/-- The type that each of the entries implies, under the same keys. -/
def impliedEach (entries : List (String × Reading)) : Outcome (List (String × Ty)) :=
  entries.mapM fun (text, reading) =>
    (Outcome.under (.attr text) reading.implied).map (text, ·)

/-- A table implies an object type. -/
def impliedObject (entries : List Entry) : Outcome Ty := do
  let named ← byText entries
  .ok (.objectOf (← impliedEach named))

/-- Conversion of readings to one type, each located by its step. -/
def convertAll (want : Ty) (located : List (Step × Reading)) : Outcome (List Value) :=
  located.mapM fun (step, reading) => Outcome.under step (reading.convert want)

/-- Conversion of further elements, which must come out at the type that the first one fixed. -/
def convertAtType (want fixed : Ty) : List (Step × Reading) → Outcome (List Value)
  | [] => .ok []
  | (step, reading) :: rest => do
    let value ← Outcome.under step (reading.convert want)
    if value.type ≠ fixed then .error (.conversion [] .inconsistentTypes)
    else .ok (value :: (← convertAtType want fixed rest))

/-- Conversion of the elements of a collection, and their type. A wanted type with dynamic parts is fixed by
    the first element. -/
def convertElements (want : Ty) (located : List (Step × Reading)) : Outcome (List Value × Ty) :=
  if !want.hasDynamic then (convertAll want located).map (·, want)
  else match located with
    | [] => .ok ([], want)
    | (step, reading) :: rest => do
      let first ← Outcome.under step (reading.convert want)
      let others ← convertAtType want first.type rest
      .ok (first :: others, first.type)

/-- The reading at a position, which is that of nil where the table has nothing. -/
def atPosition (entries : List Entry) (position : Nat) : Reading :=
  match entries.find? fun entry => entry.position = some (position : Int) with
  | some entry => entry.reading
  | none => nil

/-- A table has something at a position. -/
def hasPosition (entries : List Entry) (position : Nat) : Bool :=
  entries.any fun entry => entry.position = some (position : Int)

/-- The least position from `start` on without an element, if it is one of the next `bound` ones. -/
def firstGap? (entries : List Entry) (start : Nat) : Nat → Option Nat
  | 0 => none
  | bound + 1 =>
    if hasPosition entries start then firstGap? entries (start + 1) bound else some start

/-- The keys of a sequence are exactly the positions from zero on. The first key that is not is
    reported. -/
def checkSequenceKeys (entries : List Entry) : Outcome Unit :=
  entries.forM fun entry =>
    match entry.position with
    | none => do .error (.conversion [] (.unexpectedKey (← entry.text)))
    | some position =>
      if position < 0 then .error (.conversion [] (.positionOutOfRange position))
      else if entries.length ≤ position then
        match firstGap? entries 0 entries.length with
        | some gap => .error (.conversion [] (.missingElement gap))
        | none => .error .exhausted
      else .ok ()

/-- The keys of a tuple are positions below its length. -/
def checkTupleKeys (count : Nat) (entries : List Entry) : Outcome Unit :=
  entries.forM fun entry =>
    match entry.position with
    | none => do .error (.conversion [] (.unexpectedKey (← entry.text)))
    | some position =>
      if position < 0 ∨ count ≤ position then .error (.conversion [] (.positionOutOfRange position))
      else .ok ()

/-- A table as the elements of a list or set, and their type. -/
def toSequence (want : Ty) (entries : List Entry) : Outcome (List Value × Ty) := do
  checkSequenceKeys entries
  convertElements want ((List.range entries.length).map fun (i : Nat) =>
    (Step.position i, atPosition entries i))

/-- A table as a tuple: an element for every position, null where the table has nothing, and no other
    keys. -/
def toTuple (wants : List Ty) (entries : List Entry) : Outcome Value := do
  let items ← wants.zipIdx.mapM fun (want, i) =>
    Outcome.under (.position i) ((atPosition entries i).convert want)
  checkTupleKeys wants.length entries
  .ok (.tuple items)

/-- A table as a map. -/
def toMap (want : Ty) (entries : List Entry) : Outcome Value := do
  let named ← byText entries
  let (values, element) ← convertElements want (named.map fun (text, reading) =>
    (Step.key text, reading))
  Value.mapOf ((named.map Prod.fst).zip values) (some element)

/-- A table as an object: an attribute for every wanted one, null where the table has nothing, and no other
    keys. -/
def toObject (wants : List (String × Ty)) (entries : List Entry) : Outcome Value := do
  let named ← byText entries
  let attributes ← wants.mapM fun (name, want) =>
    (Outcome.under (.attr name) (((named.lookup name).getD nil).convert want)).map (name, ·)
  match named.find? fun entry => (wants.lookup entry.1).isNone with
  | some entry => .error (.conversion [] (.unexpectedKey entry.1))
  | none => .ok (.object attributes)

/-- A table as the object whose type it implies. -/
def toImplied (entries : List Entry) : Outcome Value := do
  match ← impliedObject entries with
  | .object wants => toObject wants entries
  | _ => notAllowed .table

/-- A table. Where a number or string is wanted it is read as an object, which then does not convert. -/
def table (entries : List Entry) : Reading where
  implied := impliedObject entries
  convert
    | .dynamic => toImplied entries
    | .bool => .ok (.bool true)
    | .number => toImplied entries >>= fun value => value.convert .number
    | .string => toImplied entries >>= fun value => value.convert .string
    | .list element => do
      let (items, common) ← toSequence element entries
      Value.listOf items (some common)
    | .set element => do
      let (items, common) ← toSequence element entries
      Value.setOf items (some common)
    | .map element => toMap element entries
    | .object wants => toObject wants entries
    | .tuple wants => toTuple wants entries

/-- A table that contains itself, where it is met again. Its truth is known without reading it, and
    everything else leads into it without end. -/
def endless : Reading where
  implied := .error .endless
  convert
    | .bool => .ok (.bool true)
    | _ => .error .endless

/-- The text of a key that is not a text itself: its conversion to string. -/
def keyText (reading : Reading) : Outcome String :=
  match reading.convert .string with
  | .ok value => value.text
  | .error (.conversion ..) => .error (.conversion [] .keysMustBeStrings)
  | .error other => .error other

end Reading

namespace Tree

/-- The text of a key with a reading. -/
def keyText (key : Tree) (reading : Reading) : Outcome String :=
  match key with
  | .string text => .ok text
  | _ => reading.keyText

mutual

/-- The reading of a host value. -/
def read : Tree → Reading
  | .nil => Reading.nil
  | .boolean flag => Reading.scalar .boolean flag .bool (.ok (.bool flag))
  | .number x => Reading.scalar .number true .number (Reading.ofNumber x)
  | .string text => Reading.scalar .string true .string (.ok (Value.ofText text))
  | .table entries => Reading.table (readEntries entries)
  | .function => Reading.unsupported .function
  | .wrapped value => Reading.wrapped value
  | .foreign => Reading.unsupported .userdata
  | .endless => Reading.endless
termination_by structural tree => tree

/-- What is known of the entries of a table. -/
def readEntries : List (Tree × Tree) → List Entry
  | [] => []
  | (key, value) :: rest =>
    ⟨key.position?, key.keyText key.read, value.read⟩ :: readEntries rest
termination_by structural entries => entries

end

/-- The type that a host value implies. -/
def implied (tree : Tree) : Outcome Ty :=
  tree.read.implied

/-- A host value converted to a structural value of a wanted type. -/
def convert (tree : Tree) (want : Ty) : Outcome Value :=
  tree.read.convert want

end Tree

end Crosswalk
