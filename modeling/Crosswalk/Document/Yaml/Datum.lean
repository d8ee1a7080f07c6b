/-
Module: Crosswalk.Document.Yaml.Datum
Purpose: The data that nodes denote. A tag says how to read a node, and a node that does not fit its tag
  denotes nothing. A document is read one level of its collections after the other, so that of several defects
  the one on the outermost level counts, and of these the first one.
Main exports: Node.toDocument
-/
import Crosswalk.Document.Yaml.Node
import Crosswalk.Document.Yaml.Number
import Crosswalk.Text.Base64

namespace Crosswalk.Document.Yaml

/-- A defect in a document, and the number of collections around it. -/
structure Flaw where
  depth : Nat
  defect : Defect

/-- What a part of a document denotes. -/
abbrev Reading (α : Type) := Except Flaw α

namespace Reading

/-- Two readings together. Of two flaws the one less deep counts, and the first one of two that are equally
    deep. -/
def both {α β : Type} (first : Reading α) (second : Reading β) : Reading (α × β) :=
  match first, second with
  | .ok a, .ok b => .ok (a, b)
  | .ok _, .error flaw => .error flaw
  | .error flaw, .ok _ => .error flaw
  | .error a, .error b => .error (if b.depth < a.depth then b else a)

end Reading

/-- A truth value, by one of the words for it in letters of any size. -/
def truthValueOf (text : String) : Except Defect Bool :=
  let word := text.toLower
  if ["yes", "true", "on"].contains word then .ok true
  else if ["no", "false", "off"].contains word then .ok false
  else .error .unknownWord

/-- Tags of collections, which hold what they are made of only after they are there themselves. -/
def Tag.isCollection : Tag → Bool
  | .sequence | .mapping | .set | .pairs => true
  | _ => false

/-- The datum of a text with a tag for scalars. -/
def scalarOf (tag : Tag) (text : String) : Except Defect Document :=
  match tag with
  | .null => .ok .null
  | .boolean => (truthValueOf text).map .boolean
  | .integer => (integerOf text).map .integer
  | .real => (realOf text).map .real
  | .timestamp =>
    match Timestamp.ofText? text.toList with
    | some timestamp => timestamp.toDocument
    | none => .error .notATimestamp
  | .string => .ok (.string text)
  | .binary =>
    match Text.ofBase64? text.toList with
    | some content =>
      if text.toList.all fun c => c.toNat < 0x80 then .ok (.bytes content) else .error .malformed
    | none => .error .malformed
  | .sequence | .mapping | .set | .pairs | .merge | .value | .other => .error .malformed

namespace Node

mutual

/-- The text of a node that has to be a scalar. In a mapping the value of a certain key stands for it. -/
def text? : Node → Option String
  | .scalar _ text => some text
  | .sequence .. => none
  | .mapping _ entries => valueText? entries
termination_by structural node => node

/-- The text of the key that stands for a mapping. -/
def valueText? : List (Node × Node) → Option String
  | [] => none
  | (key, value) :: rest => if key.tag = .value then value.text? else valueText? rest
termination_by structural entries => entries

end

/-- The datum of a node with a tag for scalars. -/
def scalarReading (node : Node) (depth : Nat) : Reading Document :=
  match node.text? with
  | some text => (scalarOf node.tag text).mapError (⟨depth, ·⟩)
  | none => .error ⟨depth, .malformed⟩

/-- The entries of a mapping: of equal keys the last one counts. -/
def withoutRepeatedKeys (entries : List (Document × Document)) : List (Document × Document) :=
  entries.foldl (fun read (key, value) => putKey key value read) []

mutual

/-- The datum of a node inside a number of collections. -/
def reading (node : Node) (depth : Nat) : Reading Document :=
  match node with
  | .scalar tag text =>
    if tag.isCollection then .error ⟨depth + 1, .malformed⟩
    else scalarReading (.scalar tag text) depth
  | .sequence tag items =>
    match tag with
    | .sequence => (itemReadings items (depth + 1)).map .sequence
    | .pairs => (pairReadings items (depth + 1)).map .pairs
    | .mapping | .set => .error ⟨depth + 1, .malformed⟩
    | _ => scalarReading (.sequence tag items) depth
  | .mapping tag entries =>
    match tag with
    | .mapping =>
      (entryReadings entries (depth + 1)).map fun read => .mapping (withoutRepeatedKeys read)
    | .set =>
      (entryReadings entries (depth + 1)).map fun read =>
        .set ((withoutRepeatedKeys read).map Prod.fst)
    | .sequence | .pairs => .error ⟨depth + 1, .malformed⟩
    | _ => scalarReading (.mapping tag entries) depth
termination_by structural node

/-- The data of the items of a sequence. -/
def itemReadings (items : List Node) (depth : Nat) : Reading (List Document) :=
  match items with
  | [] => .ok []
  | item :: rest =>
    ((item.reading depth).both (itemReadings rest depth)).map fun (first, others) => first :: others
termination_by structural items

/-- The data of the entries of a mapping. No collection is a key. -/
def entryReadings (entries : List (Node × Node)) (depth : Nat) :
    Reading (List (Document × Document)) :=
  match entries with
  | [] => .ok []
  | (key, value) :: rest =>
    let keyReading := if key.tag.isCollection then .error ⟨depth, .malformed⟩ else key.reading depth
    ((keyReading.both (value.reading depth)).both (entryReadings rest depth)).map
      fun (first, others) => first :: others
termination_by structural entries

/-- The data of items that are mappings with one entry each. -/
def pairReadings (items : List Node) (depth : Nat) : Reading (List (Document × Document)) :=
  match items with
  | [] => .ok []
  | .mapping _ [(key, value)] :: rest =>
    (((key.reading depth).both (value.reading depth)).both (pairReadings rest depth)).map
      fun (first, others) => first :: others
  | _ :: _ => .error ⟨depth, .malformed⟩
termination_by structural items

end

/-- The datum of the node of a document. -/
def toDocument (node : Node) : Except Defect Document :=
  (node.reading 0).mapError Flaw.defect

end Node

end Crosswalk.Document.Yaml
