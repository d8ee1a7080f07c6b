/-
Module: Crosswalk.Proofs.Value.WellFormed
Purpose: When a structural value is well-formed: texts are in composed form, collections hold elements of
  their element type, the elements of a set differ from each other, and the type of a structure lists
  the types of its parts. Numbers need no clause, since no amount stands for a datum that is not a number.
Main exports: Value.induct, Value.WellFormed, Value.WellFormed.type, Value.WellFormed.ofEntries
-/
import Crosswalk.Value.Build
import Crosswalk.Proofs.Ty
import Crosswalk.Proofs.Text.Normalization

namespace Crosswalk.Value

/-- Induction on values, with an assumption for every element, entry and position. -/
@[elab_as_elim]
theorem induct {motive : Value → Prop} (null : ∀ ty, motive (.null ty))
    (unknown : ∀ ty, motive (.unknown ty)) (bool : ∀ flag, motive (.bool flag))
    (number : ∀ amount, motive (.number amount)) (string : ∀ text, motive (.string text))
    (list : ∀ element (items : List Value), (∀ item ∈ items, motive item) →
      motive (.list element items))
    (set : ∀ element (items : List Value), (∀ item ∈ items, motive item) →
      motive (.set element items))
    (map : ∀ element (entries : List (String × Value)), (∀ entry ∈ entries, motive entry.2) →
      motive (.map element entries))
    (object : ∀ entries : List (String × Value), (∀ entry ∈ entries, motive entry.2) →
      motive (.object entries))
    (tuple : ∀ items : List Value, (∀ item ∈ items, motive item) → motive (.tuple items))
    (value : Value) : motive value :=
  @Value.rec motive (fun items => ∀ item ∈ items, motive item)
    (fun entries => ∀ entry ∈ entries, motive entry.2) (fun entry => motive entry.2)
    null unknown bool number string list set map object tuple
    (List.forall_mem_nil _) (fun _ _ first rest => List.forall_mem_cons.mpr ⟨first, rest⟩)
    (List.forall_mem_nil _) (fun _ _ first rest => List.forall_mem_cons.mpr ⟨first, rest⟩)
    (fun _ _ part => part) value

/-! ### The parts of a well-formed value -/

/-- A value may be an element of a collection: it has the element type, unless that is the dynamic type,
    which all values may have. -/
def Fits (element : Ty) (item : Value) : Prop :=
  element = .dynamic ∨ item.type = element

/-- Two values that are not exactly equal, in whatever order they are compared. -/
def Differ (a b : Value) : Prop :=
  exactlyEqual a b = false ∧ exactlyEqual b a = false

/-- An object type that has an attribute for each entry, with the type of its value, and no others. -/
def Describes (ty : Ty) (entries : List (String × Value)) : Prop :=
  ∃ attributes, ty = .object attributes ∧ Ty.Sorted attributes ∧
    ∀ name, Ty.attribute? attributes name = (entries.lookup name).map type

/-- The values of which every part obeys the rules of its type. -/
inductive WellFormed : Value → Prop
  | null {ty : Ty} (outer : ty.WellFormed) : WellFormed (.null ty)
  | unknown {ty : Ty} (outer : ty.WellFormed) : WellFormed (.unknown ty)
  | bool (flag : Bool) : WellFormed (.bool flag)
  | number (amount : Decimal) : WellFormed (.number amount)
  | string {text : String} (normal : Text.IsNormal text) : WellFormed (.string text)
  | list {element : Ty} {items : List Value} (outer : element.WellFormed)
      (fits : ∀ item ∈ items, Fits element item) (inner : ∀ item ∈ items, WellFormed item) :
      WellFormed (.list element items)
  | set {element : Ty} {items : List Value} (outer : element.WellFormed)
      (fits : ∀ item ∈ items, Fits element item) (differ : items.Pairwise Differ)
      (inner : ∀ item ∈ items, WellFormed item) : WellFormed (.set element items)
  | map {element : Ty} {entries : List (String × Value)} (outer : element.WellFormed)
      (nodup : (entries.map Prod.fst).Nodup) (fits : ∀ entry ∈ entries, Fits element entry.2)
      (inner : ∀ entry ∈ entries, WellFormed entry.2) : WellFormed (.map element entries)
  | object {entries : List (String × Value)} (nodup : (entries.map Prod.fst).Nodup)
      (described : Describes (type (.object entries)) entries)
      (inner : ∀ entry ∈ entries, WellFormed entry.2) : WellFormed (.object entries)
  | tuple {items : List Value} (described : type (.tuple items) = .tuple (items.map type))
      (inner : ∀ item ∈ items, WellFormed item) : WellFormed (.tuple items)

/-! ### Types of structures -/

theorem keys_entryTypes (entries : List (String × Value)) :
    (entryTypes entries).map Prod.fst = entries.map Prod.fst := by
  rw [entryTypes_eq_map, List.map_map]
  rfl

theorem lookup_entryTypes (entries : List (String × Value)) (name : String) :
    (entryTypes entries).lookup name = (entries.lookup name).map type := by
  induction entries with
  | nil => rfl
  | cons entry rest ih =>
      obtain ⟨key, value⟩ := entry
      rw [entryTypes, List.lookup_cons, List.lookup_cons, ih]
      split <;> rfl

/-- The type of an object lists the types of its entries. -/
theorem type_object_describes {entries : List (String × Value)}
    (nodup : (entries.map Prod.fst).Nodup) : Describes (type (.object entries)) entries := by
  have nodupTypes : ((entryTypes entries).map Prod.fst).Nodup := keys_entryTypes entries ▸ nodup
  refine ⟨_, rfl, Ty.sorted_sortBy nodupTypes, ?_⟩
  intro name
  rw [Ty.attribute?_sortBy nodupTypes]
  exact lookup_entryTypes entries name

/-- Entries with different keys make a well-formed object. -/
theorem WellFormed.ofEntries {entries : List (String × Value)}
    (nodup : (entries.map Prod.fst).Nodup) (inner : ∀ entry ∈ entries, WellFormed entry.2) :
    WellFormed (.object entries) :=
  .object nodup (type_object_describes nodup) inner

/-- Well-formed items make a well-formed tuple. -/
theorem WellFormed.ofItems {items : List Value} (inner : ∀ item ∈ items, WellFormed item) :
    WellFormed (.tuple items) :=
  .tuple (congrArg Ty.tuple (itemTypes_eq_map items)) inner

/-- The type of a well-formed value is well-formed. -/
theorem WellFormed.type {value : Value} (wellFormed : value.WellFormed) :
    value.type.WellFormed := by
  induction wellFormed with
  | null outer => exact outer
  | unknown outer => exact outer
  | bool => exact .bool
  | number => exact .number
  | string => exact .string
  | list outer => exact .list outer
  | set outer => exact .set outer
  | map outer => exact .map outer
  | @object entries nodup _ _ ih =>
      apply Ty.objectOf_wellFormed (keys_entryTypes entries ▸ nodup)
      intro entry member
      rw [entryTypes_eq_map] at member
      obtain ⟨original, inEntries, rfl⟩ := List.mem_map.mp member
      exact ih original inEntries
  | tuple described _ ih =>
      rw [described]
      apply Ty.WellFormed.tuple
      intro element member
      obtain ⟨item, inItems, rfl⟩ := List.mem_map.mp member
      exact ih item inItems

end Crosswalk.Value
