/-
Module: Crosswalk.Proofs.Location
Purpose: Where a path leads. A step names a part of a value by its position or name, an entry of a table by
  the position or text of its key, and it leads to a type for that part in the type that is wanted. Below
  the dynamic type, and below the primitive types that a table is read as an object for, everything is
  wanted at the dynamic type.
Main exports: Ty.part?, Ty.follow?, Ty.collection?, Value.part?, Value.follow?, Value.ownElement?, Tree.part?,
  Tree.follow?, Ty.part?_wellFormed, Value.part?_induct
-/
import Crosswalk.Proofs.Reading

namespace Crosswalk

/-- The item at a position. -/
def itemAt? {α : Type} (items : List α) (index : Int) : Option α :=
  if index < 0 then none else items[index.toNat]?

theorem itemAt?_natCast {α : Type} (items : List α) (position : Nat) :
    itemAt? items (position : Int) = items[position]? := by
  simp [itemAt?]

theorem mem_of_itemAt? {α : Type} {items : List α} {index : Int} {item : α}
    (found : itemAt? items index = some item) : item ∈ items := by
  unfold itemAt? at found
  split at found
  · cases found
  · exact List.mem_of_getElem? found

/-! ### Types -/

namespace Ty

/-- The type wanted for the part that a step leads to. -/
def part? : Ty → Step → Option Ty
  | .list element, .position _ => some element
  | .set element, .position _ => some element
  | .map element, .key _ => some element
  | .object attributes, .attr name => attribute? attributes name
  | .tuple elements, .position index => itemAt? elements index
  | .dynamic, _ => some .dynamic
  | .number, _ => some .dynamic
  | .string, _ => some .dynamic
  | _, _ => none

/-- The type that a path reaches in a wanted type. -/
def follow? (ty : Ty) (path : Path) : Option Ty :=
  path.foldlM part? ty

theorem part?_wellFormed {ty part : Ty} {step : Step} (outer : ty.WellFormed)
    (leads : ty.part? step = some part) : part.WellFormed := by
  cases outer with
  | bool => cases step <;> cases leads
  | number | string | dynamic =>
      cases leads
      exact .dynamic
  | list inner | set inner | map inner =>
      cases step <;> cases leads
      exact inner
  | object _ inner =>
      cases step with
      | attr name => exact inner _ (mem_of_lookup leads)
      | _ => cases leads
  | tuple inner =>
      cases step with
      | position index => exact inner _ (mem_of_itemAt? leads)
      | _ => cases leads

/-- The parts of a type without dynamic parts have none, unless they are wanted below a primitive type. -/
theorem part?_static {ty part : Ty} {step : Step} (static : ty.hasDynamic = false)
    (leads : ty.part? step = some part) : part.hasDynamic = false ∨ part = .dynamic := by
  cases ty with
  | bool => cases step <;> cases leads
  | number | string | dynamic =>
      cases leads
      exact .inr rfl
  | list | set | map =>
      cases step <;> cases leads
      exact .inl static
  | object attributes =>
      cases step with
      | attr name => exact .inl (hasDynamic_attribute static (mem_of_lookup leads))
      | _ => cases leads
  | tuple elements =>
      cases step with
      | position index => exact .inl (hasDynamic_element static (mem_of_itemAt? leads))
      | _ => cases leads

/-- The word for a collection type in messages, and its element type. -/
def collection? : Ty → Option (String × Ty)
  | .list element => some ("list", element)
  | .set element => some ("set", element)
  | .map element => some ("map", element)
  | _ => none

/-- All parts of a collection are wanted at its element type. -/
theorem part?_of_collection? {ty element part : Ty} {word : String} {step : Step}
    (collection : ty.collection? = some (word, element)) (leads : ty.part? step = some part) :
    part = element := by
  cases ty with
  | list | set | map =>
      cases collection
      cases step <;> cases leads
      rfl
  | _ => cases collection

end Ty

/-! ### Structural values -/

namespace Value

/-- The part of a value that a step leads to: the element at a position, or the entry with a name. -/
def part? : Value → Step → Option Value
  | .list _ items, .position index => itemAt? items index
  | .set _ items, .position index => itemAt? items index
  | .tuple items, .position index => itemAt? items index
  | .map _ entries, .attr name => entries.lookup name
  | .map _ entries, .key name => entries.lookup name
  | .object entries, .attr name => entries.lookup name
  | .object entries, .key name => entries.lookup name
  | _, _ => none

/-- The part of a value that a path leads to. -/
def follow? (value : Value) (path : Path) : Option Value :=
  path.foldlM part? value

theorem follow?_cons {value part : Value} {step : Step} {path : Path} (leads : value.part? step = some part) :
    value.follow? (step :: path) = part.follow? path := by
  rw [follow?, List.foldlM_cons, leads]
  rfl

theorem part?_wellFormed {value part : Value} {step : Step} (outer : value.WellFormed)
    (leads : value.part? step = some part) : part.WellFormed := by
  cases outer with
  | list _ _ inner | set _ _ _ inner | tuple _ inner =>
      cases step with
      | position index => exact inner _ (mem_of_itemAt? leads)
      | _ => cases leads
  | map _ _ _ inner | object _ _ inner =>
      cases step with
      | attr name | key name => exact inner _ (mem_of_lookup leads)
      | position index => cases leads
  | _ => cases step <;> cases leads

/-- The element type that a collection states. -/
def ownElement? : Value → Option Ty
  | .list element _ | .set element _ | .map element _ => some element
  | _ => none

theorem ownElement?_fits {value part : Value} {own : Ty} {step : Step} (inner : value.WellFormed)
    (isOwn : ownElement? value = some own) (leads : value.part? step = some part) : Fits own part := by
  cases inner with
  | list _ fits | set _ fits =>
      cases isOwn
      cases step with
      | position index => exact fits part (mem_of_itemAt? leads)
      | _ => cases leads
  | map _ _ fits =>
      cases isOwn
      cases step with
      | attr name | key name => exact fits _ (mem_of_lookup leads)
      | position index => cases leads
  | _ => cases isOwn

/-- Induction on values, with an assumption for every part that a step leads to. -/
@[elab_as_elim]
theorem part?_induct {motive : Value → Prop}
    (parts : ∀ value, (∀ step part, value.part? step = some part → motive part) → motive value)
    (value : Value) : motive value := by
  induction value using Value.induct with
  | null | unknown | bool | number | string =>
      apply parts
      intro step part leads
      cases step <;> cases leads
  | list _ _ inner | set _ _ inner | tuple _ inner =>
      apply parts
      intro step part leads
      cases step with
      | position index => exact inner _ (mem_of_itemAt? leads)
      | _ => cases leads
  | map _ _ inner | object _ inner =>
      apply parts
      intro step part leads
      cases step with
      | attr name | key name => exact inner _ (mem_of_lookup leads)
      | position index => cases leads

/-- Paths into a value without parts lead nowhere else. -/
theorem eq_of_follow? {value part : Value} (leaf : ∀ step, value.part? step = none) {path : Path}
    (follows : value.follow? path = some part) : part = value := by
  cases path with
  | nil => exact (Option.some.inj follows).symm
  | cons step path =>
      rw [follow?, List.foldlM_cons, leaf] at follows
      cases follows

/-- The elements of a sequence are the parts at their positions. -/
theorem part?_of_sequence? {value : Value} {located : Located} {own : Option Ty}
    (parts : sequence? value = some (located, own)) {position : Nat} {step : Step} {item : Value}
    (member : located[position]? = some (step, item)) :
    step = .position position ∧ value.part? step = some item := by
  have placed {items : List Value}
      (found : (sequence?.atPositions items)[position]? = some (step, item)) :
      step = .position position ∧ items[position]? = some item := by
    simp only [sequence?.atPositions, List.getElem?_map, List.getElem?_zipIdx, Option.map_map,
      Option.map_eq_some_iff, Function.comp_apply, Prod.mk.injEq] at found
    obtain ⟨_, inItems, rfl, rfl⟩ := found
    exact ⟨by simp, inItems⟩
  cases value with
  | list | set | tuple =>
      cases parts
      obtain ⟨rfl, inItems⟩ := placed member
      exact ⟨rfl, (itemAt?_natCast _ _).trans inItems⟩
  | _ => cases parts

/-- The entries of a mapping are the parts under their names. -/
theorem part?_of_mapping? {value : Value} {entries : List (String × Value)} {own : Option Ty}
    (parts : mapping? value = some (entries, own)) (name : String) :
    value.part? (.attr name) = entries.lookup name ∧
      value.part? (.key name) = entries.lookup name := by
  cases value with
  | map | object =>
      cases parts
      exact ⟨rfl, rfl⟩
  | _ => cases parts

end Value

/-! ### Trees -/

namespace Tree

/-- A step names a key of a table: by its position, or by its text. -/
def isAt (key : Tree) : Step → Bool
  | .position index => key.position? = some index
  | .attr name => (key.keyText key.read).toOption = some name
  | .key name => (key.keyText key.read).toOption = some name

/-- The part of a tree that a step leads to: the value of the first entry that it names, or a part of a
    structural value. -/
def part? : Tree → Step → Option Tree
  | .table entries, step => (entries.find? fun entry => entry.1.isAt step).map Prod.snd
  | .wrapped value, step => (value.part? step).map .wrapped
  | _, _ => none

/-- The part of a tree that a path leads to. -/
def follow? (tree : Tree) (path : Path) : Option Tree :=
  path.foldlM part? tree

theorem All.part? {tree part : Tree} (payloads : tree.All Value.WellFormed) {step : Step}
    (leads : tree.part? step = some part) : part.All Value.WellFormed := by
  cases payloads with
  | table _ values =>
      obtain ⟨entry, found, rfl⟩ := Option.map_eq_some_iff.mp leads
      exact values entry (List.mem_of_find?_eq_some found)
  | wrapped holds =>
      obtain ⟨item, found, rfl⟩ := Option.map_eq_some_iff.mp leads
      exact .wrapped (Value.part?_wellFormed holds found)
  | _ => cases leads

end Tree

end Crosswalk
