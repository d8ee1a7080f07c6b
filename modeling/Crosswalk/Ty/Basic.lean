/-
Module: Crosswalk.Ty.Basic
Purpose: The types of structural values. Primitive types, collections of one element type, structures with
  a type for every part, and the dynamic type, which stands for whatever type a value turns out to have.
Main exports: Ty, Ty.name, Ty.Kind, Ty.kind, Ty.hasDynamic, Ty.nesting, Ty.objectOf, Ty.attribute?
-/
import Crosswalk.Sorting

namespace Crosswalk

/-- The type of a structural value. The attributes of an object type are kept sorted by name; `objectOf`
    builds object types in that form. -/
inductive Ty where
  | bool
  | number
  | string
  | dynamic
  | list (element : Ty)
  | set (element : Ty)
  | map (element : Ty)
  | object (attributes : List (String × Ty))
  | tuple (elements : List Ty)
deriving Repr, Inhabited

namespace Ty

/-! ### Equality -/

mutual

/-- Equality of types. -/
def equal : Ty → Ty → Bool
  | .bool, .bool => true
  | .number, .number => true
  | .string, .string => true
  | .dynamic, .dynamic => true
  | .list a, .list b => equal a b
  | .set a, .set b => equal a b
  | .map a, .map b => equal a b
  | .object as, .object bs => equalAttributes as bs
  | .tuple as, .tuple bs => equalElements as bs
  | _, _ => false
termination_by structural a => a

/-- Equality of attribute lists. -/
def equalAttributes : List (String × Ty) → List (String × Ty) → Bool
  | [], [] => true
  | (n, a) :: as, (m, b) :: bs => n == m && equal a b && equalAttributes as bs
  | _, _ => false
termination_by structural as => as

/-- Equality of lists of types. -/
def equalElements : List Ty → List Ty → Bool
  | [], [] => true
  | a :: as, b :: bs => equal a b && equalElements as bs
  | _, _ => false
termination_by structural as => as

end

mutual

theorem equal_iff : ∀ a b : Ty, equal a b = true ↔ a = b
  | .bool, b => by cases b <;> simp [equal]
  | .number, b => by cases b <;> simp [equal]
  | .string, b => by cases b <;> simp [equal]
  | .dynamic, b => by cases b <;> simp [equal]
  | .list a, b => by cases b <;> simp [equal, equal_iff a]
  | .set a, b => by cases b <;> simp [equal, equal_iff a]
  | .map a, b => by cases b <;> simp [equal, equal_iff a]
  | .object as, b => by cases b <;> simp [equal, equalAttributes_iff as]
  | .tuple as, b => by cases b <;> simp [equal, equalElements_iff as]

theorem equalAttributes_iff :
    ∀ as bs : List (String × Ty), equalAttributes as bs = true ↔ as = bs
  | [], bs => by cases bs <;> simp [equalAttributes]
  | (n, a) :: as, bs => by
    cases bs with
    | nil => simp [equalAttributes]
    | cons first rest =>
      obtain ⟨m, b⟩ := first
      simp [equalAttributes, equal_iff a, equalAttributes_iff as, and_assoc]

theorem equalElements_iff : ∀ as bs : List Ty, equalElements as bs = true ↔ as = bs
  | [], bs => by cases bs <;> simp [equalElements]
  | a :: as, bs => by
    cases bs with
    | nil => simp [equalElements]
    | cons first rest => simp [equalElements, equal_iff a, equalElements_iff as]

end

instance : DecidableEq Ty := fun a b => decidable_of_iff _ (equal_iff a b)

/-! ### Names and kinds -/

/-- The name of a type in messages. Structures are named without their parts. -/
def name : Ty → String
  | .bool => "bool"
  | .number => "number"
  | .string => "string"
  | .dynamic => "dynamic"
  | .list element => "list of " ++ element.name
  | .set element => "set of " ++ element.name
  | .map element => "map of " ++ element.name
  | .object _ => "object"
  | .tuple _ => "tuple"

/-- The indefinite article before the name of a kind or type. -/
def article (noun : String) : String :=
  match noun.toList with
  | c :: _ => if c ∈ ['a', 'e', 'i', 'o', 'u'] then "an" else "a"
  | [] => "a"

/-- The families of types. -/
inductive Kind where
  | primitive
  | collection
  | structural
  | dynamic
deriving DecidableEq, Repr

/-- The family of a type. -/
def kind : Ty → Kind
  | .bool | .number | .string => .primitive
  | .list _ | .set _ | .map _ => .collection
  | .object _ | .tuple _ => .structural
  | .dynamic => .dynamic

/-- A type without parts, other than the dynamic one. -/
def isPrimitive (ty : Ty) : Bool :=
  ty.kind = .primitive

/-- The dynamic type itself. -/
def isDynamic : Ty → Bool
  | .dynamic => true
  | _ => false

mutual

/-- The dynamic type occurs in a type. -/
def hasDynamic : Ty → Bool
  | .dynamic => true
  | .list element => element.hasDynamic
  | .set element => element.hasDynamic
  | .map element => element.hasDynamic
  | .object attributes => attributesHaveDynamic attributes
  | .tuple elements => elementsHaveDynamic elements
  | .bool | .number | .string => false
termination_by structural ty => ty

/-- The dynamic type occurs in one of the attributes. -/
def attributesHaveDynamic : List (String × Ty) → Bool
  | [] => false
  | (_, ty) :: rest => ty.hasDynamic || attributesHaveDynamic rest
termination_by structural attributes => attributes

/-- The dynamic type occurs in one of the types. -/
def elementsHaveDynamic : List Ty → Bool
  | [] => false
  | ty :: rest => ty.hasDynamic || elementsHaveDynamic rest
termination_by structural elements => elements

end

/-! ### Nesting -/

mutual

/-- How many collections and structures of a type stand inside each other. -/
def nesting : Ty → Nat
  | .bool | .number | .string | .dynamic => 0
  | .list element => element.nesting + 1
  | .set element => element.nesting + 1
  | .map element => element.nesting + 1
  | .object attributes => attributesNesting attributes + 1
  | .tuple elements => elementsNesting elements + 1
termination_by structural ty => ty

/-- The nesting of the most deeply nested of the attributes. -/
def attributesNesting : List (String × Ty) → Nat
  | [] => 0
  | (_, ty) :: rest => max ty.nesting (attributesNesting rest)
termination_by structural attributes => attributes

/-- The nesting of the most deeply nested of the types. -/
def elementsNesting : List Ty → Nat
  | [] => 0
  | ty :: rest => max ty.nesting (elementsNesting rest)
termination_by structural elements => elements

end

/-! ### Objects -/

/-- The object type with the given attributes, in any order. -/
def objectOf (attributes : List (String × Ty)) : Ty :=
  .object (sortBy (fun a b => textPrecedes a.1 b.1) attributes)

/-- The type of an attribute, if the list has it. -/
def attribute? (attributes : List (String × Ty)) (name : String) : Option Ty :=
  attributes.lookup name

end Ty

end Crosswalk
