/-
Module: Crosswalk.Value.Basic
Purpose: Structural values. A value is null, unknown, or data, and always has a type: null and unknown
  values state it, collections state the type of their elements, and structures have the types of their
  parts. Entries of maps and objects are kept in order of insertion, elements of sets in order of first
  occurrence.
Main exports: Value, Value.type, Value.isNull, Value.isKnown, Value.exactlyEqual
-/
import Crosswalk.Ty.Basic
import Crosswalk.Decimal.Basic

namespace Crosswalk

/-- A structural value. -/
inductive Value where
  /-- A typed absence. -/
  | null (type : Ty)
  /-- A value of the type that is not determined yet. -/
  | unknown (type : Ty)
  | bool (flag : Bool)
  | number (amount : Decimal)
  | string (text : String)
  | list (element : Ty) (items : List Value)
  | set (element : Ty) (items : List Value)
  | map (element : Ty) (entries : List (String × Value))
  | object (entries : List (String × Value))
  | tuple (items : List Value)
deriving Inhabited

namespace Value

mutual

/-- The type of a value. -/
def type : Value → Ty
  | .null ty => ty
  | .unknown ty => ty
  | .bool _ => .bool
  | .number _ => .number
  | .string _ => .string
  | .list element _ => .list element
  | .set element _ => .set element
  | .map element _ => .map element
  | .object entries => .objectOf (entryTypes entries)
  | .tuple items => .tuple (itemTypes items)
termination_by structural value => value

/-- The types of the values of entries, under the same keys. -/
def entryTypes : List (String × Value) → List (String × Ty)
  | [] => []
  | (key, value) :: rest => (key, value.type) :: entryTypes rest
termination_by structural entries => entries

/-- The types of values. -/
def itemTypes : List Value → List Ty
  | [] => []
  | value :: rest => value.type :: itemTypes rest
termination_by structural items => items

end

theorem entryTypes_eq_map (entries : List (String × Value)) :
    entryTypes entries = entries.map fun entry => (entry.1, entry.2.type) := by
  induction entries with
  | nil => rfl
  | cons entry rest ih => simp [entryTypes, ih]

theorem itemTypes_eq_map (items : List Value) : itemTypes items = items.map type := by
  induction items with
  | nil => rfl
  | cons item rest ih => simp [itemTypes, ih]

/-- A typed absence. -/
def isNull : Value → Bool
  | .null _ => true
  | _ => false

/-- Anything but an unknown value; null is known. -/
def isKnown : Value → Bool
  | .unknown _ => false
  | _ => true

/-- A value without data: null or unknown. -/
def isAbsent (value : Value) : Bool :=
  value.isNull || !value.isKnown

/-! ### Exact equality -/

mutual

/-- Exact equality, with types, nulls and unknowns: it always decides. Sets are equal if they have equally
    many elements and each element of one has an equal in the other; maps and objects if they have the
    same keys with equal values, in whatever order. -/
def exactlyEqual : Value → Value → Bool
  | .null t, .null u => t = u
  | .unknown t, .unknown u => t = u
  | .bool a, .bool b => a = b
  | .number a, .number b => a = b
  | .string a, .string b => a = b
  | .list t as, .list u bs => t = u && exactlyEqualItems as bs
  | .set t as, .set u bs => t = u && as.length = bs.length && membersAmong as bs
  | .map t as, .map u bs => t = u && as.length = bs.length && entriesAmong as bs
  | .object as, .object bs => as.length = bs.length && entriesAmong as bs
  | .tuple as, .tuple bs => exactlyEqualItems as bs
  | _, _ => false
termination_by structural a => a

/-- Lists of values that are equal position by position. -/
def exactlyEqualItems : List Value → List Value → Bool
  | [], [] => true
  | a :: as, b :: bs => exactlyEqual a b && exactlyEqualItems as bs
  | _, _ => false
termination_by structural as => as

/-- Each of the values has an equal among the others. -/
def membersAmong : List Value → List Value → Bool
  | [], _ => true
  | a :: as, bs => bs.any (fun b => exactlyEqual a b) && membersAmong as bs
termination_by structural as => as

/-- Each of the entries has an equal value under its key among the others. -/
def entriesAmong : List (String × Value) → List (String × Value) → Bool
  | [], _ => true
  | (key, a) :: as, bs =>
    (match bs.lookup key with
      | some b => exactlyEqual a b
      | none => false)
    && entriesAmong as bs
termination_by structural as => as

end

end Value

end Crosswalk
