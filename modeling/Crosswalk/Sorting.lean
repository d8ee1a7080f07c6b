/-
Module: Crosswalk.Sorting
Purpose: Stable sorting of lists by insertion. Attributes of object types, keys of host tables and names in
  messages are put into an order; elements that the order does not separate keep their places.
Main exports: insertSorted, sortBy
-/

namespace Crosswalk

/-- Puts an element before the first one that it may precede. -/
def insertSorted {α : Type} (precedes : α → α → Bool) (x : α) : List α → List α
  | [] => [x]
  | y :: rest => if precedes x y then x :: y :: rest else y :: insertSorted precedes x rest

/-- A stable sort: `precedes x y` says that `x` may stand before `y`. -/
def sortBy {α : Type} (precedes : α → α → Bool) : List α → List α
  | [] => []
  | x :: rest => insertSorted precedes x (sortBy precedes rest)

theorem insertSorted_perm {α : Type} (precedes : α → α → Bool) (x : α) (xs : List α) :
    (insertSorted precedes x xs).Perm (x :: xs) := by
  induction xs with
  | nil => exact List.Perm.refl _
  | cons y rest ih =>
    unfold insertSorted
    split
    · exact List.Perm.refl _
    · exact (List.Perm.cons y ih).trans (List.Perm.swap x y rest)

theorem sortBy_perm {α : Type} (precedes : α → α → Bool) (xs : List α) :
    (sortBy precedes xs).Perm xs := by
  induction xs with
  | nil => exact List.Perm.refl _
  | cons x rest ih => exact (insertSorted_perm precedes x _).trans (List.Perm.cons x ih)

/-- Text order: by code point, a text before its extensions. -/
def textPrecedes (a b : String) : Bool :=
  a ≤ b

example : sortBy textPrecedes ["b", "a", "ab"] = ["a", "ab", "b"] := by decide

end Crosswalk
