/-
Module: Crosswalk.Entries
Purpose: Lists of keyed entries in order of first insertion, each key once. Putting a key again replaces its
  value and leaves it in its place.
Main exports: putEntry, entriesOf
-/

namespace Crosswalk

variable {α β : Type} [BEq α]

/-- Sets the value of a key: in place if the key is there, at the end otherwise. -/
def putEntry (key : α) (value : β) : List (α × β) → List (α × β)
  | [] => [(key, value)]
  | (k, v) :: rest => if k == key then (k, value) :: rest else (k, v) :: putEntry key value rest

/-- The entries that remain when pairs are put one after the other. -/
def entriesOf (pairs : List (α × β)) : List (α × β) :=
  pairs.foldl (fun entries pair => putEntry pair.1 pair.2 entries) []

example : entriesOf [("a", 1), ("b", 2), ("a", 3)] = [("a", 3), ("b", 2)] := by decide

end Crosswalk
