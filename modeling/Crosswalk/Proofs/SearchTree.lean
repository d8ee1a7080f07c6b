/-
Module: Crosswalk.Proofs.SearchTree
Purpose: Search trees over long tables. A table is a list that is searched from its front, and a proof
  that evaluates thousands of look-ups in it would walk the list every time. A search tree built from a
  table with ascending keys answers the same look-ups along one branch.
Main exports: SearchTree, SearchTree.find?, SearchTree.build, SearchTree.find?_build
-/
import Mathlib.Data.List.Chain

namespace Crosswalk

/-- A binary tree with a key and a value at every node. -/
inductive SearchTree (α : Type) where
  | leaf
  | node (left : SearchTree α) (key : Nat) (value : α) (right : SearchTree α)

namespace SearchTree

variable {α : Type}

/-- The value at a key, found by going left of greater keys and right of lesser ones. -/
def find? (key : Nat) : SearchTree α → Option α
  | .leaf => none
  | .node left k value right =>
      bif Nat.blt key k then left.find? key
      else bif Nat.blt k key then right.find? key else some value

/-- The entries of a tree from left to right. -/
def toList : SearchTree α → List (Nat × α)
  | .leaf => []
  | .node left key value right => left.toList ++ (key, value) :: right.toList

/-- A tree of at most the given depth with the first entries of a table, and the entries that are left
    over. -/
def build : Nat → List (Nat × α) → SearchTree α × List (Nat × α)
  | 0, table => (.leaf, table)
  | depth + 1, table =>
      match build depth table with
      | (left, []) => (left, [])
      | (left, (key, value) :: rest) =>
          let (right, unused) := build depth rest
          (.node left key value right, unused)

theorem toList_build (depth : Nat) (table : List (Nat × α)) :
    (build depth table).1.toList ++ (build depth table).2 = table := by
  induction depth generalizing table with
  | zero => rfl
  | succ depth ih =>
      have leftEq := ih table
      unfold build
      generalize build depth table = built at leftEq
      obtain ⟨left, rest⟩ := built
      cases rest with
      | nil => exact leftEq
      | cons entry rest =>
          simp only at leftEq
          simp [toList, ih rest, leftEq]

/-- In a tree with ascending keys a search finds what a search of its entries from the front finds. -/
theorem find?_eq_lookup {tree : SearchTree α}
    (ascending : tree.toList.Pairwise fun a b => a.1 < b.1) (key : Nat) :
    tree.find? key = tree.toList.lookup key := by
  induction tree with
  | leaf => rfl
  | node left k value right ihLeft ihRight =>
      simp only [toList, List.pairwise_append, List.pairwise_cons, List.mem_cons] at ascending
      obtain ⟨leftAscending, ⟨rightAbove, rightAscending⟩, leftBelow⟩ := ascending
      have notAbove (entry) (inRight : entry ∈ right.toList) : k < entry.1 := rightAbove entry inRight
      have notBelow (entry) (inLeft : entry ∈ left.toList) : entry.1 < k :=
        leftBelow entry inLeft _ (.inl rfl)
      rw [find?, toList, List.lookup_append, ihLeft leftAscending, ihRight rightAscending]
      by_cases less : key < k
      · have rightNone : ((k, value) :: right.toList).lookup key = none := by
          rw [List.lookup_eq_none_iff]
          intro entry member
          rcases List.mem_cons.mp member with rfl | inRight
          · simpa using Nat.ne_of_lt less
          · simpa using Nat.ne_of_lt (Nat.lt_trans less (notAbove entry inRight))
        have : Nat.blt key k = true := Nat.blt_eq.mpr less
        simp [this, rightNone]
      · have leftNone : left.toList.lookup key = none := by
          rw [List.lookup_eq_none_iff]
          intro entry inLeft
          have := notBelow entry inLeft
          simp only [bne_iff_ne]
          omega
        have notLess : Nat.blt key k = false := by
          rw [← Bool.not_eq_true, Nat.blt_eq]
          exact less
        rw [leftNone, notLess, Option.none_or, List.lookup_cons]
        by_cases greater : k < key
        · have : Nat.blt k key = true := Nat.blt_eq.mpr greater
          have different : (key == k) = false := beq_false_of_ne (Nat.ne_of_gt greater)
          simp [this, different]
        · have same : key = k := Nat.le_antisymm (Nat.le_of_not_lt greater) (Nat.le_of_not_lt less)
          subst same
          rw [notLess, beq_self_eq_true]
          rfl

/-- A table with ascending keys and the tree built from all of it agree on every key. -/
theorem find?_build {depth : Nat} {table : List (Nat × α)}
    (ascending : (table.map Prod.fst).IsChain (· < ·)) (complete : (build depth table).2 = [])
    (key : Nat) :
    (build depth table).1.find? key = table.lookup key := by
  have entries : (build depth table).1.toList = table := by
    have := toList_build depth table
    rwa [complete, List.append_nil] at this
  have pairwise : table.Pairwise fun a b => a.1 < b.1 :=
    List.pairwise_map.mp ascending.pairwise
  rw [find?_eq_lookup (entries.symm ▸ pairwise), entries]

end SearchTree

end Crosswalk
