/-
Module: Crosswalk.Proofs.Sorting
Purpose: What sorting by insertion achieves. The result stands in order, a list that stands in order already
  is left as it is, and elements that the order does not separate stay in the order that they had.
Main exports: pairwise_sortBy, sortBy_of_pairwise, sortBy_congr, sortBy_stable
-/
import Crosswalk.Sorting

namespace Crosswalk

variable {α : Type} {precedes : α → α → Bool}

/-- An element that may stand before all others stays in front. -/
theorem insertSorted_of_forall {x : α} {xs : List α} (first : ∀ y ∈ xs, precedes x y = true) :
    insertSorted precedes x xs = x :: xs := by
  cases xs with
  | nil => rfl
  | cons y rest => rw [insertSorted, if_pos (first y List.mem_cons_self)]

/-- A list in order is left as it is. -/
theorem sortBy_of_pairwise {xs : List α} (ordered : xs.Pairwise fun x y => precedes x y = true) :
    sortBy precedes xs = xs := by
  induction xs with
  | nil => rfl
  | cons x rest ih =>
      obtain ⟨first, others⟩ := List.pairwise_cons.mp ordered
      rw [sortBy, ih others, insertSorted_of_forall first]

/-- Relations that agree on the members of a list sort it in the same way. -/
theorem sortBy_congr {other : α → α → Bool} {xs : List α}
    (agree : ∀ x ∈ xs, ∀ y ∈ xs, precedes x y = other x y) : sortBy precedes xs = sortBy other xs := by
  have inserted (x : α) (ys : List α) (agree : ∀ y ∈ ys, precedes x y = other x y) :
      insertSorted precedes x ys = insertSorted other x ys := by
    induction ys with
    | nil => rfl
    | cons y rest ih =>
        rw [insertSorted, insertSorted, agree y List.mem_cons_self,
          ih fun z member => agree z (List.mem_cons_of_mem y member)]
  induction xs with
  | nil => rfl
  | cons x rest ih =>
      rw [sortBy, sortBy, ih fun y first z second =>
        agree y (List.mem_cons_of_mem x first) z (List.mem_cons_of_mem x second)]
      apply inserted
      intro y member
      exact agree x List.mem_cons_self y (List.mem_cons_of_mem x ((sortBy_perm _ rest).mem_iff.mp member))

/-- Elements that may stand either way around keep the order in which they were: a relation of each element to
    the later ones lasts for every element and the later ones that may also stand before it. -/
theorem sortBy_stable (precedes : α → α → Bool) {Related : α → α → Prop} {xs : List α}
    (related : xs.Pairwise Related) :
    (sortBy precedes xs).Pairwise fun x y => precedes y x = true → Related x y := by
  have inserted {x : α} {ys : List α} (first : ∀ y ∈ ys, Related x y)
      (kept : ys.Pairwise fun x y => precedes y x = true → Related x y) :
      (insertSorted precedes x ys).Pairwise fun x y => precedes y x = true → Related x y := by
    induction ys with
    | nil => exact List.pairwise_singleton _ x
    | cons y rest ih =>
        obtain ⟨next, others⟩ := List.pairwise_cons.mp kept
        unfold insertSorted
        split
        next => exact List.pairwise_cons.mpr ⟨fun z member _ => first z member, kept⟩
        next behind =>
            refine List.pairwise_cons.mpr ⟨fun z member before => ?_,
              ih (fun z member => first z (List.mem_cons_of_mem y member)) others⟩
            rcases List.mem_cons.mp ((insertSorted_perm precedes x rest).mem_iff.mp member) with rfl | later
            · exact absurd before behind
            · exact next z later before
  induction xs with
  | nil => exact List.Pairwise.nil
  | cons x rest ih =>
      obtain ⟨first, others⟩ := List.pairwise_cons.mp related
      exact inserted (fun y member => first y ((sortBy_perm _ rest).mem_iff.mp member)) (ih others)

section Order

variable (total : ∀ x y, precedes x y = true ∨ precedes y x = true)
  (trans : ∀ x y z, precedes x y = true → precedes y z = true → precedes x z = true)
include total trans

/-- Inserting an element keeps a list in order. -/
theorem pairwise_insertSorted (x : α) {xs : List α}
    (ordered : xs.Pairwise fun x y => precedes x y = true) :
    (insertSorted precedes x xs).Pairwise fun x y => precedes x y = true := by
  induction xs with
  | nil => exact List.pairwise_singleton _ x
  | cons y rest ih =>
      obtain ⟨first, others⟩ := List.pairwise_cons.mp ordered
      unfold insertSorted
      split
      next before =>
          refine List.pairwise_cons.mpr ⟨fun z member => ?_, ordered⟩
          rcases List.mem_cons.mp member with rfl | later
          · exact before
          · exact trans x y z before (first z later)
      next behind =>
          refine List.pairwise_cons.mpr ⟨fun z member => ?_, ih others⟩
          rcases List.mem_cons.mp ((insertSorted_perm precedes x rest).mem_iff.mp member) with
            rfl | later
          · exact (total z y).resolve_left behind
          · exact first z later

/-- The sorted list stands in order. -/
theorem pairwise_sortBy (xs : List α) :
    (sortBy precedes xs).Pairwise fun x y => precedes x y = true := by
  induction xs with
  | nil => exact List.Pairwise.nil
  | cons x rest ih => exact pairwise_insertSorted total trans x ih

end Order

end Crosswalk
