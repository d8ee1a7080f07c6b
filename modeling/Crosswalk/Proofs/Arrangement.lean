/-
Module: Crosswalk.Proofs.Arrangement
Purpose: Lists that are related member by member once one of them is rearranged. The relation says whether
  the order is kept, so that one lemma serves sequences, whose order matters, and sets and mappings, whose
  order does not. Steps that agree on related members are taken for whole lists.
Main exports: Arranged, Arranged.forall₂, Outcome.Agrees.mapM_arranged
-/
import Crosswalk.Proofs.Outcome

namespace Crosswalk

variable {α β γ δ : Type} {keeps : Prop} {Related : α → β → Prop} {xs : List α} {ys : List β}

/-- The members of the first list are related to those of the second one in some order, which is the order
    of the list where `keeps` says so. -/
def Arranged (keeps : Prop) (Related : α → β → Prop) (xs : List α) (ys : List β) : Prop :=
  ∃ zs, List.Forall₂ Related xs zs ∧ zs.Perm ys ∧ (keeps → zs = ys)

namespace Arranged

theorem ofForall₂ (related : List.Forall₂ Related xs ys) : Arranged keeps Related xs ys :=
  ⟨ys, related, .refl ys, fun _ => rfl⟩

/-- Lists related in their order are arranged so that it is kept. -/
theorem inOrder (related : List.Forall₂ Related xs ys) : Arranged True Related xs ys :=
  ofForall₂ related

theorem forall₂ (arranged : Arranged keeps Related xs ys) (ordered : keeps) :
    List.Forall₂ Related xs ys := by
  obtain ⟨zs, related, -, same⟩ := arranged
  exact same ordered ▸ related

theorem length_eq (arranged : Arranged keeps Related xs ys) : xs.length = ys.length := by
  obtain ⟨zs, related, perm, -⟩ := arranged
  exact related.length_eq.trans perm.length_eq

theorem exists_right (arranged : Arranged keeps Related xs ys) {x : α} (member : x ∈ xs) :
    ∃ y ∈ ys, Related x y := by
  obtain ⟨zs, related, perm, -⟩ := arranged
  obtain ⟨y, inOther, found⟩ := Outcome.exists_of_forall₂ related.flip member
  exact ⟨y, perm.mem_iff.mp inOther, found⟩

theorem exists_left (arranged : Arranged keeps Related xs ys) {y : β} (member : y ∈ ys) :
    ∃ x ∈ xs, Related x y := by
  obtain ⟨zs, related, perm, -⟩ := arranged
  exact Outcome.exists_of_forall₂ related (perm.mem_iff.mpr member)

/-- A relation that follows from another one for members of the lists. -/
theorem imp {Weaker : α → β → Prop} (arranged : Arranged keeps Related xs ys)
    (weaker : ∀ x ∈ xs, ∀ y ∈ ys, Related x y → Weaker x y) : Arranged keeps Weaker xs ys := by
  obtain ⟨zs, related, perm, same⟩ := arranged
  refine ⟨zs, Outcome.forall₂_of_mem₂ related fun x inFirst y member => ?_, perm, same⟩
  exact weaker x inFirst y (perm.mem_iff.mp member)

theorem trans {Next : β → γ → Prop} {zs : List γ} (arranged : Arranged keeps Related xs ys)
    (further : Arranged keeps Next ys zs) : Arranged keeps (Relation.Comp Related Next) xs zs := by
  obtain ⟨as, related, perm, same⟩ := arranged
  obtain ⟨bs, next, permNext, sameNext⟩ := further
  by_cases ordered : keeps
  · obtain rfl := same ordered
    obtain rfl := sameNext ordered
    exact ofForall₂ (Outcome.forall₂_comp related next fun _ y _ first second => ⟨y, first, second⟩)
  · obtain ⟨cs, exchanged, rearranged⟩ := List.perm_comp_forall₂ perm next
    refine ⟨cs, ?_, rearranged.trans permNext, fun kept => absurd kept ordered⟩
    exact Outcome.forall₂_comp related exchanged fun _ y _ first second => ⟨y, first, second⟩

theorem map {Wanted : γ → δ → Prop} {change : α → γ} {other : β → δ}
    (arranged : Arranged keeps Related xs ys)
    (after : ∀ x y, Related x y → Wanted (change x) (other y)) :
    Arranged keeps Wanted (xs.map change) (ys.map other) := by
  obtain ⟨zs, related, perm, same⟩ := arranged
  refine ⟨zs.map other, ?_, perm.map other, fun ordered => congrArg (List.map other) (same ordered)⟩
  rw [List.forall₂_map_left_iff, List.forall₂_map_right_iff]
  exact related.imp after

theorem of_map {Wanted : γ → δ → Prop} {change : α → γ} {other : β → δ}
    (arranged : Arranged keeps Wanted (xs.map change) (ys.map other)) :
    Arranged keeps (fun x y => Wanted (change x) (other y)) xs ys := by
  by_cases ordered : keeps
  · have related := arranged.forall₂ ordered
    rw [List.forall₂_map_left_iff, List.forall₂_map_right_iff] at related
    exact ofForall₂ related
  · obtain ⟨zs, related, perm, -⟩ := arranged
    have images : List.Forall₂ (fun z y => z = other y) (ys.map other) ys := by
      rw [List.forall₂_map_left_iff]
      exact List.forall₂_same.mpr fun y _ => rfl
    obtain ⟨others, pairs, rearranged⟩ := List.perm_comp_forall₂ perm images
    obtain rfl : zs = others.map other := by
      rw [← List.forall₂_eq_eq_eq, List.forall₂_map_right_iff]
      exact pairs
    rw [List.forall₂_map_left_iff, List.forall₂_map_right_iff] at related
    exact ⟨others, related, rearranged, fun kept => absurd kept ordered⟩

end Arranged

/-- Steps that agree on related members are taken for each of two lists. -/
theorem Outcome.Agrees.mapM_arranged {Wanted : γ → δ → Prop} {step : α → Outcome γ}
    {other : β → Outcome δ} (each : Arranged keeps (fun x y => Agrees Wanted (step x) (other y)) xs ys) :
    Agrees (Arranged keeps Wanted) (xs.mapM step) (ys.mapM other) := by
  obtain ⟨zs, related, perm, same⟩ := each
  by_cases ordered : keeps
  · obtain rfl := same ordered
    exact (mapM related).imp fun _ _ _ _ => .ofForall₂
  · refine ((mapM related).trans (mapM_perm perm)).imp fun results others _ _ both => ?_
    obtain ⟨middle, pairs, rearranged⟩ := both
    exact ⟨middle, pairs, rearranged, fun kept => absurd kept ordered⟩

end Crosswalk
