/-
Module: Crosswalk.Proofs.Ty.Widening
Purpose: Wider types. A type widens to another one that has room for all its values: truth values and numbers
  are written as texts, and structures and sets become collections that are less particular. A type and a
  wider one accept each other's values.
Main exports: Ty.Widens, Ty.attribute?_zip, Ty.Widens.canConvert
-/
import Crosswalk.Proofs.Ty
import Mathlib.Data.List.Zip

namespace Crosswalk.Ty

/-- A type and one that has room for its values. Structures widen part by part, or to a collection of parts
    of one type. -/
inductive Widens : Ty → Ty → Prop
  | refl (ty : Ty) : Widens ty ty
  | boolToString : Widens .bool .string
  | numberToString : Widens .number .string
  | list {element other : Ty} (inner : Widens element other) : Widens (.list element) (.list other)
  | set {element other : Ty} (inner : Widens element other) : Widens (.set element) (.set other)
  | setToList {element other : Ty} (inner : Widens element other) : Widens (.set element) (.list other)
  | map {element other : Ty} (inner : Widens element other) : Widens (.map element) (.map other)
  | tupleToList {elements : List Ty} {other : Ty} (inner : ∀ element ∈ elements, Widens element other) :
      Widens (.tuple elements) (.list other)
  | objectToMap {attributes : List (String × Ty)} {other : Ty}
      (inner : ∀ entry ∈ attributes, Widens entry.2 other) : Widens (.object attributes) (.map other)
  | tuple {elements others : List Ty} (length : elements.length = others.length)
      (inner : ∀ pair ∈ elements.zip others, Widens pair.1 pair.2) :
      Widens (.tuple elements) (.tuple others)
  | object {attributes others : List (String × Ty)}
      (names : attributes.map Prod.fst = others.map Prod.fst)
      (inner : ∀ pair ∈ attributes.zip others, Widens pair.1.2 pair.2.2) :
      Widens (.object attributes) (.object others)

theorem mem_zip_swap {α β : Type} {xs : List α} {ys : List β} {pair : α × β} (member : pair ∈ xs.zip ys) :
    pair.swap ∈ ys.zip xs := by
  rw [← List.zip_swap xs ys]
  exact List.mem_map_of_mem member

/-- Attributes of one name at the same place of two lists. -/
theorem attribute?_zip {attributes others : List (String × Ty)}
    (names : attributes.map Prod.fst = others.map Prod.fst) {name : String} {ty : Ty}
    (found : attribute? attributes name = some ty) :
    ∃ other, attribute? others name = some other ∧ ((name, ty), (name, other)) ∈ attributes.zip others := by
  induction attributes generalizing others with
  | nil => cases found
  | cons first rest ih =>
      obtain ⟨key, given⟩ := first
      match others with
      | [] => cases names
      | (keyOther, wide) :: others =>
          simp only [List.map_cons, List.cons.injEq] at names
          obtain ⟨rfl, later⟩ := names
          by_cases here : name = key
          · subst here
            have same : given = ty := by simpa [attribute?] using found
            exact ⟨wide, by simp [attribute?], same ▸ List.mem_cons_self⟩
          · have different : (name == key) = false := beq_false_of_ne here
            simp only [attribute?, List.lookup_cons, different] at found ⊢
            obtain ⟨other, isOther, member⟩ := ih later found
            exact ⟨other, isOther, List.mem_cons_of_mem _ member⟩

/-! ### Acceptance -/

theorem acceptsElements_iff {wants haves : List Ty} (length : wants.length = haves.length) :
    acceptsElements wants haves = true ↔ ∀ pair ∈ wants.zip haves, acceptsFrom pair.1 pair.2 = true := by
  induction wants generalizing haves with
  | nil =>
      match haves with
      | [] => simp [acceptsElements]
  | cons want wants ih =>
      match haves with
      | given :: haves =>
          rw [acceptsElements, Bool.and_eq_true, ih (Nat.succ.inj length), List.zip_cons_cons,
            List.forall_mem_cons]

theorem allAcceptFrom_iff {wants : List Ty} {given : Ty} :
    allAcceptFrom wants given = true ↔ ∀ want ∈ wants, acceptsFrom want given = true := by
  induction wants with
  | nil => simp [allAcceptFrom]
  | cons want wants ih => rw [allAcceptFrom, Bool.and_eq_true, ih, List.forall_mem_cons]

theorem allAttributesAcceptFrom_iff {wants : List (String × Ty)} {given : Ty} :
    allAttributesAcceptFrom wants given = true ↔ ∀ want ∈ wants, acceptsFrom want.2 given = true := by
  induction wants with
  | nil => simp [allAttributesAcceptFrom]
  | cons want wants ih => rw [allAttributesAcceptFrom, Bool.and_eq_true, ih, List.forall_mem_cons]

theorem acceptsAttributes_iff {wants haves : List (String × Ty)} :
    acceptsAttributes wants haves = true ↔ ∀ want ∈ wants, ∃ given, attribute? haves want.1 = some given ∧
      acceptsFrom want.2 given = true := by
  induction wants with
  | nil => simp [acceptsAttributes]
  | cons want wants ih =>
      rw [acceptsAttributes, Bool.and_eq_true, ih, List.forall_mem_cons]
      cases attribute? haves want.1 <;> simp

/-- A type and a wider one accept each other's values. -/
theorem Widens.canConvert {ty wide : Ty} (widens : Widens ty wide) (static : ty.Static)
    (staticWide : wide.Static) : ty.canConvert wide = true ∧ wide.canConvert ty = true := by
  simp only [Ty.canConvert]
  induction widens with
  | refl ty => cases ty <;> simp [acceptsFrom]
  | boolToString | numberToString => exact ⟨rfl, rfl⟩
  | list _ ih =>
      obtain ⟨forward, back⟩ := ih static.ofList staticWide.ofList
      simp [acceptsFrom, forward, back]
  | set _ ih =>
      obtain ⟨forward, back⟩ := ih static.ofSet staticWide.ofSet
      simp [acceptsFrom, forward, back]
  | setToList _ ih =>
      obtain ⟨forward, back⟩ := ih static.ofSet staticWide.ofList
      simp [acceptsFrom, forward, back]
  | map _ ih =>
      obtain ⟨forward, back⟩ := ih static.ofMap staticWide.ofMap
      simp [acceptsFrom, forward, back]
  | @tupleToList elements other _ ih =>
      have both := fun element member => ih element member (static.ofTuple member) staticWide.ofList
      have forward := fun element member => (both element member).1
      have back := allAcceptFrom_iff.mpr fun element member => (both element member).2
      simpa [acceptsFrom, staticWide.ofList.isDynamic, back] using Or.inr forward
  | @objectToMap attributes other _ ih =>
      have both := fun entry member => ih entry member (static.ofObject member) staticWide.ofMap
      have forward := fun entry member => (both entry member).1
      have back := allAttributesAcceptFrom_iff.mpr fun entry member => (both entry member).2
      simpa [acceptsFrom, staticWide.ofMap.isDynamic, back] using Or.inr forward
  | @tuple elements others length _ ih =>
      have both : ∀ pair ∈ elements.zip others,
          acceptsFrom pair.2 pair.1 = true ∧ acceptsFrom pair.1 pair.2 = true := by
        intro pair member
        obtain ⟨left, right⟩ := List.of_mem_zip member
        exact ih pair member (static.ofTuple left) (staticWide.ofTuple right)
      have back := (acceptsElements_iff length).mpr fun pair member => (both pair member).2
      have forward : acceptsElements others elements = true := by
        apply (acceptsElements_iff length.symm).mpr
        intro pair member
        exact (both pair.swap (mem_zip_swap member)).1
      simp [acceptsFrom, forward, back]
  | @object attributes others names _ ih =>
      have both : ∀ pair ∈ attributes.zip others,
          acceptsFrom pair.2.2 pair.1.2 = true ∧ acceptsFrom pair.1.2 pair.2.2 = true := by
        intro pair member
        obtain ⟨left, right⟩ := List.of_mem_zip member
        exact ih pair member (static.ofObject left) (staticWide.ofObject right)
      have back : acceptsAttributes attributes others = true := by
        apply acceptsAttributes_iff.mpr
        intro want member
        obtain ⟨other, found, paired⟩ := attribute?_zip names (lookup_of_mem static.sorted.nodup member)
        exact ⟨other, found, (both _ paired).2⟩
      have forward : acceptsAttributes others attributes = true := by
        apply acceptsAttributes_iff.mpr
        intro want member
        have wanted := lookup_of_mem staticWide.sorted.nodup member
        obtain ⟨given, found, paired⟩ := attribute?_zip names.symm wanted
        exact ⟨given, found, (both _ (mem_zip_swap paired)).1⟩
      simp [acceptsFrom, forward, back]

end Crosswalk.Ty
