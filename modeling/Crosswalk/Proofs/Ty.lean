/-
Module: Crosswalk.Proofs.Ty
Purpose: Types as the system builds them. The attributes of an object type stand in ascending order of
  their names, so a type is determined by the names and types of its attributes. Induction on types is
  stated with an assumption for every part, whatever list the part stands in.
Main exports: Ty.induct, Ty.WellFormed, Ty.objectOf_wellFormed, Ty.objectOf_of_sorted,
  Ty.objectOf_eq_of_lookup, Ty.Static, Ty.unify_eq_some, Ty.eq_of_unify, Ty.mem_distinct
-/
import Crosswalk.Proofs.Sorting
import Crosswalk.Proofs.Entries
import Crosswalk.Ty.Convertible
import Mathlib.Data.String.Basic

namespace Crosswalk.Ty

/-! ### Induction -/

/-- Induction on types, with an assumption for every attribute and position of a structure. -/
@[elab_as_elim]
theorem induct {motive : Ty → Prop} (bool : motive .bool) (number : motive .number)
    (string : motive .string) (dynamic : motive .dynamic)
    (list : ∀ element, motive element → motive (.list element))
    (set : ∀ element, motive element → motive (.set element))
    (map : ∀ element, motive element → motive (.map element))
    (object : ∀ attributes : List (String × Ty),
      (∀ entry ∈ attributes, motive entry.2) → motive (.object attributes))
    (tuple : ∀ elements : List Ty, (∀ element ∈ elements, motive element) → motive (.tuple elements))
    (ty : Ty) : motive ty :=
  @Ty.rec motive (fun attributes => ∀ entry ∈ attributes, motive entry.2)
    (fun elements => ∀ element ∈ elements, motive element) (fun entry => motive entry.2)
    bool number string dynamic list set map object tuple
    (List.forall_mem_nil _) (fun _ _ first rest => List.forall_mem_cons.mpr ⟨first, rest⟩)
    (List.forall_mem_nil _) (fun _ _ first rest => List.forall_mem_cons.mpr ⟨first, rest⟩)
    (fun _ _ part => part) ty

/-! ### Dynamic parts -/

theorem attributesHaveDynamic_eq_any (attributes : List (String × Ty)) :
    attributesHaveDynamic attributes = attributes.any fun entry => entry.2.hasDynamic := by
  induction attributes with
  | nil => rfl
  | cons entry rest ih => rw [attributesHaveDynamic, ih, List.any_cons]

theorem elementsHaveDynamic_eq_any (elements : List Ty) :
    elementsHaveDynamic elements = elements.any hasDynamic := by
  induction elements with
  | nil => rfl
  | cons element rest ih => rw [elementsHaveDynamic, ih, List.any_cons]

theorem isDynamic_iff {ty : Ty} : ty.isDynamic = true ↔ ty = .dynamic := by
  cases ty <;> simp [isDynamic]

/-- A type without dynamic parts is not the dynamic type. -/
theorem isDynamic_eq_false {ty : Ty} (static : ty.hasDynamic = false) : ty.isDynamic = false := by
  cases ty with
  | dynamic => cases static
  | _ => rfl

theorem hasDynamic_attribute {attributes : List (String × Ty)}
    (static : (object attributes).hasDynamic = false) {entry : String × Ty}
    (member : entry ∈ attributes) : entry.2.hasDynamic = false := by
  rw [hasDynamic, attributesHaveDynamic_eq_any, List.any_eq_false] at static
  exact Bool.eq_false_iff.mpr (static entry member)

theorem hasDynamic_element {elements : List Ty} (static : (tuple elements).hasDynamic = false)
    {element : Ty} (member : element ∈ elements) : element.hasDynamic = false := by
  rw [hasDynamic, elementsHaveDynamic_eq_any, List.any_eq_false] at static
  exact Bool.eq_false_iff.mpr (static element member)

/-- Values of the dynamic type may convert to every type. -/
theorem canConvert_dynamic (want : Ty) : canConvert .dynamic want = true := by
  cases want <;> simp [canConvert, acceptsFrom, isDynamic]

/-! ### Well-formed types -/

/-- Attributes in strictly ascending order of their names. -/
abbrev Sorted (attributes : List (String × Ty)) : Prop :=
  attributes.Pairwise fun first second => first.1 < second.1

/-- The object types in a type have sorted attributes, at every depth. -/
inductive WellFormed : Ty → Prop
  | bool : WellFormed .bool
  | number : WellFormed .number
  | string : WellFormed .string
  | dynamic : WellFormed .dynamic
  | list {element : Ty} (inner : WellFormed element) : WellFormed (.list element)
  | set {element : Ty} (inner : WellFormed element) : WellFormed (.set element)
  | map {element : Ty} (inner : WellFormed element) : WellFormed (.map element)
  | object {attributes : List (String × Ty)} (sorted : Sorted attributes)
      (inner : ∀ entry ∈ attributes, WellFormed entry.2) : WellFormed (.object attributes)
  | tuple {elements : List Ty} (inner : ∀ element ∈ elements, WellFormed element) :
      WellFormed (.tuple elements)

/-- The names of sorted attributes are different. -/
theorem Sorted.nodup {attributes : List (String × Ty)} (sorted : Sorted attributes) :
    (attributes.map Prod.fst).Nodup :=
  List.pairwise_map.mpr (sorted.imp ne_of_lt)

/-! ### Object types

`objectOf` brings attributes into order. Of attributes with different names it makes a sorted list, and
sorted attributes it leaves as they are. -/

theorem objectOf_of_sorted {attributes : List (String × Ty)} (sorted : Sorted attributes) :
    objectOf attributes = .object attributes := by
  exact congrArg Ty.object (sortBy_of_pairwise (sorted.imp fun before => decide_eq_true before.le))

theorem sorted_sortBy {attributes : List (String × Ty)}
    (nodup : (attributes.map Prod.fst).Nodup) :
    Sorted (sortBy (fun a b => textPrecedes a.1 b.1) attributes) := by
  have ordered : (sortBy (fun a b => textPrecedes a.1 b.1) attributes).Pairwise
      fun a b => textPrecedes a.1 b.1 = true := by
    refine pairwise_sortBy (fun a b => ?_) (fun a b c => ?_) attributes
    · simpa [textPrecedes] using le_total a.1 b.1
    · simpa [textPrecedes] using le_trans
  have different : (sortBy (fun a b => textPrecedes a.1 b.1) attributes).Pairwise
      fun a b => a.1 ≠ b.1 :=
    List.pairwise_map.mp (((sortBy_perm _ attributes).map Prod.fst).nodup_iff.mpr nodup)
  exact ordered.imp₂ (fun _ _ le ne => lt_of_le_of_ne (of_decide_eq_true le) ne) different

theorem objectOf_wellFormed {attributes : List (String × Ty)}
    (nodup : (attributes.map Prod.fst).Nodup)
    (inner : ∀ entry ∈ attributes, entry.2.WellFormed) :
    (objectOf attributes).WellFormed := by
  apply WellFormed.object (sorted_sortBy nodup)
  intro entry member
  exact inner entry ((sortBy_perm _ attributes).mem_iff.mp member)

/-- The attributes of an object type are those it was made of. -/
theorem attribute?_sortBy {attributes : List (String × Ty)}
    (nodup : (attributes.map Prod.fst).Nodup) (name : String) :
    attribute? (sortBy (fun a b => textPrecedes a.1 b.1) attributes) name =
      attribute? attributes name := by
  have perm := sortBy_perm (fun a b : String × Ty => textPrecedes a.1 b.1) attributes
  have nodupSorted := (perm.map Prod.fst).nodup_iff.mpr nodup
  cases found : attribute? attributes name with
  | some ty => exact lookup_of_mem nodupSorted (perm.mem_iff.mpr (mem_of_lookup found))
  | none =>
      apply lookup_eq_none_of_not_mem
      intro member
      exact not_mem_of_lookup_eq_none found ((perm.map Prod.fst).mem_iff.mp member)

theorem Sorted.eq_of_perm {attributes others : List (String × Ty)} (sorted : Sorted attributes)
    (sortedOthers : Sorted others) (perm : others.Perm attributes) : others = attributes :=
  perm.eq_of_pairwise (fun _ _ _ _ before after => absurd before after.asymm) sortedOthers sorted

/-- An object type is determined by the types that it has for each name. -/
theorem objectOf_eq_of_lookup {attributes others : List (String × Ty)} (sorted : Sorted attributes)
    (nodup : (others.map Prod.fst).Nodup)
    (same : ∀ name, others.lookup name = attributes.lookup name) :
    objectOf others = .object attributes := by
  have perm : others.Perm attributes := by
    apply (List.perm_ext_iff_of_nodup nodup.of_map sorted.nodup.of_map).mpr
    intro entry
    constructor
    · exact fun member => mem_of_lookup (same entry.1 ▸ lookup_of_mem nodup member)
    · exact fun member => mem_of_lookup (same entry.1 ▸ lookup_of_mem sorted.nodup member)
  exact congrArg Ty.object
    (sorted.eq_of_perm (sorted_sortBy nodup) ((sortBy_perm _ others).trans perm))

/-! ### Types without dynamic parts -/

/-- A well-formed type without dynamic parts. -/
structure Static (ty : Ty) : Prop where
  wellFormed : ty.WellFormed
  hasNone : ty.hasDynamic = false

namespace Static

variable {element : Ty} {elements : List Ty} {attributes : List (String × Ty)}

theorem isDynamic {ty : Ty} (static : ty.Static) : ty.isDynamic = false :=
  isDynamic_eq_false static.hasNone

theorem ofList (static : (Ty.list element).Static) : element.Static := by
  cases static.wellFormed with
  | list inner => exact ⟨inner, static.hasNone⟩

theorem ofSet (static : (Ty.set element).Static) : element.Static := by
  cases static.wellFormed with
  | set inner => exact ⟨inner, static.hasNone⟩

theorem ofMap (static : (Ty.map element).Static) : element.Static := by
  cases static.wellFormed with
  | map inner => exact ⟨inner, static.hasNone⟩

theorem ofTuple (static : (Ty.tuple elements).Static) {element : Ty} (member : element ∈ elements) :
    element.Static := by
  cases static.wellFormed with
  | tuple inner => exact ⟨inner element member, hasDynamic_element static.hasNone member⟩

theorem ofObject (static : (Ty.object attributes).Static) {entry : String × Ty}
    (member : entry ∈ attributes) : entry.2.Static := by
  cases static.wellFormed with
  | object _ inner => exact ⟨inner entry member, hasDynamic_attribute static.hasNone member⟩

theorem sorted (static : (Ty.object attributes).Static) : Sorted attributes := by
  cases static.wellFormed with
  | object sorted _ => exact sorted

end Static

/-! ### The common type -/

private theorem mem_foldl_distinct {types seen : List Ty} {ty : Ty}
    (member : ty ∈ types.foldl
      (fun seen ty => if ty.isDynamic || seen.contains ty then seen else seen ++ [ty]) seen) :
    ty ∈ seen ∨ ty ∈ types := by
  induction types generalizing seen with
  | nil => exact .inl member
  | cons first rest ih =>
      rcases ih member with earlier | later
      · dsimp only at earlier
        split at earlier
        · exact .inl earlier
        · rcases List.mem_append.mp earlier with before | last
          · exact .inl before
          · exact .inr (List.mem_cons.mpr (.inl (List.mem_singleton.mp last)))
      · exact .inr (List.mem_cons_of_mem first later)

/-- A common type is one of the types, or one that needs none of them. -/
theorem unify_eq_some {types : List Ty} {common : Ty} (found : unify types = some common) :
    common = .dynamic ∨ common = .string ∨ common ∈ types := by
  unfold unify at found
  split at found
  · exact .inl (Option.some.inj found).symm
  next ty only =>
      obtain rfl := Option.some.inj found
      have member : ty ∈ distinct types := only ▸ List.mem_singleton_self ty
      exact .inr (.inr ((mem_foldl_distinct member).resolve_left List.not_mem_nil))
  · split at found
    · exact .inr (.inl (Option.some.inj found).symm)
    · cases found

private theorem mem_distinct_foldl {types seen : List Ty} {ty : Ty}
    (member : ty ∈ seen ∨ (ty ∈ types ∧ ty ≠ .dynamic)) :
    ty ∈ types.foldl
      (fun seen ty => if ty.isDynamic || seen.contains ty then seen else seen ++ [ty]) seen := by
  induction types generalizing seen with
  | nil => exact member.resolve_right fun later => List.not_mem_nil later.1
  | cons first rest ih =>
      rw [List.foldl_cons]
      apply ih
      rcases member with earlier | ⟨member, notDynamic⟩
      · left
        split
        · exact earlier
        · exact List.mem_append_left _ earlier
      · rcases List.mem_cons.mp member with rfl | later
        · left
          split
          next known =>
              rcases Bool.or_eq_true_iff.mp known with dynamic | present
              · exact absurd (isDynamic_iff.mp dynamic) notDynamic
              · exact List.contains_iff_mem.mp present
          next => exact List.mem_append_right _ (List.mem_singleton_self ty)
        · exact .inr ⟨later, notDynamic⟩

/-- Each of the types is the common type or the dynamic one, unless different primitive types have met in
    string. -/
theorem eq_of_unify {types : List Ty} {common : Ty} (found : unify types = some common) {ty : Ty}
    (member : ty ∈ types) :
    ty = .dynamic ∨ ty = common ∨ (common = .string ∧ ty.isPrimitive = true) := by
  by_cases dynamic : ty = .dynamic
  · exact .inl dynamic
  · have kept : ty ∈ distinct types := mem_distinct_foldl (.inr ⟨member, dynamic⟩)
    unfold unify at found
    split at found
    next none =>
        rw [none] at kept
        cases kept
    next other only =>
        rw [only] at kept
        exact .inr (.inl ((List.mem_singleton.mp kept).trans (Option.some.inj found)))
    next =>
        split at found
        next primitive =>
            exact .inr (.inr ⟨(Option.some.inj found).symm, List.all_eq_true.mp primitive ty kept⟩)
        next => cases found

/-- The types among which a common one is looked for are those that are not dynamic, each once. -/
theorem mem_distinct {types : List Ty} {ty : Ty} :
    ty ∈ distinct types ↔ ty ∈ types ∧ ty ≠ .dynamic := by
  have notDynamic (types seen : List Ty) (before : Ty.dynamic ∉ seen) :
      Ty.dynamic ∉ types.foldl
        (fun seen ty => if ty.isDynamic || seen.contains ty then seen else seen ++ [ty]) seen := by
    induction types generalizing seen with
    | nil => exact before
    | cons first rest ih =>
        rw [List.foldl_cons]
        apply ih
        split
        · exact before
        next fresh =>
            simp only [Bool.or_eq_true, not_or, isDynamic_iff] at fresh
            simpa [before] using fun same => fresh.1 same.symm
  constructor
  · intro member
    refine ⟨(mem_foldl_distinct member).resolve_left List.not_mem_nil, ?_⟩
    rintro rfl
    exact notDynamic types [] List.not_mem_nil member
  · exact fun member => mem_distinct_foldl (.inr member)

theorem nodup_distinct (types : List Ty) : (distinct types).Nodup := by
  have kept (types seen : List Ty) (before : seen.Nodup) : (types.foldl
      (fun seen ty => if ty.isDynamic || seen.contains ty then seen else seen ++ [ty]) seen).Nodup := by
    induction types generalizing seen with
    | nil => exact before
    | cons first rest ih =>
        rw [List.foldl_cons]
        apply ih
        split
        · exact before
        next fresh =>
            simp only [Bool.or_eq_true, not_or, List.contains_iff_mem] at fresh
            exact List.nodup_append.mpr ⟨before, List.nodup_singleton first,
              fun ty member other last same => fresh.2 (List.mem_singleton.mp last ▸ same ▸ member)⟩
  exact kept types [] List.nodup_nil

/-- The common type of well-formed types is well-formed. -/
theorem unify_wellFormed {types : List Ty} {common : Ty} (found : unify types = some common)
    (inner : ∀ ty ∈ types, ty.WellFormed) : common.WellFormed := by
  rcases unify_eq_some found with rfl | rfl | member
  · exact .dynamic
  · exact .string
  · exact inner common member

end Crosswalk.Ty
