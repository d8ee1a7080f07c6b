/-
Module: Crosswalk.Proofs.Ty.Unification
Purpose: The common type of several types is their least upper bound. In the order the dynamic type gives way to
  every type and a primitive one to string; types that have an upper bound at all have a least one. So a common
  type depends on nothing but the bounds of the types, and types can be brought together in groups.
Main exports: Ty.GivesWay, Ty.IsCommon, Ty.unify_eq_some_iff, Ty.unify_eq_of_bounds, Ty.unify_congr, Ty.merge,
  Ty.unify_append
-/
import Crosswalk.Proofs.Ty

namespace Crosswalk.Ty

/-! ### The order of types -/

/-- A type gives way to another one where several types come together. -/
inductive GivesWay : Ty → Ty → Prop
  | refl (ty : Ty) : GivesWay ty ty
  | dynamic (ty : Ty) : GivesWay .dynamic ty
  | primitive {ty : Ty} (isPrimitive : ty.isPrimitive = true) : GivesWay ty .string

namespace GivesWay

theorem trans {a b c : Ty} (first : GivesWay a b) (second : GivesWay b c) : GivesWay a c := by
  cases first with
  | refl => exact second
  | dynamic => exact .dynamic c
  | primitive isPrimitive =>
      cases second with
      | refl | primitive => exact .primitive isPrimitive

theorem antisymm {a b : Ty} (first : GivesWay a b) (second : GivesWay b a) : a = b := by
  cases first with
  | refl => rfl
  | dynamic =>
      cases second with
      | refl | dynamic => rfl
  | primitive isPrimitive =>
      cases second with
      | refl | primitive => rfl

/-- Different types that leave no choice give way to nothing but string. -/
theorem eq_string {a b bound : Ty} (first : GivesWay a bound) (second : GivesWay b bound) (different : a ≠ b)
    (left : a ≠ .dynamic) (right : b ≠ .dynamic) : bound = .string := by
  cases first with
  | dynamic => exact absurd rfl left
  | primitive => rfl
  | refl =>
      cases second with
      | dynamic => exact absurd rfl right
      | primitive => rfl
      | refl => exact absurd rfl different

/-- To string give way the primitive types and the dynamic one. -/
theorem isPrimitive {ty : Ty} (gives : GivesWay ty .string) (determined : ty ≠ .dynamic) :
    ty.isPrimitive = true := by
  cases gives with
  | refl => rfl
  | dynamic => exact absurd rfl determined
  | primitive isPrimitive => exact isPrimitive

end GivesWay

theorem givesWay_iff {ty common : Ty} :
    ty.GivesWay common ↔ ty = .dynamic ∨ ty = common ∨ (common = .string ∧ ty.isPrimitive = true) := by
  constructor
  · rintro (_ | _ | primitive)
    · exact .inr (.inl rfl)
    · exact .inl rfl
    · exact .inr (.inr ⟨rfl, primitive⟩)
  · rintro (rfl | rfl | ⟨rfl, primitive⟩)
    · exact .dynamic common
    · exact .refl ty
    · exact .primitive primitive

/-- Values of a type may convert to the types to which it gives way. -/
theorem GivesWay.canConvert {ty common : Ty} (gives : GivesWay ty common) : ty.canConvert common = true := by
  cases gives with
  | refl => cases ty <;> simp [Ty.canConvert, acceptsFrom]
  | dynamic => exact canConvert_dynamic common
  | primitive isPrimitive =>
      cases ty with
      | bool | number | string => rfl
      | _ => cases isPrimitive

/-! ### Least upper bounds -/

/-- All of the types give way to a type. -/
def IsBound (types : List Ty) (bound : Ty) : Prop :=
  ∀ ty ∈ types, ty.GivesWay bound

/-- A type is the least upper bound of types. -/
structure IsCommon (types : List Ty) (common : Ty) : Prop where
  above : IsBound types common
  least : ∀ bound, IsBound types bound → common.GivesWay bound

variable {types others : List Ty} {common : Ty}

theorem IsCommon.isBound_iff (isCommon : IsCommon types common) {bound : Ty} :
    IsBound types bound ↔ common.GivesWay bound :=
  ⟨isCommon.least bound, fun gives ty member => (isCommon.above ty member).trans gives⟩

theorem IsCommon.unique {other : Ty} (isCommon : IsCommon types common) (isOther : IsCommon types other) :
    common = other :=
  (isCommon.least other isOther.above).antisymm (isOther.least common isCommon.above)

/-- The first two of several different types, which are among the types and not dynamic. -/
theorem exists_two {first second : Ty} {rest : List Ty} (several : distinct types = first :: second :: rest) :
    (first ∈ types ∧ first ≠ .dynamic) ∧ (second ∈ types ∧ second ≠ .dynamic) ∧ first ≠ second := by
  have nodup := several ▸ nodup_distinct types
  refine ⟨mem_distinct.mp (several ▸ List.mem_cons_self), ?_, ?_⟩
  · exact mem_distinct.mp (several ▸ List.mem_cons_of_mem first List.mem_cons_self)
  · rintro rfl
    exact (List.nodup_cons.mp nodup).1 List.mem_cons_self

/-- What types have in common is their least upper bound. -/
theorem isCommon_of_unify (found : unify types = some common) : IsCommon types common := by
  refine ⟨fun ty member => ?_, fun bound isBound => ?_⟩
  · exact givesWay_iff.mpr (eq_of_unify found member)
  · unfold unify at found
    match several : distinct types with
    | [] =>
        simp only [several, Option.some.injEq] at found
        exact found ▸ .dynamic bound
    | [ty] =>
        simp only [several, Option.some.injEq] at found
        exact found ▸ isBound ty (mem_distinct.mp (several ▸ List.mem_singleton_self ty)).1
    | first :: second :: rest =>
        simp only [several, Option.ite_none_right_eq_some, Option.some.injEq] at found
        obtain ⟨⟨inTypes, left⟩, ⟨alsoIn, right⟩, different⟩ := exists_two several
        rw [← found.2, (isBound first inTypes).eq_string (isBound second alsoIn) different left right]
        exact .refl .string

/-- Types with an upper bound have a type in common. -/
theorem exists_unify {bound : Ty} (isBound : IsBound types bound) : ∃ common, unify types = some common := by
  unfold unify
  match several : distinct types with
  | [] => exact ⟨_, rfl⟩
  | [ty] => exact ⟨_, rfl⟩
  | first :: second :: rest =>
      obtain ⟨⟨inTypes, left⟩, ⟨alsoIn, right⟩, different⟩ := exists_two several
      obtain rfl := (isBound first inTypes).eq_string (isBound second alsoIn) different left right
      have primitive : (first :: second :: rest).all isPrimitive = true := by
        refine List.all_eq_true.mpr fun ty member => ?_
        obtain ⟨among, determined⟩ := mem_distinct.mp (several ▸ member)
        exact (isBound ty among).isPrimitive determined
      exact ⟨_, if_pos primitive⟩

theorem unify_eq_some_iff : unify types = some common ↔ IsCommon types common := by
  refine ⟨isCommon_of_unify, fun isCommon => ?_⟩
  obtain ⟨found, unified⟩ := exists_unify isCommon.above
  rw [unified, (isCommon_of_unify unified).unique isCommon]

/-- Types with the same upper bounds have the same type in common, or none. -/
theorem unify_eq_of_bounds (same : ∀ bound, IsBound types bound ↔ IsBound others bound) :
    unify types = unify others := by
  refine Option.ext fun common => ?_
  rw [unify_eq_some_iff, unify_eq_some_iff]
  constructor
  · exact fun ⟨above, least⟩ => ⟨(same common).mp above, fun bound isBound => least bound ((same bound).mpr isBound)⟩
  · exact fun ⟨above, least⟩ => ⟨(same common).mpr above, fun bound isBound => least bound ((same bound).mp isBound)⟩

/-- The common type depends on which types there are that are not dynamic, and not on their order or number. -/
theorem unify_congr (same : ∀ ty, ty ≠ .dynamic → (ty ∈ types ↔ ty ∈ others)) : unify types = unify others := by
  have bounds {types others : List Ty} (among : ∀ ty, ty ≠ .dynamic → ty ∈ others → ty ∈ types) {bound : Ty}
      (isBound : IsBound types bound) : IsBound others bound := by
    intro ty member
    by_cases dynamic : ty = .dynamic
    · exact dynamic ▸ .dynamic bound
    · exact isBound ty (among ty dynamic member)
  exact unify_eq_of_bounds fun bound => ⟨bounds fun ty determined => (same ty determined).mpr,
    bounds fun ty determined => (same ty determined).mp⟩

/-- A type is the common one if it is among the types, and all others among them are dynamic. -/
theorem unify_of_members (member : common ∈ types) (others : ∀ ty ∈ types, ty = common ∨ ty = .dynamic) :
    unify types = some common := by
  refine unify_eq_some_iff.mpr ⟨fun ty inTypes => ?_, fun bound isBound => isBound common member⟩
  rcases others ty inTypes with rfl | rfl
  · exact .refl ty
  · exact .dynamic common

/-! ### Groups of types -/

/-- The type that two groups of types have in common, if each of the groups has one. -/
def merge (first second : Option Ty) : Option Ty := do
  unify [← first, ← second]

theorem isBound_append {bound : Ty} : IsBound (types ++ others) bound ↔ IsBound types bound ∧ IsBound others bound :=
  List.forall_mem_append

theorem isBound_pair {first second bound : Ty} :
    IsBound [first, second] bound ↔ first.GivesWay bound ∧ second.GivesWay bound := by
  simp [IsBound]

/-- Types without a type in common have none with others either. -/
theorem unify_eq_none_of_subset (none : unify types = .none) (among : types ⊆ others) : unify others = .none := by
  rw [Option.eq_none_iff_forall_ne_some]
  intro bound found
  obtain ⟨common, unified⟩ := exists_unify fun ty member => (isCommon_of_unify found).above ty (among member)
  cases none.symm.trans unified

/-- Two groups of types have in common what their common types have in common. -/
theorem unify_append (types others : List Ty) : unify (types ++ others) = merge (unify types) (unify others) := by
  cases left : unify types with
  | none => exact unify_eq_none_of_subset left (List.subset_append_left types others)
  | some first =>
      cases right : unify others with
      | none => exact unify_eq_none_of_subset right (List.subset_append_right types others)
      | some second =>
          refine unify_eq_of_bounds fun bound => ?_
          rw [isBound_append, isBound_pair, (isCommon_of_unify left).isBound_iff,
            (isCommon_of_unify right).isBound_iff]

end Crosswalk.Ty
