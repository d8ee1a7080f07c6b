/-
Module: Crosswalk.Proofs.Value.NullElements
Purpose: What null elements become in a collection whose element type has dynamic parts. They keep their type
  when they are converted, and then all elements have to agree on one type. So nulls of the type on which
  their siblings agree, and nulls of the dynamic type, are elements like the others and take that type; with
  a null of another type among them the elements have no common type.
Main exports: Ty.eq_of_unify_of_member, Value.AgreeOn, Value.Takes, Value.withoutNulls,
  Value.convert_nullElements
-/
import Crosswalk.Proofs.Value.Alike
import Crosswalk.Proofs.Value.Escape
import Crosswalk.Proofs.Value.Reconversion
import Crosswalk.Proofs.Value.Restoring

namespace Crosswalk

/-! ### Common types -/

namespace Ty

/-- With a type among them that is not primitive, types have no other one in common. -/
theorem eq_of_unify_of_member {types : List Ty} {common found : Ty} (unified : unify types = some found)
    (member : common ∈ types) (determined : common ≠ .dynamic) (structured : common.isPrimitive = false)
    {ty : Ty} (other : ty ∈ types) : ty = common ∨ ty = .dynamic := by
  rcases eq_of_unify unified member with isDynamic | rfl | ⟨-, primitive⟩
  · exact absurd isDynamic determined
  · rcases eq_of_unify unified other with isDynamic | same | ⟨rfl, -⟩
    · exact .inr isDynamic
    · exact .inl same
    · cases structured
  · cases structured.symm.trans primitive

/-- A type with dynamic parts that is not the dynamic one accepts no primitive types. -/
theorem structured_of_accepted {want given : Ty} (dynamic : want.hasDynamic = true)
    (determined : want ≠ .dynamic) (accepted : given.canConvert want = true) : given.isPrimitive = false := by
  rw [Bool.eq_false_iff]
  exact fun primitive => determined (eq_dynamic_of_primitive dynamic primitive accepted)

end Ty

namespace Value

/-! ### Elements that agree -/

/-- Values that agree on a type as elements: each of them is converted to a value of that type or of the
    dynamic type, which leaves the choice to the others, and one of them to a value of that type. -/
structure AgreeOn (element common : Ty) (items : List Value) : Prop where
  accepted : common.canConvert element = true
  each : ∀ item ∈ items, ∃ converted, convertTo element item = .ok converted ∧
    (converted.type = common ∨ converted.type = .dynamic)
  leader : ∃ item ∈ items, ∃ converted, convertTo element item = .ok converted ∧ converted.type = common

/-- What becomes of an element: it is converted, and brought to the common type. -/
def Becomes (element common : Ty) (item result : Value) : Prop :=
  ∃ converted, convertTo element item = .ok converted ∧ settle common converted = .ok result

/-- What a value is converted to is among the converted values. -/
theorem exists_of_convertEach {convertOne : Value → Outcome Value} {located converted : Located}
    (each : convertEach convertOne located = .ok converted) {item result : Value}
    (member : item ∈ located.map Prod.snd) (one : convertOne item = .ok result) :
    ∃ after ∈ converted, after.2 = result := by
  obtain ⟨before, inLocated, rfl⟩ := List.mem_map.mp member
  obtain ⟨after, inConverted, -, again⟩ := Outcome.exists_of_forall₂ (convertEach_eq_ok each).flip inLocated
  exact ⟨after, inConverted, Except.ok.inj (again.symm.trans one)⟩

/-- A value of the dynamic type has no data, and takes the common type. -/
theorem settle_of_type_dynamic {common : Ty} (static : common.hasDynamic = false) {value : Value}
    (isDynamic : value.type = .dynamic) :
    settle common value = .ok (if value.isKnown then .null common else .unknown common) := by
  have determined : common ≠ .dynamic := fun same => nomatch same ▸ static
  have absent : value.isAbsent = true := by
    by_contra present
    exact type_ne_dynamic (Bool.eq_false_iff.mpr present) isDynamic
  simp [settle, isDynamic, determined.symm, Ty.isDynamic_iff, determined, absent, convertAbsent, static,
    Ty.canConvert_dynamic]

section Dynamic

variable {element common : Ty} (dynamic : element.hasDynamic = true) (static : common.hasDynamic = false)
include dynamic static

/-- Collected elements agree on the type that they have in common. -/
theorem Collected.agree (outer : element.WellFormed) {own : Option Ty} {located : Located}
    {items : List Value} (inner : ∀ item ∈ located.map Prod.snd, item.WellFormed) (nonempty : located ≠ [])
    (determined : element ≠ .dynamic) (collected : Collected element own located items common) :
    AgreeOn element common (located.map Prod.snd) := by
  obtain ⟨converted, each, together⟩ := collected
  have related := convertEach_eq_ok each
  cases commonElements_eq_ok.mp together with
  | static static => cases static.symm.trans dynamic
  | empty _ none =>
      rw [none, List.forall₂_nil_right_iff] at related
      exact absurd related nonempty
  | settled _ _ agreed =>
      have accepted : ∀ after ∈ converted, after.2.type.canConvert element = true := by
        intro after member
        obtain ⟨before, inLocated, -, one⟩ := Outcome.exists_of_forall₂ related member
        exact (rests_of_convertTo outer (inner _ (List.mem_map_of_mem inLocated)) one).accepted
      have structured : ∀ after ∈ converted, after.2.type.isPrimitive = false :=
        fun after member => Ty.structured_of_accepted dynamic determined (accepted after member)
      have leader : ∃ after ∈ converted, after.2.type = common := by
        rcases Ty.unify_cases agreed with rfl | shared | ⟨-, given, shared, primitive⟩
        · cases static
        · exact List.mem_map.mp shared
        · obtain ⟨after, member, rfl⟩ := List.mem_map.mp shared
          cases (structured after member).symm.trans primitive
      refine ⟨?_, List.forall_mem_map.mpr fun before member => ?_, ?_⟩
      · obtain ⟨after, member, rfl⟩ := leader
        exact accepted after member
      · obtain ⟨after, inConverted, -, one⟩ := Outcome.exists_of_forall₂ related.flip member
        refine ⟨after.2, one, ?_⟩
        rcases Ty.eq_of_unify agreed (List.mem_map_of_mem inConverted) with isDynamic | same | ⟨-, primitive⟩
        · exact .inr isDynamic
        · exact .inl same
        · cases (structured after inConverted).symm.trans primitive
      · obtain ⟨after, inConverted, typed⟩ := leader
        obtain ⟨before, inLocated, -, one⟩ := Outcome.exists_of_forall₂ related inConverted
        exact ⟨before.2, List.mem_map_of_mem inLocated, after.2, one, typed⟩

/-- Elements that agree on a type are collected under it. -/
theorem AgreeOn.collected {located : Located} (agree : AgreeOn element common (located.map Prod.snd))
    (own : Option Ty) :
    ∃ items, List.Forall₂ (Becomes element common) (located.map Prod.snd) items ∧
      Collected element own located items common := by
  obtain ⟨converted, each⟩ : ∃ converted, convertEach (convertTo element) located = .ok converted :=
    exists_convertEach fun entry member =>
      (agree.each entry.2 (List.mem_map_of_mem member)).imp fun _ one => one.1
  have related := convertEach_eq_ok each
  have types : ∀ after ∈ converted, after.2.type = common ∨ after.2.type = .dynamic := by
    intro after member
    obtain ⟨before, inLocated, -, one⟩ := Outcome.exists_of_forall₂ related member
    obtain ⟨result, same, typed⟩ := agree.each before.2 (List.mem_map_of_mem inLocated)
    exact Except.ok.inj (same.symm.trans one) ▸ typed
  have leads : ∃ after ∈ converted, after.2.type = common := by
    obtain ⟨item, member, result, one, typed⟩ := agree.leader
    obtain ⟨after, inConverted, rfl⟩ := exists_of_convertEach each member one
    exact ⟨after, inConverted, typed⟩
  have agreed : Ty.unify (converted.map fun entry => entry.2.type) = some common := by
    exact Ty.unify_of_members (List.mem_map.mpr leads) (List.forall_mem_map.mpr types)
  obtain ⟨settled, eachSettled⟩ : ∃ settled, convertEach (settle common) converted = .ok settled := by
    refine exists_convertEach fun after member => ?_
    rcases types after member with typed | isDynamic
    · exact ⟨after.2, by simp [settle, typed]⟩
    · exact ⟨_, settle_of_type_dynamic static isDynamic⟩
  have relatedSettled := convertEach_eq_ok eachSettled
  refine ⟨settled.map Prod.snd, ?_, converted, each, ?_⟩
  · rw [List.forall₂_map_left_iff, List.forall₂_map_right_iff]
    exact Outcome.forall₂_comp related relatedSettled fun _ after _ one settles =>
      ⟨after.2, one.2, settles.2⟩
  · obtain ⟨after, member, -⟩ := leads
    exact commonElements_eq_ok.mpr (.settled dynamic (List.ne_nil_of_mem member) agreed eachSettled)

end Dynamic

/-! ### Null elements -/

section Nulls

variable {element common : Ty} (dynamic : element.hasDynamic = true)
include dynamic

/-- A type with dynamic parts leaves the nulls that it accepts as they are. -/
theorem convertTo_null (ty : Ty) :
    convertTo element (.null ty) = if ty.canConvert element then .ok (.null ty) else mismatch element := by
  by_cases accepted : ty.canConvert element = true
  · have rests : Rests element (.null ty) := .ofAbsent dynamic rfl accepted
    rw [if_pos accepted, rests.again]
  · have differs : (Value.null ty).type ≠ element := by
      rintro rfl
      exact accepted (Ty.canConvert_refl _)
    have static : element.isDynamic = false := by
      rw [Bool.eq_false_iff, ne_eq, Ty.isDynamic_iff]
      rintro rfl
      exact accepted (Ty.canConvert_to_dynamic ty)
    rw [if_neg accepted, convertTo_of_absent differs static rfl, convertAbsent]
    simp [type, accepted]

variable {items : List Value}
  (agree : AgreeOn element common (items.filter fun item => !item.isNull))
include agree

/-- Nulls of the type on which their siblings agree, and of the dynamic type, agree with them. -/
theorem AgreeOn.withNulls (nulls : ∀ ty, .null ty ∈ items → ty = common ∨ ty = .dynamic) :
    AgreeOn element common items where
  accepted := agree.accepted
  each item member := by
    cases item with
    | null ty =>
        have types := nulls ty member
        have accepted : ty.canConvert element = true := by
          rcases types with rfl | rfl
          · exact agree.accepted
          · exact Ty.canConvert_dynamic element
        exact ⟨.null ty, by rw [convertTo_null dynamic, if_pos accepted], types⟩
    | _ => exact agree.each _ (List.mem_filter.mpr ⟨member, rfl⟩)
  leader := by
    obtain ⟨item, member, leads⟩ := agree.leader
    exact ⟨item, (List.mem_filter.mp member).1, leads⟩

/-- Such a null becomes one of the common type. -/
theorem AgreeOn.null_becomes (static : common.hasDynamic = false) {ty : Ty} {result : Value}
    (types : ty = common ∨ ty = .dynamic) (becomes : Becomes element common (.null ty) result) :
    result = .null common := by
  obtain ⟨converted, one, settles⟩ := becomes
  rw [convertTo_null dynamic] at one
  split at one
  · obtain rfl := Except.ok.inj one
    rcases types with rfl | rfl
    · simpa [settle, type] using settles.symm
    · rw [settle_of_type_dynamic static rfl] at settles
      exact (Except.ok.inj settles).symm
  · cases one

/-- Null elements are converted, or fail as conversions do. -/
theorem AgreeOn.isConversion_of_error {located : Located} (values : located.map Prod.snd = items)
    {fault : Fault} (failed : convertEach (convertTo element) located = .error fault) :
    fault.IsConversion := by
  obtain ⟨⟨step, item⟩, inLocated, inner, one, rfl⟩ := convertEach_eq_error failed
  rw [Fault.isConversion_under]
  have inItems : item ∈ items := values ▸ List.mem_map_of_mem (f := Prod.snd) inLocated
  cases item with
  | null ty =>
      rw [convertTo_null dynamic] at one
      split at one
      · cases one
      · exact ⟨_, _, (Except.error.inj one).symm⟩
  | _ =>
      obtain ⟨converted, success, -⟩ := agree.each _ (List.mem_filter.mpr ⟨inItems, rfl⟩)
      cases success.symm.trans one

/-- A converted null of another type has no type in common with its siblings. -/
theorem AgreeOn.unify_eq_none {located converted : Located} (values : located.map Prod.snd = items)
    (determined : element ≠ .dynamic) (static : common.hasDynamic = false) {ty : Ty}
    (member : .null ty ∈ items) (differs : ty ≠ common) (notDynamic : ty ≠ .dynamic)
    (each : convertEach (convertTo element) located = .ok converted) :
    converted ≠ [] ∧ Ty.unify (converted.map fun entry => entry.2.type) = none := by
  subst values
  obtain ⟨item, inItems, result, one, typed⟩ := agree.leader
  obtain ⟨leader, leads, rfl⟩ := exists_of_convertEach each (List.mem_filter.mp inItems).1 one
  have kept : ∃ after ∈ converted, after.2 = .null ty := by
    obtain ⟨before, inLocated, isNull⟩ := List.mem_map.mp member
    obtain ⟨after, inConverted, -, one⟩ :=
      Outcome.exists_of_forall₂ (convertEach_eq_ok each).flip inLocated
    rw [isNull, convertTo_null dynamic] at one
    split at one
    · exact ⟨after, inConverted, (Except.ok.inj one).symm⟩
    · cases one
  refine ⟨List.ne_nil_of_mem leads, ?_⟩
  cases unified : Ty.unify (converted.map fun entry => entry.2.type) with
  | none => rfl
  | some found =>
      obtain ⟨after, inConverted, isNull⟩ := kept
      have structured := Ty.structured_of_accepted dynamic determined agree.accepted
      have only := Ty.eq_of_unify_of_member unified (List.mem_map.mpr ⟨leader, leads, typed⟩)
        (fun same => nomatch same ▸ static) structured
        (List.mem_map.mpr ⟨after, inConverted, congrArg type isNull⟩)
      exact absurd only (not_or.mpr ⟨differs, notDynamic⟩)

/-- So with a null of another type among them the elements fail as conversions do. -/
theorem AgreeOn.refuses {located : Located} (values : located.map Prod.snd = items)
    (determined : element ≠ .dynamic) (static : common.hasDynamic = false) {ty : Ty}
    (member : .null ty ∈ items) (differs : ty ≠ common) (notDynamic : ty ≠ .dynamic) (fallback : Ty) :
    ∃ fault, (convertEach (convertTo element) located >>= commonElements element fallback) = .error fault ∧
      fault.IsConversion := by
  cases each : convertEach (convertTo element) located with
  | error fault => exact ⟨fault, rfl, agree.isConversion_of_error dynamic values each⟩
  | ok converted =>
      obtain ⟨nonempty, disagree⟩ :=
        agree.unify_eq_none dynamic values determined static member differs notDynamic each
      refine ⟨.conversion [] .inconsistentTypes, ?_, _, _, rfl⟩
      change commonElements element fallback converted = _
      simp only [commonElements, dynamic, Bool.not_true, Bool.false_eq_true, if_false, List.isEmpty_iff,
        nonempty, disagree]

end Nulls

/-! ### Collections -/

/-- How a collection type takes the elements of a value: the elements with the steps that lead to them, the
    type that they have as elements of the value, and the collection that such elements of one type make. -/
inductive Takes (element : Ty) (value : Value) :
    Ty → Located → Option Ty → (Ty → List Value → Value) → Prop
  | list {located : Located} {own : Option Ty} (parts : sequence? value = some (located, own)) :
      Takes element value (.list element) located own .list
  | set {located : Located} {own : Option Ty} (parts : sequence? value = some (located, own)) :
      Takes element value (.set element) located own fun common items => .set common (withoutRepeats items)
  | map {entries : List (String × Value)} {own : Option Ty} (parts : mapping? value = some (entries, own)) :
      Takes element value (.map element) (entries.map fun entry => (Step.key entry.1, entry.2)) own
        fun common items => .map common ((entries.map Prod.fst).zip items)

/-- The value without its null elements. -/
def withoutNulls : Value → Value
  | .list element items => .list element (items.filter fun item => !item.isNull)
  | .set element items => .set element (items.filter fun item => !item.isNull)
  | .tuple items => .tuple (items.filter fun item => !item.isNull)
  | .map element entries => .map element (entries.filter fun entry => !entry.2.isNull)
  | .object entries => .object (entries.filter fun entry => !entry.2.isNull)
  | value => value

theorem withoutNulls_wellFormed {value : Value} (inner : value.WellFormed) : value.withoutNulls.WellFormed := by
  have kept {α : Type} {P : α → Prop} {keep : α → Bool} {items : List α} (each : ∀ item ∈ items, P item) :
      ∀ item ∈ items.filter keep, P item :=
    fun item member => each item (List.mem_filter.mp member).1
  have distinct {entries : List (String × Value)} {keep : String × Value → Bool}
      (nodup : (entries.map Prod.fst).Nodup) : ((entries.filter keep).map Prod.fst).Nodup :=
    nodup.sublist (List.filter_sublist.map Prod.fst)
  cases inner with
  | list outer fits inner => exact .list outer (kept fits) (kept inner)
  | set outer fits differ inner => exact .set outer (kept fits) (differ.filter _) (kept inner)
  | tuple _ inner => exact .ofItems (kept inner)
  | map outer nodup fits inner => exact .map outer (distinct nodup) (kept fits) (kept inner)
  | object nodup _ inner => exact .ofEntries (distinct nodup) (kept inner)
  | null outer => exact .null outer
  | unknown outer => exact .unknown outer
  | bool flag => exact .bool flag
  | number amount => exact .number amount
  | string normal => exact .string normal

/-- Collections keep their type, as it does not depend on the elements. -/
theorem type_withoutNulls {value : Value} {word : String} {element : Ty}
    (collection : value.type.collection? = some (word, element)) : value.withoutNulls.type = value.type := by
  cases value with
  | object | tuple => cases collection
  | _ => rfl

/-- A conversion to a collection takes the elements of the value, unless it leaves the value as it is. -/
theorem exists_takes {want element common : Ty} {word other : String} {value result : Value}
    (collection : want.collection? = some (word, element)) (present : value.isAbsent = false)
    (differs : value.type ≠ want) (converted : convertTo want value = .ok result)
    (ownType : result.type.collection? = some (other, common)) :
    ∃ located own whole items, Takes element value want located own whole ∧
      Collected element own located items common := by
  cases converts_of_convertTo converted with
  | whole whole =>
      cases whole with
      | same already =>
          rcases already with rfl | same
          · cases collection
          · exact absurd same differs
      | absent absent => cases present.symm.trans absent
      | primitive _ primitive =>
          cases want with
          | list | set | map => cases value <;> cases primitive
          | _ => cases collection
  | list _ parts collected built =>
      cases collection
      obtain ⟨_, found, rfl⟩ := listOf_eq_ok built
      obtain ⟨rfl, -⟩ := elementType_check_eq_ok.mp found
      cases ownType
      exact ⟨_, _, _, _, .list parts, collected⟩
  | set _ parts collected built =>
      cases collection
      obtain ⟨_, found, rfl⟩ := setOf_eq_ok built
      obtain ⟨rfl, -⟩ := elementType_check_eq_ok.mp found
      cases ownType
      exact ⟨_, _, _, _, .set parts, collected⟩
  | map _ parts collected built =>
      cases collection
      obtain ⟨_, found, rfl⟩ := mapOf_eq_ok built
      obtain ⟨rfl, -⟩ := elementType_check_eq_ok.mp found
      cases ownType
      exact ⟨_, _, _, _, .map parts, collected⟩
  | tuple | object => cases collection

namespace Takes

variable {want element : Ty} {value : Value} {located : Located} {own : Option Ty}
  {whole : Ty → List Value → Value}

/-- The null elements are taken with the others. -/
theorem withNulls (takes : Takes element value.withoutNulls want located own whole) :
    ∃ all own whole, Takes element value want all own whole ∧
      (all.map Prod.snd).filter (fun item => !item.isNull) = located.map Prod.snd := by
  cases takes with
  | list parts =>
      cases value with
      | list | set | tuple =>
          cases parts
          exact ⟨_, _, _, .list rfl, by simp [snd_atPositions]⟩
      | _ => cases parts
  | set parts =>
      cases value with
      | list | set | tuple =>
          cases parts
          exact ⟨_, _, _, .set rfl, by simp [snd_atPositions]⟩
      | _ => cases parts
  | map parts =>
      cases value with
      | map | object =>
          cases parts
          exact ⟨_, _, _, .map rfl, by simp [List.filter_map, Function.comp_def]⟩
      | _ => cases parts

variable (takes : Takes element value want located own whole)
include takes

theorem present : value.isAbsent = false := by
  rw [Bool.eq_false_iff]
  intro absent
  obtain ⟨noSequence, noMapping⟩ := leaf_iff.mp (.inl absent)
  cases takes with
  | list parts | set parts => cases noSequence.symm.trans parts
  | map parts => cases noMapping.symm.trans parts

/-- Collected elements make the whole. -/
theorem convertTo_eq_ok (inner : value.WellFormed) (differs : value.type ≠ want) {common : Ty}
    {items : List Value} (collected : Collected element own located items common)
    (fits : ∀ item ∈ items, Fits common item) : convertTo want value = .ok (whole common items) := by
  have present := takes.present
  cases takes with
  | list parts => exact collected.list present fits differs parts
  | set parts => exact collected.set present fits differs parts
  | map parts =>
      exact collected.map present fits differs parts (inner.mapping? parts).1 (by simpa using collected.length)

/-- Elements that are not brought together make no whole. -/
theorem convertTo_eq_error (differs : value.type ≠ want) {fault : Fault}
    (failed : (convertEach (convertTo element) located >>= commonElements element (fallbackType element own)) =
      .error fault) : convertTo want value = .error fault := by
  have present := takes.present
  have stops (next : List Value × Ty → Outcome Value) :
      (convertEach (fun item => convertTo element item) located >>= fun converted =>
        commonElements element (fallbackType element own) converted >>= next) = .error fault := by
    rw [← bind_assoc]
    exact congrArg (· >>= next) failed
  cases takes with
  | list parts =>
      rw [convertTo_list present differs, parts]
      exact stops _
  | set parts =>
      rw [convertTo_set present differs, parts]
      exact stops _
  | map parts =>
      rw [convertTo_map present differs, parts]
      exact stops _

/-- The whole is a collection of the wanted kind. -/
theorem collection?_whole {word : String} (collection : want.collection? = some (word, element)) (common : Ty)
    (items : List Value) : (whole common items).type.collection? = some (word, common) := by
  cases takes <;> cases collection <;> rfl

theorem element_wellFormed (outer : want.WellFormed) : element.WellFormed := by
  cases takes <;> cases outer <;> assumption

theorem wellFormed (inner : value.WellFormed) :
    (∀ entry ∈ located, entry.2.WellFormed) ∧ ∀ ty ∈ own, ty.WellFormed := by
  cases takes with
  | list parts | set parts => exact inner.sequence? parts
  | map parts =>
      obtain ⟨-, inner, own⟩ := inner.mapping? parts
      exact ⟨List.forall_mem_map.mpr inner, own⟩

/-- The elements are the parts of the value. -/
theorem exists_step (inner : value.WellFormed) {part : Value} (member : part ∈ located.map Prod.snd) :
    ∃ step, value.part? step = some part := by
  obtain ⟨entry, inLocated, rfl⟩ := List.mem_map.mp member
  cases takes with
  | list parts | set parts =>
      obtain ⟨_, -, leads⟩ := exists_position parts inLocated
      exact ⟨entry.1, leads⟩
  | map parts =>
      obtain ⟨named, inEntries, rfl⟩ := List.mem_map.mp inLocated
      have found := lookup_of_mem (inner.mapping? parts).1 inEntries
      exact ⟨.key named.1, (part?_of_mapping? parts named.1).2.trans found⟩

/-- What is related to a part of the value is found in the whole by the same step. In a set another step may
    lead to it, or to an element that is equal to it. -/
theorem exists_place (inner : value.WellFormed) {Related : Value → Value → Prop} {items : List Value}
    (items_wellFormed : ∀ item ∈ items, item.WellFormed)
    (related : List.Forall₂ Related (located.map Prod.snd) items) {step : Step} {part : Value}
    (leads : value.part? step = some part) (common : Ty) :
    ∃ item ∈ items, Related part item ∧ ∃ place found, (whole common items).part? place = some found ∧
      exactlyEqual item found = true ∧ (place = step ∨ want = .set element) := by
  have among {before : List Value} (values : located.map Prod.snd = before) {index : Int}
      (found : itemAt? before index = some part) :
      ∃ item, itemAt? items index = some item ∧ item ∈ items ∧ Related part item := by
    obtain ⟨item, placed⟩ := exists_itemAt? (values ▸ related.length_eq) found
    exact ⟨item, placed, mem_of_itemAt? placed,
      List.forall₂_zip related (values.symm ▸ itemAt?_zip found placed)⟩
  cases takes with
  | list parts =>
      cases value with
      | list | set | tuple =>
          cases parts
          cases step with
          | position index =>
              obtain ⟨item, placed, member, pair⟩ := among (snd_atPositions _) leads
              exact ⟨item, member, pair, .position index, item, placed,
                exactlyEqual_refl (items_wellFormed item member), .inl rfl⟩
          | _ => cases leads
      | _ => cases parts
  | set parts =>
      cases value with
      | list | set | tuple =>
          cases parts
          cases step with
          | position index =>
              obtain ⟨item, -, member, pair⟩ := among (snd_atPositions _) leads
              obtain ⟨found, kept, equal⟩ := exists_mem_withoutRepeats items_wellFormed member
              obtain ⟨position, placed⟩ := List.getElem?_of_mem kept
              exact ⟨item, member, pair, .position position, found,
                (itemAt?_natCast _ position).trans placed, equal, .inr rfl⟩
          | _ => cases leads
      | _ => cases parts
  | @map entries _ parts =>
      rw [List.map_map, List.forall₂_map_left_iff] at related
      have named := Outcome.forall₂_zip_keys (List.forall₂_same.mpr fun entry _ => Eq.refl entry) related
      have keys : ((entries.map Prod.fst).zip items).map Prod.fst = entries.map Prod.fst :=
        List.map_fst_zip (by simp [related.length_eq])
      have nodup : (((entries.map Prod.fst).zip items).map Prod.fst).Nodup := by
        rw [keys]
        exact (inner.mapping? parts).1
      have under {name : String} (found : entries.lookup name = some part) :
          ∃ item, ((entries.map Prod.fst).zip items).lookup name = some item ∧ item ∈ items ∧
            Related part item := by
        obtain ⟨⟨key, item⟩, member, _, rfl, rfl, pair⟩ :=
          Outcome.exists_of_forall₂ named.flip (mem_of_lookup found)
        exact ⟨item, lookup_of_mem nodup member, (List.of_mem_zip member).2, pair⟩
      cases step with
      | attr name =>
          obtain ⟨item, placed, member, pair⟩ := under ((part?_of_mapping? parts name).1 ▸ leads)
          exact ⟨item, member, pair, .attr name, item, placed,
            exactlyEqual_refl (items_wellFormed item member), .inl rfl⟩
      | key name =>
          obtain ⟨item, placed, member, pair⟩ := under ((part?_of_mapping? parts name).2 ▸ leads)
          exact ⟨item, member, pair, .key name, item, placed,
            exactlyEqual_refl (items_wellFormed item member), .inl rfl⟩
      | position index =>
          cases value with
          | map | object => cases leads
          | _ => cases parts

/-- The parts of the value are the elements. -/
theorem mem_of_part? (inner : value.WellFormed) {step : Step} {part : Value}
    (leads : value.part? step = some part) : part ∈ located.map Prod.snd := by
  obtain ⟨item, member, rfl, -⟩ := takes.exists_place inner
    (List.forall_mem_map.mpr (takes.wellFormed inner).1) (List.forall₂_same.mpr fun item _ => Eq.refl item)
    leads .dynamic
  exact member

end Takes

/-! ### Null elements of collections -/

/-- Null elements take the type on which their siblings agree, if they have that type or the dynamic one.
    With a null element of another type the conversion fails, since the elements no longer agree. -/
theorem convert_nullElements {target element common : Ty} {word : String} {value siblings : Value}
    (outer : target.WellFormed) (inner : value.WellFormed)
    (collection : target.collection? = some (word, element)) (dynamic : element.hasDynamic = true)
    (determined : element ≠ .dynamic)
    (nonempty : ∃ step sibling, value.withoutNulls.part? step = some sibling)
    (converted : value.withoutNulls.convert target = .ok siblings)
    (agreed : siblings.type.collection? = some (word, common)) (static : common.hasDynamic = false) :
    ((∀ step ty, value.part? step = some (.null ty) → ty = common ∨ ty = .dynamic) →
        ∃ result, value.convert target = .ok result ∧ result.type.collection? = some (word, common) ∧
          ∀ step ty, value.part? step = some (.null ty) →
            ∃ place, result.part? place = some (.null common) ∧ (place = step ∨ target = .set element)) ∧
      ((∃ step ty, value.part? step = some (.null ty) ∧ ty ≠ common ∧ ty ≠ .dynamic) →
        ∃ fault, value.convert target = .error fault ∧ fault.IsConversion) := by
  have siblingsInner := withoutNulls_wellFormed inner
  have siblingsPresent : value.withoutNulls.isAbsent = false := by
    obtain ⟨step, sibling, leads⟩ := nonempty
    generalize value.withoutNulls = rest at leads
    cases rest with
    | null | unknown => cases step <;> cases leads
    | _ => rfl
  -- A value that has the type already keeps its element type, which has dynamic parts.
  have siblingsDiffer : value.withoutNulls.type ≠ target := by
    rintro rfl
    obtain rfl := Except.ok.inj ((convertTo_type _).symm.trans converted)
    obtain rfl : element = common := by simpa using collection.symm.trans agreed
    cases static.symm.trans dynamic
  have differs : value.type ≠ target := by
    rintro rfl
    exact siblingsDiffer (type_withoutNulls collection)
  obtain ⟨located, _, _, _, takesSiblings, collected⟩ :=
    exists_takes collection siblingsPresent siblingsDiffer converted agreed
  obtain ⟨all, own, whole, takes, rest⟩ := takesSiblings.withNulls
  have elementOuter := takes.element_wellFormed outer
  have agree : AgreeOn element common ((all.map Prod.snd).filter fun item => !item.isNull) := by
    rw [rest]
    refine collected.agree dynamic static elementOuter
      (List.forall_mem_map.mpr (takesSiblings.wellFormed siblingsInner).1) ?_ determined
    rintro rfl
    obtain ⟨step, sibling, leads⟩ := nonempty
    cases takesSiblings.mem_of_part? siblingsInner leads
  constructor
  · intro nulls
    have nullItems : ∀ ty, .null ty ∈ all.map Prod.snd → ty = common ∨ ty = .dynamic := by
      intro ty member
      obtain ⟨step, leads⟩ := takes.exists_step inner member
      exact nulls step ty leads
    obtain ⟨items, becomes, collected⟩ := (agree.withNulls dynamic nullItems).collected dynamic static own
    have typed : ∀ item ∈ items, item.type = common := by
      intro item member
      obtain ⟨_, -, _, -, settles⟩ := Outcome.exists_of_forall₂ becomes member
      exact type_of_settle static settles
    have itemsInner := (collected.wellFormed elementOuter (takes.wellFormed inner).2
      fun before member item one => convertTo_wellFormed elementOuter
        ((takes.wellFormed inner).1 before member) one).2
    refine ⟨whole common items, takes.convertTo_eq_ok inner differs collected
      (fun item member => .inr (typed item member)), takes.collection?_whole collection common items, ?_⟩
    intro step ty leads
    obtain ⟨item, -, one, place, found, placed, equal, whereTo⟩ :=
      takes.exists_place inner itemsInner becomes leads common
    obtain rfl := agree.null_becomes dynamic static (nulls step ty leads) one
    obtain rfl := eq_of_exactlyEqual (.inl rfl) equal
    exact ⟨place, placed, whereTo⟩
  · rintro ⟨step, ty, leads, other, notDynamic⟩
    obtain ⟨fault, failed, isConversion⟩ := agree.refuses dynamic rfl determined static
      (takes.mem_of_part? inner leads) other notDynamic (fallbackType element own)
    exact ⟨fault, takes.convertTo_eq_error differs failed, isConversion⟩

/-- Two nulls beside a list of truth values, one of the type of that list and one of the dynamic type. -/
theorem convert_nullElements_rows :
    let rows := Value.tuple [.null (.list .bool), .null .dynamic, .list .bool [.bool true]]
    ∃ result, rows.convert (.list (.list .dynamic)) = .ok result ∧
      result.type.collection? = some ("list", .list .bool) ∧
      result.part? (.position 0) = some (.null (.list .bool)) ∧
      result.part? (.position 1) = some (.null (.list .bool)) := by
  intro rows
  have row : (Value.list .bool [.bool true]).WellFormed :=
    .list .bool (by simp [Fits, type]) (List.forall_mem_singleton.mpr (.bool true))
  have inner : rows.WellFormed := .ofItems <| List.forall_mem_cons.mpr ⟨.null (.list .bool),
    List.forall_mem_cons.mpr ⟨.null .dynamic, List.forall_mem_singleton.mpr row⟩⟩
  have nulls : ∀ step ty, rows.part? step = some (.null ty) → ty = .list .bool ∨ ty = .dynamic := by
    intro step ty leads
    cases step with
    | position index => simpa [rows] using mem_of_itemAt? leads
    | _ => cases leads
  obtain ⟨result, converted, agreed, places⟩ :=
    (convert_nullElements (.list (.list .dynamic)) inner rfl rfl (by simp) ⟨.position 0, _, rfl⟩ rfl rfl
      rfl).1 nulls
  have placed {step : Step} {ty : Ty} (leads : rows.part? step = some (.null ty)) :
      result.part? step = some (.null (.list .bool)) := by
    obtain ⟨_, found, rfl | never⟩ := places step ty leads
    · exact found
    · cases never
  exact ⟨result, converted, agreed, placed rfl, placed rfl⟩

/-- A null that could become one of the type of its sibling, but has a type of its own: the elements do not
    agree, and the conversion fails. -/
theorem convert_disagreeingNull :
    ∃ value siblings : Value, value.WellFormed ∧
      (∃ step sibling, value.withoutNulls.part? step = some sibling) ∧
      value.withoutNulls.convert (.list (.list .dynamic)) = .ok siblings ∧
      siblings.type.collection? = some ("list", .list .bool) ∧
      (∀ step ty, value.part? step = some (.null ty) → ty.canConvert (.list .bool) = true) ∧
      ∀ result, value.convert (.list (.list .dynamic)) ≠ .ok result := by
  have row : (Value.list .bool [.bool true]).WellFormed :=
    .list .bool (by simp [Fits, type]) (List.forall_mem_singleton.mpr (.bool true))
  refine ⟨.tuple [.null (.list .string), .list .bool [.bool true]], _, .ofItems ?_,
    ⟨.position 0, _, rfl⟩, rfl, rfl, ?_, fun result success => by cases success⟩
  · exact List.forall_mem_cons.mpr ⟨.null (.list .string), List.forall_mem_singleton.mpr row⟩
  · intro step ty leads
    cases step with
    | position index =>
        obtain rfl : ty = .list .string := by simpa using mem_of_itemAt? leads
        rfl
    | _ => cases leads

end Value

end Crosswalk
