/-
Module: Crosswalk.Proofs.Value.Typing
Purpose: Values that have a type throughout: every element, attribute and position has the type that the
  outer type prescribes there. Well-formed values have their own types throughout, unless those have dynamic
  parts, and so do the results of conversions.
Main exports: Value.HasType, Value.HasType.type_eq, Value.WellFormed.hasType, Value.convertTo_hasType,
  Value.convertTo_absent, Value.convertTo_present
-/
import Crosswalk.Proofs.Value.Conversion

namespace Crosswalk.Value

/-! ### Typing

An object has an entry for each attribute of its type and no others, in whatever order. -/

/-- A value has a type, and all its parts have the types prescribed for them. -/
inductive HasType : Value → Ty → Prop
  | null (ty : Ty) : HasType (.null ty) ty
  | unknown (ty : Ty) : HasType (.unknown ty) ty
  | bool (flag : Bool) : HasType (.bool flag) .bool
  | number (amount : Decimal) : HasType (.number amount) .number
  | string (text : String) : HasType (.string text) .string
  | list {element : Ty} {items : List Value} (inner : ∀ item ∈ items, HasType item element) :
      HasType (.list element items) (.list element)
  | set {element : Ty} {items : List Value} (inner : ∀ item ∈ items, HasType item element) :
      HasType (.set element items) (.set element)
  | map {element : Ty} {entries : List (String × Value)}
      (inner : ∀ entry ∈ entries, HasType entry.2 element) :
      HasType (.map element entries) (.map element)
  | object {attributes : List (String × Ty)} {entries : List (String × Value)}
      (keys : (entries.map Prod.fst).Perm (attributes.map Prod.fst))
      (inner : ∀ name value ty, entries.lookup name = some value →
        Ty.attribute? attributes name = some ty → HasType value ty) :
      HasType (.object entries) (.object attributes)
  | tuple {elements : List Ty} {items : List Value} (length : items.length = elements.length)
      (inner : ∀ pair ∈ items.zip elements, HasType pair.1 pair.2) :
      HasType (.tuple items) (.tuple elements)

/-- A tuple has a type throughout if its items have the types of their positions. -/
theorem HasType.ofForall₂ {items : List Value} {elements : List Ty}
    (typed : List.Forall₂ HasType items elements) : HasType (.tuple items) (.tuple elements) :=
  .tuple typed.length_eq fun _ member => List.forall₂_zip typed member

/-- An object has a type throughout if its entries have the names and types of the attributes. -/
theorem HasType.ofNames {entries : List (String × Value)} {attributes : List (String × Ty)}
    (sorted : Ty.Sorted attributes) (names : entries.map Prod.fst = attributes.map Prod.fst)
    (typed : ∀ entry ∈ entries, ∃ want ∈ attributes, entry.1 = want.1 ∧ HasType entry.2 want.2) :
    HasType (.object entries) (.object attributes) := by
  apply HasType.object (names ▸ .refl _)
  intro name value ty found attr
  obtain ⟨⟨key, want⟩, inWants, rfl, here⟩ := typed _ (mem_of_lookup found)
  have asked : Ty.attribute? attributes name = some want := lookup_of_mem sorted.nodup inWants
  exact Option.some.inj (asked.symm.trans attr) ▸ here

/-- A value that has a type throughout has it as its own type. -/
theorem HasType.type_eq {value : Value} {ty : Ty} (typed : HasType value ty)
    (outer : ty.WellFormed) : value.type = ty := by
  induction typed with
  | null | unknown | bool | number | string | list | set | map => rfl
  | @object attributes entries keys _ ih =>
      cases outer with
      | object sorted parts =>
          have nodup : (entries.map Prod.fst).Nodup := keys.nodup_iff.mpr sorted.nodup
          apply Ty.objectOf_eq_of_lookup sorted (keys_entryTypes entries ▸ nodup)
          intro name
          rw [lookup_entryTypes]
          cases found : entries.lookup name with
          | none =>
              have absent := mt keys.mem_iff.mpr (not_mem_of_lookup_eq_none found)
              exact (lookup_eq_none_of_not_mem absent).symm
          | some value =>
              have member := keys.mem_iff.mp (List.mem_map.mpr ⟨_, mem_of_lookup found, rfl⟩)
              obtain ⟨⟨key, ty⟩, inAttributes, rfl⟩ := List.mem_map.mp member
              have attr := lookup_of_mem sorted.nodup inAttributes
              rw [attr, Option.map_some, ih key value ty found attr (parts _ inAttributes)]
  | @tuple elements items length _ ih =>
      cases outer with
      | tuple parts =>
          refine congrArg Ty.tuple ((itemTypes_eq_map items).trans ?_)
          rw [← List.forall₂_eq_eq_eq, List.forall₂_map_left_iff, List.forall₂_iff_zip]
          exact ⟨length, fun member => ih _ member (parts _ (List.of_mem_zip member).2)⟩

/-- A well-formed value has its own type throughout, unless the type has dynamic parts. -/
theorem WellFormed.hasType {value : Value} (wellFormed : value.WellFormed)
    (static : value.type.hasDynamic = false) : HasType value value.type := by
  induction wellFormed with
  | null => exact .null _
  | unknown => exact .unknown _
  | bool flag => exact .bool flag
  | number amount => exact .number amount
  | string => exact .string _
  | list _ fits _ ih =>
      apply HasType.list
      intro item member
      rcases fits item member with rfl | rfl
      · cases static
      · exact ih item member static
  | set _ fits _ _ ih =>
      apply HasType.set
      intro item member
      rcases fits item member with rfl | rfl
      · cases static
      · exact ih item member static
  | map _ _ fits _ ih =>
      apply HasType.map
      intro entry member
      rcases fits entry member with rfl | same
      · cases static
      · exact same ▸ ih entry member (same ▸ static)
  | @object entries nodup described _ ih =>
      obtain ⟨attributes, isObject, sorted, same⟩ := described
      rw [isObject] at static ⊢
      refine .object ?_ fun name value ty found attr => ?_
      · have names : (sortBy (fun a b => textPrecedes a.1 b.1) (entryTypes entries)) = attributes :=
          Ty.object.inj isObject
        rw [← names, ← keys_entryTypes]
        exact ((sortBy_perm _ _).map Prod.fst).symm
      · have typeOf : value.type = ty := by
          have attrOf := same name
          rw [attr, found] at attrOf
          exact (Option.some.inj attrOf).symm
        subst typeOf
        exact ih _ (mem_of_lookup found) (Ty.hasDynamic_attribute static (mem_of_lookup attr))
  | @tuple items described _ ih =>
      rw [described] at static ⊢
      refine .ofForall₂ (List.forall₂_map_right_iff.mpr (List.forall₂_same.mpr fun item member => ?_))
      exact ih item member (Ty.hasDynamic_element static (List.mem_map_of_mem member))

/-! ### Results of conversions -/

theorem PrimitiveOf.hasType {want : Ty} {result : Value} (primitive : PrimitiveOf want result)
    (static : want.hasDynamic = false) : HasType result want := by
  obtain ⟨wellFormed, rfl, -⟩ := primitive
  exact wellFormed.hasType static

theorem ConvertsWhole.hasType {want : Ty} {value result : Value}
    (whole : ConvertsWhole want value result) (inner : value.WellFormed)
    (static : want.hasDynamic = false) : HasType result want := by
  cases whole with
  | same already =>
      rcases already with rfl | rfl
      · cases static
      · exact inner.hasType static
  | absent _ converted =>
      rcases convertAbsent_eq_ok converted with ⟨dynamic, -⟩ | ⟨-, rfl⟩
      · cases static.symm.trans dynamic
      · split
        · exact .null want
        · exact .unknown want
  | primitive _ converted => exact (convertPrimitive_eq_ok converted).hasType static

/-- A value converted as a whole has the wanted type, unless that has dynamic parts. -/
theorem ConvertsWhole.type_eq {want : Ty} {value result : Value}
    (whole : ConvertsWhole want value result) (static : want.hasDynamic = false) :
    result.type = want := by
  cases whole with
  | same already =>
      rcases already with rfl | typed
      · cases static
      · exact typed
  | absent _ converted =>
      rcases convertAbsent_eq_ok converted with ⟨dynamic, -⟩ | ⟨-, rfl⟩
      · cases static.symm.trans dynamic
      · split <;> rfl
  | primitive _ converted => exact (convertPrimitive_eq_ok converted).type_eq

/-- What any value at all, well-formed or not, converts to has the wanted type, unless that has dynamic
    parts. -/
theorem type_of_convertTo {want : Ty} {value result : Value} (outer : want.WellFormed)
    (static : want.hasDynamic = false) (converted : convertTo want value = .ok result) :
    result.type = want := by
  induction outer generalizing value result with
  | bool | number | string | dynamic =>
      cases converts_of_convertTo converted with
      | whole whole => exact whole.type_eq static
  | list _ _ =>
      cases converts_of_convertTo converted with
      | whole whole => exact whole.type_eq static
      | list _ _ collected built =>
          obtain ⟨rfl, -⟩ := collected.static static
          obtain ⟨element, found, rfl⟩ := listOf_eq_ok built
          exact congrArg Ty.list (elementType_check_eq_ok.mp found).1.symm
  | set _ _ =>
      cases converts_of_convertTo converted with
      | whole whole => exact whole.type_eq static
      | set _ _ collected built =>
          obtain ⟨rfl, -⟩ := collected.static static
          obtain ⟨element, found, rfl⟩ := setOf_eq_ok built
          exact congrArg Ty.set (elementType_check_eq_ok.mp found).1.symm
  | map _ _ =>
      cases converts_of_convertTo converted with
      | whole whole => exact whole.type_eq static
      | map _ _ collected built =>
          obtain ⟨rfl, -⟩ := collected.static static
          obtain ⟨element, found, rfl⟩ := mapOf_eq_ok built
          exact congrArg Ty.map (elementType_check_eq_ok.mp found).1.symm
  | @object wants sorted _ ih =>
      cases converts_of_convertTo converted with
      | whole whole => exact whole.type_eq static
      | @object _ _ _ _ entries _ _ _ each =>
          have same : entryTypes entries = wants := by
            rw [entryTypes_eq_map, ← List.forall₂_eq_eq_eq, List.forall₂_map_left_iff]
            refine (Outcome.forall₂_of_mem (convertAttributes_eq_ok each) ?_).flip
            rintro want member entry ⟨name, value, -, step⟩
            have typed := ih want member (Ty.hasDynamic_attribute static member) step
            exact Prod.ext name typed
          change Ty.objectOf (entryTypes entries) = .object wants
          rw [same, Ty.objectOf_of_sorted sorted]
  | @tuple wants _ ih =>
      cases converts_of_convertTo converted with
      | whole whole => exact whole.type_eq static
      | @tuple _ _ _ located items _ parts length each =>
          have wantsOf : (wants.zip located).map Prod.fst = wants := List.map_fst_zip length.ge
          have typed := Outcome.forall₂_of_mem (convertElements_eq_ok each)
            fun part member item step =>
              ih part.1 (List.of_mem_zip member).1
                (Ty.hasDynamic_element static (List.of_mem_zip member).1) step
          refine congrArg Ty.tuple ((itemTypes_eq_map items).trans ?_)
          rw [← List.forall₂_eq_eq_eq, List.forall₂_map_left_iff, ← wantsOf, List.forall₂_map_right_iff]
          exact typed.flip

/-- The parts of a well-formed sequence converted to an element type have it throughout. -/
theorem Collected.hasType {element common : Ty} {own : Option Ty} {located : Located}
    {items : List Value} (collected : Collected element own located items common)
    (static : element.hasDynamic = false)
    (step : ∀ before ∈ located, ∀ item, convertTo element before.2 = .ok item → HasType item element) :
    common = element ∧ ∀ item ∈ items, HasType item element := by
  obtain ⟨rfl, each⟩ := collected.static static
  constructor
  · rfl
  · intro item member
    obtain ⟨before, inLocated, one⟩ := Outcome.exists_of_forall₂ each member
    exact step before inLocated item one

/-- The result of a conversion to a type without dynamic parts has that type throughout. -/
theorem convertTo_hasType {want : Ty} {value result : Value} (outer : want.WellFormed)
    (static : want.hasDynamic = false) (inner : value.WellFormed)
    (converted : convertTo want value = .ok result) : HasType result want := by
  induction outer generalizing value result with
  | bool | number | string | dynamic =>
      cases converts_of_convertTo converted with
      | whole whole => exact whole.hasType inner static
  | list _ ih =>
      cases converts_of_convertTo converted with
      | whole whole => exact whole.hasType inner static
      | list _ parts collected built =>
          obtain ⟨elements, -⟩ := inner.sequence? parts
          obtain ⟨rfl, typed⟩ := collected.hasType static
            fun before member item step => ih static (elements before member) step
          obtain ⟨element, found, rfl⟩ := listOf_eq_ok built
          obtain ⟨rfl, -⟩ := elementType_check_eq_ok.mp found
          exact .list typed
  | set _ ih =>
      cases converts_of_convertTo converted with
      | whole whole => exact whole.hasType inner static
      | set _ parts collected built =>
          obtain ⟨elements, -⟩ := inner.sequence? parts
          obtain ⟨rfl, typed⟩ := collected.hasType static
            fun before member item step => ih static (elements before member) step
          obtain ⟨element, found, rfl⟩ := setOf_eq_ok built
          obtain ⟨rfl, -⟩ := elementType_check_eq_ok.mp found
          exact .set fun item member => typed item (mem_of_mem_withoutRepeats member)
  | map _ ih =>
      cases converts_of_convertTo converted with
      | whole whole => exact whole.hasType inner static
      | map _ parts collected built =>
          obtain ⟨-, elements, -⟩ := inner.mapping? parts
          obtain ⟨rfl, typed⟩ := collected.hasType static <|
            List.forall_mem_map.mpr fun entry member item step => ih static (elements entry member) step
          obtain ⟨element, found, rfl⟩ := mapOf_eq_ok built
          obtain ⟨rfl, -⟩ := elementType_check_eq_ok.mp found
          refine .map fun entry member => typed _ ?_
          exact (List.of_mem_zip (mem_of_mem_entriesOf member)).2
  | object sorted _ ih =>
      cases converts_of_convertTo converted with
      | whole whole => exact whole.hasType inner static
      | object _ parts _ each =>
          obtain ⟨-, elements, -⟩ := inner.mapping? parts
          apply HasType.ofNames sorted (keys_of_convertAttributes each)
          intro entry member
          obtain ⟨want, inWants, same, value, found, step⟩ :=
            Outcome.exists_of_forall₂ (convertAttributes_eq_ok each) member
          exact ⟨want, inWants, same, ih want inWants (Ty.hasDynamic_attribute static inWants)
            (elements _ (mem_of_lookup found)) step⟩
  | @tuple wants _ ih =>
      cases converts_of_convertTo converted with
      | whole whole => exact whole.hasType inner static
      | @tuple _ _ _ located items _ parts length each =>
          obtain ⟨elements, -⟩ := inner.sequence? parts
          have wantsOf : (wants.zip located).map Prod.fst = wants := List.map_fst_zip length.ge
          have pairs := Outcome.forall₂_of_mem (convertElements_eq_ok each)
            fun part member item step =>
              ih part.1 (List.of_mem_zip member).1
                (Ty.hasDynamic_element static (List.of_mem_zip member).1)
                (elements _ (List.of_mem_zip member).2) step
          exact .ofForall₂ (wantsOf ▸ List.forall₂_map_right_iff.mpr pairs.flip)

/-! ### Nulls and unknowns -/

/-- The two marks of a value without data. -/
theorem isAbsent_eq_false {value : Value} :
    value.isAbsent = false ↔ value.isNull = false ∧ value.isKnown = true := by
  cases value <;> simp [isAbsent, isNull, isKnown]

/-- A conversion yields a null exactly for a null, and an unknown value exactly for an unknown one. -/
theorem convertTo_absent {want : Ty} {value result : Value}
    (converted : convertTo want value = .ok result) :
    result.isNull = value.isNull ∧ result.isKnown = value.isKnown := by
  cases converts_of_convertTo converted with
  | whole whole =>
      cases whole with
      | same => exact ⟨rfl, rfl⟩
      | absent absent converted =>
          rcases convertAbsent_eq_ok converted with ⟨-, rfl⟩ | ⟨-, rfl⟩
          · exact ⟨rfl, rfl⟩
          · cases value <;> simp_all [isAbsent, isNull, isKnown]
      | primitive present converted =>
          obtain ⟨notNull, known⟩ := isAbsent_eq_false.mp present
          obtain ⟨resultNotNull, resultKnown⟩ :=
            isAbsent_eq_false.mp (convertPrimitive_eq_ok converted).present
          exact ⟨resultNotNull.trans notNull.symm, resultKnown.trans known.symm⟩
  | list present _ _ built =>
      obtain ⟨notNull, known⟩ := isAbsent_eq_false.mp present
      obtain ⟨_, _, rfl⟩ := listOf_eq_ok built
      exact ⟨notNull.symm, known.symm⟩
  | set present _ _ built =>
      obtain ⟨notNull, known⟩ := isAbsent_eq_false.mp present
      obtain ⟨_, _, rfl⟩ := setOf_eq_ok built
      exact ⟨notNull.symm, known.symm⟩
  | map present _ _ built =>
      obtain ⟨notNull, known⟩ := isAbsent_eq_false.mp present
      obtain ⟨_, _, rfl⟩ := mapOf_eq_ok built
      exact ⟨notNull.symm, known.symm⟩
  | tuple present =>
      obtain ⟨notNull, known⟩ := isAbsent_eq_false.mp present
      exact ⟨notNull.symm, known.symm⟩
  | object present =>
      obtain ⟨notNull, known⟩ := isAbsent_eq_false.mp present
      exact ⟨notNull.symm, known.symm⟩

/-- The conversion of a value with data has data. -/
theorem convertTo_present {want : Ty} {value result : Value} (present : value.isAbsent = false)
    (converted : convertTo want value = .ok result) : result.isAbsent = false := by
  obtain ⟨sameNull, sameKnown⟩ := convertTo_absent converted
  rw [isAbsent_eq_false] at present ⊢
  exact ⟨sameNull.trans present.1, sameKnown.trans present.2⟩

end Crosswalk.Value
