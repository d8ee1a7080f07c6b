/-
Module: Crosswalk.Proofs.Value.Reconversion
Purpose: A second conversion to the same type changes nothing. Where the wanted type has dynamic parts the
  result of the first one need not have that type: values without data keep their own, and elements have the
  type on which they agreed. Such a result is accepted by the wanted type, its elements agree again, and so
  it comes out of the second conversion as it went in.
Main exports: Value.Rests, Value.RestTogether, Value.rests_list, Value.rests_set, Value.rests_map,
  Value.rests_tuple, Value.rests_object, Value.rests_of_convertTo
-/
import Crosswalk.Proofs.Ty.Unification
import Crosswalk.Proofs.Ty.Widening
import Crosswalk.Proofs.Value.Failure
import Crosswalk.Proofs.Value.Success

namespace Crosswalk

/-! ### Common types -/

namespace Ty

/-- Every type accepts its own values. -/
theorem canConvert_refl (ty : Ty) : ty.canConvert ty = true := by
  cases ty <;> simp [canConvert, acceptsFrom]

/-- The dynamic type accepts all values. -/
theorem canConvert_to_dynamic (given : Ty) : given.canConvert .dynamic = true := by
  simp [canConvert, acceptsFrom]

/-- Equal types have themselves in common. -/
theorem unify_of_eq {types : List Ty} {common : Ty} (nonempty : types ≠ [])
    (same : ∀ ty ∈ types, ty = common) : unify types = some common := by
  obtain ⟨ty, member⟩ := List.exists_mem_of_ne_nil types nonempty
  exact unify_of_members (same ty member ▸ member) fun ty inTypes => .inl (same ty inTypes)

/-- A common type that is none of the types has been found for primitive ones, or for none at all. -/
theorem unify_cases {types : List Ty} {common : Ty} (found : unify types = some common) :
    common = .dynamic ∨ common ∈ types ∨ (common = .string ∧ ∃ ty ∈ types, ty.isPrimitive = true) := by
  unfold unify at found
  split at found
  · exact .inl (Option.some.inj found).symm
  next ty only =>
      obtain rfl := Option.some.inj found
      exact .inr (.inl (mem_distinct.mp (only ▸ List.mem_singleton_self ty)).1)
  next several _ notOne =>
      split at found
      next primitive =>
          match several : distinct types with
          | [] => exact absurd several ‹_›
          | first :: _ =>
              have member : first ∈ distinct types := several ▸ List.mem_cons_self
              exact .inr (.inr ⟨(Option.some.inj found).symm, first, (mem_distinct.mp member).1,
                List.all_eq_true.mp primitive first member⟩)
      next => cases found

/-- Of the types with dynamic parts only the dynamic one accepts primitive values. -/
theorem eq_dynamic_of_primitive {want given : Ty} (dynamic : want.hasDynamic = true)
    (primitive : given.isPrimitive = true) (accepts : given.canConvert want = true) : want = .dynamic := by
  cases want with
  | dynamic => rfl
  | bool | number | string => cases dynamic
  | _ =>
      cases given with
      | bool | number | string => simp [canConvert, acceptsFrom, isDynamic] at accepts
      | _ => cases primitive

end Ty

namespace Value

/-! ### Values at rest -/

/-- A value that a type accepts and that its conversion to that type leaves as it is. -/
structure Rests (want : Ty) (value : Value) : Prop where
  again : convertTo want value = .ok value
  accepted : value.type.canConvert want = true

theorem Rests.ofType {want : Ty} {value : Value} (typed : value.type = want) : Rests want value :=
  typed ▸ ⟨convertTo_type value, Ty.canConvert_refl _⟩

theorem Rests.dynamic (value : Value) : Rests .dynamic value :=
  ⟨convert_dynamic value, Ty.canConvert_to_dynamic _⟩

/-- A value without data rests at the types with dynamic parts that accept it. -/
theorem Rests.ofAbsent {want : Ty} {value : Value} (dynamic : want.hasDynamic = true)
    (absent : value.isAbsent = true) (accepted : value.type.canConvert want = true) :
    Rests want value := by
  refine ⟨?_, accepted⟩
  rw [convertTo.eq_def]
  split
  · rfl
  · rw [convertAbsent, accepted, dynamic]
    rfl

/-- What a value without data becomes rests at the wanted type. -/
theorem rests_of_convertAbsent {want : Ty} {value result : Value} (absent : value.isAbsent = true)
    (converted : convertAbsent want value = .ok result) : Rests want result := by
  unfold convertAbsent at converted
  split at converted
  · cases converted
  next accepted =>
      split at converted
      next dynamic =>
          exact Except.ok.inj converted ▸ .ofAbsent dynamic absent (by simpa using accepted)
      next =>
          refine .ofType ?_
          rw [← Except.ok.inj converted]
          split <;> rfl

theorem ConvertsWhole.rests {want : Ty} {value result : Value} (whole : ConvertsWhole want value result) :
    Rests want result := by
  cases whole with
  | same already =>
      rcases already with rfl | typed
      · exact .dynamic value
      · exact .ofType typed
  | absent absent converted => exact rests_of_convertAbsent absent converted
  | primitive _ converted => exact .ofType (convertPrimitive_eq_ok converted).type_eq

/-! ### Elements of collections -/

/-- Elements of one type that rest at a wanted type. An empty collection of them keeps its element type. -/
structure RestTogether (element common : Ty) (items : List Value) : Prop where
  each : ∀ item ∈ items, Rests element item
  typed : ∀ item ∈ items, item.type = common
  empty : items = [] → fallbackType element (some common) = common

namespace RestTogether

variable {element common : Ty} {items : List Value} (rest : RestTogether element common items)
include rest

theorem fits : ∀ item ∈ items, Fits common item :=
  fun item member => .inr (rest.typed item member)

/-- The wanted element type accepts the one that the elements have. -/
theorem accepts : element.acceptsFrom common = true := by
  match items with
  | [] =>
      have empty := rest.empty rfl
      unfold fallbackType at empty
      split at empty
      next dynamic => exact Ty.isDynamic_iff.mp dynamic ▸ Ty.canConvert_to_dynamic common
      next => exact empty ▸ Ty.canConvert_refl element
  | item :: _ =>
      exact rest.typed item List.mem_cons_self ▸ (rest.each item List.mem_cons_self).accepted

/-- Converted again the elements are the same, and they agree on the same type. -/
theorem collected (dynamic : element.hasDynamic = true) {located : Located}
    (values : located.map Prod.snd = items) : Collected element (some common) located items common := by
  subst values
  have unchanged (convertOne : Value → Outcome Value)
      (same : ∀ entry ∈ located, convertOne entry.2 = .ok entry.2) :
      convertEach convertOne located = .ok located := by
    refine Outcome.mapM_eq_ok.mpr (List.forall₂_same.mpr fun entry member => ?_)
    exact Outcome.map_eq_ok.mpr ⟨entry.2, Outcome.under_eq_ok.mpr (same entry member), rfl⟩
  have first := unchanged (convertTo element) fun entry member =>
    (rest.each entry.2 (List.mem_map_of_mem member)).again
  refine ⟨located, first, ?_⟩
  rw [commonElements_eq_ok]
  by_cases none : located = []
  · subst none
    rw [rest.empty rfl]
    exact .empty dynamic rfl
  · have agreed : Ty.unify (located.map fun entry => entry.2.type) = some common := by
      apply Ty.unify_of_eq (mt List.map_eq_nil_iff.mp none)
      refine List.forall_mem_map.mpr fun entry member => ?_
      exact rest.typed entry.2 (List.mem_map_of_mem member)
    have settled := unchanged (settle common) fun entry member => by
      simp [settle, rest.typed entry.2 (List.mem_map_of_mem member)]
    exact .settled dynamic none agreed settled

end RestTogether

/-- Of the elements that rest together all those that are kept do so. -/
theorem RestTogether.among {element common : Ty} {items kept : List Value}
    (rest : RestTogether element common items) (among : ∀ item ∈ kept, item ∈ items)
    (empty : kept = [] → items = []) : RestTogether element common kept where
  each item member := rest.each item (among item member)
  typed item member := rest.typed item (among item member)
  empty none := rest.empty (empty none)

/-- No set of elements is empty for lack of repeats. -/
theorem eq_nil_of_withoutRepeats {items : List Value} (inner : ∀ item ∈ items, item.WellFormed)
    (none : withoutRepeats items = []) : items = [] := by
  refine List.eq_nil_iff_forall_not_mem.mpr fun item member => ?_
  obtain ⟨other, kept, -⟩ := exists_mem_withoutRepeats inner member
  rw [none] at kept
  cases kept

/-- A map of values under different keys has these entries, and the values fit its element type. -/
theorem mapOf_zip_eq_ok {keys : List String} (nodup : keys.Nodup) {values : List Value}
    (length : values.length = keys.length) {common : Ty} {result : Value}
    (built : mapOf (keys.zip values) (some common) = .ok result) :
    ∃ entries, result = .map common entries ∧ (entries.map Prod.fst).Nodup ∧
      entries.map Prod.snd = values ∧ ∀ value ∈ values, Fits common value := by
  have keysOf : (keys.zip values).map Prod.fst = keys := List.map_fst_zip length.ge
  have valuesOf : (keys.zip values).map Prod.snd = values := List.map_snd_zip length.le
  have different : ((keys.zip values).map Prod.fst).Nodup := by rwa [keysOf]
  obtain ⟨element, found, rfl⟩ := mapOf_eq_ok built
  obtain ⟨rfl, fits⟩ := elementType_check_eq_ok.mp found
  rw [entriesOf_of_nodup different] at fits ⊢
  exact ⟨_, rfl, different, valuesOf, valuesOf ▸ fits⟩

section Collections

variable {element common : Ty} {items : List Value} (dynamic : element.hasDynamic = true)
  (rest : RestTogether element common items)
include dynamic rest

theorem rests_list : Rests (.list element) (.list common items) := by
  by_cases typed : common = element
  · exact .ofType (congrArg Ty.list typed)
  · refine ⟨?_, by simp [Ty.canConvert, Ty.acceptsFrom, type, rest.accepts]⟩
    exact (rest.collected dynamic (snd_atPositions items)).list rfl rest.fits (by simpa [type] using typed) rfl

theorem rests_set (differ : items.Pairwise Differ) : Rests (.set element) (.set common items) := by
  by_cases typed : common = element
  · exact .ofType (congrArg Ty.set typed)
  · refine ⟨?_, by simp [Ty.canConvert, Ty.acceptsFrom, type, rest.accepts]⟩
    have again : convertTo (.set element) (.set common items) = .ok (.set common (withoutRepeats items)) :=
      (rest.collected dynamic (snd_atPositions items)).set rfl rest.fits (by simpa [type] using typed) rfl
    rwa [withoutRepeats_of_differ differ] at again

omit rest

theorem rests_map {entries : List (String × Value)} (nodup : (entries.map Prod.fst).Nodup)
    (rest : RestTogether element common (entries.map Prod.snd)) :
    Rests (.map element) (.map common entries) := by
  by_cases typed : common = element
  · exact .ofType (congrArg Ty.map typed)
  · refine ⟨?_, by simp [Ty.canConvert, Ty.acceptsFrom, type, rest.accepts]⟩
    have pairs : (entries.map Prod.fst).zip (entries.map Prod.snd) = entries := by
      simpa only [List.unzip_eq_map] using List.zip_unzip entries
    have again : convertTo (.map element) (.map common entries) =
        .ok (.map common ((entries.map Prod.fst).zip (entries.map Prod.snd))) :=
      (rest.collected dynamic (by simp)).map rfl rest.fits (by simpa [type] using typed) rfl nodup
        (List.length_map _)
    rwa [pairs] at again

end Collections

/-! ### Parts of structures -/

theorem rests_tuple {wants : List Ty} {items : List Value}
    (each : List.Forall₂ Rests wants items) : Rests (.tuple wants) (.tuple items) := by
  by_cases typed : (tuple items).type = .tuple wants
  · exact .ofType typed
  · have length := each.length_eq
    have pairs : ∀ part ∈ wants.zip items, Rests part.1 part.2 :=
      fun part member => List.forall₂_zip each member
    have accepts : Ty.acceptsElements wants (items.map type) = true := by
      apply (Ty.acceptsElements_iff (by simpa using length)).mpr
      rw [List.zip_map_right]
      exact List.forall_mem_map.mpr fun part member => (pairs part member).accepted
    have values := snd_atPositions items
    obtain ⟨results, related, converted⟩ := exists_tuple rfl typed rfl
      (by simpa [sequence?.atPositions] using length.symm)
      fun part member => ⟨part.2, (pairs part (values ▸ member)).again⟩
    rw [values] at related
    have same : List.Forall₂ (fun part result => part.2 = result) (wants.zip items) results :=
      Outcome.forall₂_of_mem related fun part member result one =>
        Except.ok.inj ((pairs part member).again.symm.trans one)
    rw [← List.forall₂_map_left_iff, List.map_snd_zip length.ge, List.forall₂_eq_eq_eq] at same
    exact ⟨same ▸ converted,
      by simp [Ty.canConvert, Ty.acceptsFrom, type, itemTypes_eq_map, accepts]⟩

theorem rests_object {wants : List (String × Ty)} (sorted : Ty.Sorted wants)
    {entries : List (String × Value)}
    (each : List.Forall₂ (fun want entry => entry.1 = want.1 ∧ Rests want.2 entry.2) wants entries) :
    Rests (.object wants) (.object entries) := by
  by_cases typed : (object entries).type = .object wants
  · exact .ofType typed
  · have keys := Outcome.keys_eq_of_forall₂ (each.imp fun _ _ pair => pair.1)
    have nodup : (entries.map Prod.fst).Nodup := keys ▸ sorted.nodup
    have named : List.Forall₂ (fun want entry => entry.1 = want.1 ∧
        entries.lookup want.1 = some entry.2 ∧ Rests want.2 entry.2) wants entries := by
      apply Outcome.forall₂_of_mem₂ each
      rintro want - entry member ⟨name, rests⟩
      exact ⟨name, name ▸ lookup_of_mem nodup member, rests⟩
    have found : ∀ want ∈ wants, ∃ item, entries.lookup want.1 = some item ∧ Rests want.2 item := by
      intro want member
      obtain ⟨entry, -, -, isItem, rests⟩ := Outcome.exists_of_forall₂ named.flip member
      exact ⟨entry.2, isItem, rests⟩
    obtain ⟨results, related, converted⟩ := exists_object rfl typed rfl rfl fun want member => by
      obtain ⟨item, isItem, rests⟩ := found want member
      exact ⟨item, isItem, item, rests.again⟩
    have same : List.Forall₂ Eq entries results := by
      apply Outcome.forall₂_comp named.flip related
      rintro ⟨name, item⟩ want ⟨again, result⟩ ⟨isName, isItem, rests⟩ ⟨isAgain, other, isOther, one⟩
      obtain rfl := Option.some.inj (isItem.symm.trans isOther)
      obtain rfl := Except.ok.inj (rests.again.symm.trans one)
      exact Prod.ext (isName.trans isAgain.symm) rfl
    rw [List.forall₂_eq_eq_eq] at same
    have accepts : Ty.acceptsAttributes wants
        (sortBy (fun a b => textPrecedes a.1 b.1) (entryTypes entries)) = true := by
      apply Ty.acceptsAttributes_iff.mpr
      intro want member
      obtain ⟨item, isItem, rests⟩ := found want member
      refine ⟨item.type, ?_, rests.accepted⟩
      rw [Ty.attribute?_sortBy (keys_entryTypes entries ▸ nodup), Ty.attribute?, lookup_entryTypes, isItem]
      rfl
    exact ⟨same ▸ converted, by simp [Ty.canConvert, Ty.acceptsFrom, type, Ty.objectOf, accepts]⟩

/-! ### Results of conversions -/

/-- An element that rests at the wanted type still does so after it has been brought to the type that it has
    in common with its siblings. -/
theorem Rests.settle {element common : Ty} (dynamic : element.hasDynamic = true) {items : List Value}
    (rest : ∀ item ∈ items, Rests element item) (agreed : Ty.unify (items.map type) = some common)
    {item result : Value} (member : item ∈ items) (settled : settle common item = .ok result) :
    Rests element result := by
  unfold Value.settle at settled
  split at settled
  · exact Except.ok.inj settled ▸ rest item member
  next differs =>
      simp only [Bool.or_eq_true, decide_eq_true_eq, not_or, Ty.isDynamic_iff] at differs
      have ofPrimitive {other : Value} (inItems : other ∈ items)
          (primitive : other.type.isPrimitive = true) : Rests element result := by
        obtain rfl := Ty.eq_dynamic_of_primitive dynamic primitive (rest other inItems).accepted
        exact .dynamic result
      split at settled
      next absent =>
          rcases convertAbsent_eq_ok settled with ⟨-, rfl⟩ | ⟨-, rfl⟩
          · exact rest _ member
          · rcases Ty.unify_cases agreed with none | shared | ⟨-, given, shared, primitive⟩
            · exact absurd none differs.1
            · obtain ⟨sibling, inItems, rfl⟩ := List.mem_map.mp shared
              have accepted := (rest sibling inItems).accepted
              split
              · exact .ofAbsent dynamic rfl accepted
              · exact .ofAbsent dynamic rfl accepted
            · obtain ⟨sibling, inItems, rfl⟩ := List.mem_map.mp shared
              exact ofPrimitive inItems primitive
      next present =>
          rcases Ty.eq_of_unify agreed (List.mem_map_of_mem member) with isDynamic | same | ⟨-, primitive⟩
          · exact absurd isDynamic (type_ne_dynamic (Bool.eq_false_iff.mpr present))
          · exact absurd same differs.2
          · exact ofPrimitive member primitive

/-- No element is lost or added. -/
theorem Collected.length {element common : Ty} {own : Option Ty} {located : Located}
    {items : List Value} (collected : Collected element own located items common) :
    items.length = located.length := by
  obtain ⟨converted, each, together⟩ := collected
  rw [(convertEach_eq_ok each).length_eq]
  cases commonElements_eq_ok.mp together with
  | static => exact List.length_map _
  | empty _ none => exact none ▸ rfl
  | settled _ _ _ eachSettled => rw [List.length_map, (convertEach_eq_ok eachSettled).length_eq]

/-- Collected elements that fit their common type rest together, and so do some of them. -/
theorem Collected.restTogether {element common : Ty} {own : Option Ty} {located : Located}
    {items kept : List Value} (collected : Collected element own located items common)
    (dynamic : element.hasDynamic = true)
    (step : ∀ before ∈ located, ∀ item, convertTo element before.2 = .ok item → Rests element item)
    (among : ∀ item ∈ kept, item ∈ items) (empty : kept = [] → items = [])
    (fits : ∀ item ∈ kept, Fits common item) : RestTogether element common kept := by
  obtain ⟨converted, each, together⟩ := collected
  have rest : ∀ item ∈ converted.map Prod.snd, Rests element item := by
    refine List.forall_mem_map.mpr fun after member => ?_
    obtain ⟨before, inLocated, -, one⟩ := Outcome.exists_of_forall₂ (convertEach_eq_ok each) member
    exact step before inLocated after.2 one
  cases commonElements_eq_ok.mp together with
  | static static => cases static.symm.trans dynamic
  | empty =>
      have none : ∀ item ∈ kept, False := fun item member => List.not_mem_nil (among item member)
      refine ⟨fun item member => (none item member).elim, fun item member => (none item member).elim, ?_⟩
      intro _
      unfold fallbackType
      split <;> rfl
  | @settled ty settled _ nonempty agreed eachSettled =>
      have related := convertEach_eq_ok eachSettled
      rw [← Function.comp_def type, ← List.map_map] at agreed
      have origin : ∀ item ∈ kept, ∃ before ∈ converted.map Prod.snd, settle common before = .ok item := by
        intro item member
        obtain ⟨after, inSettled, rfl⟩ := List.mem_map.mp (among item member)
        obtain ⟨before, inConverted, -, one⟩ := Outcome.exists_of_forall₂ related inSettled
        exact ⟨before.2, List.mem_map_of_mem inConverted, one⟩
      refine ⟨fun item member => ?_, fun item member => ?_, fun none => ?_⟩
      · obtain ⟨before, inConverted, one⟩ := origin item member
        exact Rests.settle dynamic rest agreed inConverted one
      · rcases fits item member with rfl | typed
        · -- The common type is dynamic only where all the types are.
          obtain ⟨before, inConverted, one⟩ := origin item member
          cases one
          rcases Ty.eq_of_unify agreed (List.mem_map_of_mem inConverted) with same | same | ⟨never, -⟩
          · exact same
          · exact same
          · cases never
        · exact typed
      · have length := related.length_eq
        rw [List.map_eq_nil_iff.mp (empty none)] at length
        exact absurd (List.eq_nil_of_length_eq_zero length) nonempty

/-- The result of a conversion rests at the wanted type: to convert it once more changes nothing. -/
theorem rests_of_convertTo {want : Ty} {value result : Value} (outer : want.WellFormed)
    (inner : value.WellFormed) (converted : convertTo want value = .ok result) : Rests want result := by
  induction outer generalizing value result with
  | bool | number | string | dynamic =>
      cases converts_of_convertTo converted with
      | whole whole => exact whole.rests
  | @list element outer ih =>
      cases converts_of_convertTo converted with
      | whole whole => exact whole.rests
      | list _ parts collected built =>
          obtain ⟨elements, -⟩ := inner.sequence? parts
          obtain ⟨common, found, rfl⟩ := listOf_eq_ok built
          obtain ⟨rfl, fits⟩ := elementType_check_eq_ok.mp found
          cases dynamic : element.hasDynamic with
          | false => exact .ofType (congrArg Ty.list (collected.static dynamic).1)
          | true =>
              have step := fun before member item one => @ih before.2 item (elements before member) one
              exact rests_list dynamic (collected.restTogether dynamic step (fun _ member => member) id fits)
  | @set element outer ih =>
      cases converts_of_convertTo converted with
      | whole whole => exact whole.rests
      | @set _ _ _ _ _ _ items _ parts collected built =>
          obtain ⟨elements, own⟩ := inner.sequence? parts
          obtain ⟨common, found, rfl⟩ := setOf_eq_ok built
          obtain ⟨rfl, fits⟩ := elementType_check_eq_ok.mp found
          cases dynamic : element.hasDynamic with
          | false => exact .ofType (congrArg Ty.set (collected.static dynamic).1)
          | true =>
              have step := fun before member item one => @ih before.2 item (elements before member) one
              have wellFormed := (collected.wellFormed outer own fun before member item one =>
                convertTo_wellFormed outer (elements before member) one).2
              exact rests_set dynamic (collected.restTogether dynamic step
                (fun _ => mem_of_mem_withoutRepeats) (eq_nil_of_withoutRepeats wellFormed) fits)
                (differ_withoutRepeats wellFormed)
  | @map element outer ih =>
      cases converts_of_convertTo converted with
      | whole whole => exact whole.rests
      | @map _ _ _ _ _ entries items _ parts collected built =>
          obtain ⟨nodup, elements, -⟩ := inner.mapping? parts
          obtain ⟨result, rfl, different, rfl, fits⟩ :=
            mapOf_zip_eq_ok nodup (by simpa using collected.length) built
          cases dynamic : element.hasDynamic with
          | false => exact .ofType (congrArg Ty.map (collected.static dynamic).1)
          | true =>
              have step : ∀ before ∈ entries.map (fun entry => (Step.key entry.1, entry.2)), ∀ item,
                  convertTo element before.2 = .ok item → Rests element item :=
                List.forall_mem_map.mpr fun entry member item one => ih (elements entry member) one
              exact rests_map dynamic different
                (collected.restTogether dynamic step (fun _ member => member) id fits)
  | object sorted _ ih =>
      cases converts_of_convertTo converted with
      | whole whole => exact whole.rests
      | object _ parts _ each =>
          obtain ⟨-, elements, -⟩ := inner.mapping? parts
          apply rests_object sorted
          apply Outcome.forall₂_of_mem (convertAttributes_eq_ok each)
          rintro want member entry ⟨name, item, found, one⟩
          exact ⟨name, ih want member (elements _ (mem_of_lookup found)) one⟩
  | @tuple wants _ ih =>
      cases converts_of_convertTo converted with
      | whole whole => exact whole.rests
      | @tuple _ _ _ located items _ parts length each =>
          obtain ⟨elements, -⟩ := inner.sequence? parts
          have wantsOf : (wants.zip located).map Prod.fst = wants := List.map_fst_zip length.ge
          have pairs := Outcome.forall₂_of_mem (convertElements_eq_ok each)
            fun part member item one => ih part.1 (List.of_mem_zip member).1
              (elements _ (List.of_mem_zip member).2) one
          exact rests_tuple (wantsOf ▸ List.forall₂_map_left_iff.mpr pairs)

end Value

end Crosswalk
