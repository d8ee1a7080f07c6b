/-
Module: Crosswalk.Proofs.Value.Resolution
Purpose: What becomes of the dynamic parts of a wanted type. The type of the result is the wanted one with a
  type put in the place of each dynamic part. Where all parts of the value have data, and none of them is
  empty, these types are found from the parts, and nothing dynamic is left.
Main exports: Ty.Instance, Value.isEmpty, Value.Resolves, Value.resolves_of_convertTo, Value.convert_resolves
-/
import Crosswalk.Proofs.Value.Reconversion

namespace Crosswalk

/-! ### Instances of a type -/

/-- A type with a type put in the place of each dynamic part of another one. -/
inductive Ty.Instance : Ty → Ty → Prop
  | dynamic (ty : Ty) : Instance .dynamic ty
  | bool : Instance .bool .bool
  | number : Instance .number .number
  | string : Instance .string .string
  | list {element other : Ty} (inner : Instance element other) : Instance (.list element) (.list other)
  | set {element other : Ty} (inner : Instance element other) : Instance (.set element) (.set other)
  | map {element other : Ty} (inner : Instance element other) : Instance (.map element) (.map other)
  | tuple {elements others : List Ty} (length : elements.length = others.length)
      (inner : ∀ pair ∈ elements.zip others, Instance pair.1 pair.2) :
      Instance (.tuple elements) (.tuple others)
  | object {attributes others : List (String × Ty)}
      (names : attributes.map Prod.fst = others.map Prod.fst)
      (inner : ∀ pair ∈ attributes.zip others, Instance pair.1.2 pair.2.2) :
      Instance (.object attributes) (.object others)

namespace Ty.Instance

theorem ofForall₂ {elements others : List Ty} (each : List.Forall₂ Instance elements others) :
    Instance (.tuple elements) (.tuple others) :=
  .tuple each.length_eq fun _ member => List.forall₂_zip each member

theorem ofNames {attributes others : List (String × Ty)}
    (each : List.Forall₂ (fun want given => given.1 = want.1 ∧ Instance want.2 given.2) attributes others) :
    Instance (.object attributes) (.object others) :=
  .object (Outcome.keys_eq_of_forall₂ (each.imp fun _ _ pair => pair.1)).symm
    fun _ member => (List.forall₂_zip each member).2

/-- Every type is an instance of itself, with its dynamic parts left as they are. -/
theorem refl (ty : Ty) : Instance ty ty := by
  induction ty using Ty.induct with
  | bool => exact .bool
  | number => exact .number
  | string => exact .string
  | dynamic => exact .dynamic _
  | list element ih => exact .list ih
  | set element ih => exact .set ih
  | map element ih => exact .map ih
  | object attributes ih => exact ofNames (List.forall₂_same.mpr fun entry member => ⟨rfl, ih entry member⟩)
  | tuple elements ih => exact ofForall₂ (List.forall₂_same.mpr ih)

end Ty.Instance

namespace Value

/-! ### Parts at every depth -/

/-- A collection, tuple or object without parts. -/
def isEmpty : Value → Bool
  | .list _ items | .set _ items | .tuple items => items.isEmpty
  | .map _ entries | .object entries => entries.isEmpty
  | _ => false

/-- What holds of a value and, at every depth, of its parts. -/
def Throughout (value : Value) (P : Value → Prop) : Prop :=
  ∀ path part, value.follow? path = some part → P part

namespace Throughout

variable {P : Value → Prop} {value : Value}

theorem here (throughout : value.Throughout P) : P value :=
  throughout [] value rfl

theorem part {part : Value} {step : Step} (throughout : value.Throughout P)
    (leads : value.part? step = some part) : part.Throughout P :=
  fun path inside follows => throughout (step :: path) inside ((follow?_cons leads).trans follows)

theorem ofParts (here : P value) (parts : ∀ step part, value.part? step = some part → part.Throughout P) :
    value.Throughout P := by
  intro path inside follows
  cases path with
  | nil => exact Option.some.inj follows ▸ here
  | cons step path =>
      rw [follow?, List.foldlM_cons] at follows
      obtain ⟨part, leads, follows⟩ := Option.bind_eq_some_iff.mp follows
      exact parts step part leads path inside follows

theorem ofLeaf (noParts : ∀ step, value.part? step = none) (here : P value) : value.Throughout P :=
  ofParts here fun step part leads => by cases (noParts step).symm.trans leads

end Throughout

/-- All parts have data. -/
abbrev Complete (value : Value) : Prop :=
  value.Throughout fun part => part.isAbsent = false

/-- No part is empty. -/
abbrev Filled (value : Value) : Prop :=
  value.Throughout fun part => part.isEmpty = false

theorem throughout_wellFormed {value : Value} (inner : value.WellFormed) : value.Throughout WellFormed := by
  induction value using part?_induct with
  | parts value ih =>
      exact .ofParts inner fun step part leads => ih step part leads (part?_wellFormed inner leads)

/-- The parts of a well-formed value whose type has no dynamic parts have such types themselves. -/
theorem hasDynamic_part? {value part : Value} {step : Step} (inner : value.WellFormed)
    (static : value.type.hasDynamic = false) (leads : value.part? step = some part) :
    part.type.hasDynamic = false := by
  have ofOwn {own : Ty} (isOwn : ownElement? value = some own) (given : own.hasDynamic = false) :
      part.type.hasDynamic = false := by
    rcases ownElement?_fits inner isOwn leads with rfl | same
    · cases given
    · exact same ▸ given
  cases inner with
  | list | set | map => exact ofOwn rfl static
  | tuple described _ =>
      rw [described] at static
      cases step with
      | position index => exact Ty.hasDynamic_element static (List.mem_map_of_mem (mem_of_itemAt? leads))
      | _ => cases leads
  | @object entries _ described _ =>
      obtain ⟨attributes, isObject, -, same⟩ := described
      rw [isObject] at static
      have ofEntry {name : String} (found : entries.lookup name = some part) :
          part.type.hasDynamic = false := by
        have attr := same name
        rw [found] at attr
        exact Ty.hasDynamic_attribute static (mem_of_lookup attr)
      cases step with
      | attr name | key name => exact ofEntry leads
      | position index => cases leads
  | _ => cases step <;> cases leads

/-! ### Types that are found -/

/-- The type of a result is an instance of the wanted one, and has no dynamic parts where the type of the
    value has none and no part of it is empty. -/
structure Resolves (want : Ty) (value result : Value) : Prop where
  isInstance : want.Instance result.type
  static : value.type.hasDynamic = false → value.Filled → result.type.hasDynamic = false

theorem ConvertsWhole.resolves {want : Ty} {value result : Value} (whole : ConvertsWhole want value result)
    (present : value.isAbsent = false) : Resolves want value result := by
  cases whole with
  | same already =>
      rcases already with rfl | rfl
      · exact ⟨.dynamic _, fun static _ => static⟩
      · exact ⟨.refl _, fun static _ => static⟩
  | absent absent => cases present.symm.trans absent
  | primitive _ converted =>
      have typed := (convertPrimitive_eq_ok converted).type_eq
      refine ⟨typed ▸ .refl _, fun _ _ => typed ▸ ?_⟩
      cases want with
      | bool | number | string => rfl
      | _ => cases converted

/-- Where the common type of collected elements with data comes from. It is the wanted one, the one of an
    empty collection, the type of one of the elements, or string for elements of different primitive types. -/
theorem Collected.common_cases {element common : Ty} {own : Option Ty} {located : Located}
    {items : List Value} (collected : Collected element own located items common)
    (outer : element.WellFormed) (inner : ∀ entry ∈ located, entry.2.WellFormed)
    (present : ∀ entry ∈ located, entry.2.isAbsent = false) :
    (element.hasDynamic = false ∧ common = element) ∨ (located = [] ∧ common = fallbackType element own) ∨
      (∃ entry ∈ located, ∃ item, convertTo element entry.2 = .ok item ∧ item.type = common) ∨
      (element = .dynamic ∧ common = .string) := by
  obtain ⟨converted, each, together⟩ := collected
  have related := convertEach_eq_ok each
  cases commonElements_eq_ok.mp together with
  | static static => exact .inl ⟨static, rfl⟩
  | empty _ none =>
      rw [none, List.forall₂_nil_right_iff] at related
      exact .inr (.inl ⟨related, rfl⟩)
  | settled dynamic nonempty agreed =>
      have origin {ty : Ty} (member : ty ∈ converted.map fun entry => entry.2.type) :
          ∃ entry ∈ located, ∃ item, convertTo element entry.2 = .ok item ∧ item.type = ty := by
        obtain ⟨after, inConverted, rfl⟩ := List.mem_map.mp member
        obtain ⟨before, inLocated, -, one⟩ := Outcome.exists_of_forall₂ related inConverted
        exact ⟨before, inLocated, after.2, one, rfl⟩
      rcases Ty.unify_cases agreed with rfl | shared | ⟨rfl, given, shared, primitive⟩
      · -- Elements with data are not all of the dynamic type.
        obtain ⟨first, member⟩ := List.exists_mem_of_ne_nil converted nonempty
        have shared : first.2.type ∈ converted.map fun entry => entry.2.type :=
          List.mem_map_of_mem member
        obtain ⟨before, inLocated, item, one, typed⟩ := origin shared
        have determined := type_ne_dynamic (convertTo_present (present before inLocated) one)
        rcases Ty.eq_of_unify agreed shared with same | same | ⟨never, -⟩
        · exact absurd (typed.trans same) determined
        · exact absurd (typed.trans same) determined
        · cases never
      · exact .inr (.inr (.inl (origin shared)))
      · obtain ⟨before, inLocated, item, one, rfl⟩ := origin shared
        have accepted := (rests_of_convertTo outer (inner before inLocated) one).accepted
        exact .inr (.inr (.inr ⟨Ty.eq_dynamic_of_primitive dynamic primitive accepted, rfl⟩))

theorem isEmpty_of_sequence? {value : Value} {own : Option Ty} (parts : sequence? value = some ([], own)) :
    value.isEmpty = true := by
  cases value with
  | list | set | tuple =>
      simpa [sequence?, sequence?.atPositions, isEmpty] using congrArg (Option.map Prod.fst) parts
  | _ => cases parts

theorem isEmpty_of_mapping? {value : Value} {own : Option Ty} (parts : mapping? value = some ([], own)) :
    value.isEmpty = true := by
  cases value with
  | map | object =>
      cases parts
      rfl
  | _ => cases parts

section Parts

variable {value : Value} (inner : value.WellFormed) (complete : value.Complete)
include inner complete

/-- The common type of the elements of a value is found from their types. -/
theorem Collected.resolves {element common : Ty} {own : Option Ty} {located : Located}
    {items : List Value} (collected : Collected element own located items common)
    (outer : element.WellFormed) (leads : ∀ entry ∈ located, ∃ step, value.part? step = some entry.2)
    (empty : located = [] → value.isEmpty = true)
    (each : ∀ {part item : Value}, part.WellFormed → part.Complete → convertTo element part = .ok item →
      Resolves element part item) :
    element.Instance common ∧
      (value.type.hasDynamic = false → value.Filled → common.hasDynamic = false) := by
  have innerParts : ∀ entry ∈ located, entry.2.WellFormed := fun entry member =>
    (leads entry member).elim fun _ found => part?_wellFormed inner found
  have completeParts : ∀ entry ∈ located, entry.2.Complete := fun entry member =>
    (leads entry member).elim fun _ found => complete.part found
  rcases collected.common_cases outer innerParts fun entry member => (completeParts entry member).here with
    ⟨static, rfl⟩ | ⟨rfl, rfl⟩ | ⟨entry, member, item, one, rfl⟩ | ⟨rfl, rfl⟩
  · exact ⟨.refl _, fun _ _ => static⟩
  · refine ⟨?_, fun _ filled => absurd (empty rfl) (Bool.eq_false_iff.mp filled.here)⟩
    unfold fallbackType
    split
    next dynamic => exact Ty.isDynamic_iff.mp dynamic ▸ .dynamic _
    next => exact .refl _
  · have resolves := each (innerParts entry member) (completeParts entry member) one
    obtain ⟨step, found⟩ := leads entry member
    exact ⟨resolves.isInstance, fun static filled =>
      resolves.static (hasDynamic_part? inner static found) (filled.part found)⟩
  · exact ⟨.dynamic _, fun _ _ => rfl⟩

/-- The elements of a tuple are resolved position by position. -/
theorem resolves_tuple {wants : List Ty} {own : Option Ty} {located : Located} {items : List Value}
    (parts : sequence? value = some (located, own)) (length : located.length = wants.length)
    (converted : convertElements wants located = .ok items)
    (each : ∀ want ∈ wants, ∀ {part item : Value}, part.WellFormed → part.Complete →
      convertTo want part = .ok item → Resolves want part item) :
    Resolves (.tuple wants) value (.tuple items) := by
  have wantsOf : (wants.zip located).map Prod.fst = wants := List.map_fst_zip length.ge
  have related : List.Forall₂ (fun part item => Resolves part.1 part.2.2 item) (wants.zip located) items := by
    apply Outcome.forall₂_of_mem (convertElements_eq_ok converted)
    intro part member item one
    obtain ⟨inWants, inLocated⟩ := List.of_mem_zip member
    obtain ⟨position, -, leads⟩ := exists_position parts inLocated
    exact each part.1 inWants (part?_wellFormed inner leads) (complete.part leads) one
  have typeOf : (tuple items).type = .tuple (items.map type) := congrArg Ty.tuple (itemTypes_eq_map items)
  refine ⟨typeOf ▸ .ofForall₂ ?_, fun static filled => ?_⟩
  · rw [← wantsOf, List.forall₂_map_left_iff, List.forall₂_map_right_iff]
    exact related.imp fun _ _ resolves => resolves.isInstance
  · rw [typeOf, Ty.hasDynamic, Ty.elementsHaveDynamic_eq_any, List.any_eq_false]
    refine List.forall_mem_map.mpr fun item member => ?_
    obtain ⟨part, inParts, resolves⟩ := Outcome.exists_of_forall₂ related member
    obtain ⟨position, -, leads⟩ := exists_position parts (List.of_mem_zip inParts).2
    exact Bool.eq_false_iff.mp (resolves.static (hasDynamic_part? inner static leads) (filled.part leads))

/-- The entries of an object are resolved attribute by attribute. -/
theorem resolves_object {wants : List (String × Ty)} (sorted : Ty.Sorted wants) {own : Option Ty}
    {entries results : List (String × Value)} (parts : mapping? value = some (entries, own))
    (converted : convertAttributes wants entries = .ok results)
    (each : ∀ want ∈ wants, ∀ {part item : Value}, part.WellFormed → part.Complete →
      convertTo want.2 part = .ok item → Resolves want.2 part item) :
    Resolves (.object wants) value (.object results) := by
  have related : List.Forall₂ (fun want entry => entry.1 = want.1 ∧
      ∃ part, value.part? (.attr want.1) = some part ∧ Resolves want.2 part entry.2) wants results := by
    apply Outcome.forall₂_of_mem (convertAttributes_eq_ok converted)
    rintro want member entry ⟨name, part, found, one⟩
    have leads := (part?_of_mapping? parts want.1).1.trans found
    exact ⟨name, part, leads, each want member (part?_wellFormed inner leads) (complete.part leads) one⟩
  have keys : (entryTypes results).map Prod.fst = wants.map Prod.fst :=
    (keys_entryTypes results).trans (Outcome.keys_eq_of_forall₂ (related.imp fun _ _ pair => pair.1))
  have typeOf : (object results).type = .object (entryTypes results) := by
    have ascending : ((entryTypes results).map Prod.fst).Pairwise (· < ·) :=
      keys ▸ List.pairwise_map.mpr sorted
    exact Ty.objectOf_of_sorted (List.pairwise_map.mp ascending)
  refine ⟨typeOf ▸ .ofNames ?_, fun static filled => ?_⟩
  · rw [entryTypes_eq_map, List.forall₂_map_right_iff]
    refine related.imp ?_
    rintro want entry ⟨name, part, -, resolves⟩
    exact ⟨name, resolves.isInstance⟩
  · rw [typeOf, Ty.hasDynamic, Ty.attributesHaveDynamic_eq_any, List.any_eq_false, entryTypes_eq_map]
    refine List.forall_mem_map.mpr fun entry member => ?_
    obtain ⟨want, -, -, part, leads, resolves⟩ := Outcome.exists_of_forall₂ related member
    exact Bool.eq_false_iff.mp (resolves.static (hasDynamic_part? inner static leads) (filled.part leads))

end Parts

/-- A conversion resolves the dynamic parts of the wanted type. -/
theorem resolves_of_convertTo {want : Ty} {value result : Value} (outer : want.WellFormed)
    (inner : value.WellFormed) (complete : value.Complete) (converted : convertTo want value = .ok result) :
    Resolves want value result := by
  induction outer generalizing value result with
  | bool | number | string | dynamic =>
      cases converts_of_convertTo converted with
      | whole whole => exact whole.resolves complete.here
  | list outer ih =>
      cases converts_of_convertTo converted with
      | whole whole => exact whole.resolves complete.here
      | list _ parts collected built =>
          obtain ⟨isInstance, static⟩ := collected.resolves inner complete outer
            (fun entry member => ⟨_, (exists_position parts member).choose_spec.2⟩)
            (fun none => isEmpty_of_sequence? (none ▸ parts)) ih
          obtain ⟨_, found, rfl⟩ := listOf_eq_ok built
          obtain ⟨rfl, -⟩ := elementType_check_eq_ok.mp found
          exact ⟨.list isInstance, static⟩
  | set outer ih =>
      cases converts_of_convertTo converted with
      | whole whole => exact whole.resolves complete.here
      | set _ parts collected built =>
          obtain ⟨isInstance, static⟩ := collected.resolves inner complete outer
            (fun entry member => ⟨_, (exists_position parts member).choose_spec.2⟩)
            (fun none => isEmpty_of_sequence? (none ▸ parts)) ih
          obtain ⟨_, found, rfl⟩ := setOf_eq_ok built
          obtain ⟨rfl, -⟩ := elementType_check_eq_ok.mp found
          exact ⟨.set isInstance, static⟩
  | map outer ih =>
      cases converts_of_convertTo converted with
      | whole whole => exact whole.resolves complete.here
      | map _ parts collected built =>
          obtain ⟨nodup, -, -⟩ := inner.mapping? parts
          obtain ⟨isInstance, static⟩ := collected.resolves inner complete outer
            (List.forall_mem_map.mpr fun entry member =>
              ⟨.key entry.1, (part?_of_mapping? parts entry.1).2.trans (lookup_of_mem nodup member)⟩)
            (fun none => isEmpty_of_mapping? (List.map_eq_nil_iff.mp none ▸ parts)) ih
          obtain ⟨_, found, rfl⟩ := mapOf_eq_ok built
          obtain ⟨rfl, -⟩ := elementType_check_eq_ok.mp found
          exact ⟨.map isInstance, static⟩
  | tuple _ ih =>
      cases converts_of_convertTo converted with
      | whole whole => exact whole.resolves complete.here
      | tuple _ parts length each => exact resolves_tuple inner complete parts length each ih
  | object sorted _ ih =>
      cases converts_of_convertTo converted with
      | whole whole => exact whole.resolves complete.here
      | object _ parts _ each => exact resolves_object inner complete sorted parts each ih

/-- Of a value with data throughout, the result of a conversion has an instance of the wanted type, and all
    elements in it have the types that their collections state, unless these are dynamic. Nothing dynamic is
    left where the value had no dynamic part in its type, and nothing empty inside. -/
theorem convert_resolves {want : Ty} {value result : Value} (outer : want.WellFormed)
    (inner : value.WellFormed) (complete : value.Complete) (converted : value.convert want = .ok result) :
    want.Instance result.type ∧
      (result.Throughout fun part => ∀ own, ownElement? part = some own → own ≠ .dynamic →
        ∀ step item, part.part? step = some item → item.type = own) ∧
      (value.type.hasDynamic = false → value.Filled → result.type.hasDynamic = false) := by
  have resolves := resolves_of_convertTo outer inner complete converted
  refine ⟨resolves.isInstance, ?_, resolves.static⟩
  intro path part follows own isOwn determined step item leads
  have wellFormed := throughout_wellFormed (convertTo_wellFormed outer inner converted) path part follows
  exact (ownElement?_fits wellFormed isOwn leads).resolve_left determined

/-- Answers of one and of two parts, some of them texts. -/
def answers : Value :=
  .object [("first", .tuple [.bool true, .string "no"]), ("second", .tuple [.string "yes"])]

theorem answers_wellFormed : answers.WellFormed := by
  have no : (string "no").WellFormed := .string (by rfl)
  have yes : (string "yes").WellFormed := .string (by rfl)
  have first : (tuple [.bool true, .string "no"]).WellFormed :=
    .ofItems (List.forall_mem_cons.mpr ⟨.bool true, List.forall_mem_singleton.mpr no⟩)
  have second : (tuple [.string "yes"]).WellFormed := .ofItems (List.forall_mem_singleton.mpr yes)
  exact .ofEntries (by decide) (List.forall_mem_cons.mpr ⟨first, List.forall_mem_singleton.mpr second⟩)

theorem answers_throughout :
    answers.Throughout fun part => part.isAbsent = false ∧ part.isEmpty = false := by
  have ofTuple {items : List Value} (filled : items.isEmpty = false)
      (each : ∀ item ∈ items, item.Throughout fun part => part.isAbsent = false ∧ part.isEmpty = false) :
      (tuple items).Throughout fun part => part.isAbsent = false ∧ part.isEmpty = false := by
    refine .ofParts ⟨rfl, filled⟩ fun step part leads => ?_
    cases step with
    | position index => exact each part (mem_of_itemAt? leads)
    | _ => cases leads
  have flag : (bool true).Throughout fun part => part.isAbsent = false ∧ part.isEmpty = false :=
    .ofLeaf (fun step => by cases step <;> rfl) ⟨rfl, rfl⟩
  have text (text : String) :
      (string text).Throughout fun part => part.isAbsent = false ∧ part.isEmpty = false :=
    .ofLeaf (fun step => by cases step <;> rfl) ⟨rfl, rfl⟩
  have first := ofTuple rfl (List.forall_mem_cons.mpr ⟨flag, List.forall_mem_singleton.mpr (text "no")⟩)
  have second := ofTuple rfl (List.forall_mem_singleton.mpr (text "yes"))
  refine .ofParts ⟨rfl, rfl⟩ fun step part leads => ?_
  cases step with
  | position index => cases leads
  | attr name | key name =>
      have found : List.lookup name [("first", tuple [.bool true, .string "no"]),
          ("second", tuple [.string "yes"])] = some part := leads
      rcases List.mem_cons.mp (mem_of_lookup found) with same | later
      · cases same
        exact first
      · cases List.mem_singleton.mp later
        exact second

/-- As a map of lists all answers become texts, since not all of them are truth values. -/
theorem convert_resolves_answers :
    ∃ result, answers.convert (.map (.list .dynamic)) = .ok result ∧
      (Ty.map (.list .dynamic)).Instance result.type ∧ result.type.hasDynamic = false := by
  have converted : answers.convert (.map (.list .dynamic)) = .ok (.map (.list .string)
      [("first", .list .string [.string "true", .string "no"]),
        ("second", .list .string [.string "yes"])]) := rfl
  obtain ⟨isInstance, -, static⟩ := convert_resolves (.map (.list .dynamic)) answers_wellFormed
    (fun path part follows => (answers_throughout path part follows).1) converted
  have filled := fun path part follows => (answers_throughout path part follows).2
  exact ⟨_, converted, isInstance, static rfl filled⟩

end Value

end Crosswalk
