/-
Module: Crosswalk.Proofs.Value.Success
Purpose: What is enough for a conversion to succeed. Where the wanted type has no dynamic parts, a collection
  or structure converts if its parts do, and the result is made of their results. Nulls and unknown values
  convert between the types that accept each other.
Main exports: Value.convertTo_absent_ok, Value.Collected.bind, Value.exists_list, Value.exists_set,
  Value.exists_map, Value.exists_tuple, Value.exists_object
-/
import Crosswalk.Proofs.Value.Typing

namespace Crosswalk

namespace Value

/-! ### Parts that convert -/

/-- A null or unknown value takes every type that accepts its own. -/
theorem convertTo_absent_ok {want : Ty} {value : Value} (static : want.Static)
    (differs : value.type ≠ want) (absent : value.isAbsent = true)
    (accepts : value.type.canConvert want = true) :
    convertTo want value = .ok (if value.isKnown then .null want else .unknown want) := by
  rw [convertTo_of_absent differs static.isDynamic absent, convertAbsent, accepts]
  simp [static.hasNone]

/-- Each of the values is converted if there is a result for each of them. -/
theorem exists_convertEach {convertOne : Value → Outcome Value} {located : Located}
    (each : ∀ entry ∈ located, ∃ result, convertOne entry.2 = .ok result) :
    ∃ converted, convertEach convertOne located = .ok converted := by
  apply Outcome.exists_mapM_eq_ok
  intro entry member
  obtain ⟨result, one⟩ := each entry member
  exact ⟨(entry.1, result), Outcome.map_eq_ok.mpr ⟨result, Outcome.under_eq_ok.mpr one, rfl⟩⟩

/-- Elements that convert to a type without dynamic parts one by one are collected under that type. -/
theorem exists_collected {element : Ty} (static : element.Static) (located : Located) (own : Option Ty)
    (inner : ∀ entry ∈ located, entry.2.WellFormed)
    (each : ∀ entry ∈ located, ∃ result, convertTo element entry.2 = .ok result) :
    ∃ items, List.Forall₂ (fun item result => convertTo element item = .ok result)
        (located.map Prod.snd) items ∧ (∀ item ∈ items, Fits element item) ∧
      Collected element own located items element := by
  obtain ⟨converted, success⟩ := exists_convertEach each
  have related := convertEach_eq_ok success
  refine ⟨converted.map Prod.snd, ?_, ?_, converted, success, commonElements_eq_ok.mpr (.static static.hasNone)⟩
  · rw [List.forall₂_map_left_iff, List.forall₂_map_right_iff]
    exact related.imp fun _ _ step => step.2
  · refine List.forall_mem_map.mpr fun after member => ?_
    obtain ⟨before, inLocated, -, one⟩ := Outcome.exists_of_forall₂ related member
    have typed := convertTo_hasType static.wellFormed static.hasNone (inner before inLocated) one
    exact .inr (typed.type_eq static.wellFormed)

/-- What follows on the conversion of elements goes on with the collected ones. -/
theorem Collected.bind {element common : Ty} {own : Option Ty} {located : Located} {items : List Value}
    (collected : Collected element own located items common) (next : List Value × Ty → Outcome Value) :
    (convertEach (fun item => convertTo element item) located >>= fun converted =>
      commonElements element (fallbackType element own) converted >>= next) = next (items, common) := by
  obtain ⟨converted, each, together⟩ := collected
  rw [each]
  change commonElements element _ converted >>= next = _
  rw [together]
  rfl

theorem exists_convertElements {wants : List Ty} {located : Located}
    (each : ∀ part ∈ wants.zip located, ∃ result, convertTo part.1 part.2.2 = .ok result) :
    ∃ items, convertElements wants located = .ok items := by
  induction wants generalizing located with
  | nil => cases located <;> exact ⟨[], rfl⟩
  | cons want wants ih =>
      match located with
      | [] => exact ⟨[], rfl⟩
      | (step, value) :: rest =>
          obtain ⟨item, one⟩ := each (want, step, value) List.mem_cons_self
          obtain ⟨items, later⟩ := ih fun part member => each part (List.mem_cons_of_mem _ member)
          refine ⟨item :: items, ?_⟩
          exact Outcome.bind_eq_ok.mpr ⟨item, Outcome.under_eq_ok.mpr one,
            Outcome.bind_eq_ok.mpr ⟨items, later, rfl⟩⟩

theorem exists_convertAttributes {wants : List (String × Ty)} {entries : List (String × Value)}
    (each : ∀ want ∈ wants, ∃ value, entries.lookup want.1 = some value ∧
      ∃ result, convertTo want.2 value = .ok result) :
    ∃ result, convertAttributes wants entries = .ok result := by
  induction wants with
  | nil => exact ⟨[], rfl⟩
  | cons want wants ih =>
      obtain ⟨name, want⟩ := want
      obtain ⟨value, found, item, one⟩ := each (name, want) List.mem_cons_self
      obtain ⟨items, later⟩ := ih fun want member => each want (List.mem_cons_of_mem _ member)
      refine ⟨(name, item) :: items, ?_⟩
      rw [convertAttributes, found]
      exact Outcome.bind_eq_ok.mpr ⟨item, Outcome.under_eq_ok.mpr one,
        Outcome.bind_eq_ok.mpr ⟨items, later, rfl⟩⟩

/-! ### Values that convert -/

section Present

variable {value : Value} (present : value.isAbsent = false)
include present

section Collections

variable {element common : Ty} {own : Option Ty} {items : List Value}
  (fits : ∀ item ∈ items, Fits common item)
include fits

/-- Collected elements make a list. -/
theorem Collected.list {located : Located} (collected : Collected element own located items common)
    (differs : value.type ≠ .list element) (parts : sequence? value = some (located, own)) :
    convertTo (.list element) value = .ok (.list common items) := by
  rw [convertTo_list present differs, parts]
  refine (collected.bind _).trans ?_
  exact congrArg (Except.map _) (elementType_check_eq_ok.mpr ⟨rfl, fits⟩)

/-- They make a set, without those that are repeated. -/
theorem Collected.set {located : Located} (collected : Collected element own located items common)
    (differs : value.type ≠ .set element) (parts : sequence? value = some (located, own)) :
    convertTo (.set element) value = .ok (.set common (withoutRepeats items)) := by
  rw [convertTo_set present differs, parts]
  exact (collected.bind _).trans (setOf_of_fits fits)

/-- They make a map, under the keys of the entries. -/
theorem Collected.map {entries : List (String × Value)}
    (collected : Collected element own (entries.map fun entry => (Step.key entry.1, entry.2)) items common)
    (differs : value.type ≠ .map element) (parts : mapping? value = some (entries, own))
    (nodup : (entries.map Prod.fst).Nodup) (length : items.length = entries.length) :
    convertTo (.map element) value = .ok (.map common ((entries.map Prod.fst).zip items)) := by
  have keys : ((entries.map Prod.fst).zip items).map Prod.fst = entries.map Prod.fst :=
    List.map_fst_zip (by simp [length])
  have values : ((entries.map Prod.fst).zip items).map Prod.snd = items :=
    List.map_snd_zip (by simp [length])
  have different : (((entries.map Prod.fst).zip items).map Prod.fst).Nodup := by rwa [keys]
  rw [convertTo_map present differs, parts]
  refine (collected.bind _).trans ?_
  rw [mapOf, entriesOf_of_nodup different]
  exact congrArg (Except.map _) (elementType_check_eq_ok.mpr ⟨rfl, values.symm ▸ fits⟩)

end Collections

variable (wellFormed : value.WellFormed)
include wellFormed

theorem exists_list {element : Ty} (static : element.Static) (differs : value.type ≠ .list element)
    {located : Located} {own : Option Ty} (parts : sequence? value = some (located, own))
    (each : ∀ item ∈ located.map Prod.snd, ∃ result, convertTo element item = .ok result) :
    ∃ results, List.Forall₂ (fun item result => convertTo element item = .ok result)
        (located.map Prod.snd) results ∧
      convertTo (.list element) value = .ok (.list element results) := by
  obtain ⟨results, related, fits, collected⟩ :=
    exists_collected static located own (wellFormed.sequence? parts).1
      fun entry member => each entry.2 (List.mem_map_of_mem member)
  exact ⟨results, related, collected.list present fits differs parts⟩

theorem exists_set {element : Ty} (static : element.Static) (differs : value.type ≠ .set element)
    {located : Located} {own : Option Ty} (parts : sequence? value = some (located, own))
    (each : ∀ item ∈ located.map Prod.snd, ∃ result, convertTo element item = .ok result) :
    ∃ results, List.Forall₂ (fun item result => convertTo element item = .ok result)
        (located.map Prod.snd) results ∧
      convertTo (.set element) value = .ok (.set element (withoutRepeats results)) := by
  obtain ⟨results, related, fits, collected⟩ :=
    exists_collected static located own (wellFormed.sequence? parts).1
      fun entry member => each entry.2 (List.mem_map_of_mem member)
  exact ⟨results, related, collected.set present fits differs parts⟩

theorem exists_map {element : Ty} (static : element.Static) (differs : value.type ≠ .map element)
    {entries : List (String × Value)} {own : Option Ty} (parts : mapping? value = some (entries, own))
    (each : ∀ entry ∈ entries, ∃ result, convertTo element entry.2 = .ok result) :
    ∃ results, List.Forall₂ (fun entry result => result.1 = entry.1 ∧
        convertTo element entry.2 = .ok result.2) entries results ∧
      convertTo (.map element) value = .ok (.map element results) := by
  obtain ⟨nodup, inner, -⟩ := wellFormed.mapping? parts
  obtain ⟨items, related, fits, collected⟩ :=
    exists_collected static (entries.map fun entry => (Step.key entry.1, entry.2)) own
      (List.forall_mem_map.mpr inner) (List.forall_mem_map.mpr each)
  rw [List.map_map, List.forall₂_map_left_iff] at related
  have results := Outcome.forall₂_zip_keys (List.forall₂_same.mpr fun entry _ => Eq.refl entry) related
  refine ⟨(entries.map Prod.fst).zip items, results.imp ?_, ?_⟩
  · rintro entry result ⟨_, rfl, same, one⟩
    exact ⟨same, one⟩
  · exact collected.map present fits differs parts nodup related.length_eq.symm

omit wellFormed

theorem exists_tuple {wants : List Ty} (differs : value.type ≠ .tuple wants) {located : Located}
    {own : Option Ty} (parts : sequence? value = some (located, own))
    (length : located.length = wants.length)
    (each : ∀ part ∈ wants.zip (located.map Prod.snd), ∃ result, convertTo part.1 part.2 = .ok result) :
    ∃ results, List.Forall₂ (fun part result => convertTo part.1 part.2 = .ok result)
        (wants.zip (located.map Prod.snd)) results ∧
      convertTo (.tuple wants) value = .ok (.tuple results) := by
  rw [List.zip_map_right] at each ⊢
  obtain ⟨results, converted⟩ := exists_convertElements fun part member =>
    each (part.1, part.2.2) (List.mem_map_of_mem member)
  refine ⟨results, List.forall₂_map_left_iff.mpr (convertElements_eq_ok converted), ?_⟩
  rw [convertTo_tuple present differs, parts]
  simp only [length, if_true, converted, Except.map]

theorem exists_object {wants : List (String × Ty)} (differs : value.type ≠ .object wants)
    {entries : List (String × Value)} {own : Option Ty} (parts : mapping? value = some (entries, own))
    (supported : unsupported? wants value = none)
    (each : ∀ want ∈ wants, ∃ item, entries.lookup want.1 = some item ∧
      ∃ result, convertTo want.2 item = .ok result) :
    ∃ results, List.Forall₂ (fun want entry => entry.1 = want.1 ∧
        ∃ item, entries.lookup want.1 = some item ∧ convertTo want.2 item = .ok entry.2) wants results ∧
      convertTo (.object wants) value = .ok (.object results) := by
  obtain ⟨results, converted⟩ := exists_convertAttributes each
  refine ⟨results, convertAttributes_eq_ok converted, ?_⟩
  rw [convertTo_object present differs, parts]
  simp only [supported, converted, Except.map]

end Present

end Value

end Crosswalk
