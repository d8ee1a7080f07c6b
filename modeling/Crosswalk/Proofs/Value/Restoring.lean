/-
Module: Crosswalk.Proofs.Value.Restoring
Purpose: The way back from a wider type. The parts of a value of a wider type have wider types, and sets stay
  sets, so equal values become equal values again. A collection or structure is restored if its parts are.
Main exports: Value.HasType.widened_part?, Value.narrow_congr, Value.Restores, Value.restores_list,
  Value.restores_set, Value.restores_map, Value.restores_tuple, Value.restores_object
-/
import Crosswalk.Proofs.Ty.Widening
import Crosswalk.Proofs.Value.Congruence
import Crosswalk.Proofs.Value.Success

namespace Crosswalk

/-! ### Parts of wider types -/

theorem itemAt?_zip {α β : Type} {xs : List α} {ys : List β} {index : Int} {x : α} {y : β}
    (first : itemAt? xs index = some x) (second : itemAt? ys index = some y) : (x, y) ∈ xs.zip ys := by
  unfold itemAt? at first second
  split at first
  · cases first
  next inside =>
      rw [if_neg inside] at second
      apply List.mem_of_getElem?
      rw [List.getElem?_zip_eq_some]
      exact ⟨first, second⟩

theorem exists_itemAt? {α β : Type} {xs : List α} {ys : List β} (length : xs.length = ys.length)
    {index : Int} {x : α} (found : itemAt? xs index = some x) : ∃ y, itemAt? ys index = some y := by
  unfold itemAt? at found ⊢
  split at found
  · cases found
  next inside =>
      rw [if_neg inside]
      obtain ⟨within, -⟩ := List.getElem?_eq_some_iff.mp found
      exact ⟨_, List.getElem?_eq_getElem (length ▸ within)⟩

namespace Value

/-- A part of a value has the type that is wanted for it, if the value has its type throughout. -/
theorem HasType.part? {value part : Value} {ty partTy : Ty} {step : Step} (typed : HasType value ty)
    (leads : value.part? step = some part) (wanted : ty.part? step = some partTy) :
    HasType part partTy := by
  cases typed with
  | null | unknown | bool | number | string => cases step <;> cases leads
  | list inner | set inner =>
      cases step with
      | position index =>
          cases wanted
          exact inner part (mem_of_itemAt? leads)
      | _ => cases leads
  | map inner =>
      cases step with
      | key name =>
          cases wanted
          exact inner _ (mem_of_lookup leads)
      | attr name => cases wanted
      | position index => cases leads
  | object _ inner =>
      cases step with
      | attr name => exact inner name part partTy leads wanted
      | key name => cases wanted
      | position index => cases leads
  | tuple _ inner =>
      cases step with
      | position index => exact inner _ (itemAt?_zip leads wanted)
      | _ => cases leads

/-- A part of a value of a wider type has a type that is wider for that part. -/
theorem HasType.widened_part? {value part : Value} {ty wide partTy : Ty} {step : Step}
    (widens : ty.Widens wide) (typed : HasType value wide) (leads : value.part? step = some part)
    (wanted : ty.part? step = some partTy) :
    ∃ partWide, partTy.Widens partWide ∧ HasType part partWide := by
  cases widens with
  | refl => exact ⟨partTy, .refl partTy, typed.part? leads wanted⟩
  | boolToString => cases step <;> cases wanted
  | numberToString =>
      cases typed with
      | _ => cases step <;> cases leads
  | list widens | set widens | setToList widens =>
      cases step with
      | position index =>
          cases wanted
          exact ⟨_, widens, typed.part? leads rfl⟩
      | _ => cases wanted
  | map widens =>
      cases step with
      | key name =>
          cases wanted
          exact ⟨_, widens, typed.part? leads rfl⟩
      | _ => cases wanted
  | tupleToList widens =>
      cases step with
      | position index => exact ⟨_, widens _ (mem_of_itemAt? wanted), typed.part? leads rfl⟩
      | _ => cases wanted
  | objectToMap widens =>
      cases step with
      | attr name =>
          have underKey : value.part? (.key name) = some part := by
            cases typed with
            | map => exact leads
            | _ => cases leads
          exact ⟨_, widens _ (mem_of_lookup wanted), typed.part? underKey rfl⟩
      | _ => cases wanted
  | tuple length widens =>
      cases step with
      | position index =>
          obtain ⟨partWide, found⟩ := exists_itemAt? length wanted
          exact ⟨partWide, widens _ (itemAt?_zip wanted found), typed.part? leads found⟩
      | _ => cases wanted
  | object names widens =>
      cases step with
      | attr name =>
          obtain ⟨partWide, found, paired⟩ := Ty.attribute?_zip names wanted
          exact ⟨partWide, widens _ paired, typed.part? leads found⟩
      | _ => cases wanted

/-- On the way back from a wider type a set stays a set. -/
theorem set_of_setBecomes {asked ty wide : Ty} {value : Value} (widens : ty.Widens wide)
    (typed : HasType value wide) (becomes : SetBecomes asked ty value) :
    ∃ element, asked = .set element := by
  obtain ⟨path, element, items, isSet, -, reaches⟩ := becomes
  induction path generalizing ty wide value with
  | nil =>
      cases isSet
      cases reaches
      cases typed with
      | set =>
          cases widens with
          | refl => exact ⟨element, rfl⟩
          | set => exact ⟨_, rfl⟩
  | cons step path ih =>
      rw [follow?, List.foldlM_cons] at isSet
      rw [Ty.follow?, List.foldlM_cons] at reaches
      obtain ⟨part, leads, follows⟩ := Option.bind_eq_some_iff.mp isSet
      obtain ⟨partTy, wanted, reached⟩ := Option.bind_eq_some_iff.mp reaches
      obtain ⟨partWide, inner, partTyped⟩ := typed.widened_part? widens leads wanted
      exact ih inner partTyped follows reached

/-- Equal values of a wider type become equal values on the way back. -/
theorem narrow_congr {ty wide : Ty} (widens : ty.Widens wide) (outer : ty.WellFormed) {a b back : Value}
    (left : a.WellFormed) (right : b.WellFormed) (typed : HasType a wide)
    (equal : exactlyEqual a b = true) (converted : convertTo ty a = .ok back) :
    ∃ other, convertTo ty b = .ok other ∧ exactlyEqual back other = true := by
  have given : Interchangeable True ty a b := by
    refine ⟨left, right, equal, fun wants becomes => ?_, fun _ element becomes => ?_⟩
    · obtain ⟨_, isSet⟩ := set_of_setBecomes widens typed becomes
      cases isSet
    · obtain ⟨_, isSet⟩ := set_of_setBecomes widens typed becomes
      cases isSet
  have agree := convertTo_agrees outer given
  obtain ⟨other, success⟩ := agree.succeeds_iff.mp ⟨back, converted⟩
  exact ⟨other, success, (agree.related converted success).equal trivial⟩

/-! ### The way back -/

/-- A converted value is converted to a type as a value that is equal to the given one. -/
def Restores (ty : Ty) (widened value : Value) : Prop :=
  ∃ back, convertTo ty widened = .ok back ∧ exactlyEqual back value = true

section Restore

variable {widened : Value} (present : widened.isAbsent = false) (wellFormed : widened.WellFormed)
include present wellFormed

theorem restores_list {element : Ty} (static : (Ty.list element).Static) {items : List Value}
    (differs : widened.type ≠ .list element) {located : Located} {own : Option Ty}
    (parts : sequence? widened = some (located, own))
    (restores : List.Forall₂ (fun item part => Restores element part item) items (located.map Prod.snd)) :
    Restores (.list element) widened (.list element items) := by
  obtain ⟨backs, related, converted⟩ := exists_list present wellFormed static.ofList differs parts
    fun part member => by
      obtain ⟨item, -, back, one, -⟩ := Outcome.exists_of_forall₂ restores member
      exact ⟨back, one⟩
  refine ⟨_, converted, exactlyEqual_list.mpr ⟨items, rfl, ?_⟩⟩
  apply (Outcome.forall₂_comp restores related ?_).flip
  rintro item part back ⟨restored, one, equal⟩ another
  obtain rfl := Except.ok.inj (one.symm.trans another)
  exact equal

/-- The members of a set are restored if each part restores one, and each one is restored by a part. -/
theorem restores_set {element : Ty} (static : (Ty.set element).Static) {items : List Value}
    (original : (Value.set element items).WellFormed) (differs : widened.type ≠ .set element)
    {located : Located} {own : Option Ty} (parts : sequence? widened = some (located, own))
    (forward : ∀ part ∈ located.map Prod.snd, ∃ item ∈ items, Restores element part item)
    (backward : ∀ item ∈ items, ∃ part ∈ located.map Prod.snd, Restores element part item) :
    Restores (.set element) widened (.set element items) := by
  obtain ⟨backs, related, converted⟩ := exists_set present wellFormed static.ofSet differs parts
    fun part member => by
      obtain ⟨item, -, back, one, -⟩ := forward part member
      exact ⟨back, one⟩
  cases original with
  | set _ _ differ inner =>
      have innerParts : ∀ part ∈ located.map Prod.snd, part.WellFormed :=
        List.forall_mem_map.mpr (wellFormed.sequence? parts).1
      have innerBacks : ∀ back ∈ backs, back.WellFormed := by
        intro back member
        obtain ⟨part, inParts, one⟩ := Outcome.exists_of_forall₂ related member
        exact convertTo_wellFormed static.ofSet.wellFormed (innerParts part inParts) one
      refine ⟨_, converted, ?_⟩
      rw [← withoutRepeats_of_differ differ]
      refine exactlyEqual_withoutRepeats inner ?_ innerBacks ?_ element
      · intro back member
        obtain ⟨part, inParts, one⟩ := Outcome.exists_of_forall₂ related member
        obtain ⟨item, inItems, _, another, equal⟩ := forward part inParts
        obtain rfl := Except.ok.inj (one.symm.trans another)
        exact ⟨item, inItems, equal⟩
      · intro item member
        obtain ⟨part, inParts, _, one, equal⟩ := backward item member
        obtain ⟨back, inBacks, another⟩ := Outcome.exists_of_forall₂ related.flip inParts
        obtain rfl := Except.ok.inj (one.symm.trans another)
        exact ⟨_, inBacks, exactlyEqual_symm (innerBacks _ inBacks) equal⟩

theorem restores_map {element : Ty} (static : (Ty.map element).Static)
    {entries parts : List (String × Value)} {own : Option Ty} (nodup : (entries.map Prod.fst).Nodup)
    (differs : widened.type ≠ .map element) (mapping : mapping? widened = some (parts, own))
    (restores : List.Forall₂ (fun entry part => part.1 = entry.1 ∧ Restores element part.2 entry.2)
      entries parts) :
    Restores (.map element) widened (.map element entries) := by
  obtain ⟨backs, related, converted⟩ := exists_map present wellFormed static.ofMap differs mapping
    fun part member => by
      obtain ⟨entry, -, -, back, one, -⟩ := Outcome.exists_of_forall₂ restores member
      exact ⟨back, one⟩
  have both : List.Forall₂ (fun entry back => back.1 = entry.1 ∧ exactlyEqual back.2 entry.2 = true)
      entries backs := by
    apply Outcome.forall₂_comp restores related
    rintro entry part back ⟨key, _, one, equal⟩ ⟨sameKey, another⟩
    obtain rfl := Except.ok.inj (one.symm.trans another)
    exact ⟨sameKey.trans key, equal⟩
  refine ⟨_, converted, exactlyEqual_map.mpr ⟨entries, rfl, both.length_eq.symm, fun back member => ?_⟩⟩
  obtain ⟨entry, inEntries, key, equal⟩ := Outcome.exists_of_forall₂ both member
  exact ⟨entry.2, key ▸ lookup_of_mem nodup inEntries, equal⟩

omit wellFormed

theorem restores_tuple {elements : List Ty} {items : List Value}
    (differs : widened.type ≠ .tuple elements) {located : Located} {own : Option Ty}
    (parts : sequence? widened = some (located, own)) (length : located.length = elements.length)
    (restores : List.Forall₂ (fun item part => Restores part.1 part.2 item) items
      (elements.zip (located.map Prod.snd))) :
    Restores (.tuple elements) widened (.tuple items) := by
  obtain ⟨backs, related, converted⟩ := exists_tuple present differs parts length
    fun part member => by
      obtain ⟨item, -, back, one, -⟩ := Outcome.exists_of_forall₂ restores member
      exact ⟨back, one⟩
  refine ⟨_, converted, exactlyEqual_tuple.mpr ⟨items, rfl, ?_⟩⟩
  apply (Outcome.forall₂_comp restores related ?_).flip
  rintro item part back ⟨_, one, equal⟩ another
  obtain rfl := Except.ok.inj (one.symm.trans another)
  exact equal

theorem restores_object {attributes : List (String × Ty)} {entries parts : List (String × Value)}
    {own : Option Ty} (keys : (entries.map Prod.fst).Perm (attributes.map Prod.fst))
    (differs : widened.type ≠ .object attributes) (mapping : mapping? widened = some (parts, own))
    (supported : unsupported? attributes widened = none)
    (restores : ∀ want ∈ attributes, ∃ item part, entries.lookup want.1 = some item ∧
      parts.lookup want.1 = some part ∧ Restores want.2 part item) :
    Restores (.object attributes) widened (.object entries) := by
  obtain ⟨backs, related, converted⟩ := exists_object present differs mapping supported
    fun want member => by
      obtain ⟨item, part, -, found, back, one, -⟩ := restores want member
      exact ⟨part, found, back, one⟩
  have length : backs.length = entries.length := by
    have named := keys.length_eq
    rw [List.length_map, List.length_map] at named
    rw [← related.length_eq, named]
  refine ⟨_, converted, exactlyEqual_object.mpr ⟨entries, rfl, length, fun back member => ?_⟩⟩
  obtain ⟨want, inWants, name, part, found, one⟩ := Outcome.exists_of_forall₂ related member
  obtain ⟨item, again, given, foundAgain, _, another, equal⟩ := restores want inWants
  obtain rfl := Option.some.inj (found.symm.trans foundAgain)
  obtain rfl := Except.ok.inj (one.symm.trans another)
  exact ⟨item, name ▸ given, equal⟩

end Restore

end Value

end Crosswalk
