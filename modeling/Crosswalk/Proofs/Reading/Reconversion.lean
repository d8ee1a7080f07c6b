/-
Module: Crosswalk.Proofs.Reading.Reconversion
Purpose: What a host value converts to is left as it is by a conversion of structural values to the same type.
  The two conversions determine the open element types of a collection differently, one by the first element
  and the other by what all elements have in common; elements that have the type of the first one have it in
  common.
Main exports: Reading.Settled, Reading.table_settled, Tree.convert_rests, Host.convert_rests
-/
import Crosswalk.Proofs.Host.Conversion
import Crosswalk.Proofs.Reading.Failure
import Crosswalk.Proofs.Value.Reconversion

namespace Crosswalk

namespace Reading

/-- Whatever the reading converts to rests at the wanted type. -/
def Settled (reading : Reading) : Prop :=
  ∀ want result, want.WellFormed → reading.convert want = .ok result → result.Rests want

/-- At a type without dynamic parts everything rests that has it. -/
theorem Sound.settled {reading : Reading} (sound : reading.Sound)
    (undetermined : ∀ want result, want.WellFormed → want.hasDynamic = true →
      reading.convert want = .ok result → result.Rests want) : reading.Settled := by
  intro want result outer read
  cases dynamic : want.hasDynamic with
  | false => exact .ofType ((sound.typed want result outer dynamic read).type_eq outer)
  | true => exact undetermined want result outer dynamic read

theorem nil_settled : nil.Settled :=
  fun _ _ _ read => Except.ok.inj read ▸ .ofType rfl

theorem unsupported_settled (kind : HostKind) : (unsupported kind).Settled :=
  nofun

theorem endless_settled : endless.Settled := by
  apply endless_sound.settled
  rintro want _ outer dynamic read
  cases want with
  | bool => cases dynamic
  | _ => cases read

theorem wrapped_settled {value : Value} (inner : value.WellFormed) : (wrapped value).Settled := by
  intro want result outer read
  exact Value.rests_of_convertTo outer inner ((Tree.convert_wrapped value want).symm.trans read)

theorem scalar_settled {kind : HostKind} {truthy : Bool} {ownType : Ty} {own : Outcome Value}
    (primitive : ownType.WellFormed ∧ ownType.hasDynamic = false) (form : OwnForm ownType own) :
    (scalar kind truthy ownType own).Settled := by
  apply (scalar_sound primitive form).settled
  intro want result outer dynamic read
  by_cases whole : want = .dynamic
  · exact whole ▸ .dynamic result
  · have other : want ≠ ownType := by
      rintro rfl
      cases dynamic.symm.trans primitive.2
    simp only [scalar, Bool.or_eq_true, Ty.isDynamic_iff, whole, decide_eq_true_eq, other, or_self,
      if_false] at read
    cases want with
    | bool | number | string => cases dynamic
    | _ => cases read

/-! ### Tables -/

theorem atPosition_settled {entries : List Entry} (inner : ∀ entry ∈ entries, entry.reading.Settled)
    (position : Nat) : (atPosition entries position).Settled := by
  rcases atPosition_cases entries position with isNil | ⟨entry, member, same⟩
  · exact isNil ▸ nil_settled
  · exact same ▸ inner entry member

theorem byText_settled {entries : List Entry} (inner : ∀ entry ∈ entries, entry.reading.Settled)
    {named : List (String × Reading)} (read : byText entries = .ok named) :
    ∀ other ∈ named, other.2.Settled := by
  intro other member
  obtain ⟨entry, inEntries, -, same⟩ := mem_of_byText read member
  exact same ▸ inner entry inEntries

theorem lookup_settled {named : List (String × Reading)} (inner : ∀ other ∈ named, other.2.Settled)
    (name : String) : ((named.lookup name).getD nil).Settled := by
  cases found : named.lookup name with
  | none => exact nil_settled
  | some reading => exact inner _ (mem_of_lookup found)

/-- Elements that have the type of the first one rest together. -/
theorem convertElements_restTogether {want element : Ty} {located : List (Step × Reading)}
    {items : List Value} (outer : want.WellFormed) (dynamic : want.hasDynamic = true)
    (inner : ∀ before ∈ located, before.2.Settled)
    (converted : convertElements want located = .ok (items, element)) :
    Value.RestTogether want element items := by
  have each : ∀ item ∈ items, item.Rests want := by
    intro item member
    obtain ⟨before, inLocated, one⟩ :=
      Outcome.exists_of_forall₂ (convertElements_eq_ok converted).1 member
    exact inner before inLocated want item outer one
  unfold convertElements at converted
  rw [dynamic] at converted
  cases located with
  | nil =>
      cases converted
      refine ⟨each, List.forall_mem_nil _, fun _ => ?_⟩
      unfold Value.fallbackType
      split <;> rfl
  | cons first rest =>
      obtain ⟨item, -, converted⟩ := Outcome.bind_eq_ok.mp converted
      obtain ⟨others, later, done⟩ := Outcome.bind_eq_ok.mp converted
      cases done
      exact ⟨each, List.forall_mem_cons.mpr ⟨rfl, convertAtType_types later⟩, nofun⟩

section Tables

variable {entries : List Entry} (sound : ∀ entry ∈ entries, entry.reading.Sound)
  (inner : ∀ entry ∈ entries, entry.reading.Settled)
include inner

theorem toSequence_restTogether {want element : Ty} {items : List Value} (outer : want.WellFormed)
    (dynamic : want.hasDynamic = true) (read : toSequence want entries = .ok (items, element)) :
    Value.RestTogether want element items := by
  refine convertElements_restTogether outer dynamic ?_ (toSequence_eq_ok read).2
  exact List.forall_mem_map.mpr fun position _ => atPosition_settled inner position

theorem toTuple_rests {wants : List Ty} {result : Value} (parts : ∀ want ∈ wants, want.WellFormed)
    (read : toTuple wants entries = .ok result) : result.Rests (.tuple wants) := by
  obtain ⟨items, rfl, -, each⟩ := toTuple_eq_ok read
  have wantsOf : wants.zipIdx.map Prod.fst = wants := List.zipIdx_map_fst 0 wants
  have pairs := Outcome.forall₂_of_mem each fun want member item one =>
    atPosition_settled inner want.2 want.1 item (parts _ (List.fst_mem_of_mem_zipIdx member)) one
  exact Value.rests_tuple (wantsOf ▸ List.forall₂_map_left_iff.mpr pairs)

theorem toMap_rests {want : Ty} {result : Value} (outer : want.WellFormed)
    (dynamic : want.hasDynamic = true) (read : toMap want entries = .ok result) :
    result.Rests (.map want) := by
  obtain ⟨named, items, element, byKey, converted, built⟩ := toMap_eq_ok read
  have rest := convertElements_restTogether outer dynamic
    (List.forall_mem_map.mpr (byText_settled inner byKey)) converted
  have length : items.length = (named.map Prod.fst).length := by
    simpa using (convertElements_eq_ok converted).1.length_eq.symm
  obtain ⟨result, rfl, different, rfl, -⟩ :=
    Value.mapOf_zip_eq_ok (byText_eq_ok byKey).1 length built
  exact Value.rests_map dynamic different rest

theorem toObject_rests {wants : List (String × Ty)} {result : Value} (sorted : Ty.Sorted wants)
    (parts : ∀ want ∈ wants, want.2.WellFormed) (read : toObject wants entries = .ok result) :
    result.Rests (.object wants) := by
  obtain ⟨named, attributes, rfl, byKey, -, each⟩ := toObject_eq_ok read
  apply Value.rests_object sorted
  apply Outcome.forall₂_of_mem each
  rintro want member attr ⟨name, one⟩
  exact ⟨name, lookup_settled (byText_settled inner byKey) want.1 want.2 attr.2 (parts want member) one⟩

include sound

theorem table_settled : (table entries).Settled := by
  apply (table_sound sound).settled
  intro want result outer dynamic read
  cases outer with
  | bool | number | string => cases dynamic
  | dynamic => exact .dynamic result
  | list outer =>
      obtain ⟨⟨items, common⟩, sequence, built⟩ := Outcome.bind_eq_ok.mp read
      obtain ⟨element, found, rfl⟩ := Value.listOf_eq_ok built
      obtain ⟨rfl, -⟩ := Value.elementType_check_eq_ok.mp found
      exact Value.rests_list dynamic (toSequence_restTogether inner outer dynamic sequence)
  | set outer =>
      obtain ⟨⟨items, common⟩, sequence, built⟩ := Outcome.bind_eq_ok.mp read
      obtain ⟨element, found, rfl⟩ := Value.setOf_eq_ok built
      obtain ⟨rfl, -⟩ := Value.elementType_check_eq_ok.mp found
      have wellFormed := (toSequence_sound sound outer sequence).2.1
      refine Value.rests_set dynamic ?_ (Value.differ_withoutRepeats wellFormed)
      exact (toSequence_restTogether inner outer dynamic sequence).among
        (fun _ => Value.mem_of_mem_withoutRepeats) (Value.eq_nil_of_withoutRepeats wellFormed)
  | map outer => exact toMap_rests inner outer dynamic read
  | object sorted parts => exact toObject_rests inner sorted parts read
  | tuple parts => exact toTuple_rests inner parts read

end Tables

end Reading

namespace Tree

theorem read_settled {tree : Tree} (payloads : tree.All Value.WellFormed) : tree.read.Settled := by
  induction payloads with
  | nil => exact Reading.nil_settled
  | boolean flag => exact Reading.scalar_settled ⟨.bool, rfl⟩ (boolean_form flag)
  | number x => exact Reading.scalar_settled ⟨.number, rfl⟩ (ofNumber_form x)
  | string text => exact Reading.scalar_settled ⟨.string, rfl⟩ (string_form text)
  | @table entries _ values _ ih =>
      apply Reading.table_settled
      · rw [readEntries_eq_map]
        exact List.forall_mem_map.mpr fun entry member => read_sound (values entry member)
      · rw [readEntries_eq_map]
        exact List.forall_mem_map.mpr ih
  | function => exact Reading.unsupported_settled .function
  | wrapped inner => exact Reading.wrapped_settled inner
  | foreign => exact Reading.unsupported_settled .userdata
  | endless => exact Reading.endless_settled

end Tree

/-- What a host value converts to is left as it is by a second conversion to the same type. -/
theorem Host.convert_rests {host : Host} (payloads : host.Carries Value.WellFormed) {value : HostValue}
    {want : Ty} (outer : want.WellFormed) {result : Value}
    (converted : host.convert value want = .ok result) : result.Rests want :=
  Tree.read_settled (treeTo_all payloads _ value) want result outer converted

end Crosswalk
