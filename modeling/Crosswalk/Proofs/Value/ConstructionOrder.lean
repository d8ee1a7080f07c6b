/-
Module: Crosswalk.Proofs.Value.ConstructionOrder
Purpose: What exact equality forgets about how a value was made. A set keeps the first of the elements that
  are equal to each other, and sets of the same members are equal in whatever order and however often these
  were given. Maps and objects are equal whatever the order of their entries.
Main exports: Value.firstOfEach, Value.withoutRepeats_eq_firstOfEach, Value.SameMembers,
  Value.exactlyEqual_equivalence, Value.exactlyEqual_forgets_construction
-/
import Crosswalk.Proofs.Value.Alike

namespace Crosswalk.Value

/-- On well-formed values exact equality is an equivalence. -/
theorem exactlyEqual_equivalence :
    Equivalence fun a b : { value : Value // value.WellFormed } => exactlyEqual a.1 b.1 = true where
  refl a := exactlyEqual_refl a.2
  symm {a _} equal := exactlyEqual_symm a.2 equal
  trans first second := exactlyEqual_trans first second

/-! ### First occurrences -/

/-- The elements before which no equal one stands, in their order. -/
def firstOfEach (items : List Value) : List Value :=
  (items.zipIdx.filter fun located => !(items.take located.2).any (exactlyEqual located.1)).map Prod.fst

theorem firstOfEach_sublist (items : List Value) : (firstOfEach items).Sublist items := by
  have kept := (List.filter_sublist (p := fun located : Value × Nat =>
    !(items.take located.2).any (exactlyEqual located.1)) (l := items.zipIdx)).map Prod.fst
  rwa [List.zipIdx_map_fst] at kept

/-- A further element is kept if it is equal to none of those before. -/
theorem firstOfEach_concat (items : List Value) (item : Value) :
    firstOfEach (items ++ [item]) =
      if items.any (exactlyEqual item) then firstOfEach items else firstOfEach items ++ [item] := by
  have before : items.zipIdx.filter
        (fun located => !((items ++ [item]).take located.2).any (exactlyEqual located.1)) =
      items.zipIdx.filter fun located => !(items.take located.2).any (exactlyEqual located.1) := by
    apply List.filter_congr
    intro located member
    rw [List.take_append_of_le_length (List.snd_lt_of_mem_zipIdx member).le]
  rw [firstOfEach, List.zipIdx_append, List.filter_append, before, List.map_append, ← firstOfEach]
  cases present : items.any (exactlyEqual item) with
  | true => simp [List.filter, present]
  | false => simp [List.filter, present]

theorem withoutRepeats_concat (items : List Value) (item : Value) :
    withoutRepeats (items ++ [item]) =
      if (withoutRepeats items).any (exactlyEqual item) then withoutRepeats items
      else withoutRepeats items ++ [item] := by
  rw [withoutRepeats, List.foldl_append]
  rfl

/-- An element is equal to one that remains exactly if it is equal to one that was given. -/
theorem any_withoutRepeats {items : List Value} (inner : ∀ item ∈ items, item.WellFormed) (item : Value) :
    (withoutRepeats items).any (exactlyEqual item) = items.any (exactlyEqual item) := by
  rw [Bool.eq_iff_iff, List.any_eq_true, List.any_eq_true]
  constructor
  · rintro ⟨other, remains, equal⟩
    exact ⟨other, mem_of_mem_withoutRepeats remains, equal⟩
  · rintro ⟨other, member, equal⟩
    obtain ⟨kept, remains, same⟩ := exists_mem_withoutRepeats inner member
    exact ⟨kept, remains, exactlyEqual_trans equal same⟩

/-- What remains is the first of the elements that are equal to each other. -/
theorem withoutRepeats_eq_firstOfEach {items : List Value} (inner : ∀ item ∈ items, item.WellFormed) :
    withoutRepeats items = firstOfEach items := by
  induction items using List.reverseRecOn with
  | nil => rfl
  | append_singleton items item ih =>
      have innerBefore := fun other member => inner other (List.mem_append_left [item] member)
      rw [withoutRepeats_concat, firstOfEach_concat, any_withoutRepeats innerBefore, ih innerBefore]

/-- Of elements that differ from each other exactly one is equal to a value that has an equal among them. -/
theorem countP_eq_one {items : List Value} (differ : items.Pairwise Differ) {value : Value}
    (wellFormed : value.WellFormed) (present : ∃ item ∈ items, exactlyEqual value item = true) :
    items.countP (exactlyEqual value) = 1 := by
  have positive : 0 < items.countP (exactlyEqual value) := by
    obtain ⟨item, member, equal⟩ := present
    exact List.countP_pos_iff.mpr ⟨item, member, equal⟩
  have single : (items.filter (exactlyEqual value)).length ≤ 1 := by
    have apart := differ.filter (exactlyEqual value)
    have equal : ∀ item ∈ items.filter (exactlyEqual value), exactlyEqual value item = true :=
      fun item member => (List.mem_filter.mp member).2
    match items.filter (exactlyEqual value), apart, equal with
    | [], _, _ | [_], _, _ => simp
    | first :: second :: rest, apart, equal =>
        simp only [List.pairwise_cons, List.forall_mem_cons] at apart equal
        have together := exactlyEqual_trans (exactlyEqual_symm wellFormed equal.1) equal.2.1
        exact absurd together (Bool.eq_false_iff.mp apart.1.1.1)
  rw [← List.countP_eq_length_filter] at single
  omega

/-! ### Values of the same parts -/

/-- Each element of one list has an equal among those of the other, and conversely. -/
structure SameMembers (items others : List Value) : Prop where
  among : ∀ item ∈ items, ∃ other ∈ others, exactlyEqual item other = true
  back : ∀ other ∈ others, ∃ item ∈ items, exactlyEqual other item = true

/-- Lists of the same members have elements of the same types. -/
theorem SameMembers.mem_types {items others : List Value} (same : SameMembers items others)
    (left : ∀ item ∈ items, item.WellFormed) (right : ∀ other ∈ others, other.WellFormed) (ty : Ty) :
    ty ∈ items.map type ↔ ty ∈ others.map type := by
  rw [List.mem_map, List.mem_map]
  constructor
  · rintro ⟨item, member, rfl⟩
    obtain ⟨other, inOther, equal⟩ := same.among item member
    exact ⟨other, inOther, (type_eq_of_exactlyEqual (left item member) (right other inOther) equal).symm⟩
  · rintro ⟨other, member, rfl⟩
    obtain ⟨item, inFirst, equal⟩ := same.back other member
    exact ⟨item, inFirst, (type_eq_of_exactlyEqual (right other member) (left item inFirst) equal).symm⟩

/-- The element type found for elements depends on which types they have, and not on their order: a first
    element of another type than the rest is only accepted if it is of the dynamic type. -/
theorem elementType_unique {collection : String} {items others : List Value} {asked : Option Ty}
    {element another : Ty} (types : ∀ ty, ty ∈ items.map type ↔ ty ∈ others.map type)
    (found : elementType collection items asked = .ok element)
    (foundOther : elementType collection others asked = .ok another) : element = another := by
  cases asked with
  | some ty =>
      obtain ⟨rfl, -⟩ := elementType_check_eq_ok.mp found
      obtain ⟨rfl, -⟩ := elementType_check_eq_ok.mp foundOther
      rfl
  | none =>
      obtain ⟨first, fits⟩ := elementType_eq_ok found
      obtain ⟨firstOther, fitsOther⟩ := elementType_eq_ok foundOther
      obtain ⟨item, member, rfl⟩ := first.resolve_left nofun
      obtain ⟨other, memberOther, rfl⟩ := firstOther.resolve_left nofun
      obtain ⟨met, inOther, typeMet⟩ := List.mem_map.mp ((types _).mp (List.mem_map_of_mem member))
      obtain ⟨seen, inFirst, typeSeen⟩ := List.mem_map.mp ((types _).mpr (List.mem_map_of_mem memberOther))
      rcases fitsOther met inOther with dynamicOther | same
      · rcases fits seen inFirst with dynamic | same
        · exact dynamic.trans dynamicOther.symm
        · exact same.symm.trans typeSeen
      · exact typeMet.symm.trans same

section Made

variable {asked askedOther : Option Ty} {a b : Value}

/-- Sets of the same members are equal, whatever the order and the repetitions, if they have one element
    type. -/
theorem setOf_exactlyEqual {items others : List Value} (left : ∀ item ∈ items, item.WellFormed)
    (right : ∀ other ∈ others, other.WellFormed) (same : SameMembers items others)
    (made : setOf items asked = .ok a) (madeOther : setOf others askedOther = .ok b)
    (one : asked = askedOther ∨ a.type = b.type) : a.type = b.type ∧ exactlyEqual a b = true := by
  obtain ⟨element, found, rfl⟩ := setOf_eq_ok made
  obtain ⟨another, foundOther, rfl⟩ := setOf_eq_ok madeOther
  obtain rfl : element = another := by
    rcases one with rfl | types
    · refine elementType_unique (fun ty => ?_) found foundOther
      rw [mem_types_withoutRepeats left, mem_types_withoutRepeats right, same.mem_types left right]
    · exact Ty.set.inj types
  exact ⟨rfl, exactlyEqual_withoutRepeats right same.among left same.back element⟩

/-- Of permuted entries each is found under its key. -/
theorem among_of_perm {as bs : List (String × Value)} (inner : ∀ entry ∈ as, entry.2.WellFormed)
    (nodup : (bs.map Prod.fst).Nodup) (perm : as.Perm bs) :
    ∀ entry ∈ as, ∃ b, bs.lookup entry.1 = some b ∧ exactlyEqual entry.2 b = true :=
  fun entry member =>
    ⟨entry.2, lookup_of_mem nodup (perm.mem_iff.mp member), exactlyEqual_refl (inner entry member)⟩

section Permuted

variable {pairs others : List (String × Value)} (inner : ∀ pair ∈ pairs, pair.2.WellFormed)
  (perm : (entriesOf pairs).Perm (entriesOf others))
include inner perm

/-- Maps of permuted entries are equal if they have one element type. -/
theorem mapOf_exactlyEqual (made : mapOf pairs asked = .ok a) (madeOther : mapOf others askedOther = .ok b)
    (one : asked = askedOther ∨ a.type = b.type) : a.type = b.type ∧ exactlyEqual a b = true := by
  obtain ⟨element, found, rfl⟩ := mapOf_eq_ok made
  obtain ⟨another, foundOther, rfl⟩ := mapOf_eq_ok madeOther
  obtain rfl : element = another := by
    rcases one with rfl | types
    · exact elementType_unique (fun ty => ((perm.map Prod.snd).map type).mem_iff) found foundOther
    · exact Ty.map.inj types
  have kept := fun entry member => inner entry (mem_of_mem_entriesOf member)
  exact ⟨rfl, exactlyEqual_map.mpr
    ⟨_, rfl, perm.length_eq, among_of_perm kept (nodup_keys_entriesOf others) perm⟩⟩

/-- Objects of permuted attributes are equal, and have one type. -/
theorem objectOf_exactlyEqual : (objectOf pairs).type = (objectOf others).type ∧
    exactlyEqual (objectOf pairs) (objectOf others) = true := by
  have kept := fun entry member => inner entry (mem_of_mem_entriesOf member)
  have keptOther := fun entry member => kept entry (perm.mem_iff.mpr member)
  have equal : exactlyEqual (objectOf pairs) (objectOf others) = true := exactlyEqual_object.mpr
    ⟨_, rfl, perm.length_eq, among_of_perm kept (nodup_keys_entriesOf others) perm⟩
  exact ⟨type_eq_of_exactlyEqual (objectOf_wellFormed inner)
    (.ofEntries (nodup_keys_entriesOf others) keptOther) equal, equal⟩

end Permuted

end Made

/-- Exact equality is an equivalence. Of the elements that are equal to each other a set keeps exactly one,
    and these are the first ones in their order. Sets of the same members, maps of permuted entries and
    objects of permuted attributes have equal types and are equal. -/
theorem exactlyEqual_forgets_construction :
    (Equivalence fun a b : { value : Value // value.WellFormed } => exactlyEqual a.1 b.1 = true) ∧
    (∀ (items : List Value) (asked : Option Ty) (made : Value), (∀ item ∈ items, item.WellFormed) →
      setOf items asked = .ok made → ∃ element members, made = .set element members ∧
        members = firstOfEach items ∧ ∀ item ∈ items, members.countP (exactlyEqual item) = 1) ∧
    (∀ (items others : List Value) (asked askedOther : Option Ty) (a b : Value),
      (∀ item ∈ items, item.WellFormed) → (∀ other ∈ others, other.WellFormed) →
      SameMembers items others → setOf items asked = .ok a → setOf others askedOther = .ok b →
      asked = askedOther ∨ a.type = b.type → a.type = b.type ∧ exactlyEqual a b = true) ∧
    (∀ (pairs others : List (String × Value)) (asked askedOther : Option Ty) (a b : Value),
      (∀ pair ∈ pairs, pair.2.WellFormed) → (entriesOf pairs).Perm (entriesOf others) →
      mapOf pairs asked = .ok a → mapOf others askedOther = .ok b →
      asked = askedOther ∨ a.type = b.type → a.type = b.type ∧ exactlyEqual a b = true) ∧
    ∀ pairs others : List (String × Value), (∀ pair ∈ pairs, pair.2.WellFormed) →
      (entriesOf pairs).Perm (entriesOf others) →
      (objectOf pairs).type = (objectOf others).type ∧
        exactlyEqual (objectOf pairs) (objectOf others) = true := by
  refine ⟨exactlyEqual_equivalence, ?_, ?_, ?_, ?_⟩
  · intro items asked made inner built
    obtain ⟨element, -, rfl⟩ := setOf_eq_ok built
    refine ⟨element, _, rfl, withoutRepeats_eq_firstOfEach inner, fun item member => ?_⟩
    exact countP_eq_one (differ_withoutRepeats inner) (inner item member)
      (exists_mem_withoutRepeats inner member)
  · intro items others asked askedOther a b left right same made madeOther one
    exact setOf_exactlyEqual left right same made madeOther one
  · intro pairs others asked askedOther a b inner perm made madeOther one
    exact mapOf_exactlyEqual inner perm made madeOther one
  · intro pairs others inner perm
    exact objectOf_exactlyEqual inner perm

/-- Both truth values in another order and with a repetition, and a null and a truth value under two keys:
    the sets, maps and objects are equal. -/
theorem exactlyEqual_forgets_construction_reordered :
    setOf [.bool true, .bool false, .bool true] none = .ok (.set .bool [.bool true, .bool false]) ∧
      exactlyEqual (.set .bool [.bool true, .bool false]) (.set .bool [.bool false, .bool true]) = true ∧
      exactlyEqual (.map .bool [("a", .null .bool), ("b", .bool true)])
        (.map .bool [("b", .bool true), ("a", .null .bool)]) = true ∧
      exactlyEqual (.object [("a", .null .bool), ("b", .bool true)])
        (.object [("b", .bool true), ("a", .null .bool)]) = true := by
  have flags : ∀ item ∈ [Value.bool true, .bool false, .bool true], item.WellFormed := by
    simp [WellFormed.bool]
  have flagsOther : ∀ item ∈ [Value.bool false, .bool true], item.WellFormed := by
    simp [WellFormed.bool]
  have same : SameMembers [.bool true, .bool false, .bool true] [.bool false, .bool true] :=
    ⟨by simp [exactlyEqual], by simp [exactlyEqual]⟩
  have entries : ∀ pair ∈ [("a", Value.null .bool), ("b", .bool true)], pair.2.WellFormed := by
    simp [WellFormed.bool, WellFormed.null Ty.WellFormed.bool]
  have perm : (entriesOf [("a", Value.null .bool), ("b", .bool true)]).Perm
      (entriesOf [("b", .bool true), ("a", .null .bool)]) := .swap _ _ _
  obtain ⟨-, -, sets, maps, objects⟩ := exactlyEqual_forgets_construction
  refine ⟨rfl, ?_, ?_, ?_⟩
  · exact (sets _ _ none none _ _ flags flagsOther same rfl rfl (.inl rfl)).2
  · exact (maps _ _ none none _ _ entries perm rfl rfl (.inl rfl)).2
  · exact (objects _ _ entries perm).2

end Crosswalk.Value
