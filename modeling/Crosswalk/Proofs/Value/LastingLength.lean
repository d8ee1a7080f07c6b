/-
Module: Crosswalk.Proofs.Value.LastingLength
Purpose: What becomes of a known length when unknown parts get data. A completion puts values with data of the
  same types in place of unknown parts, at any depth, and builds the sets on the way again. Texts, lists, maps
  and tuples keep their length, and a tuple that is unknown as a whole has it from its type. A set takes an
  unknown element for one that differs from all others, so it can only lose elements; it loses none exactly if
  no two of its elements become equal.
Main exports: Value.Completes, Value.KeepsApart, Value.length_withoutRepeats_eq_iff, Value.length_lasts_iff
-/
import Crosswalk.Proofs.Decimal.Order
import Crosswalk.Proofs.Value.ConstructionOrder
import Crosswalk.Proofs.Value.Refinement
import Crosswalk.Value.Access

namespace Crosswalk

/-! ### Related lists and their sublists -/

section Related

variable {α β : Type} {Related : α → β → Prop} {xs : List α} {ys : List β}

/-- Where related members are apart as the members they are related to are, all of them are. -/
theorem pairwise_of_forall₂ {Apart : α → α → Prop} {Other : β → β → Prop}
    (related : List.Forall₂ Related xs ys) (apart : xs.Pairwise Apart)
    (step : ∀ x x' y y', Apart x x' → Related x y → Related x' y' → Other y y') : ys.Pairwise Other := by
  induction related with
  | nil => exact .nil
  | cons head tail ih =>
      obtain ⟨first, rest⟩ := List.pairwise_cons.mp apart
      refine List.pairwise_cons.mpr ⟨fun y' member => ?_, ih rest⟩
      obtain ⟨x', inRest, other⟩ := Outcome.exists_of_forall₂ tail member
      exact step _ _ _ _ (first x' inRest) head other

/-- What a sublist is related to is a sublist of something that the whole list is related to. -/
theorem exists_forall₂_of_sublist {Related : α → α → Prop} (refl : ∀ x, Related x x) {part whole : List α}
    (sublist : part.Sublist whole) {others : List α} (related : List.Forall₂ Related part others) :
    ∃ wholeOthers, List.Forall₂ Related whole wholeOthers ∧ others.Sublist wholeOthers := by
  induction sublist generalizing others with
  | slnil =>
      cases related
      exact ⟨[], .nil, .slnil⟩
  | cons x _ ih =>
      obtain ⟨rest, relatedRest, kept⟩ := ih related
      exact ⟨x :: rest, .cons (refl x) relatedRest, kept.cons x⟩
  | cons_cons x _ ih =>
      cases related with
      | cons head tail =>
          obtain ⟨rest, relatedRest, kept⟩ := ih tail
          exact ⟨_ :: rest, .cons head relatedRest, kept.cons_cons _⟩

end Related

namespace Value

/-! ### Completions -/

/-- The second value is the first one with values that have data in place of some unknown parts. -/
inductive Completes : Value → Value → Prop
  | keep (value : Value) : Completes value value
  | fill {value : Value} (wellFormed : value.WellFormed) (present : value.isAbsent = false) :
      Completes (.unknown value.type) value
  | list {element : Ty} {items completed : List Value} (length : items.length = completed.length)
      (inner : ∀ pair ∈ items.zip completed, Completes pair.1 pair.2) :
      Completes (.list element items) (.list element completed)
  | set {element : Ty} {items completed : List Value} {result : Value}
      (length : items.length = completed.length)
      (inner : ∀ pair ∈ items.zip completed, Completes pair.1 pair.2)
      (built : setOf completed (some element) = .ok result) : Completes (.set element items) result
  | map {element : Ty} {entries completed : List (String × Value)}
      (length : entries.length = completed.length)
      (keys : ∀ pair ∈ entries.zip completed, pair.2.1 = pair.1.1)
      (inner : ∀ pair ∈ entries.zip completed, Completes pair.1.2 pair.2.2) :
      Completes (.map element entries) (.map element completed)
  | object {entries completed : List (String × Value)} (length : entries.length = completed.length)
      (keys : ∀ pair ∈ entries.zip completed, pair.2.1 = pair.1.1)
      (inner : ∀ pair ∈ entries.zip completed, Completes pair.1.2 pair.2.2) :
      Completes (.object entries) (.object completed)
  | tuple {items completed : List Value} (length : items.length = completed.length)
      (inner : ∀ pair ∈ items.zip completed, Completes pair.1 pair.2) :
      Completes (.tuple items) (.tuple completed)

/-- A completion is a refinement that puts no null in the place of an unknown part. -/
theorem Completes.refines {value completed : Value} (completes : Completes value completed) :
    Refines value completed := by
  induction completes with
  | keep => exact .keep _
  | fill wellFormed present => exact .fill wellFormed (by simpa using (Bool.or_eq_false_iff.mp present).2)
  | list length _ ih => exact .list length ih
  | set length _ built ih => exact .set length ih built
  | map length keys _ ih => exact .map length keys ih
  | object length keys _ ih => exact .object length keys ih
  | tuple length _ ih => exact .tuple length ih

/-- A set of well-formed elements is completed by building it again of completed elements. -/
theorem completes_set {element : Ty} {items : List Value} {result : Value}
    (wellFormed : (Value.set element items).WellFormed) :
    Completes (.set element items) result ↔ ∃ completed, List.Forall₂ Completes items completed ∧
      result = .set element (withoutRepeats completed) := by
  cases wellFormed with
  | set _ fits differ inner =>
      constructor
      · intro completes
        cases completes with
        | keep => exact ⟨items, List.forall₂_same.mpr fun item _ => .keep item, by
            rw [withoutRepeats_of_differ differ]⟩
        | set length inner built =>
            obtain ⟨_, found, rfl⟩ := setOf_eq_ok built
            obtain ⟨rfl, -⟩ := elementType_check_eq_ok.mp found
            exact ⟨_, List.forall₂_iff_zip.mpr ⟨length, inner _⟩, rfl⟩
      · rintro ⟨completed, steps, rfl⟩
        have length := steps.length_eq
        refine .set length (fun pair member => List.forall₂_zip steps member) (setOf_of_fits ?_)
        intro other member
        obtain ⟨item, inItems, step⟩ := Outcome.exists_of_forall₂ steps member
        exact (fits item inItems).refines step.refines

/-- Completed elements are well-formed. -/
theorem wellFormed_of_completes {items completed : List Value} (inner : ∀ item ∈ items, item.WellFormed)
    (steps : List.Forall₂ Completes items completed) : ∀ item ∈ completed, item.WellFormed := by
  intro other member
  obtain ⟨item, inItems, step⟩ := Outcome.exists_of_forall₂ steps member
  exact step.refines.wellFormed (inner item inItems)

/-! ### Lengths -/

theorem ofNat_inj {m n : Nat} : ofNat m = ofNat n ↔ m = n := by
  constructor
  · intro same
    have places := congrArg Decimal.place (Value.number.inj same)
    rw [Decimal.ofInt, Decimal.ofInt, Decimal.place_ofParts, Decimal.place_ofParts,
      Decimal.place_finite_inj] at places
    simpa using places
  · rintro rfl
    rfl

/-- All elements remain exactly if they differ from each other. -/
theorem length_withoutRepeats_eq_iff {items : List Value} (inner : ∀ item ∈ items, item.WellFormed) :
    (withoutRepeats items).length = items.length ↔ items.Pairwise Differ := by
  constructor
  · intro length
    have sublist := withoutRepeats_eq_firstOfEach inner ▸ firstOfEach_sublist items
    exact sublist.eq_of_length length ▸ differ_withoutRepeats inner
  · intro differ
    rw [withoutRepeats_of_differ differ]

/-- The known length of a value other than a set stays what it is. -/
theorem length_of_completes {value completed : Value} {n : Nat} (known : value.length = .ok (ofNat n))
    (noSet : ¬ ∃ element items, value = .set element items) (completes : Completes value completed) :
    completed.length = .ok (ofNat n) := by
  cases completes with
  | keep => exact known
  | set => exact absurd ⟨_, _, rfl⟩ noSet
  | fill filler present =>
      -- Of unknown values only tuples have a known length, which is the number of types in their type.
      cases filler with
      | null | unknown => cases present
      | bool | number | string | list | set | map | object => cases known
      | tuple described =>
          rw [described] at known
          simpa [Value.length] using known
  | list length | map length | tuple length => exact known ▸ by simp [Value.length, length]
  | object => cases known

/-- No two elements of a set become equal, however the unknown parts of each get data. Other values have no
    elements that could fall together. -/
def KeepsApart (value : Value) : Prop :=
  ∀ element items, value = .set element items →
    items.Pairwise fun a b => ∀ a' b', Completes a a' → Completes b b' → exactlyEqual a' b' = false

section Sets

variable {element : Ty} {items : List Value} (wellFormed : (Value.set element items).WellFormed)
include wellFormed

/-- A completed set has no more elements, and as many exactly if the completed elements differ. -/
theorem length_completed_set {completed : List Value} (steps : List.Forall₂ Completes items completed) :
    (withoutRepeats completed).length ≤ items.length ∧
      ((withoutRepeats completed).length = items.length ↔ completed.Pairwise Differ) := by
  cases wellFormed with
  | set _ _ _ inner =>
      have parts := wellFormed_of_completes inner steps
      have sublist := withoutRepeats_eq_firstOfEach parts ▸ firstOfEach_sublist completed
      rw [steps.length_eq]
      exact ⟨sublist.length_le, length_withoutRepeats_eq_iff parts⟩

/-- Whatever two elements of a set become, they do so in a completion of the set that leaves the others as
    they are. -/
theorem keepsApart_set_iff : (Value.set element items).KeepsApart ↔
    ∀ completed, List.Forall₂ Completes items completed → completed.Pairwise Differ := by
  have inner : ∀ item ∈ items, item.WellFormed := by
    cases wellFormed with
    | set _ _ _ inner => exact inner
  constructor
  · intro apart completed steps
    have parts := wellFormed_of_completes inner steps
    have different : completed.Pairwise fun a b => exactlyEqual a b = false :=
      pairwise_of_forall₂ steps (apart element items rfl)
        fun _ _ _ _ apart first second => apart _ _ first second
    refine different.imp_of_mem fun {a b} first second unequal => ⟨unequal, ?_⟩
    rwa [exactlyEqual_comm (parts b second) (parts a first)]
  · intro differ element items same
    obtain ⟨rfl, rfl⟩ := Value.set.inj same
    rw [List.pairwise_iff_forall_sublist]
    intro a b sublist a' b' first second
    obtain ⟨completed, steps, kept⟩ :=
      exists_forall₂_of_sublist Completes.keep sublist (.cons first (.cons second .nil))
    exact (List.pairwise_pair.mp ((differ completed steps).sublist kept)).1

end Sets

/-- A known length can only become less when unknown parts get data, and it stays what it is in every case
    exactly if no two elements of a set can become equal. -/
theorem length_lasts_iff {value : Value} (wellFormed : value.WellFormed) {n : Nat}
    (known : value.length = .ok (ofNat n)) :
    (∀ completed, Completes value completed → ∃ m ≤ n, completed.length = .ok (ofNat m)) ∧
      ((∀ completed, Completes value completed → completed.length = .ok (ofNat n)) ↔ value.KeepsApart) := by
  by_cases isSet : ∃ element items, value = .set element items
  · obtain ⟨element, items, rfl⟩ := isSet
    obtain rfl : items.length = n := ofNat_inj.mp (Except.ok.inj known)
    constructor
    · intro result completes
      obtain ⟨completed, steps, rfl⟩ := (completes_set wellFormed).mp completes
      exact ⟨_, (length_completed_set wellFormed steps).1, rfl⟩
    · rw [keepsApart_set_iff wellFormed]
      constructor
      · intro lasts completed steps
        have same := lasts _ ((completes_set wellFormed).mpr ⟨completed, steps, rfl⟩)
        exact (length_completed_set wellFormed steps).2.mp (ofNat_inj.mp (Except.ok.inj same))
      · intro differ result completes
        obtain ⟨completed, steps, rfl⟩ := (completes_set wellFormed).mp completes
        have same := (length_completed_set wellFormed steps).2.mpr (differ completed steps)
        exact same ▸ rfl
  · have lasts : ∀ completed, Completes value completed → completed.length = .ok (ofNat n) :=
      fun completed completes => length_of_completes known isSet completes
    exact ⟨fun completed completes => ⟨n, le_rfl, lasts completed completes⟩,
      fun _ element items same => absurd ⟨element, items, same⟩ isSet, fun _ => lasts⟩

/-- A set of an empty list and of a list with an unknown element has two elements in every completion, since
    lists of different lengths do not become equal. -/
theorem length_lasts_iff_lists :
    (Value.set (.list .bool) [.list .bool [.unknown .bool], .list .bool []]).length = .ok (ofNat 2) ∧
      ∀ completed, Completes (.set (.list .bool) [.list .bool [.unknown .bool], .list .bool []]) completed →
        completed.length = .ok (ofNat 2) := by
  have single : (Value.list .bool [.unknown .bool]).WellFormed :=
    .list .bool (by simp [Fits, type]) (List.forall_mem_singleton.mpr (.unknown .bool))
  have empty : (Value.list .bool []).WellFormed := .list .bool (by simp) (by simp)
  refine ⟨rfl, ((length_lasts_iff (.set (.list .bool) (by simp [Fits, type]) ?_ ?_) rfl).2).mpr ?_⟩
  · exact List.pairwise_pair.mpr ⟨rfl, rfl⟩
  · exact List.forall_mem_cons.mpr ⟨single, List.forall_mem_singleton.mpr empty⟩
  · intro element items same
    obtain ⟨rfl, rfl⟩ := Value.set.inj same
    refine List.pairwise_pair.mpr fun a b first second => Bool.eq_false_iff.mpr fun equal => ?_
    obtain ⟨as, rfl, length⟩ : ∃ as, a = .list .bool as ∧ as.length = 1 := by
      cases first with
      | keep => exact ⟨_, rfl, rfl⟩
      | list length => exact ⟨_, rfl, length.symm⟩
    obtain ⟨bs, rfl, items⟩ := exactlyEqual_list.mp equal
    have lengths := items.length_eq
    cases second with
    | keep => simp [length] at lengths
    | list stays => simp [length, ← stays] at lengths

/-- An unknown truth value beside a known one: the set has two elements, and one when the unknown one turns
    out to be the other. -/
theorem length_shrinks :
    ∃ value completed : Value, value.WellFormed ∧ Completes value completed ∧
      value.length = .ok (ofNat 2) ∧ completed.length = .ok (ofNat 1) ∧
      completed.length ≠ value.length := by
  have wellFormed : (Value.set .bool [.unknown .bool, .bool true]).WellFormed :=
    .set .bool (by simp [Fits, type]) (List.pairwise_pair.mpr ⟨rfl, rfl⟩)
      (List.forall_mem_cons.mpr ⟨.unknown .bool, List.forall_mem_singleton.mpr (.bool true)⟩)
  have completes : Completes (.set .bool [.unknown .bool, .bool true]) (.set .bool [.bool true]) :=
    (completes_set wellFormed).mpr
      ⟨[.bool true, .bool true], .cons (.fill (.bool true) rfl) (.cons (.keep _) .nil), rfl⟩
  refine ⟨_, _, wellFormed, completes, rfl, rfl, fun same => ?_⟩
  exact absurd (ofNat_inj.mp (Except.ok.inj same)) (by decide)

end Value

end Crosswalk
