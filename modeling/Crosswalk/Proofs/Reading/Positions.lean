/-
Module: Crosswalk.Proofs.Reading.Positions
Purpose: Entries of a table by their positions. Where no two entries have the same position, the positions lie
  below the number of entries exactly if every number below it is a position. A table with a position past its
  entries lacks one below them, and the search for the least of these never runs out. To a type without
  dynamic parts, sequences and tuples convert if their keys are right and every element converts.
Main exports: Reading.below_iff_filled, Reading.exists_firstGap?, Reading.firstGap?_eq,
  Reading.convertElements_static, Reading.toSequence_iff, Reading.toTuple_iff
-/
import Crosswalk.Proofs.Reading
import Mathlib.Data.List.Nodup

namespace Crosswalk.Reading

/-! ### Positions below a number of entries -/

/-- As many places as there are numbers below a bound: if no number occurs twice among them, they are all
    numbers below the bound exactly if every such number is among them. -/
theorem below_iff_filled {places : List (Option Int)} {count : Nat} (length : places.length = count)
    (apart : (places.filterMap id).Nodup) :
    (∀ place ∈ places, ∃ position < count, place = some (position : Int)) ↔
      ∀ position < count, some (position : Int) ∈ places := by
  let numbers : List Int := (List.range count).map fun position : Nat => (position : Int)
  have size : numbers.length = count := by simp [numbers]
  have different : numbers.Nodup := List.nodup_range.map fun _ _ same => Int.ofNat.inj same
  constructor
  · intro below
    have all : (places.filterMap id).length = count := by
      rw [← length, List.length_filterMap_eq_countP, List.countP_eq_length]
      intro place member
      obtain ⟨position, -, rfl⟩ := below place member
      rfl
    have subset : places.filterMap id ⊆ numbers := by
      intro number member
      obtain ⟨place, inPlaces, isNumber⟩ := List.mem_filterMap.mp member
      obtain ⟨position, less, rfl⟩ := below place inPlaces
      cases isNumber
      exact List.mem_map_of_mem (List.mem_range.mpr less)
    have perm := (List.subperm_of_subset apart subset).perm_of_length_le (by omega)
    intro position less
    have member : (position : Int) ∈ places.filterMap id :=
      perm.mem_iff.mpr (List.mem_map_of_mem (List.mem_range.mpr less))
    obtain ⟨place, inPlaces, isNumber⟩ := List.mem_filterMap.mp member
    exact (show place = some (position : Int) from isNumber) ▸ inPlaces
  · intro filled
    have subset : numbers ⊆ places.filterMap id := by
      intro number member
      obtain ⟨position, less, rfl⟩ := List.mem_map.mp member
      exact List.mem_filterMap.mpr ⟨_, filled position (List.mem_range.mp less), rfl⟩
    have few : (places.filterMap id).length ≤ places.length := List.length_filterMap_le id places
    have subperm := List.subperm_of_subset different subset
    have perm := subperm.perm_of_length_le (by omega)
    have all : (places.filterMap id).length = places.length := by
      have := subperm.length_le
      omega
    rw [List.length_filterMap_eq_countP, List.countP_eq_length] at all
    intro place member
    obtain ⟨number, rfl⟩ := Option.isSome_iff_exists.mp (all place member)
    have inNumbers := perm.mem_iff.mpr (List.mem_filterMap.mpr ⟨_, member, rfl⟩)
    obtain ⟨position, less, rfl⟩ := List.mem_map.mp inNumbers
    exact ⟨position, List.mem_range.mp less, rfl⟩

theorem hasPosition_iff {entries : List Entry} {position : Nat} :
    hasPosition entries position = true ↔ some (position : Int) ∈ entries.map Entry.position := by
  simp [hasPosition]

/-- A search that runs out has met no free position. -/
theorem firstGap?_eq_none {entries : List Entry} {start bound : Nat}
    (ranOut : firstGap? entries start bound = none) {position : Nat} (tried : start ≤ position)
    (less : position < start + bound) : hasPosition entries position = true := by
  induction bound generalizing start with
  | zero => omega
  | succ bound ih =>
      rw [firstGap?] at ranOut
      split at ranOut
      next present =>
          rcases Nat.lt_or_eq_of_le tried with later | rfl
          · exact ih ranOut later (by omega)
          · exact present
      next => cases ranOut

/-- Where a position lies past the entries, the search for a free one does not run out: with that position the
    numbers below the number of entries would be more than there are entries. -/
theorem exists_firstGap? {entries : List Entry} {entry : Entry} (member : entry ∈ entries) {position : Int}
    (denoted : entry.position = some position) (beyond : entries.length ≤ position) :
    ∃ gap, firstGap? entries 0 entries.length = some gap := by
  cases search : firstGap? entries 0 entries.length with
  | some gap => exact ⟨gap, rfl⟩
  | none =>
      let numbers := (List.range entries.length).map fun number : Nat => some (number : Int)
      have apart : some position ∉ numbers := by
        intro within
        obtain ⟨number, inRange, same⟩ := List.mem_map.mp within
        have less := List.mem_range.mp inRange
        have equal := Option.some.inj same
        omega
      have different : (some position :: numbers).Nodup :=
        List.nodup_cons.mpr ⟨apart, List.nodup_range.map fun _ _ same => Int.ofNat.inj (Option.some.inj same)⟩
      have subset : some position :: numbers ⊆ entries.map Entry.position := by
        refine List.cons_subset.mpr ⟨denoted ▸ List.mem_map_of_mem member, fun place within => ?_⟩
        obtain ⟨number, inRange, rfl⟩ := List.mem_map.mp within
        have less := List.mem_range.mp inRange
        exact hasPosition_iff.mp (firstGap?_eq_none search (Nat.zero_le number) (by omega))
      have more := (List.subperm_of_subset different subset).length_le
      simp [numbers] at more

/-- The search for a position that is free finds the least one, if it is among those that are tried. -/
theorem firstGap?_eq {entries : List Entry} {start bound gap : Nat} (notBefore : start ≤ gap)
    (tried : gap < start + bound) (free : hasPosition entries gap = false)
    (least : ∀ position < gap, hasPosition entries position = true) :
    firstGap? entries start bound = some gap := by
  induction bound generalizing start with
  | zero => omega
  | succ bound ih =>
      rw [firstGap?]
      rcases Nat.lt_or_eq_of_le notBefore with before | rfl
      · rw [least start before, if_pos rfl]
        exact ih before (by omega)
      · rw [free, if_neg Bool.false_ne_true]

/-! ### Elements -/

/-- Where the wanted type has no dynamic parts, each element is converted to it. -/
theorem convertElements_static {want : Ty} (static : want.hasDynamic = false)
    {located : List (Step × Reading)} {items : List Value} {element : Ty} :
    convertElements want located = .ok (items, element) ↔
      element = want ∧ List.Forall₂ (fun before item => before.2.convert want = .ok item) located items := by
  unfold convertElements
  rw [static]
  simp only [Bool.not_false, if_true, Outcome.map_eq_ok, Prod.mk.injEq, convertAll, Outcome.mapM_eq_ok,
    Outcome.under_eq_ok]
  constructor
  · rintro ⟨_, each, rfl, rfl⟩
    exact ⟨rfl, each⟩
  · rintro ⟨rfl, each⟩
    exact ⟨items, each, rfl, rfl⟩

/-- A table is read as a sequence if its keys are the positions of one and what stands at each of them
    converts. -/
theorem toSequence_iff {want : Ty} (static : want.hasDynamic = false) {entries : List Entry}
    {items : List Value} {element : Ty} :
    toSequence want entries = .ok (items, element) ↔ checkSequenceKeys entries = .ok () ∧ element = want ∧
      List.Forall₂ (fun position item => (atPosition entries position).convert want = .ok item)
        (List.range entries.length) items := by
  rw [toSequence, Outcome.bind_eq_ok]
  simp only [convertElements_static static, List.forall₂_map_left_iff]
  exact ⟨fun ⟨_, checked, each⟩ => ⟨checked, each⟩, fun ⟨checked, each⟩ => ⟨(), checked, each⟩⟩

/-- A table is read as a tuple if its keys are positions of one and what stands at each of these
    converts. -/
theorem toTuple_iff {wants : List Ty} {entries : List Entry} {result : Value} :
    toTuple wants entries = .ok result ↔
      ∃ items, result = .tuple items ∧ checkTupleKeys wants.length entries = .ok () ∧
        List.Forall₂ (fun want item => (atPosition entries want.2).convert want.1 = .ok item)
          wants.zipIdx items := by
  constructor
  · exact toTuple_eq_ok
  · rintro ⟨items, rfl, checked, each⟩
    refine Outcome.bind_eq_ok.mpr ⟨items, ?_, Outcome.bind_eq_ok.mpr ⟨(), checked, rfl⟩⟩
    exact Outcome.mapM_eq_ok.mpr (each.imp fun _ _ one => Outcome.under_eq_ok.mpr one)

end Crosswalk.Reading
