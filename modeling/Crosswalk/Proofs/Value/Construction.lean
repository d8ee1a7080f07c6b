/-
Module: Crosswalk.Proofs.Value.Construction
Purpose: The constructors of structural values make well-formed values of well-formed parts. A collection
  has the element type that was asked for, or else that of its first element, and every element fits it;
  a set keeps of equal elements the first one.
Main exports: Value.elementType_eq_ok, Value.differ_withoutRepeats, Value.withoutRepeats_of_differ,
  Value.listOf_wellFormed, Value.setOf_wellFormed, Value.mapOf_wellFormed, Value.objectOf_wellFormed
-/
import Crosswalk.Proofs.Value.ExactEquality
import Crosswalk.Proofs.Outcome

namespace Crosswalk.Value

/-! ### Element types -/

/-- The check passes if and only if all elements fit the type. -/
theorem elementType_check_eq_ok {collection : String} {items : List Value} {asked element : Ty} :
    elementType.check collection items asked = .ok element ↔
      asked = element ∧ ∀ item ∈ items, Fits asked item := by
  unfold elementType.check
  split
  next item found =>
      have misfit := List.find?_some found
      have member := List.mem_of_find?_eq_some found
      simp only [ne_eq, Bool.and_eq_true, decide_eq_true_eq, Bool.not_eq_true'] at misfit
      constructor
      · intro built
        cases built
      · rintro ⟨-, fits⟩
        rcases fits item member with rfl | same
        · cases misfit.2
        · exact absurd same misfit.1
  next none =>
      rw [List.find?_eq_none] at none
      simp only [ne_eq, Bool.and_eq_true, decide_eq_true_eq, Bool.not_eq_true', not_and,
        Bool.not_eq_false] at none
      constructor
      · rintro ⟨⟩
        refine ⟨rfl, ?_⟩
        intro item member
        by_cases fits : item.type = asked
        · exact .inr fits
        · exact .inl (Ty.isDynamic_iff.mp (none item member fits))
      · rintro ⟨rfl, -⟩
        rfl

/-- The element type of a collection is the one asked for or that of an element, and all elements fit. -/
theorem elementType_eq_ok {collection : String} {items : List Value} {asked : Option Ty} {element : Ty}
    (found : elementType collection items asked = .ok element) :
    (asked = some element ∨ ∃ item ∈ items, item.type = element) ∧
      ∀ item ∈ items, Fits element item := by
  cases asked with
  | some ty =>
      obtain ⟨rfl, fits⟩ := elementType_check_eq_ok.mp found
      exact ⟨.inl rfl, fits⟩
  | none =>
      cases items with
      | nil => cases found
      | cons first rest =>
          obtain ⟨rfl, fits⟩ := elementType_check_eq_ok.mp found
          exact ⟨.inr ⟨first, List.mem_cons_self, rfl⟩, fits⟩

/-- The element type is well-formed where the one asked for and the elements are. -/
theorem elementType_wellFormed {collection : String} {items : List Value} {asked : Option Ty}
    {element : Ty} (found : elementType collection items asked = .ok element)
    (outer : ∀ ty ∈ asked, ty.WellFormed) (inner : ∀ item ∈ items, item.WellFormed) :
    element.WellFormed := by
  rcases (elementType_eq_ok found).1 with rfl | ⟨item, member, rfl⟩
  · exact outer element rfl
  · exact (inner item member).type

/-! ### Elements of sets -/

private theorem differ_foldl {items kept : List Value} (inner : ∀ item ∈ items, item.WellFormed)
    (before : ∀ item ∈ kept, item.WellFormed) (differ : kept.Pairwise Differ) :
    (items.foldl (fun kept item => if kept.any (exactlyEqual item) then kept else kept ++ [item])
      kept).Pairwise Differ := by
  induction items generalizing kept with
  | nil => exact differ
  | cons item rest ih =>
      have innerRest := fun other member => inner other (List.mem_cons_of_mem item member)
      rw [List.foldl_cons]
      split
      · exact ih innerRest before differ
      next fresh =>
          have new : ∀ other ∈ kept, exactlyEqual item other = false := by simpa using fresh
          refine ih innerRest ?_ ?_
          · intro other member
            rcases List.mem_append.mp member with earlier | last
            · exact before other earlier
            · exact List.mem_singleton.mp last ▸ inner item List.mem_cons_self
          · refine List.pairwise_append.mpr ⟨differ, List.pairwise_singleton _ item, ?_⟩
            intro other earlier last isLast
            obtain rfl := List.mem_singleton.mp isLast
            refine ⟨Bool.eq_false_iff.mpr fun equal => ?_, new other earlier⟩
            have back := exactlyEqual_symm (before other earlier) equal
            exact Bool.eq_false_iff.mp (new other earlier) back

private theorem mem_foldl_kept {items kept : List Value} {item : Value}
    (member : item ∈ items.foldl
      (fun kept item => if kept.any (exactlyEqual item) then kept else kept ++ [item]) kept) :
    item ∈ kept ∨ item ∈ items := by
  induction items generalizing kept with
  | nil => exact .inl member
  | cons first rest ih =>
      rw [List.foldl_cons] at member
      rcases ih member with earlier | later
      · split at earlier
        · exact .inl earlier
        · rcases List.mem_append.mp earlier with before | last
          · exact .inl before
          · exact .inr (List.mem_cons.mpr (.inl (List.mem_singleton.mp last)))
      · exact .inr (List.mem_cons_of_mem first later)

/-- The remaining elements differ from each other. -/
theorem differ_withoutRepeats {items : List Value} (inner : ∀ item ∈ items, item.WellFormed) :
    (withoutRepeats items).Pairwise Differ :=
  differ_foldl inner (List.forall_mem_nil _) List.Pairwise.nil

/-- The remaining elements are among the elements. -/
theorem mem_of_mem_withoutRepeats {items : List Value} {item : Value}
    (member : item ∈ withoutRepeats items) : item ∈ items :=
  (mem_foldl_kept member).resolve_left List.not_mem_nil

private theorem exists_foldl_kept {items kept : List Value} (inner : ∀ item ∈ items, item.WellFormed)
    {item : Value} (present : (∃ other ∈ kept, exactlyEqual item other = true) ∨ item ∈ items) :
    ∃ other ∈ items.foldl (fun kept item => if kept.any (exactlyEqual item) then kept else kept ++ [item])
      kept, exactlyEqual item other = true := by
  induction items generalizing kept with
  | nil => exact present.resolve_right List.not_mem_nil
  | cons first rest ih =>
      rw [List.foldl_cons]
      apply ih fun other member => inner other (List.mem_cons_of_mem first member)
      rcases present with ⟨other, earlier, equal⟩ | member
      · left
        split
        · exact ⟨other, earlier, equal⟩
        · exact ⟨other, List.mem_append_left _ earlier, equal⟩
      · rcases List.mem_cons.mp member with rfl | later
        · left
          split
          next repeated => simpa using repeated
          next =>
              refine ⟨item, List.mem_append_right _ (List.mem_singleton_self item), ?_⟩
              exact exactlyEqual_refl (inner item List.mem_cons_self)
        · exact .inr later

/-- Of every element one that is equal to it remains. -/
theorem exists_mem_withoutRepeats {items : List Value} (inner : ∀ item ∈ items, item.WellFormed)
    {item : Value} (member : item ∈ items) :
    ∃ other ∈ withoutRepeats items, exactlyEqual item other = true :=
  exists_foldl_kept inner (.inr member)

private theorem foldl_of_differ {items kept : List Value} (differ : (kept ++ items).Pairwise Differ) :
    items.foldl (fun kept item => if kept.any (exactlyEqual item) then kept else kept ++ [item])
      kept = kept ++ items := by
  induction items generalizing kept with
  | nil => exact (List.append_nil kept).symm
  | cons item rest ih =>
      have fresh : kept.any (exactlyEqual item) = false := by
        refine List.any_eq_false.mpr fun other member => Bool.eq_false_iff.mp ?_
        exact ((List.pairwise_append.mp differ).2.2 other member item List.mem_cons_self).2
      rw [List.foldl_cons, fresh, if_neg Bool.false_ne_true, ih (by simpa using differ)]
      simp

/-- Elements that differ from each other all remain. -/
theorem withoutRepeats_of_differ {items : List Value} (differ : items.Pairwise Differ) :
    withoutRepeats items = items :=
  foldl_of_differ differ

/-! ### The constructors -/

section Constructors

variable {asked : Option Ty} {result : Value}

theorem ofText_wellFormed (text : String) : (ofText text).WellFormed :=
  .string (Text.isNormal_normalize text)

theorem ofBinary64_wellFormed {x : Binary64} (built : ofBinary64 x = .ok result) :
    result.WellFormed := by
  unfold ofBinary64 at built
  split at built
  · exact Except.ok.inj built ▸ .number _
  · cases built

theorem ofNumeralText_wellFormed {text : String} (built : ofNumeralText text = .ok result) :
    result.WellFormed := by
  obtain ⟨amount, -, rfl⟩ := Outcome.map_eq_ok.mp built
  exact .number amount

theorem listOf_eq_ok {items : List Value} (built : listOf items asked = .ok result) :
    ∃ element, elementType "list" items asked = .ok element ∧ .list element items = result :=
  Outcome.map_eq_ok.mp built

theorem setOf_eq_ok {items : List Value} (built : setOf items asked = .ok result) :
    ∃ element, elementType "set" (withoutRepeats items) asked = .ok element ∧
      .set element (withoutRepeats items) = result :=
  Outcome.map_eq_ok.mp built

theorem mapOf_eq_ok {pairs : List (String × Value)} (built : mapOf pairs asked = .ok result) :
    ∃ element, elementType "map" ((entriesOf pairs).map Prod.snd) asked = .ok element ∧
      .map element (entriesOf pairs) = result :=
  Outcome.map_eq_ok.mp built

/-- A list of elements that fit a type can be made. -/
theorem listOf_of_fits {element : Ty} {items : List Value} (fits : ∀ item ∈ items, Fits element item) :
    listOf items (some element) = .ok (.list element items) :=
  congrArg (Except.map _) (elementType_check_eq_ok.mpr ⟨rfl, fits⟩)

/-- A set of elements that fit a type can be made. -/
theorem setOf_of_fits {element : Ty} {items : List Value} (fits : ∀ item ∈ items, Fits element item) :
    setOf items (some element) = .ok (.set element (withoutRepeats items)) := by
  have kept : elementType "set" (withoutRepeats items) (some element) = .ok element :=
    elementType_check_eq_ok.mpr ⟨rfl, fun item member => fits item (mem_of_mem_withoutRepeats member)⟩
  exact congrArg (Except.map _) kept

variable (outer : ∀ ty ∈ asked, ty.WellFormed)
include outer

theorem listOf_wellFormed {items : List Value} (inner : ∀ item ∈ items, item.WellFormed)
    (built : listOf items asked = .ok result) : result.WellFormed := by
  obtain ⟨element, found, rfl⟩ := listOf_eq_ok built
  exact .list (elementType_wellFormed found outer inner) (elementType_eq_ok found).2 inner

theorem setOf_wellFormed {items : List Value} (inner : ∀ item ∈ items, item.WellFormed)
    (built : setOf items asked = .ok result) : result.WellFormed := by
  obtain ⟨element, found, rfl⟩ := setOf_eq_ok built
  have kept : ∀ item ∈ withoutRepeats items, item.WellFormed :=
    fun item member => inner item (mem_of_mem_withoutRepeats member)
  exact .set (elementType_wellFormed found outer kept) (elementType_eq_ok found).2
    (differ_withoutRepeats inner) kept

theorem mapOf_wellFormed {pairs : List (String × Value)}
    (inner : ∀ pair ∈ pairs, pair.2.WellFormed) (built : mapOf pairs asked = .ok result) :
    result.WellFormed := by
  obtain ⟨element, found, rfl⟩ := mapOf_eq_ok built
  have kept : ∀ entry ∈ entriesOf pairs, entry.2.WellFormed :=
    fun entry member => inner entry (mem_of_mem_entriesOf member)
  have values : ∀ item ∈ (entriesOf pairs).map Prod.snd, item.WellFormed :=
    List.forall_mem_map.mpr kept
  refine .map (elementType_wellFormed found outer values) (nodup_keys_entriesOf pairs) ?_ kept
  exact fun entry member => (elementType_eq_ok found).2 entry.2 (List.mem_map_of_mem member)

omit outer

theorem objectOf_wellFormed {pairs : List (String × Value)}
    (inner : ∀ pair ∈ pairs, pair.2.WellFormed) : (objectOf pairs).WellFormed :=
  .ofEntries (nodup_keys_entriesOf pairs) fun entry member => inner entry (mem_of_mem_entriesOf member)

end Constructors

end Crosswalk.Value
