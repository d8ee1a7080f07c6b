/-
Module: Crosswalk.Proofs.Value.Symmetry
Purpose: Structural equality gives one answer in both directions, and where nothing is open it is exact
  equality. Tables are compared by looking up the keys of one side on the other, so that the two directions
  agree is a matter of counting; sets are compared exactly, and exact equality is symmetric. Without dynamic
  types the parts of two values of one type have equal types themselves, which is why nulls of different
  types, the same to one equality and different to the other, cannot meet.
Main exports: Value.sameAs_comm, Value.sameAs_eq_exactlyEqual, Value.equals_symmetric_and_exact
-/
import Crosswalk.Proofs.Value.Alike
import Crosswalk.Proofs.Value.Equality

namespace Crosswalk.Value

/-! ### Both directions -/

/-- The direction can only matter for values with data and of one type. -/
theorem sameAs_comm_of_present {a b : Value}
    (present : a.isAbsent = false → b.isAbsent = false → a.type = b.type → sameAs a b = sameAs b a) :
    sameAs a b = sameAs b a := by
  by_cases known : a.isKnown = true ∧ b.isKnown = true
  · cases null : a.isNull || b.isNull with
    | true =>
        rw [sameAs_of_null known null, sameAs_of_null known.symm (Bool.or_comm _ _ ▸ null), Bool.and_comm]
    | false =>
        by_cases same : a.type = b.type
        · obtain ⟨notNullA, notNullB⟩ := Bool.or_eq_false_iff.mp null
          exact present (by simp [isAbsent, notNullA, known.1]) (by simp [isAbsent, notNullB, known.2]) same
        · rw [sameAs_of_type_ne known null same,
            sameAs_of_type_ne known.symm (Bool.or_comm _ _ ▸ null) (Ne.symm same)]
  · rw [not_and_or, Bool.not_eq_true, Bool.not_eq_true] at known
    rw [sameAs_of_unknown known, sameAs_of_unknown known.symm]

theorem sameItems_comm {as bs : List Value}
    (each : ∀ a ∈ as, ∀ b ∈ bs, sameAs a b = sameAs b a) : sameItems as bs = sameItems bs as := by
  induction as generalizing bs with
  | nil => cases bs <;> rfl
  | cons a as ih =>
      cases bs with
      | nil => rfl
      | cons b bs =>
          rw [sameItems, sameItems, each a List.mem_cons_self b List.mem_cons_self,
            ih fun a inFirst b inSecond =>
              each a (List.mem_cons_of_mem _ inFirst) b (List.mem_cons_of_mem _ inSecond)]

/-- Entries are the same exactly if each of them has the same value under its key. -/
theorem sameEntries_eq_true {as bs : List (String × Value)} :
    sameEntries as bs = some true ↔
      ∀ entry ∈ as, ∃ b, bs.lookup entry.1 = some b ∧ sameAs entry.2 b = some true := by
  induction as with
  | nil => simp [sameEntries]
  | cons entry as ih =>
      obtain ⟨key, a⟩ := entry
      cases found : bs.lookup key <;> simp [sameEntries, bothSame_eq_true, ih, found]

section Tables

variable {as bs : List (String × Value)}

/-- An answer about as many entries on both sides is the answer in the other direction. -/
theorem sameEntries_decided (length : as.length = bs.length) (nodup : (as.map Prod.fst).Nodup)
    (nodupOther : (bs.map Prod.fst).Nodup)
    (each : ∀ entry ∈ as, ∀ other ∈ bs, sameAs entry.2 other.2 = sameAs other.2 entry.2) {answer : Bool}
    (decided : sameEntries as bs = some answer) : sameEntries bs as = some answer := by
  cases answer with
  | true =>
      rw [sameEntries_eq_true] at decided ⊢
      intro other member
      obtain ⟨a, found, same⟩ :=
        exists_lookup_of_length_eq (fun a b => sameAs a b = some true) length nodup decided other member
      exact ⟨a, found, each (other.1, a) (mem_of_lookup found) other member ▸ same⟩
  | false =>
      -- If no entry of the other side were told apart, then none of this side would be.
      rw [sameEntries_eq_false] at decided ⊢
      by_contra together
      have matched : ∀ other ∈ bs, ∃ a, as.lookup other.1 = some a ∧ sameAs other.2 a ≠ some false := by
        intro other member
        by_contra unmatched
        exact together ⟨other, member, fun a found => by_contra fun same => unmatched ⟨a, found, same⟩⟩
      obtain ⟨entry, member, apart⟩ := decided
      obtain ⟨b, found, same⟩ := exists_lookup_of_length_eq (fun b a => sameAs b a ≠ some false)
        length.symm nodupOther matched entry member
      exact same (each entry member (entry.1, b) (mem_of_lookup found) ▸ apart b found)

/-- The entries of maps and of objects are compared in one way from both sides. -/
theorem sameTable_comm (nodup : (as.map Prod.fst).Nodup) (nodupOther : (bs.map Prod.fst).Nodup)
    (each : ∀ entry ∈ as, ∀ other ∈ bs, sameAs entry.2 other.2 = sameAs other.2 entry.2) :
    (if as.length = bs.length then sameEntries as bs else some false) =
      if bs.length = as.length then sameEntries bs as else some false := by
  by_cases length : as.length = bs.length
  · rw [if_pos length, if_pos length.symm]
    apply Option.ext
    intro answer
    constructor
    · exact sameEntries_decided length nodup nodupOther each
    · exact sameEntries_decided length.symm nodupOther nodup
        fun other inSecond entry inFirst => (each entry inFirst other inSecond).symm
  · rw [if_neg length, if_neg (Ne.symm length)]

end Tables

/-- Structural equality is symmetric. -/
theorem sameAs_comm {a b : Value} (left : a.WellFormed) (right : b.WellFormed) :
    sameAs a b = sameAs b a := by
  induction left generalizing b with
  | null | unknown => exact sameAs_comm_of_present fun absent => by cases absent
  | bool | number | string =>
      apply sameAs_comm_of_present
      intro _ presentB same
      cases right with
      | null | unknown => cases presentB
      | bool | number | string => simp [sameAs, isKnown, isNull, type, eq_comm]
      | _ => cases same
  | list _ _ _ ih =>
      apply sameAs_comm_of_present
      intro _ presentB same
      cases right with
      | null | unknown => cases presentB
      | list _ _ inner =>
          cases same
          rw [sameAs_list, sameAs_list]
          exact sameItems_comm fun a inFirst b inSecond => ih a inFirst (inner b inSecond)
      | _ => cases same
  | set outer fits differ inner =>
      apply sameAs_comm_of_present
      intro _ presentB same
      cases right with
      | null | unknown => cases presentB
      | @set _ bs outerB fitsB differB innerB =>
          cases same
          -- Once no element of their own is unknown, the answer is that of exact equality.
          have exact := exactlyEqual_comm (.set outer fits differ inner) (.set outerB fitsB differB innerB)
          simp only [exactlyEqual, decide_true, Bool.true_and] at exact
          rw [sameAs_set, sameAs_set, exact, Bool.or_comm]
      | _ => cases same
  | map _ nodup _ _ ih =>
      apply sameAs_comm_of_present
      intro _ presentB same
      cases right with
      | null | unknown => cases presentB
      | map _ nodupB _ inner =>
          cases same
          rw [sameAs_map, sameAs_map]
          exact sameTable_comm nodup nodupB
            fun entry inFirst other inSecond => ih entry inFirst (inner other inSecond)
      | _ => cases same
  | object nodup _ _ ih =>
      apply sameAs_comm_of_present
      intro _ presentB same
      cases right with
      | null | unknown => cases presentB
      | object nodupB _ inner =>
          rw [sameAs_object same, sameAs_object same.symm]
          exact sameTable_comm nodup nodupB
            fun entry inFirst other inSecond => ih entry inFirst (inner other inSecond)
      | _ => cases same
  | tuple _ _ ih =>
      apply sameAs_comm_of_present
      intro _ presentB same
      cases right with
      | null | unknown => cases presentB
      | tuple _ inner =>
          rw [sameAs_tuple same, sameAs_tuple same.symm]
          exact sameItems_comm fun a inFirst b inSecond => ih a inFirst (inner b inSecond)
      | _ => cases same

/-! ### Where nothing is open -/

theorem bothSame_some (first second : Bool) :
    bothSame (some first) (some second) = some (first && second) := by
  cases first <;> cases second <;> rfl

/-- An element of a collection without dynamic types has the element type. -/
theorem Fits.type_eq {element : Ty} {item : Value} (fits : Fits element item)
    (static : element.hasDynamic = false) : item.type = element := by
  rcases fits with rfl | same
  · cases static
  · exact same

/-- Both equalities decide by nullness alone where one of two values of one type is null. -/
theorem exactlyEqual_of_null {a b : Value} (same : a.type = b.type)
    (null : (a.isNull || b.isNull) = true) : exactlyEqual a b = (a.isNull && b.isNull) := by
  cases a with
  | null ty =>
      cases b with
      | null other =>
          change ty = other at same
          simp [exactlyEqual, isNull, same]
      | _ => rfl
  | _ =>
      cases b with
      | null other => rfl
      | _ => cases null

theorem WhollyKnown.isKnown {value : Value} (known : value.WhollyKnown) : value.isKnown = true := by
  cases known <;> rfl

/-- The two equalities can only differ on values with data, if the values are of one type. -/
theorem sameAs_eq_of_present {a b : Value} (same : a.type = b.type) (knownA : a.isKnown = true)
    (knownB : b.isKnown = true)
    (present : a.isAbsent = false → b.isAbsent = false → sameAs a b = some (exactlyEqual a b)) :
    sameAs a b = some (exactlyEqual a b) := by
  cases null : a.isNull || b.isNull with
  | true => rw [sameAs_of_null ⟨knownA, knownB⟩ null, exactlyEqual_of_null same null]
  | false =>
      obtain ⟨notNullA, notNullB⟩ := Bool.or_eq_false_iff.mp null
      exact present (by simp [isAbsent, notNullA, knownA]) (by simp [isAbsent, notNullB, knownB])

theorem sameItems_eq_exactlyEqualItems {as bs : List Value}
    (each : ∀ pair ∈ as.zip bs, sameAs pair.1 pair.2 = some (exactlyEqual pair.1 pair.2)) :
    sameItems as bs = some (exactlyEqualItems as bs) := by
  induction as generalizing bs with
  | nil => cases bs <;> rfl
  | cons a as ih =>
      cases bs with
      | nil => rfl
      | cons b bs =>
          rw [List.zip_cons_cons, List.forall_mem_cons] at each
          rw [sameItems, exactlyEqualItems, each.1, ih each.2, bothSame_some]

theorem sameTable_eq_entriesAmong {as bs : List (String × Value)}
    (each : ∀ entry ∈ as, ∀ b ∈ bs.lookup entry.1, sameAs entry.2 b = some (exactlyEqual entry.2 b)) :
    (if as.length = bs.length then sameEntries as bs else some false) =
      some (decide (as.length = bs.length) && entriesAmong as bs) := by
  have entries : sameEntries as bs = some (entriesAmong as bs) := by
    induction as with
    | nil => rfl
    | cons entry as ih =>
        obtain ⟨key, a⟩ := entry
        rw [List.forall_mem_cons] at each
        rw [sameEntries, entriesAmong, ih each.2]
        cases found : bs.lookup key with
        | none => exact bothSame_some false _
        | some b => exact (congrArg (bothSame · _) (each.1 b found)).trans (bothSame_some _ _)
  rw [entries]
  split <;> simp [*]

/-- Values of one type without dynamic parts, and without unknown parts, are the same exactly if they are
    exactly equal. -/
theorem sameAs_eq_exactlyEqual {a b : Value} (left : a.WellFormed) (right : b.WellFormed)
    (same : a.type = b.type) (static : a.type.hasDynamic = false) (knownA : a.WhollyKnown)
    (knownB : b.WhollyKnown) : sameAs a b = some (exactlyEqual a b) := by
  induction left generalizing b with
  | null => exact sameAs_eq_of_present same rfl knownB.isKnown fun absent => by cases absent
  | unknown => cases knownA
  | bool | number | string =>
      apply sameAs_eq_of_present same rfl knownB.isKnown
      intro _ presentB
      cases right with
      | null | unknown => cases presentB
      | bool | number | string => simp_all [sameAs, exactlyEqual, isKnown, isNull, type]
      | _ => cases same
  | list _ fits _ ih =>
      apply sameAs_eq_of_present same rfl knownB.isKnown
      intro _ presentB
      cases right with
      | null | unknown => cases presentB
      | list _ fitsB inner =>
          cases same
          cases knownA with
          | list knownA =>
              cases knownB with
              | list knownB =>
                  rw [sameAs_list, sameItems_eq_exactlyEqualItems, exactlyEqual]
                  · simp
                  · rintro ⟨a, b⟩ member
                    obtain ⟨inFirst, inSecond⟩ := List.of_mem_zip member
                    have typeA := (fits a inFirst).type_eq static
                    have typeB := (fitsB b inSecond).type_eq static
                    exact ih a inFirst (inner b inSecond) (typeA.trans typeB.symm) (typeA ▸ static)
                      (knownA a inFirst) (knownB b inSecond)
      | _ => cases same
  | set =>
      apply sameAs_eq_of_present same rfl knownB.isKnown
      intro _ presentB
      cases right with
      | null | unknown => cases presentB
      | set =>
          cases same
          cases knownA with
          | set knownA =>
              cases knownB with
              | set knownB =>
                  rw [sameAs_set, if_neg, exactlyEqual]
                  · simp
                  · simpa using ⟨fun a inFirst => (knownA a inFirst).isKnown,
                      fun b inSecond => (knownB b inSecond).isKnown⟩
      | _ => cases same
  | map _ _ fits _ ih =>
      apply sameAs_eq_of_present same rfl knownB.isKnown
      intro _ presentB
      cases right with
      | null | unknown => cases presentB
      | map _ _ fitsB inner =>
          cases same
          cases knownA with
          | map knownA =>
              cases knownB with
              | map knownB =>
                  rw [sameAs_map, sameTable_eq_entriesAmong, exactlyEqual]
                  · simp
                  · intro entry inFirst b found
                    have inSecond := mem_of_lookup found
                    have typeA := (fits entry inFirst).type_eq static
                    have typeB := (fitsB _ inSecond).type_eq static
                    exact ih entry inFirst (inner _ inSecond) (typeA.trans typeB.symm) (typeA ▸ static)
                      (knownA entry inFirst) (knownB _ inSecond)
      | _ => cases same
  | object nodup described _ ih =>
      apply sameAs_eq_of_present same rfl knownB.isKnown
      intro _ presentB
      cases right with
      | null | unknown => cases presentB
      | object _ describedB inner =>
          obtain ⟨attributes, isObject, -, types⟩ := described
          obtain ⟨others, isObjectB, -, typesB⟩ := describedB
          obtain rfl := Ty.object.inj (isObject.symm.trans (same.trans isObjectB))
          rw [isObject] at static
          cases knownA with
          | object knownA =>
              cases knownB with
              | object knownB =>
                  rw [sameAs_object same, sameTable_eq_entriesAmong, exactlyEqual]
                  intro entry inFirst b found
                  have typeA := types entry.1
                  rw [lookup_of_mem nodup inFirst] at typeA
                  have typeB := typesB entry.1
                  rw [found] at typeB
                  exact ih entry inFirst (inner _ (mem_of_lookup found))
                    (Option.some.inj (typeA.symm.trans typeB))
                    (Ty.hasDynamic_attribute static (mem_of_lookup typeA))
                    (knownA entry inFirst) (knownB _ (mem_of_lookup found))
      | _ => cases same
  | tuple described _ ih =>
      apply sameAs_eq_of_present same rfl knownB.isKnown
      intro _ presentB
      cases right with
      | null | unknown => cases presentB
      | @tuple bs describedB inner =>
          have types := Ty.tuple.inj (described.symm.trans (same.trans describedB))
          rw [← List.forall₂_eq_eq_eq, List.forall₂_map_left_iff, List.forall₂_map_right_iff] at types
          rw [described] at static
          cases knownA with
          | tuple knownA =>
              cases knownB with
              | tuple knownB =>
                  rw [sameAs_tuple same, sameItems_eq_exactlyEqualItems, exactlyEqual]
                  rintro ⟨a, b⟩ member
                  obtain ⟨inFirst, inSecond⟩ := List.of_mem_zip member
                  exact ih a inFirst (inner b inSecond) (List.forall₂_zip types member)
                    (Ty.hasDynamic_element static (List.mem_map_of_mem inFirst))
                    (knownA a inFirst) (knownB b inSecond)
      | _ => cases same

/-! ### Symmetry and agreement -/

/-- The answers of structural equality in the two directions are one answer, and for values of one type in
    which nothing is dynamic or unknown that answer is given by exact equality. -/
theorem equals_symmetric_and_exact {a b : Value} (left : a.WellFormed) (right : b.WellFormed) :
    exactlyEqual (a.equals b) (b.equals a) = true ∧
      (a.type = b.type → a.type.hasDynamic = false → a.WhollyKnown → b.WhollyKnown →
        a.equals b = .bool (exactlyEqual a b)) := by
  constructor
  · rw [equals, equals, sameAs_comm left right]
    cases sameAs b a <;> simp [ofAnswer, exactlyEqual]
  · intro same static knownA knownB
    exact equals_eq_bool.mpr (sameAs_eq_exactlyEqual left right same static knownA knownB)

/-- A list of a set of both truth values, the given one first, and of a null. -/
def bothTruthValues (first : Bool) : Value :=
  .list (.set .bool) [.set .bool [.bool first, .bool !first], .null (.set .bool)]

/-- Sets are the same in whatever order their elements came, beside nulls too. -/
theorem equals_symmetric_and_exact_reordered :
    exactlyEqual ((bothTruthValues true).equals (bothTruthValues false))
        ((bothTruthValues false).equals (bothTruthValues true)) = true ∧
      (bothTruthValues true).equals (bothTruthValues false) = .bool true := by
  have wellFormed (first : Bool) : (bothTruthValues first).WellFormed := by
    have set : (Value.set .bool [.bool first, .bool !first]).WellFormed := by
      refine .set .bool (by simp [Fits, type]) ?_ (by simpa using ⟨.bool first, .bool !first⟩)
      exact List.pairwise_pair.mpr (by cases first <;> exact ⟨rfl, rfl⟩)
    exact .list (.set .bool) (by simp [Fits, type]) (by simpa using ⟨set, .null (.set .bool)⟩)
  have known (first : Bool) : (bothTruthValues first).WhollyKnown := by
    have set : (Value.set .bool [.bool first, .bool !first]).WhollyKnown :=
      .set (by simpa using ⟨.bool first, .bool !first⟩)
    exact .list (by simpa using ⟨set, .null (.set .bool)⟩)
  obtain ⟨symmetric, exact⟩ := equals_symmetric_and_exact (wellFormed true) (wellFormed false)
  exact ⟨symmetric, exact rfl rfl (known true) (known false)⟩

end Crosswalk.Value
