/-
Module: Crosswalk.Proofs.Value.Refinement
Purpose: Filling in unknown parts of values. A value refines another if some unknown parts of the other, at
  any depth, have been replaced by known values or nulls of their types, and the sets on the way have been
  built again. Refinement keeps types, and nothing is left to refine in a value without unknown parts.
Main exports: Value.WhollyKnown, Value.Refines, Value.Refines.type_eq, Value.Refines.eq_of_whollyKnown,
  Value.Refines.wellFormed, Value.fill, Value.refines_fill, Value.whollyKnown_fill
-/
import Crosswalk.Proofs.Value.Construction

namespace Crosswalk.Value

/-! ### Refinement -/

/-- No part of the value is unknown. -/
inductive WhollyKnown : Value → Prop
  | null (ty : Ty) : WhollyKnown (.null ty)
  | bool (flag : Bool) : WhollyKnown (.bool flag)
  | number (amount : Decimal) : WhollyKnown (.number amount)
  | string (text : String) : WhollyKnown (.string text)
  | list {element : Ty} {items : List Value} (inner : ∀ item ∈ items, WhollyKnown item) :
      WhollyKnown (.list element items)
  | set {element : Ty} {items : List Value} (inner : ∀ item ∈ items, WhollyKnown item) :
      WhollyKnown (.set element items)
  | map {element : Ty} {entries : List (String × Value)}
      (inner : ∀ entry ∈ entries, WhollyKnown entry.2) : WhollyKnown (.map element entries)
  | object {entries : List (String × Value)} (inner : ∀ entry ∈ entries, WhollyKnown entry.2) :
      WhollyKnown (.object entries)
  | tuple {items : List Value} (inner : ∀ item ∈ items, WhollyKnown item) :
      WhollyKnown (.tuple items)

/-- The second value is the first one with some unknown parts filled in. -/
inductive Refines : Value → Value → Prop
  | keep (value : Value) : Refines value value
  | fill {value : Value} (wellFormed : value.WellFormed) (known : value.isKnown = true) :
      Refines (.unknown value.type) value
  | list {element : Ty} {items refined : List Value} (length : items.length = refined.length)
      (inner : ∀ pair ∈ items.zip refined, Refines pair.1 pair.2) :
      Refines (.list element items) (.list element refined)
  | set {element : Ty} {items refined : List Value} {result : Value}
      (length : items.length = refined.length)
      (inner : ∀ pair ∈ items.zip refined, Refines pair.1 pair.2)
      (built : setOf refined (some element) = .ok result) : Refines (.set element items) result
  | map {element : Ty} {entries refined : List (String × Value)}
      (length : entries.length = refined.length)
      (keys : ∀ pair ∈ entries.zip refined, pair.2.1 = pair.1.1)
      (inner : ∀ pair ∈ entries.zip refined, Refines pair.1.2 pair.2.2) :
      Refines (.map element entries) (.map element refined)
  | object {entries refined : List (String × Value)} (length : entries.length = refined.length)
      (keys : ∀ pair ∈ entries.zip refined, pair.2.1 = pair.1.1)
      (inner : ∀ pair ∈ entries.zip refined, Refines pair.1.2 pair.2.2) :
      Refines (.object entries) (.object refined)
  | tuple {items refined : List Value} (length : items.length = refined.length)
      (inner : ∀ pair ∈ items.zip refined, Refines pair.1 pair.2) :
      Refines (.tuple items) (.tuple refined)

/-- Lists refined position by position. -/
abbrev RefinesItems (items refined : List Value) : Prop :=
  List.Forall₂ Refines items refined

/-- Entries refined position by position under the same keys. -/
abbrev RefinesEntries (entries refined : List (String × Value)) : Prop :=
  List.Forall₂ (fun entry other => other.1 = entry.1 ∧ Refines entry.2 other.2) entries refined

theorem refinesItems_refl (items : List Value) : RefinesItems items items :=
  List.forall₂_same.mpr fun item _ => .keep item

theorem refinesEntries_refl (entries : List (String × Value)) : RefinesEntries entries entries :=
  List.forall₂_same.mpr fun entry _ => ⟨rfl, .keep entry.2⟩

theorem refinesItems_iff_zip {items refined : List Value} :
    RefinesItems items refined ↔
      items.length = refined.length ∧ ∀ pair ∈ items.zip refined, Refines pair.1 pair.2 := by
  unfold RefinesItems
  rw [List.forall₂_iff_zip]
  simp

theorem refinesEntries_iff_zip {entries refined : List (String × Value)} :
    RefinesEntries entries refined ↔
      entries.length = refined.length ∧ (∀ pair ∈ entries.zip refined, pair.2.1 = pair.1.1) ∧
        ∀ pair ∈ entries.zip refined, Refines pair.1.2 pair.2.2 := by
  constructor
  · intro steps
    refine ⟨steps.length_eq, ?_, ?_⟩
    · intro pair member
      exact (List.forall₂_zip steps member).1
    · intro pair member
      exact (List.forall₂_zip steps member).2
  · rintro ⟨length, keys, inner⟩
    apply List.forall₂_iff_zip.mpr
    constructor
    · exact length
    · intro entry other member
      exact ⟨keys _ member, inner _ member⟩

/-! ### Refinement, kind by kind -/

section Kinds

variable {result : Value}

theorem refines_list {element : Ty} {items : List Value} :
    Refines (.list element items) result ↔
      ∃ refined, .list element refined = result ∧ RefinesItems items refined := by
  constructor
  · intro refines
    cases refines with
    | keep => exact ⟨items, rfl, refinesItems_refl items⟩
    | list length inner => exact ⟨_, rfl, refinesItems_iff_zip.mpr ⟨length, inner⟩⟩
  · rintro ⟨refined, rfl, steps⟩
    obtain ⟨length, inner⟩ := refinesItems_iff_zip.mp steps
    exact .list length inner

theorem refines_tuple {items : List Value} :
    Refines (.tuple items) result ↔
      ∃ refined, .tuple refined = result ∧ RefinesItems items refined := by
  constructor
  · intro refines
    cases refines with
    | keep => exact ⟨items, rfl, refinesItems_refl items⟩
    | tuple length inner => exact ⟨_, rfl, refinesItems_iff_zip.mpr ⟨length, inner⟩⟩
  · rintro ⟨refined, rfl, steps⟩
    obtain ⟨length, inner⟩ := refinesItems_iff_zip.mp steps
    exact .tuple length inner

theorem refines_map {element : Ty} {entries : List (String × Value)} :
    Refines (.map element entries) result ↔
      ∃ refined, .map element refined = result ∧ RefinesEntries entries refined := by
  constructor
  · intro refines
    cases refines with
    | keep => exact ⟨entries, rfl, refinesEntries_refl entries⟩
    | map length keys inner => exact ⟨_, rfl, refinesEntries_iff_zip.mpr ⟨length, keys, inner⟩⟩
  · rintro ⟨refined, rfl, steps⟩
    obtain ⟨length, keys, inner⟩ := refinesEntries_iff_zip.mp steps
    exact .map length keys inner

theorem refines_object {entries : List (String × Value)} :
    Refines (.object entries) result ↔
      ∃ refined, .object refined = result ∧ RefinesEntries entries refined := by
  constructor
  · intro refines
    cases refines with
    | keep => exact ⟨entries, rfl, refinesEntries_refl entries⟩
    | object length keys inner => exact ⟨_, rfl, refinesEntries_iff_zip.mpr ⟨length, keys, inner⟩⟩
  · rintro ⟨refined, rfl, steps⟩
    obtain ⟨length, keys, inner⟩ := refinesEntries_iff_zip.mp steps
    exact .object length keys inner

/-- A well-formed set is refined by building it again of refined elements. -/
theorem refines_set {element : Ty} {items : List Value}
    (wellFormed : (Value.set element items).WellFormed) :
    Refines (.set element items) result ↔
      ∃ refined, setOf refined (some element) = .ok result ∧ RefinesItems items refined := by
  constructor
  · intro refines
    cases refines with
    | keep =>
        cases wellFormed with
        | set _ fits differ =>
            refine ⟨items, ?_, refinesItems_refl items⟩
            rw [setOf_of_fits fits, withoutRepeats_of_differ differ]
    | set length inner built => exact ⟨_, built, refinesItems_iff_zip.mpr ⟨length, inner⟩⟩
  · rintro ⟨refined, built, steps⟩
    obtain ⟨length, inner⟩ := refinesItems_iff_zip.mp steps
    exact .set length inner built

end Kinds

/-! ### What refinement keeps -/

theorem itemTypes_eq_of_refines {items refined : List Value} (length : items.length = refined.length)
    (same : ∀ pair ∈ items.zip refined, pair.2.type = pair.1.type) :
    refined.map type = items.map type := by
  rw [← List.forall₂_eq_eq_eq, List.forall₂_map_left_iff, List.forall₂_map_right_iff]
  exact (List.forall₂_iff_zip.mpr ⟨length, fun member => same _ member⟩).flip

theorem entryTypes_eq_of_refines {entries refined : List (String × Value)}
    (length : entries.length = refined.length)
    (keys : ∀ pair ∈ entries.zip refined, pair.2.1 = pair.1.1)
    (same : ∀ pair ∈ entries.zip refined, pair.2.2.type = pair.1.2.type) :
    entryTypes refined = entryTypes entries := by
  rw [entryTypes_eq_map, entryTypes_eq_map, ← List.forall₂_eq_eq_eq, List.forall₂_map_left_iff,
    List.forall₂_map_right_iff]
  refine (List.forall₂_iff_zip.mpr ⟨length, fun {entry other} member => ?_⟩).flip
  exact Prod.ext (keys _ member) (same _ member)

/-- Filling in unknown parts keeps the type. -/
theorem Refines.type_eq {value refined : Value} (refines : Refines value refined) :
    refined.type = value.type := by
  induction refines with
  | keep | fill | list | map => rfl
  | set _ _ built =>
      obtain ⟨_, found, rfl⟩ := setOf_eq_ok built
      obtain ⟨rfl, -⟩ := elementType_check_eq_ok.mp found
      rfl
  | object length keys _ ih => exact congrArg Ty.objectOf (entryTypes_eq_of_refines length keys ih)
  | tuple length _ ih =>
      rw [type, type, itemTypes_eq_map, itemTypes_eq_map, itemTypes_eq_of_refines length ih]

/-- A known value stays known, and a null or not what it was. -/
theorem Refines.known {value refined : Value} (refines : Refines value refined)
    (known : value.isKnown = true) : refined.isKnown = true ∧ refined.isNull = value.isNull := by
  cases refines with
  | keep => exact ⟨known, rfl⟩
  | fill => cases known
  | list | map | object | tuple => exact ⟨rfl, rfl⟩
  | set _ _ built =>
      obtain ⟨_, -, rfl⟩ := setOf_eq_ok built
      exact ⟨rfl, rfl⟩

theorem eq_of_refinesItems {items refined : List Value} (inner : RefinesItems items refined)
    (same : ∀ item ∈ items, ∀ other, Refines item other → other = item) : refined = items := by
  rw [← List.forall₂_eq_eq_eq]
  exact (Outcome.forall₂_of_mem inner fun item member other step => same item member other step).flip

theorem eq_of_refinesEntries {entries refined : List (String × Value)}
    (inner : RefinesEntries entries refined)
    (same : ∀ entry ∈ entries, ∀ other, Refines entry.2 other → other = entry.2) :
    refined = entries := by
  rw [← List.forall₂_eq_eq_eq]
  refine (Outcome.forall₂_of_mem inner fun entry member other step => ?_).flip
  exact Prod.ext step.1 (same entry member other.2 step.2)

/-- A well-formed value without unknown parts is refined by itself only. -/
theorem Refines.eq_of_whollyKnown {value refined : Value} (refines : Refines value refined)
    (wellFormed : value.WellFormed) (known : value.WhollyKnown) : refined = value := by
  induction wellFormed generalizing refined with
  | unknown => cases known
  | null | bool | number | string =>
      cases refines
      rfl
  | list _ _ _ ih =>
      obtain ⟨refined, rfl, inner⟩ := refines_list.mp refines
      cases known with
      | list known =>
          rw [eq_of_refinesItems inner fun item member _ step => ih item member step (known item member)]
  | set outer fits differ inner ih =>
      obtain ⟨refined, built, step⟩ := (refines_set (.set outer fits differ inner)).mp refines
      cases known with
      | set known =>
          rw [eq_of_refinesItems step fun item member _ step => ih item member step (known item member),
            setOf_of_fits fits, withoutRepeats_of_differ differ] at built
          exact (Except.ok.inj built).symm
  | map _ _ _ _ ih =>
      obtain ⟨refined, rfl, inner⟩ := refines_map.mp refines
      cases known with
      | map known =>
          rw [eq_of_refinesEntries inner fun entry member _ step =>
            ih entry member step (known entry member)]
  | object _ _ _ ih =>
      obtain ⟨refined, rfl, inner⟩ := refines_object.mp refines
      cases known with
      | object known =>
          rw [eq_of_refinesEntries inner fun entry member _ step =>
            ih entry member step (known entry member)]
  | tuple _ _ ih =>
      obtain ⟨refined, rfl, inner⟩ := refines_tuple.mp refines
      cases known with
      | tuple known =>
          rw [eq_of_refinesItems inner fun item member _ step => ih item member step (known item member)]

theorem keys_of_refinesEntries {entries refined : List (String × Value)}
    (inner : RefinesEntries entries refined) : refined.map Prod.fst = entries.map Prod.fst :=
  Outcome.keys_eq_of_forall₂ (inner.imp fun _ _ step => step.1)

theorem Fits.refines {element : Ty} {item refined : Value} (fits : Fits element item)
    (refines : Refines item refined) : Fits element refined :=
  fits.imp_right fun same => refines.type_eq.trans same

/-- Filling in unknown parts keeps a value well-formed. -/
theorem Refines.wellFormed {value refined : Value} (refines : Refines value refined)
    (wellFormed : value.WellFormed) : refined.WellFormed := by
  induction wellFormed generalizing refined with
  | unknown outer =>
      cases refines with
      | keep => exact .unknown outer
      | fill wellFormed => exact wellFormed
  | null outer =>
      cases refines
      exact .null outer
  | bool flag =>
      cases refines
      exact .bool flag
  | number amount =>
      cases refines
      exact .number amount
  | string normal =>
      cases refines
      exact .string normal
  | list outer fits _ ih =>
      obtain ⟨refined, rfl, inner⟩ := refines_list.mp refines
      refine .list outer (fun other member => ?_) (fun other member => ?_)
      all_goals obtain ⟨item, inItems, step⟩ := Outcome.exists_of_forall₂ inner member
      · exact (fits item inItems).refines step
      · exact ih item inItems step
  | set outer fits differ parts ih =>
      obtain ⟨refined, built, inner⟩ := (refines_set (.set outer fits differ parts)).mp refines
      refine setOf_wellFormed (fun ty asked => Option.some.inj asked ▸ outer) (fun other member => ?_) built
      obtain ⟨item, inItems, step⟩ := Outcome.exists_of_forall₂ inner member
      exact ih item inItems step
  | map outer nodup fits _ ih =>
      obtain ⟨refined, rfl, inner⟩ := refines_map.mp refines
      refine .map outer (keys_of_refinesEntries inner ▸ nodup) (fun other member => ?_)
        (fun other member => ?_)
      all_goals obtain ⟨entry, inEntries, -, step⟩ := Outcome.exists_of_forall₂ inner member
      · exact (fits entry inEntries).refines step
      · exact ih entry inEntries step
  | object nodup _ _ ih =>
      obtain ⟨refined, rfl, inner⟩ := refines_object.mp refines
      apply WellFormed.ofEntries (keys_of_refinesEntries inner ▸ nodup)
      intro other member
      obtain ⟨entry, inEntries, -, step⟩ := Outcome.exists_of_forall₂ inner member
      exact ih entry inEntries step
  | tuple _ _ ih =>
      obtain ⟨refined, rfl, inner⟩ := refines_tuple.mp refines
      apply WellFormed.ofItems
      intro other member
      obtain ⟨item, inItems, step⟩ := Outcome.exists_of_forall₂ inner member
      exact ih item inItems step

/-! ### Filling everything in

Every type has a null, so every unknown part can be filled in. -/

mutual

/-- The value with a null for every unknown part, its sets built again. -/
def fill : Value → Value
  | .null ty => .null ty
  | .unknown ty => .null ty
  | .bool flag => .bool flag
  | .number amount => .number amount
  | .string text => .string text
  | .list element items => .list element (fillItems items)
  | .set element items => .set element (withoutRepeats (fillItems items))
  | .map element entries => .map element (fillEntries entries)
  | .object entries => .object (fillEntries entries)
  | .tuple items => .tuple (fillItems items)
termination_by structural value => value

/-- The values with nulls for unknown parts. -/
def fillItems : List Value → List Value
  | [] => []
  | item :: rest => fill item :: fillItems rest
termination_by structural items => items

/-- The entries with nulls for unknown parts of their values. -/
def fillEntries : List (String × Value) → List (String × Value)
  | [] => []
  | (key, value) :: rest => (key, fill value) :: fillEntries rest
termination_by structural entries => entries

end

theorem fillItems_eq_map (items : List Value) : fillItems items = items.map fill := by
  induction items with
  | nil => rfl
  | cons item rest ih => rw [fillItems, ih, List.map_cons]

theorem fillEntries_eq_map (entries : List (String × Value)) :
    fillEntries entries = entries.map fun entry => (entry.1, fill entry.2) := by
  induction entries with
  | nil => rfl
  | cons entry rest ih => rw [fillEntries, ih, List.map_cons]

/-- A refinement of each item, put together. -/
theorem refinesItems_map {change : Value → Value} {items : List Value}
    (step : ∀ item ∈ items, Refines item (change item)) : RefinesItems items (items.map change) :=
  List.forall₂_map_right_iff.mpr (List.forall₂_same.mpr step)

theorem refinesEntries_map {change : Value → Value} {entries : List (String × Value)}
    (step : ∀ entry ∈ entries, Refines entry.2 (change entry.2)) :
    RefinesEntries entries (entries.map fun entry => (entry.1, change entry.2)) :=
  List.forall₂_map_right_iff.mpr
    (List.forall₂_same.mpr fun entry member => ⟨rfl, step entry member⟩)

/-- Filling in every unknown part is a refinement. -/
theorem refines_fill {value : Value} (wellFormed : value.WellFormed) :
    Refines value (fill value) := by
  induction wellFormed with
  | unknown outer => exact .fill (.null outer) rfl
  | null | bool | number | string => exact .keep _
  | list _ _ _ ih => exact refines_list.mpr ⟨_, rfl, fillItems_eq_map _ ▸ refinesItems_map ih⟩
  | set outer fits differ inner ih =>
      refine (refines_set (.set outer fits differ inner)).mpr
        ⟨_, setOf_of_fits ?_, fillItems_eq_map _ ▸ refinesItems_map ih⟩
      rw [fillItems_eq_map]
      exact List.forall_mem_map.mpr fun item member => (fits item member).refines (ih item member)
  | map _ _ _ _ ih => exact refines_map.mpr ⟨_, rfl, fillEntries_eq_map _ ▸ refinesEntries_map ih⟩
  | object _ _ _ ih => exact refines_object.mpr ⟨_, rfl, fillEntries_eq_map _ ▸ refinesEntries_map ih⟩
  | tuple _ _ ih => exact refines_tuple.mpr ⟨_, rfl, fillItems_eq_map _ ▸ refinesItems_map ih⟩

/-- Nothing is left to fill in then. -/
theorem whollyKnown_fill (value : Value) : (fill value).WhollyKnown := by
  induction value using Value.induct with
  | null ty | unknown ty => exact .null ty
  | bool flag => exact .bool flag
  | number amount => exact .number amount
  | string text => exact .string text
  | list _ _ ih => exact .list (fillItems_eq_map _ ▸ List.forall_mem_map.mpr ih)
  | set _ _ ih =>
      apply WhollyKnown.set
      intro item member
      have filled := mem_of_mem_withoutRepeats member
      rw [fillItems_eq_map] at filled
      exact List.forall_mem_map.mpr ih item filled
  | map _ _ ih => exact .map (fillEntries_eq_map _ ▸ List.forall_mem_map.mpr ih)
  | object _ ih => exact .object (fillEntries_eq_map _ ▸ List.forall_mem_map.mpr ih)
  | tuple _ ih => exact .tuple (fillItems_eq_map _ ▸ List.forall_mem_map.mpr ih)

end Crosswalk.Value
