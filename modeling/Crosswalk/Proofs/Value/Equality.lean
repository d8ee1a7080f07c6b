/-
Module: Crosswalk.Proofs.Value.Equality
Purpose: What an answer of structural equality is worth. Lists, maps and structures are compared part by
  part, and what is decided there stays decided however unknown parts are filled in. Sets are compared
  exactly once their own elements are known, so unknown parts deeper inside an element are taken for data.
  A value is settled if no set in it is compared with such parts; being settled is exactly what it takes for
  every answer to last.
Main exports: Value.Upholds, Value.Settled, Value.Lasting, Value.sameAs_upholds, Value.sameAs_self,
  Value.fillSets, Value.settled_iff_equals_upheld
-/
import Crosswalk.Proofs.Value.Refinement
import Crosswalk.Value.Equality

namespace Crosswalk.Value

/-! ### Answers -/

/-- The second answer is the first one, unless that was open. -/
def Upholds (first second : Option Bool) : Prop :=
  ∀ answer, first = some answer → second = some answer

theorem bothSame_eq_false {first second : Option Bool} :
    bothSame first second = some false ↔ first = some false ∨ second = some false := by
  rcases first with _ | _ | _ <;> rcases second with _ | _ | _ <;> decide

theorem bothSame_eq_true {first second : Option Bool} :
    bothSame first second = some true ↔ first = some true ∧ second = some true := by
  rcases first with _ | _ | _ <;> rcases second with _ | _ | _ <;> decide

/-- A conjunction stands by its answer where its parts stand by theirs. -/
theorem bothSame_upholds {first first' second second' : Option Bool} (left : Upholds first first')
    (right : Upholds second second') :
    Upholds (bothSame first second) (bothSame first' second') := by
  intro answer decided
  cases answer with
  | false =>
      rw [bothSame_eq_false] at decided ⊢
      exact decided.imp (left false) (right false)
  | true =>
      rw [bothSame_eq_true] at decided ⊢
      exact decided.imp (left true) (right true)

theorem equals_eq_bool {a b : Value} {answer : Bool} :
    a.equals b = .bool answer ↔ a.sameAs b = some answer := by
  unfold equals
  cases a.sameAs b <;> simp [ofAnswer]

/-! ### Equality, kind by kind -/

section Kinds

variable {a b : Value}

theorem sameAs_of_unknown (unknown : a.isKnown = false ∨ b.isKnown = false) : sameAs a b = none := by
  unfold sameAs
  rcases unknown with unknown | unknown <;> simp [unknown]

theorem known_of_sameAs {answer : Bool} (decided : sameAs a b = some answer) :
    a.isKnown = true ∧ b.isKnown = true := by
  constructor
  all_goals
    apply Bool.eq_true_of_not_eq_false
    intro unknown
    rw [sameAs_of_unknown (by simp [unknown])] at decided
    cases decided

theorem sameAs_of_null (known : a.isKnown = true ∧ b.isKnown = true)
    (null : (a.isNull || b.isNull) = true) : sameAs a b = some (a.isNull && b.isNull) := by
  unfold sameAs
  simp [known, null]

theorem sameAs_of_type_ne (known : a.isKnown = true ∧ b.isKnown = true)
    (present : (a.isNull || b.isNull) = false) (different : a.type ≠ b.type) :
    sameAs a b = some false := by
  unfold sameAs
  simp [known, present, different]

end Kinds

theorem sameAs_list {element : Ty} {as bs : List Value} :
    sameAs (.list element as) (.list element bs) = sameItems as bs := by
  exact (if_neg (by simp [isKnown])).trans ((if_neg (by simp [isNull])).trans (if_neg (by simp [type])))

theorem sameAs_tuple {as bs : List Value} (same : type (.tuple as) = type (.tuple bs)) :
    sameAs (.tuple as) (.tuple bs) = sameItems as bs := by
  exact (if_neg (by simp [isKnown])).trans ((if_neg (by simp [isNull])).trans (if_neg (by simp [same])))

theorem sameAs_map {element : Ty} {as bs : List (String × Value)} :
    sameAs (.map element as) (.map element bs) =
      if as.length = bs.length then sameEntries as bs else some false := by
  exact (if_neg (by simp [isKnown])).trans ((if_neg (by simp [isNull])).trans (if_neg (by simp [type])))

theorem sameAs_object {as bs : List (String × Value)}
    (same : type (.object as) = type (.object bs)) :
    sameAs (.object as) (.object bs) =
      if as.length = bs.length then sameEntries as bs else some false := by
  exact (if_neg (by simp [isKnown])).trans ((if_neg (by simp [isNull])).trans (if_neg (by simp [same])))

/-- Two sets are open while an element of their own is unknown, and compared exactly otherwise. -/
theorem sameAs_set {element : Ty} {as bs : List Value} :
    sameAs (.set element as) (.set element bs) =
      if as.any (fun item => !item.isKnown) || bs.any (fun item => !item.isKnown) then none
      else some (decide (as.length = bs.length) && membersAmong as bs) := by
  exact (if_neg (by simp [isKnown])).trans ((if_neg (by simp [isNull])).trans (if_neg (by simp [type])))

/-! ### Answers that last -/

/-- The sets that a comparison can reach are open, or have no unknown part. -/
inductive Settled : Value → Prop
  | null (ty : Ty) : Settled (.null ty)
  | unknown (ty : Ty) : Settled (.unknown ty)
  | bool (flag : Bool) : Settled (.bool flag)
  | number (amount : Decimal) : Settled (.number amount)
  | string (text : String) : Settled (.string text)
  | list {element : Ty} {items : List Value} (inner : ∀ item ∈ items, Settled item) :
      Settled (.list element items)
  | openSet {element : Ty} {items : List Value} {item : Value} (member : item ∈ items)
      (unknown : item.isKnown = false) : Settled (.set element items)
  | knownSet {element : Ty} {items : List Value} (inner : ∀ item ∈ items, WhollyKnown item) :
      Settled (.set element items)
  | map {element : Ty} {entries : List (String × Value)}
      (inner : ∀ entry ∈ entries, Settled entry.2) : Settled (.map element entries)
  | object {entries : List (String × Value)} (inner : ∀ entry ∈ entries, Settled entry.2) :
      Settled (.object entries)
  | tuple {items : List Value} (inner : ∀ item ∈ items, Settled item) : Settled (.tuple items)

/-- However unknown parts of the value are filled in, its answers to settled values stand. -/
def Lasting (a : Value) : Prop :=
  ∀ b a' b' : Value, b.WellFormed → b.Settled → Refines a a' → Refines b b' →
    Upholds (sameAs a b) (sameAs a' b')

theorem sameItems_upholds {as bs as' bs' : List Value} (lasting : ∀ item ∈ as, Lasting item)
    (wellFormed : ∀ item ∈ bs, item.WellFormed) (settled : ∀ item ∈ bs, item.Settled)
    (left : RefinesItems as as') (right : RefinesItems bs bs') :
    Upholds (sameItems as bs) (sameItems as' bs') := by
  induction left generalizing bs bs' with
  | nil => cases right <;> exact fun _ decided => decided
  | cons first _ ih =>
      rw [List.forall_mem_cons] at lasting
      cases right with
      | nil => exact fun _ decided => decided
      | cons second others =>
          rw [List.forall_mem_cons] at wellFormed settled
          apply bothSame_upholds
          · exact lasting.1 _ _ _ wellFormed.1 settled.1 first second
          · exact ih lasting.2 wellFormed.2 settled.2 others

/-- Refined entries have refined values under the same keys. -/
theorem lookup_refines {entries refined : List (String × Value)}
    (inner : RefinesEntries entries refined) (key : String) :
    (entries.lookup key = none ∧ refined.lookup key = none) ∨
      ∃ value other, entries.lookup key = some value ∧ refined.lookup key = some other ∧
        Refines value other := by
  induction inner with
  | nil => exact .inl ⟨rfl, rfl⟩
  | @cons entry other _ _ step _ ih =>
      obtain ⟨_, value⟩ := entry
      obtain ⟨name, refinedValue⟩ := other
      obtain ⟨rfl, step⟩ := step
      simp only [List.lookup_cons]
      cases key == name with
      | true => exact .inr ⟨value, refinedValue, rfl, rfl, step⟩
      | false => exact ih

theorem sameEntries_upholds {as bs as' bs' : List (String × Value)}
    (lasting : ∀ entry ∈ as, Lasting entry.2) (wellFormed : ∀ entry ∈ bs, entry.2.WellFormed)
    (settled : ∀ entry ∈ bs, entry.2.Settled) (left : RefinesEntries as as')
    (right : RefinesEntries bs bs') : Upholds (sameEntries as bs) (sameEntries as' bs') := by
  induction left with
  | nil => exact fun _ decided => decided
  | @cons entry other _ _ first _ ih =>
      obtain ⟨_, a⟩ := entry
      obtain ⟨key, a'⟩ := other
      obtain ⟨rfl, first⟩ := first
      rw [List.forall_mem_cons] at lasting
      apply bothSame_upholds
      · rcases lookup_refines right key with ⟨absent, absent'⟩ | ⟨b, b', found, found', second⟩
        · simp only [absent, absent']
          exact fun _ decided => decided
        · simp only [found, found']
          have member := mem_of_lookup found
          exact lasting.1 _ _ _ (wellFormed _ member) (settled _ member) first second
      · exact ih lasting.2

/-- The entries of maps and of objects are compared if there are equally many. -/
theorem sameTable_upholds {as bs as' bs' : List (String × Value)}
    (lasting : ∀ entry ∈ as, Lasting entry.2) (wellFormed : ∀ entry ∈ bs, entry.2.WellFormed)
    (settled : ∀ entry ∈ bs, entry.2.Settled) (left : RefinesEntries as as')
    (right : RefinesEntries bs bs') :
    Upholds (if as.length = bs.length then sameEntries as bs else some false)
      (if as'.length = bs'.length then sameEntries as' bs' else some false) := by
  rw [← left.length_eq, ← right.length_eq]
  split
  · exact sameEntries_upholds lasting wellFormed settled left right
  · exact fun _ decided => decided

/-- Answers can only change for values with data and of one type. -/
theorem upholds_of_present {a b a' b' : Value} (left : Refines a a') (right : Refines b b')
    (present : a.isAbsent = false → b.isAbsent = false → a.type = b.type →
      Upholds (sameAs a b) (sameAs a' b')) : Upholds (sameAs a b) (sameAs a' b') := by
  intro answer decided
  obtain ⟨knownA, knownB⟩ := known_of_sameAs decided
  obtain ⟨knownA', nullA⟩ := left.known knownA
  obtain ⟨knownB', nullB⟩ := right.known knownB
  cases null : a.isNull || b.isNull with
  | true =>
      rw [sameAs_of_null ⟨knownA, knownB⟩ null] at decided
      rw [sameAs_of_null ⟨knownA', knownB'⟩ (by rw [nullA, nullB, null]), nullA, nullB, decided]
  | false =>
      by_cases same : a.type = b.type
      · obtain ⟨notNullA, notNullB⟩ := Bool.or_eq_false_iff.mp null
        have presentA : a.isAbsent = false := by simp [isAbsent, notNullA, knownA]
        have presentB : b.isAbsent = false := by simp [isAbsent, notNullB, knownB]
        exact present presentA presentB same answer decided
      · rw [sameAs_of_type_ne ⟨knownA, knownB⟩ null same] at decided
        rw [sameAs_of_type_ne ⟨knownA', knownB'⟩ (by rw [nullA, nullB, null])
          (by rwa [left.type_eq, right.type_eq]), decided]

/-- Two sets that are open, or have no unknown part, keep their answer. -/
theorem sameAs_set_upholds {element : Ty} {as bs : List Value} {a' b' : Value}
    (wellFormedA : (Value.set element as).WellFormed) (settledA : (Value.set element as).Settled)
    (wellFormedB : (Value.set element bs).WellFormed) (settledB : (Value.set element bs).Settled)
    (left : Refines (.set element as) a') (right : Refines (.set element bs) b') :
    Upholds (sameAs (.set element as) (.set element bs)) (sameAs a' b') := by
  intro answer decided
  have direct : as.any (fun item => !item.isKnown) = false ∧
      bs.any (fun item => !item.isKnown) = false := by
    rw [sameAs_set] at decided
    split at decided
    · cases decided
    next known => simpa using known
  cases settledA with
  | openSet member unknown =>
      have known := List.any_eq_false.mp direct.1 _ member
      simp [unknown] at known
  | knownSet knownA =>
      cases settledB with
      | openSet member unknown =>
          have known := List.any_eq_false.mp direct.2 _ member
          simp [unknown] at known
      | knownSet knownB =>
          rwa [left.eq_of_whollyKnown wellFormedA (.set knownA),
            right.eq_of_whollyKnown wellFormedB (.set knownB)]

/-- An answer about settled values lasts however they are refined. -/
theorem sameAs_upholds {a : Value} (wellFormed : a.WellFormed) (settled : a.Settled) :
    Lasting a := by
  -- Values with data and of one type are of one kind, so both sides are taken apart together.
  induction wellFormed with
  | null | unknown =>
      intro b a' b' _ _ left right
      exact upholds_of_present left right fun absent => by cases absent
  | bool | number | string =>
      intro b a' b' wellFormedB _ left right
      apply upholds_of_present left right
      intro _ presentB same
      cases left
      cases wellFormedB with
      | null | unknown => cases presentB
      | bool | number | string =>
          cases right
          exact fun _ decided => decided
      | _ => cases same
  | list _ _ _ ih =>
      intro b a' b' wellFormedB settledB left right
      apply upholds_of_present left right
      intro _ presentB same
      cases wellFormedB with
      | null | unknown => cases presentB
      | list _ _ wellFormedB =>
          cases same
          obtain ⟨as', rfl, itemsA⟩ := refines_list.mp left
          obtain ⟨bs', rfl, itemsB⟩ := refines_list.mp right
          rw [sameAs_list, sameAs_list]
          cases settled with
          | list settled =>
              cases settledB with
              | list settledB =>
                  have lasting := fun item member => ih item member (settled item member)
                  exact sameItems_upholds lasting wellFormedB settledB itemsA itemsB
      | _ => cases same
  | set outer fits differ inner =>
      intro b a' b' wellFormedB settledB left right
      apply upholds_of_present left right
      intro _ presentB same
      cases wellFormedB with
      | null | unknown => cases presentB
      | set outerB fitsB differB innerB =>
          cases same
          exact sameAs_set_upholds (.set outer fits differ inner) settled
            (.set outerB fitsB differB innerB) settledB left right
      | _ => cases same
  | map _ _ _ _ ih =>
      intro b a' b' wellFormedB settledB left right
      apply upholds_of_present left right
      intro _ presentB same
      cases wellFormedB with
      | null | unknown => cases presentB
      | map _ _ _ wellFormedB =>
          cases same
          obtain ⟨as', rfl, entriesA⟩ := refines_map.mp left
          obtain ⟨bs', rfl, entriesB⟩ := refines_map.mp right
          rw [sameAs_map, sameAs_map]
          cases settled with
          | map settled =>
              cases settledB with
              | map settledB =>
                  have lasting := fun entry member => ih entry member (settled entry member)
                  exact sameTable_upholds lasting wellFormedB settledB entriesA entriesB
      | _ => cases same
  | object _ _ _ ih =>
      intro b a' b' wellFormedB settledB left right
      apply upholds_of_present left right
      intro _ presentB same
      have same' := (left.type_eq.trans same).trans right.type_eq.symm
      cases wellFormedB with
      | null | unknown => cases presentB
      | object _ _ wellFormedB =>
          obtain ⟨as', rfl, entriesA⟩ := refines_object.mp left
          obtain ⟨bs', rfl, entriesB⟩ := refines_object.mp right
          rw [sameAs_object same, sameAs_object same']
          cases settled with
          | object settled =>
              cases settledB with
              | object settledB =>
                  have lasting := fun entry member => ih entry member (settled entry member)
                  exact sameTable_upholds lasting wellFormedB settledB entriesA entriesB
      | _ => cases same
  | tuple _ _ ih =>
      intro b a' b' wellFormedB settledB left right
      apply upholds_of_present left right
      intro _ presentB same
      have same' := (left.type_eq.trans same).trans right.type_eq.symm
      cases wellFormedB with
      | null | unknown => cases presentB
      | tuple _ wellFormedB =>
          obtain ⟨as', rfl, itemsA⟩ := refines_tuple.mp left
          obtain ⟨bs', rfl, itemsB⟩ := refines_tuple.mp right
          rw [sameAs_tuple same, sameAs_tuple same']
          cases settled with
          | tuple settled =>
              cases settledB with
              | tuple settledB =>
                  have lasting := fun item member => ih item member (settled item member)
                  exact sameItems_upholds lasting wellFormedB settledB itemsA itemsB
      | _ => cases same

/-! ### Differences -/

/-- Values are told apart from changed ones exactly if one of them is. -/
theorem sameItems_map_eq_false {change : Value → Value} {items : List Value} :
    sameItems items (items.map change) = some false ↔
      ∃ item ∈ items, sameAs item (change item) = some false := by
  induction items with
  | nil => simp [sameItems]
  | cons item rest ih => simp [sameItems, bothSame_eq_false, ih]

theorem sameItems_self_eq_false {items : List Value} :
    sameItems items items = some false ↔ ∃ item ∈ items, sameAs item item = some false := by
  simpa using @sameItems_map_eq_false id items

/-- Entries are told apart exactly if the value of one of them is, or its key has no value. -/
theorem sameEntries_eq_false {as bs : List (String × Value)} :
    sameEntries as bs = some false ↔
      ∃ entry ∈ as, ∀ b ∈ bs.lookup entry.1, sameAs entry.2 b = some false := by
  induction as with
  | nil => simp [sameEntries]
  | cons entry as ih =>
      obtain ⟨key, a⟩ := entry
      cases found : bs.lookup key <;> simp [sameEntries, bothSame_eq_false, ih, found]

theorem sameEntries_map_eq_false {change : Value → Value} {entries : List (String × Value)}
    (nodup : (entries.map Prod.fst).Nodup) :
    sameEntries entries (entries.map fun entry => (entry.1, change entry.2)) = some false ↔
      ∃ entry ∈ entries, sameAs entry.2 (change entry.2) = some false := by
  rw [sameEntries_eq_false]
  constructor
  · rintro ⟨entry, member, apart⟩
    exact ⟨entry, member, apart _ (lookup_map_of_mem nodup member)⟩
  · rintro ⟨entry, member, apart⟩
    refine ⟨entry, member, ?_⟩
    intro other found
    rw [lookup_map_of_mem nodup member] at found
    exact Option.some.inj found ▸ apart

theorem sameEntries_self_eq_false {entries : List (String × Value)}
    (nodup : (entries.map Prod.fst).Nodup) :
    sameEntries entries entries = some false ↔
      ∃ entry ∈ entries, sameAs entry.2 entry.2 = some false := by
  simpa using @sameEntries_map_eq_false id entries nodup

/-- No well-formed value is told apart from itself. -/
theorem sameAs_self {value : Value} (wellFormed : value.WellFormed) :
    sameAs value value ≠ some false := by
  induction wellFormed with
  | null | unknown | bool | number | string => simp [sameAs, isKnown, isNull]
  | list _ _ _ ih =>
      rw [sameAs_list, Ne, sameItems_self_eq_false]
      rintro ⟨item, member, apart⟩
      exact ih item member apart
  | @set _ items outer fits differ inner =>
      rw [sameAs_set]
      split
      · exact nofun
      · have among : membersAmong items items = true := by
          rw [membersAmong_iff]
          intro item member
          exact ⟨item, member, exactlyEqual_refl (inner item member)⟩
        simp [among]
  | map _ nodup _ _ ih =>
      rw [sameAs_map, if_pos rfl, Ne, sameEntries_self_eq_false nodup]
      rintro ⟨entry, member, apart⟩
      exact ih entry member apart
  | object nodup _ _ ih =>
      rw [sameAs_object rfl, if_pos rfl, Ne, sameEntries_self_eq_false nodup]
      rintro ⟨entry, member, apart⟩
      exact ih entry member apart
  | tuple _ _ ih =>
      rw [sameAs_tuple rfl, Ne, sameItems_self_eq_false]
      rintro ⟨item, member, apart⟩
      exact ih item member apart

/-- What is exactly equal to a value without unknown parts has none. -/
theorem whollyKnown_of_exactlyEqual {a b : Value} (equal : exactlyEqual a b = true)
    (known : b.WhollyKnown) : a.WhollyKnown := by
  induction a using Value.induct generalizing b with
  | null ty => exact .null ty
  | unknown ty =>
      cases known <;> cases equal
  | bool flag => exact .bool flag
  | number amount => exact .number amount
  | string text => exact .string text
  | list element as ih =>
      obtain ⟨bs, rfl, items⟩ := exactlyEqual_list.mp equal
      cases known with
      | list known =>
          apply WhollyKnown.list
          intro a member
          obtain ⟨b, inSecond, same⟩ := Outcome.exists_of_forall₂ items.flip member
          exact ih a member same (known b inSecond)
  | set element as ih =>
      obtain ⟨bs, rfl, -, among⟩ := exactlyEqual_set.mp equal
      cases known with
      | set known =>
          apply WhollyKnown.set
          intro a member
          obtain ⟨b, inSecond, same⟩ := among a member
          exact ih a member same (known b inSecond)
  | map element as ih =>
      obtain ⟨bs, rfl, -, among⟩ := exactlyEqual_map.mp equal
      cases known with
      | map known =>
          apply WhollyKnown.map
          intro entry member
          obtain ⟨b, found, same⟩ := among entry member
          exact ih entry member same (known _ (mem_of_lookup found))
  | object as ih =>
      obtain ⟨bs, rfl, -, among⟩ := exactlyEqual_object.mp equal
      cases known with
      | object known =>
          apply WhollyKnown.object
          intro entry member
          obtain ⟨b, found, same⟩ := among entry member
          exact ih entry member same (known _ (mem_of_lookup found))
  | tuple as ih =>
      obtain ⟨bs, rfl, items⟩ := exactlyEqual_tuple.mp equal
      cases known with
      | tuple known =>
          apply WhollyKnown.tuple
          intro a member
          obtain ⟨b, inSecond, same⟩ := Outcome.exists_of_forall₂ items.flip member
          exact ih a member same (known b inSecond)

/-! ### Filling in what is taken for data

An unsettled value is told apart from the value in which the unknown parts of the sets concerned are filled
in, although it can be refined to that value. -/

mutual

/-- The value with nulls for the unknown parts of elements of sets whose own elements are known. -/
def fillSets : Value → Value
  | .null ty => .null ty
  | .unknown ty => .unknown ty
  | .bool flag => .bool flag
  | .number amount => .number amount
  | .string text => .string text
  | .list element items => .list element (fillSetsItems items)
  | .set element items =>
    if items.any fun item => !item.isKnown then .set element items else fill (.set element items)
  | .map element entries => .map element (fillSetsEntries entries)
  | .object entries => .object (fillSetsEntries entries)
  | .tuple items => .tuple (fillSetsItems items)
termination_by structural value => value

/-- The values with nulls in such sets. -/
def fillSetsItems : List Value → List Value
  | [] => []
  | item :: rest => fillSets item :: fillSetsItems rest
termination_by structural items => items

/-- The entries with nulls in such sets. -/
def fillSetsEntries : List (String × Value) → List (String × Value)
  | [] => []
  | (key, value) :: rest => (key, fillSets value) :: fillSetsEntries rest
termination_by structural entries => entries

end

theorem fillSetsItems_eq_map (items : List Value) : fillSetsItems items = items.map fillSets := by
  induction items with
  | nil => rfl
  | cons item rest ih => rw [fillSetsItems, ih, List.map_cons]

theorem fillSetsEntries_eq_map (entries : List (String × Value)) :
    fillSetsEntries entries = entries.map fun entry => (entry.1, fillSets entry.2) := by
  induction entries with
  | nil => rfl
  | cons entry rest ih => rw [fillSetsEntries, ih, List.map_cons]

theorem refines_fillSets {value : Value} (wellFormed : value.WellFormed) :
    Refines value (fillSets value) := by
  induction wellFormed with
  | null | unknown | bool | number | string => exact .keep _
  | list _ _ _ ih => exact refines_list.mpr ⟨_, rfl, fillSetsItems_eq_map _ ▸ refinesItems_map ih⟩
  | set outer fits differ inner =>
      rw [fillSets]
      split
      · exact .keep _
      · exact refines_fill (.set outer fits differ inner)
  | map _ _ _ _ ih =>
      exact refines_map.mpr ⟨_, rfl, fillSetsEntries_eq_map _ ▸ refinesEntries_map ih⟩
  | object _ _ _ ih =>
      exact refines_object.mpr ⟨_, rfl, fillSetsEntries_eq_map _ ▸ refinesEntries_map ih⟩
  | tuple _ _ ih => exact refines_tuple.mpr ⟨_, rfl, fillSetsItems_eq_map _ ▸ refinesItems_map ih⟩

theorem settled_fillSets (value : Value) : (fillSets value).Settled := by
  induction value using Value.induct with
  | null ty => exact .null ty
  | unknown ty => exact .unknown ty
  | bool flag => exact .bool flag
  | number amount => exact .number amount
  | string text => exact .string text
  | list _ _ ih => exact .list (fillSetsItems_eq_map _ ▸ List.forall_mem_map.mpr ih)
  | set element items =>
      rw [fillSets]
      split
      next unknown =>
          obtain ⟨item, member, isUnknown⟩ := List.any_eq_true.mp unknown
          exact .openSet member (by simpa using isUnknown)
      next =>
          cases whollyKnown_fill (.set element items) with
          | set known => exact .knownSet known
  | map _ _ ih => exact .map (fillSetsEntries_eq_map _ ▸ List.forall_mem_map.mpr ih)
  | object _ ih => exact .object (fillSetsEntries_eq_map _ ▸ List.forall_mem_map.mpr ih)
  | tuple _ ih => exact .tuple (fillSetsItems_eq_map _ ▸ List.forall_mem_map.mpr ih)

/-- A set whose own elements are known is told apart from the set without unknown parts, unless it has none
    either. -/
theorem sameAs_fill_set {element : Ty} {items : List Value}
    (direct : items.any (fun item => !item.isKnown) = false) {item : Value} (member : item ∈ items)
    (partly : ¬ item.WhollyKnown) :
    sameAs (.set element items) (fill (.set element items)) = some false := by
  have known : ∀ other ∈ withoutRepeats (fillItems items), other.WhollyKnown := by
    cases whollyKnown_fill (.set element items) with
    | set known => exact known
  have directFilled : (withoutRepeats (fillItems items)).any (fun item => !item.isKnown) = false := by
    apply List.any_eq_false.mpr
    intro other inFilled
    cases known other inFilled <;> simp [isKnown]
  have apart : membersAmong items (withoutRepeats (fillItems items)) = false := by
    refine Bool.eq_false_iff.mpr fun among => partly ?_
    obtain ⟨other, inFilled, equal⟩ := membersAmong_iff.mp among item member
    exact whollyKnown_of_exactlyEqual equal (known other inFilled)
  rw [fill, sameAs_set, direct, directFilled, apart]
  simp

/-- A value that is not told apart from the one with its sets filled in is settled. -/
theorem settled_of_sameAs_fillSets {value : Value} (wellFormed : value.WellFormed)
    (together : sameAs value (fillSets value) ≠ some false) : value.Settled := by
  have types := (refines_fillSets wellFormed).type_eq
  induction wellFormed with
  | null => exact .null _
  | unknown => exact .unknown _
  | bool flag => exact .bool flag
  | number amount => exact .number amount
  | string => exact .string _
  | list _ _ inner ih =>
      apply Settled.list
      intro item member
      apply ih item member _ (refines_fillSets (inner item member)).type_eq
      intro apart
      apply together
      rw [fillSets, sameAs_list, fillSetsItems_eq_map, sameItems_map_eq_false]
      exact ⟨item, member, apart⟩
  | @set _ items outer fits differ inner =>
      cases direct : items.any fun item => !item.isKnown with
      | true =>
          obtain ⟨item, member, isUnknown⟩ := List.any_eq_true.mp direct
          exact .openSet member (by simpa using isUnknown)
      | false =>
          apply Settled.knownSet
          intro item member
          by_contra partly
          apply together
          rw [fillSets, direct, if_neg Bool.false_ne_true]
          exact sameAs_fill_set direct member partly
  | map _ nodup _ inner ih =>
      apply Settled.map
      intro entry member
      apply ih entry member _ (refines_fillSets (inner entry member)).type_eq
      intro apart
      apply together
      rw [fillSets, sameAs_map, fillSetsEntries_eq_map, if_pos (List.length_map _).symm,
        sameEntries_map_eq_false nodup]
      exact ⟨entry, member, apart⟩
  | object nodup _ inner ih =>
      apply Settled.object
      intro entry member
      apply ih entry member _ (refines_fillSets (inner entry member)).type_eq
      intro apart
      apply together
      rw [fillSets] at types ⊢
      rw [sameAs_object types.symm, fillSetsEntries_eq_map, if_pos (List.length_map _).symm,
        sameEntries_map_eq_false nodup]
      exact ⟨entry, member, apart⟩
  | tuple _ inner ih =>
      apply Settled.tuple
      intro item member
      apply ih item member _ (refines_fillSets (inner item member)).type_eq
      intro apart
      apply together
      rw [fillSets] at types ⊢
      rw [sameAs_tuple types.symm, fillSetsItems_eq_map, sameItems_map_eq_false]
      exact ⟨item, member, apart⟩

/-! ### The answers of settled values -/

/-- A value is settled exactly if each answer about it and another settled value lasts, however the unknown
    parts of the two are filled in. -/
theorem settled_iff_equals_upheld {a : Value} (wellFormed : a.WellFormed) :
    a.Settled ↔
      ∀ b a' b' : Value, b.WellFormed → b.Settled → Refines a a' → Refines b b' →
        ∀ answer, a.equals b = .bool answer → a'.equals b' = .bool answer := by
  constructor
  · intro settled b a' b' wellFormedB settledB left right answer decided
    rw [equals_eq_bool] at decided ⊢
    exact sameAs_upholds wellFormed settled b a' b' wellFormedB settledB left right answer decided
  · -- An unsettled value is told apart from its own refinement, which no value can be from itself.
    intro lasting
    have refines := refines_fillSets wellFormed
    have filled := refines.wellFormed wellFormed
    refine settled_of_sameAs_fillSets wellFormed fun apart => sameAs_self filled ?_
    exact equals_eq_bool.mp (lasting _ _ _ filled (settled_fillSets a) refines (.keep _) false
      (equals_eq_bool.mpr apart))

/-- Two lists that differ in a set: they still do when the unknown element of one becomes the null that the
    other has. -/
theorem settled_iff_equals_upheld_known :
    (Value.list (.set .bool) [.null (.set .bool), .set .bool [.bool true]]).equals
      (.list (.set .bool) [.null (.set .bool), .set .bool [.bool false]]) = .bool false := by
  have wellFormed (flag : Bool) : (Value.set .bool [.bool flag]).WellFormed :=
    .set .bool (by simp [Fits, type]) (List.pairwise_singleton _ _)
      (List.forall_mem_singleton.mpr (.bool flag))
  have settled (flag : Bool) : (Value.set .bool [.bool flag]).Settled :=
    .knownSet (List.forall_mem_singleton.mpr (.bool flag))
  have left : (Value.list (.set .bool) [.null (.set .bool), .set .bool [.bool true]]).WellFormed :=
    .list (.set .bool) (by simp [Fits, type]) (List.forall_mem_cons.mpr
      ⟨.null (.set .bool), List.forall_mem_singleton.mpr (wellFormed true)⟩)
  have right : (Value.list (.set .bool) [.unknown (.set .bool), .set .bool [.bool false]]).WellFormed :=
    .list (.set .bool) (by simp [Fits, type]) (List.forall_mem_cons.mpr
      ⟨.unknown (.set .bool), List.forall_mem_singleton.mpr (wellFormed false)⟩)
  have refines : Refines (.list (.set .bool) [.unknown (.set .bool), .set .bool [.bool false]])
      (.list (.set .bool) [.null (.set .bool), .set .bool [.bool false]]) :=
    refines_list.mpr ⟨_, rfl, .cons (.fill (.null (.set .bool)) rfl) (.cons (.keep _) .nil)⟩
  refine (settled_iff_equals_upheld left).mp (.list (List.forall_mem_cons.mpr
    ⟨.null _, List.forall_mem_singleton.mpr (settled true)⟩)) _ _ _ right
    (.list (List.forall_mem_cons.mpr ⟨.unknown _, List.forall_mem_singleton.mpr (settled false)⟩))
    (.keep _) refines false ?_
  rfl

/-- The number one. -/
def one : Value :=
  .number (.finite 1 0 (.inl (by decide)))

/-- Sets of one tuple each, one of them with an unknown number: the answer is no, and becomes yes when the
    number is filled in. -/
theorem equals_overturned :
    ∃ a b a' : Value, a.WellFormed ∧ b.WellFormed ∧ Refines a a' ∧ a.equals b = .bool false ∧
      a'.equals b = .bool true := by
  have tuple {item : Value} (inner : item.WellFormed) : (Value.tuple [item]).WellFormed :=
    .ofItems (List.forall_mem_singleton.mpr inner)
  have set {item : Value} (inner : item.WellFormed) (number : item.type = .number) :
      (Value.set (.tuple [.number]) [.tuple [item]]).WellFormed :=
    .set (.tuple (List.forall_mem_singleton.mpr .number)) (by simp [Fits, type, itemTypes, number])
      (List.pairwise_singleton _ _) (List.forall_mem_singleton.mpr (tuple inner))
  refine ⟨.set (.tuple [.number]) [.tuple [.unknown .number]],
    .set (.tuple [.number]) [.tuple [one]], .set (.tuple [.number]) [.tuple [one]],
    set (.unknown .number) rfl, set (.number _) rfl, ?_, rfl, rfl⟩
  refine (refines_set (set (.unknown .number) rfl)).mpr ⟨[.tuple [one]], rfl, ?_⟩
  refine .cons (refines_tuple.mpr ⟨[one], rfl, .cons ?_ .nil⟩) .nil
  exact .fill (.number _) rfl

end Crosswalk.Value
