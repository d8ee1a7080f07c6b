/-
Module: Crosswalk.Proofs.Host.PositionalTable
Purpose: Which tables convert by position. A list or set takes a table whose keys are exactly the positions
  below the number of its entries, whatever other keys there might have been; the first key that is not says
  why another table is refused. For a position past the entries that is the least position without an entry,
  which exists because there are as many keys as positions. A tuple takes a table whose keys are positions of
  it and puts nulls where the table has nothing.
Main exports: HostTable.IsArray, HostTable.Misplaced, HostTable.exists_misplaced, Host.positional_targets
-/
import Crosswalk.Proofs.Binary64.Whole
import Crosswalk.Proofs.Host.Filling
import Crosswalk.Proofs.Host.Reach
import Crosswalk.Proofs.Reading.Positions
import Mathlib.Data.Nat.Find
import Mathlib.Order.Bounds.Defs
import Mathlib.Tactic.Push

namespace Crosswalk

namespace HostValue

/-- Keys that denote the same position are the same key. -/
theorem same_of_position? {key other : HostValue} {position : Int} (here : key.position? = some position)
    (there : other.position? = some position) : key.same other = true := by
  cases key with
  | number x =>
      cases other with
      | number y => exact Bool.or_eq_true_iff.mpr (.inr (Binary64.numericallyEqual_of_toInt? here there))
      | _ => cases there
  | _ => cases here

/-- A key that denotes a position is the same as the number of that position. -/
theorem same_ofNat {key : HostValue} {position : Nat} (here : key.position? = some (position : Int)) :
    key.same (ofNat position) = true := by
  cases key with
  | number x => exact Bool.or_eq_true_iff.mpr (.inr (Binary64.numericallyEqual_ofInt here))
  | _ => cases here

end HostValue

namespace HostTable

/-! ### Arrays -/

/-- A table has no key that denotes the position. -/
def Lacks (table : HostTable) (position : Nat) : Prop :=
  ∀ key ∈ table.keys, key.position? ≠ some (position : Int)

/-- A key of a table denotes one of the positions below a bound. -/
def IsBelow (bound : Nat) (key : HostValue) : Prop :=
  ∃ position < bound, key.position? = some (position : Int)

/-- The keys of a table are exactly the positions below the number of its entries. -/
structure IsArray (table : HostTable) : Prop where
  below : ∀ key ∈ table.keys, IsBelow table.count key
  filled : ∀ position < table.count, ¬ table.Lacks position

/-- A key that keeps a table from being an array, and what is reported of it. -/
inductive Misplaced (table : HostTable) : HostValue → ConversionCause → Prop
  /-- A key that is no whole number is named by its text. -/
  | unexpected {key : HostValue} {text : String} (notWhole : key.position? = none)
      (named : key.keyText? = some text) : Misplaced table key (.unexpectedKey text)
  /-- A position before the first one is named. -/
  | negative {key : HostValue} {position : Int} (denoted : key.position? = some position)
      (before : position < 0) : Misplaced table key (.positionOutOfRange position)
  /-- For a position past the entries the least position is named that has none. -/
  | past {key : HostValue} {position : Int} {gap : Nat} (denoted : key.position? = some position)
      (beyond : table.count ≤ position) (inside : gap < table.count)
      (least : IsLeast {position | table.Lacks position} gap) : Misplaced table key (.missingElement gap)

theorem Misplaced.category {table : HostTable} {key : HostValue} {cause : ConversionCause}
    (misplaced : table.Misplaced key cause) : cause.category = .shapeMismatch := by
  cases misplaced <;> rfl

section Table

variable {table : HostTable} (consistent : Consistent table.entries)
  (named : ∀ entry ∈ table.entries, entry.1.keyText?.isSome = true)

theorem mem_items {entry : HostValue × HostValue} : entry ∈ table.items ↔ entry ∈ table.entries :=
  (sortBy_perm _ table.entries).mem_iff

theorem length_keys : table.keys.length = table.count := by
  rw [keys, List.length_map]
  exact (sortBy_perm _ table.entries).length_eq

theorem not_lacks_iff {position : Nat} :
    ¬ table.Lacks position ↔ some (position : Int) ∈ table.keys.map HostValue.position? := by
  simp [Lacks]

theorem exists_item {position : Nat} (present : ¬ table.Lacks position) :
    ∃ item ∈ table.items, item.1.position? = some (position : Int) := by
  rw [not_lacks_iff, keys, List.map_map] at present
  exact List.mem_map.mp present

include consistent in
/-- No position is denoted by two keys. -/
theorem positions_apart : ((table.keys.map HostValue.position?).filterMap id).Nodup := by
  have perm := ((sortBy_perm (fun a b => keyPrecedes a.1 b.1) table.entries).map Prod.fst).filterMap
    HostValue.position?
  rw [List.filterMap_map, Function.id_comp, keys, items, perm.nodup_iff, List.Nodup,
    List.pairwise_filterMap]
  refine consistent.apart.imp fun different position here other there same => ?_
  subst same
  exact absurd (HostValue.same_of_position? here there) (Bool.eq_false_iff.mp different)

include consistent in
/-- That the keys lie below the number of entries is enough, and so is that no position there is free. -/
theorem below_iff_filled :
    (∀ key ∈ table.keys, IsBelow table.count key) ↔ ∀ position < table.count, ¬ table.Lacks position := by
  have size : (table.keys.map HostValue.position?).length = table.count := by
    rw [List.length_map, length_keys]
  have pigeonhole := Reading.below_iff_filled size (positions_apart consistent)
  rw [List.forall_mem_map] at pigeonhole
  simpa only [IsBelow, not_lacks_iff] using pigeonhole

include consistent in
theorem isArray_iff : table.IsArray ↔ ∀ key ∈ table.keys, IsBelow table.count key :=
  ⟨IsArray.below, fun below => ⟨below, (below_iff_filled consistent).mp below⟩⟩

include consistent in
/-- A table that is no array lacks a position below the number of its entries, and there is a least one. -/
theorem exists_gap (notArray : ¬ table.IsArray) :
    ∃ gap < table.count, IsLeast {position | table.Lacks position} gap := by
  classical
  rw [isArray_iff consistent, below_iff_filled consistent] at notArray
  push Not at notArray
  obtain ⟨free, inside, lacks⟩ := notArray
  have some : ∃ position, table.Lacks position := ⟨free, lacks⟩
  refine ⟨Nat.find some, lt_of_le_of_lt (Nat.find_min' some lacks) inside, Nat.find_spec some, ?_⟩
  exact fun position free => Nat.find_min' some free

include consistent named in
/-- A key that is no position below the number of entries is misplaced. -/
theorem exists_cause {key : HostValue} (member : key ∈ table.keys)
    (notBelow : ¬ IsBelow table.count key) : ∃ cause, table.Misplaced key cause := by
  cases denoted : key.position? with
  | none =>
      obtain ⟨entry, inItems, rfl⟩ := List.mem_map.mp member
      obtain ⟨text, isText⟩ := Option.isSome_iff_exists.mp (named entry (mem_items.mp inItems))
      exact ⟨_, .unexpected denoted isText⟩
  | some position =>
      by_cases before : position < 0
      · exact ⟨_, .negative denoted before⟩
      · have beyond : (table.count : Int) ≤ position := by
          by_contra less
          exact notBelow ⟨position.toNat, by omega, denoted.trans (congrArg some (by omega))⟩
        have notArray : ¬ table.IsArray := fun isArray => notBelow (isArray.below key member)
        obtain ⟨gap, inside, least⟩ := exists_gap consistent notArray
        exact ⟨_, .past denoted beyond inside least⟩

include consistent named in
/-- A table that is no array has a first key that is misplaced. -/
theorem exists_misplaced (notArray : ¬ table.IsArray) :
    ∃ before key after cause, table.keys = before ++ key :: after ∧
      (∀ other ∈ before, IsBelow table.count other) ∧ table.Misplaced key cause := by
  rw [isArray_iff consistent] at notArray
  push Not at notArray
  obtain ⟨before, key, after, split, earlier, notBelow⟩ := Outcome.exists_first notArray
  have member : key ∈ table.keys := split ▸ List.mem_append_right before List.mem_cons_self
  obtain ⟨cause, misplaced⟩ := exists_cause consistent named member notBelow
  exact ⟨before, key, after, cause, split, earlier, misplaced⟩

end Table

theorem isBelow_iff {bound : Nat} {key : HostValue} :
    IsBelow bound key ↔ ∃ position : Int, key.position? = some position ∧ 0 ≤ position ∧ position < bound := by
  constructor
  · rintro ⟨position, less, denoted⟩
    exact ⟨position, denoted, by omega, by omega⟩
  · rintro ⟨position, denoted, notNegative, less⟩
    exact ⟨position.toNat, by omega, denoted.trans (congrArg some (by omega))⟩

end HostTable

namespace Host

variable {host : Host} {ref : TableRef}

/-! ### What stands at the positions of a table -/

theorem positions_known (host : Host) (ref : TableRef) :
    ((host.tableAt ref).items.map host.known).map Entry.position =
      (host.tableAt ref).keys.map HostValue.position? := by
  rw [HostTable.keys, List.map_map, List.map_map]
  rfl

theorem length_known (host : Host) (ref : TableRef) :
    ((host.tableAt ref).items.map host.known).length = (host.tableAt ref).count := by
  rw [List.length_map]
  exact (sortBy_perm _ (host.tableAt ref).entries).length_eq

theorem hasPosition_known {position : Nat} :
    Reading.hasPosition ((host.tableAt ref).items.map host.known) position = true ↔
      ¬ (host.tableAt ref).Lacks position := by
  rw [Reading.hasPosition_iff, positions_known, HostTable.not_lacks_iff]

/-- Where a table has nothing, nil is read. -/
theorem atPosition_lacks {position : Nat} (lacks : (host.tableAt ref).Lacks position) :
    Reading.atPosition ((host.tableAt ref).items.map host.known) position = Reading.nil := by
  unfold Reading.atPosition
  split
  next entry found =>
      obtain ⟨item, member, rfl⟩ := List.mem_map.mp (List.mem_of_find?_eq_some found)
      have isThere := List.find?_some found
      have there : item.1.position? = some (position : Int) := of_decide_eq_true isThere
      exact absurd there (lacks item.1 (List.mem_map_of_mem member))
  next => rfl

section Present

variable (consistent : HostTable.Consistent (host.tableAt ref).entries)
  (named : ∀ entry ∈ (host.tableAt ref).entries, entry.1.keyText?.isSome = true)
  {item : HostValue × HostValue} (member : item ∈ (host.tableAt ref).items) {position : Nat}
  (denoted : item.1.position? = some (position : Int))
include consistent named member denoted

/-- At the position that a key denotes the entry of the key is read. -/
theorem atPosition_known :
    Reading.atPosition ((host.tableAt ref).items.map host.known) position = host.reading item.2 := by
  unfold Reading.atPosition
  split
  next entry found =>
      obtain ⟨other, inItems, rfl⟩ := List.mem_map.mp (List.mem_of_find?_eq_some found)
      have isThere := List.find?_some found
      have there : other.1.position? = some (position : Int) := of_decide_eq_true isThere
      have inEntries := HostTable.mem_items.mp member
      have otherInEntries := HostTable.mem_items.mp inItems
      have place := (HostTable.same_iff_place (named other otherInEntries) (named item inEntries)).mp
        (HostValue.same_of_position? there denoted)
      rw [List.inj_on_of_nodup_map (HostTable.places_nodup named consistent) otherInEntries inEntries place]
      rfl
  next none =>
      have free := List.find?_eq_none.mp none (host.known item) (List.mem_map_of_mem member)
      exact absurd (decide_eq_true denoted) free

/-- The table yields the value of the entry at that position. -/
theorem getIndex_of_position : (host.tableAt ref).getIndex position = item.2 := by
  have inEntries := HostTable.mem_items.mp member
  have same := HostValue.same_ofNat denoted
  have namedNumber : (HostValue.ofNat position).keyText?.isSome = true := by
    rw [← HostValue.keyText?_eq_of_same same]
    exact named item inEntries
  exact HostTable.get_of_place named consistent namedNumber inEntries
    ((HostTable.same_iff_place (named item inEntries) namedNumber).mp same)

end Present

/-! ### Checks of keys -/

theorem checkTupleKeys_known {bound : Nat} :
    Reading.checkTupleKeys bound ((host.tableAt ref).items.map host.known) = .ok () ↔
      ∀ key ∈ (host.tableAt ref).keys, HostTable.IsBelow bound key := by
  rw [Reading.checkTupleKeys_eq_ok, List.forall_mem_map, HostTable.keys, List.forall_mem_map]
  simp only [HostTable.isBelow_iff, known]

theorem checkSequenceKeys_known (consistent : HostTable.Consistent (host.tableAt ref).entries) :
    Reading.checkSequenceKeys ((host.tableAt ref).items.map host.known) = .ok () ↔
      (host.tableAt ref).IsArray := by
  rw [Reading.checkSequenceKeys_eq_ok, length_known, HostTable.isArray_iff consistent, List.forall_mem_map,
    HostTable.keys, List.forall_mem_map]
  simp only [HostTable.isBelow_iff, known]

/-- The first misplaced key is reported. -/
theorem checkSequenceKeys_misplaced {before after : List HostValue} {key : HostValue} {cause : ConversionCause}
    (split : (host.tableAt ref).keys = before ++ key :: after)
    (earlier : ∀ other ∈ before, HostTable.IsBelow (host.tableAt ref).count other)
    (misplaced : (host.tableAt ref).Misplaced key cause) :
    Reading.checkSequenceKeys ((host.tableAt ref).items.map host.known) = .error (.conversion [] cause) := by
  obtain ⟨front, back, items, rfl, rest⟩ := List.map_eq_append_iff.mp split
  obtain ⟨item, others, rfl, rfl, rfl⟩ := List.map_eq_cons_iff.mp rest
  rw [Reading.checkSequenceKeys, Outcome.forM_eq_error]
  refine ⟨front.map host.known, host.known item, others.map host.known, ?_, ?_, ?_⟩
  · rw [items, List.map_append, List.map_cons]
  · rw [length_known]
    refine List.forall_mem_map.mpr fun other member => ?_
    obtain ⟨position, denoted, notNegative, less⟩ :=
      HostTable.isBelow_iff.mp (earlier other.1 (List.mem_map_of_mem member))
    simp only [known, denoted]
    rw [if_neg (by omega), if_neg (by omega)]
  · rw [length_known]
    cases misplaced with
    | unexpected notWhole isText =>
        simp only [known, notWhole, keyText_of_keyText? isText]
        rfl
    | negative denoted negative =>
        simp only [known, denoted]
        rw [if_pos negative]
    | @past position gap denoted beyond inside least =>
        have free : Reading.hasPosition ((host.tableAt ref).items.map host.known) gap = false :=
          Bool.eq_false_iff.mpr fun present => hasPosition_known.mp present least.1
        have filled : ∀ position < gap,
            Reading.hasPosition ((host.tableAt ref).items.map host.known) position = true :=
          fun position less => hasPosition_known.mpr fun lacks => absurd (least.2 lacks) (by omega)
        have tried : gap < 0 + (host.tableAt ref).count := by omega
        have found := Reading.firstGap?_eq (Nat.zero_le gap) tried free filled
        simp only [known, denoted]
        rw [if_neg (by omega), if_pos beyond]
        rw [found]

/-! ### Conversions -/

/-- What stands at the positions of a table, as many as it has entries, converts to the items. -/
def ConvertsEach (host : Host) (ref : TableRef) (want : Ty) (items : List Value) : Prop :=
  List.Forall₂ (fun position item => host.convert ((host.tableAt ref).getIndex position) want = .ok item)
    (List.range (host.tableAt ref).count) items

section Targets

variable (consistent : HostTable.Consistent (host.tableAt ref).entries)
  (named : ∀ entry ∈ (host.tableAt ref).entries, entry.1.keyText?.isSome = true)

section Sequences

variable {element : Ty} (static : element.hasDynamic = false)

include consistent named static in
/-- A table is read as a sequence if it is an array and what stands at each of its positions converts on
    its own. -/
theorem toSequence_known {items : List Value} {common : Ty} :
    Reading.toSequence element ((host.tableAt ref).items.map host.known) = .ok (items, common) ↔
      (host.tableAt ref).IsArray ∧ common = element ∧ host.ConvertsEach ref element items := by
  rw [Reading.toSequence_iff static, checkSequenceKeys_known consistent, length_known]
  refine and_congr_right fun isArray => and_congr_right fun _ => ?_
  have same : ∀ position ∈ List.range (host.tableAt ref).count,
      (Reading.atPosition ((host.tableAt ref).items.map host.known) position).convert element =
        host.convert ((host.tableAt ref).getIndex position) element := by
    intro position member
    obtain ⟨item, inItems, denoted⟩ :=
      HostTable.exists_item (isArray.filled position (List.mem_range.mp member))
    rw [atPosition_known consistent named inItems denoted,
      getIndex_of_position consistent named inItems denoted]
    rfl
  constructor
  · exact fun each => Outcome.forall₂_of_mem each fun position member item => (same position member).symm.trans
  · exact fun each => Outcome.forall₂_of_mem each fun position member item => (same position member).trans

variable (payloads : host.Carries Value.WellFormed) (outer : element.WellFormed)

include static payloads outer in
/-- Converted elements are of the wanted type. -/
theorem ConvertsEach.fits {items : List Value} (each : host.ConvertsEach ref element items) :
    ∀ item ∈ items, Value.Fits element item := by
  intro item member
  obtain ⟨position, -, converted⟩ := Outcome.exists_of_forall₂ each member
  exact .inr (convert_hasType payloads outer static converted).1

include consistent named static payloads outer in
/-- Lists and sets of a table have one element for each of its positions. -/
theorem toSequence_bind_iff (make : List Value → Ty → Outcome Value) (made : List Value → Value)
    (makes : ∀ items, (∀ item ∈ items, Value.Fits element item) → make items element = .ok (made items))
    {result : Value} :
    (Reading.toSequence element ((host.tableAt ref).items.map host.known) >>= fun pair => make pair.1 pair.2) =
        .ok result ↔
      (host.tableAt ref).IsArray ∧ ∃ items, host.ConvertsEach ref element items ∧ result = made items := by
  rw [Outcome.bind_eq_ok]
  constructor
  · rintro ⟨⟨items, common⟩, sequence, built⟩
    obtain ⟨isArray, rfl, each⟩ := (toSequence_known consistent named static).mp sequence
    exact ⟨isArray, items, each, Except.ok.inj (built.symm.trans (makes items (each.fits static payloads outer)))⟩
  · rintro ⟨isArray, items, each, rfl⟩
    refine ⟨(items, element), ?_, makes items (each.fits static payloads outer)⟩
    exact (toSequence_known consistent named static).mpr ⟨isArray, rfl, each⟩

end Sequences

theorem convert_list (host : Host) (ref : TableRef) (element : Ty) :
    host.convert (.table ref) (.list element) =
      Reading.toSequence element ((host.tableAt ref).items.map host.known) >>= fun pair =>
        Value.listOf pair.1 (some pair.2) :=
  congrArg (fun reading : Reading => reading.convert (.list element)) (reading_table host ref)

theorem convert_set (host : Host) (ref : TableRef) (element : Ty) :
    host.convert (.table ref) (.set element) =
      Reading.toSequence element ((host.tableAt ref).items.map host.known) >>= fun pair =>
        Value.setOf pair.1 (some pair.2) :=
  congrArg (fun reading : Reading => reading.convert (.set element)) (reading_table host ref)

section Tuples

variable {wants : List Ty}
include consistent named

/-- At a position of a tuple stands what the entry there converts to, or a null. -/
theorem convert_atPosition_iff {want : Ty} {position : Nat} {result : Value} :
    (Reading.atPosition ((host.tableAt ref).items.map host.known) position).convert want = .ok result ↔
      (∃ entry ∈ (host.tableAt ref).items, entry.1.position? = some (position : Int) ∧
        host.convert entry.2 want = .ok result) ∨
      ((host.tableAt ref).Lacks position ∧ result = .null want) := by
  by_cases lacks : (host.tableAt ref).Lacks position
  · rw [atPosition_lacks lacks]
    constructor
    · exact fun converted => .inr ⟨lacks, (Except.ok.inj converted).symm⟩
    · rintro (⟨entry, inItems, denoted, -⟩ | ⟨-, rfl⟩)
      · exact absurd denoted (lacks entry.1 (List.mem_map_of_mem inItems))
      · rfl
  · have read {entry : HostValue × HostValue} (inItems : entry ∈ (host.tableAt ref).items)
        (denoted : entry.1.position? = some (position : Int)) :
        (Reading.atPosition ((host.tableAt ref).items.map host.known) position).convert want = .ok result ↔
          host.convert entry.2 want = .ok result := by
      rw [atPosition_known consistent named inItems denoted]
      exact .rfl
    obtain ⟨entry, inItems, denoted⟩ := HostTable.exists_item lacks
    constructor
    · exact fun converted => .inl ⟨entry, inItems, denoted, (read inItems denoted).mp converted⟩
    · rintro (⟨other, otherInItems, otherDenoted, converted⟩ | ⟨free, -⟩)
      · exact (read otherInItems otherDenoted).mpr converted
      · exact absurd free lacks

/-- A tuple has an element for every position, null where the table has nothing. -/
theorem convert_tuple_iff {result : Value} :
    host.convert (.table ref) (.tuple wants) = .ok result ↔
      (∀ key ∈ (host.tableAt ref).keys, HostTable.IsBelow wants.length key) ∧
      ∃ items, result = .tuple items ∧ List.Forall₂ (fun want item =>
        (∃ entry ∈ (host.tableAt ref).items, entry.1.position? = some (want.2 : Int) ∧
          host.convert entry.2 want.1 = .ok item) ∨
        ((host.tableAt ref).Lacks want.2 ∧ item = .null want.1)) wants.zipIdx items := by
  have read : host.convert (.table ref) (.tuple wants) =
      Reading.toTuple wants ((host.tableAt ref).items.map host.known) :=
    congrArg (fun reading : Reading => reading.convert (.tuple wants)) (reading_table host ref)
  rw [read, Reading.toTuple_iff]
  simp only [checkTupleKeys_known]
  constructor
  · rintro ⟨items, rfl, below, each⟩
    refine ⟨below, items, rfl, Outcome.forall₂_of_mem each fun want member item converted => ?_⟩
    exact (convert_atPosition_iff consistent named).mp converted
  · rintro ⟨below, items, rfl, each⟩
    refine ⟨items, rfl, below, Outcome.forall₂_of_mem each fun want member item stands => ?_⟩
    exact (convert_atPosition_iff consistent named).mpr stands

end Tuples

end Targets

/-- Positional targets accept exactly the right tables. A list takes an array each of whose elements converts,
    and has their conversions in order; a set has these without repeats. Any other table is refused for its
    shape, at its own path, on account of the first key that is misplaced. A tuple takes a table whose keys
    are positions of it and whose values convert, and has nulls at the positions that the table lacks. -/
theorem positional_targets {host : Host} {ref : TableRef}
    (consistent : HostTable.Consistent (host.tableAt ref).entries)
    (plain : ∀ entry ∈ (host.tableAt ref).entries, entry.1.IsPlain)
    (payloads : host.Carries Value.WellFormed) {element : Ty} (outer : element.WellFormed)
    (static : element.hasDynamic = false) :
    (∀ result, host.convert (.table ref) (.list element) = .ok result ↔
      (host.tableAt ref).IsArray ∧ ∃ items, host.ConvertsEach ref element items ∧ result = .list element items) ∧
    (∀ result, host.convert (.table ref) (.set element) = .ok result ↔
      (host.tableAt ref).IsArray ∧ ∃ items, host.ConvertsEach ref element items ∧
        result = .set element (Value.withoutRepeats items)) ∧
    (¬ (host.tableAt ref).IsArray → ∃ before key after cause,
      (host.tableAt ref).keys = before ++ key :: after ∧
      (∀ other ∈ before, HostTable.IsBelow (host.tableAt ref).count other) ∧
      (host.tableAt ref).Misplaced key cause ∧ cause.category = .shapeMismatch ∧
      host.convert (.table ref) (.list element) = .error (.conversion [] cause) ∧
      host.convert (.table ref) (.set element) = .error (.conversion [] cause)) ∧
    (∀ wants result,
      host.convert (.table ref) (.tuple wants) = .ok result ↔
        (∀ key ∈ (host.tableAt ref).keys, HostTable.IsBelow wants.length key) ∧
        ∃ items, result = .tuple items ∧ List.Forall₂ (fun want item =>
          (∃ entry ∈ (host.tableAt ref).items, entry.1.position? = some (want.2 : Int) ∧
            host.convert entry.2 want.1 = .ok item) ∨
          ((host.tableAt ref).Lacks want.2 ∧ item = .null want.1)) wants.zipIdx items) := by
  have named : ∀ entry ∈ (host.tableAt ref).entries, entry.1.keyText?.isSome = true := fun entry member =>
    (plain entry member).named (consistent.keys entry.1 (List.mem_map_of_mem member))
  have sequence := @toSequence_bind_iff host ref consistent named element static payloads outer
  refine ⟨fun result => ?_, fun result => ?_, fun notArray => ?_, fun wants result => ?_⟩
  · rw [convert_list]
    exact sequence (fun items common => Value.listOf items (some common)) (.list element)
      fun items fits => Value.listOf_of_fits fits
  · rw [convert_set]
    exact sequence (fun items common => Value.setOf items (some common))
      (fun items => .set element (Value.withoutRepeats items)) fun items fits => Value.setOf_of_fits fits
  · obtain ⟨before, key, after, cause, split, earlier, misplaced⟩ :=
      HostTable.exists_misplaced consistent named notArray
    have failed := checkSequenceKeys_misplaced split earlier misplaced
    refine ⟨before, key, after, cause, split, earlier, misplaced, misplaced.category, ?_, ?_⟩
    · rw [convert_list, Reading.toSequence, failed]
      rfl
    · rw [convert_set, Reading.toSequence, failed]
      rfl
  · exact convert_tuple_iff consistent named

/-- A host with an array filled backwards, one of whose elements is unknown, and with a table that is no
    array. -/
def positioned : Host :=
  { start {} with
    tables := (start {}).tables ++ #[
      { entries := [(.ofNat 1, .userdata ⟨0⟩), (.ofNat 0, .boolean true)] },
      { entries := [(.string "a", .boolean true), (.ofNat 5, .boolean true), (.ofNat 0, .boolean true)] }]
    userdata := #[⟨.structural (.unknown .bool), some wrappedMetatable⟩] }

theorem positioned_consistent :
    HostTable.Consistent (positioned.tableAt ⟨2⟩).entries ∧
      HostTable.Consistent (positioned.tableAt ⟨3⟩).entries := by
  have text : HostTable.IsKey (.string "a") := ⟨nofun, by rintro _ ⟨⟩⟩
  have keys := HostTable.isKey_ofNat
  constructor
  · refine ⟨by decide +kernel, ?_, ?_⟩
    · exact List.forall_mem_cons.mpr ⟨keys 1, List.forall_mem_singleton.mpr (keys 0)⟩
    · exact List.forall_mem_cons.mpr ⟨nofun, List.forall_mem_singleton.mpr nofun⟩
  · refine ⟨by decide +kernel, ?_, ?_⟩
    · exact List.forall_mem_cons.mpr ⟨text,
        List.forall_mem_cons.mpr ⟨keys 5, List.forall_mem_singleton.mpr (keys 0)⟩⟩
    · exact List.forall_mem_cons.mpr ⟨nofun,
        List.forall_mem_cons.mpr ⟨nofun, List.forall_mem_singleton.mpr nofun⟩⟩

theorem positioned_plain :
    (∀ entry ∈ (positioned.tableAt ⟨2⟩).entries, entry.1.IsPlain) ∧
      ∀ entry ∈ (positioned.tableAt ⟨3⟩).entries, entry.1.IsPlain := by
  constructor
  · exact List.forall_mem_cons.mpr ⟨.inl rfl, List.forall_mem_singleton.mpr (.inl rfl)⟩
  · exact List.forall_mem_cons.mpr ⟨.inr (.inl rfl),
      List.forall_mem_cons.mpr ⟨.inl rfl, List.forall_mem_singleton.mpr (.inl rfl)⟩⟩

theorem positioned_carries : positioned.Carries Value.WellFormed := by
  refine (carries_of_sole rfl).mono ?_
  rintro _ rfl
  exact .unknown .bool

/-- The keys 1 and 0 are those of an array; of the keys "a", 5 and 0 the second one in order is past the
    entries, so the table is refused for its shape. -/
theorem positional_targets_positioned :
    positioned.convert (.table ⟨2⟩) (.list .bool) = .ok (.list .bool [.bool true, .unknown .bool]) ∧
      ∃ cause, cause.category = .shapeMismatch ∧
        positioned.convert (.table ⟨3⟩) (.set .bool) = .error (.conversion [] cause) := by
  obtain ⟨list, -⟩ := positional_targets positioned_consistent.1 positioned_plain.1 positioned_carries .bool
    rfl
  obtain ⟨-, -, refused, -⟩ := positional_targets positioned_consistent.2 positioned_plain.2
    positioned_carries .bool rfl
  constructor
  · have places : (positioned.tableAt ⟨2⟩).keys.map HostValue.position? = [some 0, some 1] := by decide +kernel
    have below : ∀ key ∈ (positioned.tableAt ⟨2⟩).keys, HostTable.IsBelow 2 key := by
      intro key member
      have place := places ▸ List.mem_map_of_mem member
      rcases List.mem_cons.mp place with first | other
      · exact ⟨0, by decide, first⟩
      · exact ⟨1, by decide, List.mem_singleton.mp other⟩
    refine (list _).mpr ⟨(HostTable.isArray_iff positioned_consistent.1).mpr below, _, ?_, rfl⟩
    have first : (positioned.tableAt ⟨2⟩).getIndex 0 = .boolean true := by decide +kernel
    have second : (positioned.tableAt ⟨2⟩).getIndex 1 = .userdata ⟨0⟩ := by decide +kernel
    exact .cons (congrArg (positioned.convert · .bool) first)
      (.cons (congrArg (positioned.convert · .bool) second) .nil)
  · have places : (positioned.tableAt ⟨3⟩).keys.map HostValue.position? = [some 0, some 5, none] := by
      decide +kernel
    have notArray : ¬ (positioned.tableAt ⟨3⟩).IsArray := by
      intro isArray
      have member : none ∈ (positioned.tableAt ⟨3⟩).keys.map HostValue.position? := by simp [places]
      obtain ⟨key, inKeys, notWhole⟩ := List.mem_map.mp member
      obtain ⟨position, -, denoted⟩ := isArray.below key inKeys
      cases notWhole.symm.trans denoted
    obtain ⟨_, _, _, cause, -, -, -, shape, -, failed⟩ := refused notArray
    exact ⟨cause, shape, failed⟩

end Host

end Crosswalk
