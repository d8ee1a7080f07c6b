/-
Module: Crosswalk.Proofs.Host.Reach
Purpose: Seeing a host value deeper than it is read changes nothing. The type that a value implies is settled as
  deep as there are tables: each level settles one more table, or settles them all. A conversion goes on below
  only as far as the wanted type is nested. So a host value has one reading, whatever else it stands in, and the
  reading of a table is put together from the readings of its keys and values. Only inferring a type can be
  endless, and then it is at every depth.
Main exports: Reading.table_convert_congr, Tree.whole_of_implied, Host.treeTo_implied, Host.treeTo_convert,
  Host.implied_eq_endless_iff, Host.reading, Host.known, Host.reading_table
-/
import Crosswalk.Proofs.Host.Containment
import Crosswalk.Proofs.Host.Indexing
import Crosswalk.Proofs.Inference
import Crosswalk.Proofs.Reading.Failure

namespace Crosswalk

open Outcome (Persists)

/-! ### Nesting of types -/

namespace Ty

theorem nesting_attribute {attributes : List (String × Ty)} {entry : String × Ty}
    (member : entry ∈ attributes) : entry.2.nesting < (object attributes).nesting := by
  rw [nesting]
  induction attributes with
  | nil => cases member
  | cons first rest ih =>
      rw [attributesNesting]
      rcases List.mem_cons.mp member with rfl | later
      · omega
      · have := ih later
        omega

theorem nesting_element {elements : List Ty} {element : Ty} (member : element ∈ elements) :
    element.nesting < (tuple elements).nesting := by
  rw [nesting]
  induction elements with
  | nil => cases member
  | cons first rest ih =>
      rw [elementsNesting]
      rcases List.mem_cons.mp member with rfl | later
      · omega
      · have := ih later
        omega

/-- Types that are not nested ask only for truth, or for the implied type. -/
theorem eq_of_nesting {ty : Ty} (flat : ty.nesting = 0) :
    ty = .bool ∨ ty = .number ∨ ty = .string ∨ ty = .dynamic := by
  cases ty <;> simp [nesting] at flat ⊢

end Ty

/-! ### Tables with alike entries -/

namespace Reading

/-- To a collection or structure, tables convert alike if their entries do to its parts. -/
theorem table_matches {want : Ty} (nested : 0 < want.nesting) {entries others : List Entry}
    (alike : List.Forall₂ (Entry.Extends fun reading other => ∀ part, part.nesting < want.nesting →
      Matches part reading other) entries others) :
    Matches want (table entries) (table others) := by
  cases want with
  | bool | number | string | dynamic => exact absurd nested (Nat.lt_irrefl 0)
  | list element | set element =>
      have inner := alike.imp fun _ _ pair => pair.mono fun each => each element (Nat.lt_succ_self _)
      apply (toSequence_persists inner).bind
      rintro pair _ rfl
      exact .refl _
  | map element =>
      have inner := alike.imp fun _ _ pair => pair.mono fun each => each element (Nat.lt_succ_self _)
      exact toMap_persists inner
  | object wants =>
      refine toObject_persists (alike.imp fun _ _ pair => pair.mono fun each want member => ?_)
      exact each want.2 (Ty.nesting_attribute member)
  | tuple wants =>
      refine toTuple_persists (alike.imp fun _ _ pair => pair.mono fun each want member => ?_)
      exact each want (Ty.nesting_element member)

/-- Two ways of seeing the entries of a table, with the same positions and texts. -/
structure SeenAlike {α : Type} (items : List α) (see other : α → Entry) : Prop where
  position : ∀ item ∈ items, (other item).position = (see item).position
  text : ∀ item ∈ items, (other item).text = (see item).text

section Alike

variable {α : Type} {items : List α} {see other : α → Entry} (alike : SeenAlike items see other)
include alike

theorem SeenAlike.symm : SeenAlike items other see :=
  ⟨fun item member => (alike.position item member).symm, fun item member => (alike.text item member).symm⟩

theorem SeenAlike.extends {Related : Reading → Reading → Prop}
    (related : ∀ item ∈ items, Related (see item).reading (other item).reading) :
    List.Forall₂ (Entry.Extends Related) (items.map see) (items.map other) := by
  rw [List.forall₂_map_left_iff, List.forall₂_map_right_iff, List.forall₂_same]
  exact fun item member => .ofEq (alike.position item member) (alike.text item member) (related item member)

theorem impliedObject_congr
    (implied : ∀ item ∈ items, (other item).reading.implied = (see item).reading.implied) :
    impliedObject (items.map other) = impliedObject (items.map see) := by
  apply Persists.antisymm
  · exact impliedObject_persists (alike.symm.extends fun item member => implied item member ▸ .refl _)
  · exact impliedObject_persists (alike.extends fun item member => implied item member ▸ .refl _)

theorem table_convert_congr {want : Ty} (nested : 0 < want.nesting)
    (converts : ∀ item ∈ items, ∀ part, part.nesting < want.nesting →
      (other item).reading.convert part = (see item).reading.convert part) :
    (table (items.map other)).convert want = (table (items.map see)).convert want := by
  apply Persists.antisymm
  · refine table_matches nested (alike.symm.extends fun item member part less => ?_)
    exact .ofEq (converts item member part less).symm
  · refine table_matches nested (alike.extends fun item member part less => ?_)
    exact .ofEq (converts item member part less)

end Alike

/-- Where a table implies no type, it does not convert unless it is asked for truth or for parts. -/
theorem table_convert_of_error {entries : List Entry} {fault : Fault}
    (failed : impliedObject entries = .error fault) {want : Ty} (flat : want.nesting = 0)
    (notTruth : want ≠ .bool) : (table entries).convert want = .error fault := by
  have implied : toImplied entries = .error fault := by
    rw [toImplied, failed]
    rfl
  rcases Ty.eq_of_nesting flat with rfl | rfl | rfl | rfl
  · exact absurd rfl notTruth
  · exact Outcome.bind_eq_error.mpr (.inl implied)
  · exact Outcome.bind_eq_error.mpr (.inl implied)
  · exact implied

/-- A table does not become a number or a text. -/
theorem table_ne_ok {entries : List Entry} {want : Ty} (asked : want = .number ∨ want = .string)
    (result : Value) : (table entries).convert want ≠ .ok result := by
  intro converted
  rcases asked with rfl | rfl
  all_goals
    obtain ⟨value, implied, further⟩ := Outcome.bind_eq_ok.mp converted
    obtain ⟨attributes, rfl⟩ := toImplied_object implied
    cases further

/-- A table has no text. -/
theorem keyText_table_ne_ok (entries : List Entry) (text : String) :
    (table entries).keyText ≠ .ok text := by
  intro success
  unfold keyText at success
  split at success
  next value converted => exact table_ne_ok (.inr rfl) value converted
  next => cases success
  next => cases success

end Reading

theorem Tree.convert_of_implied_error {tree : Tree} (isTable : tree.kind = .table) {fault : Fault}
    (failed : tree.implied = .error fault) {want : Ty} (flat : want.nesting = 0) (notTruth : want ≠ .bool) :
    tree.convert want = .error fault := by
  cases tree with
  | table entries => exact Reading.table_convert_of_error failed flat notTruth
  | endless =>
      cases failed
      rcases Ty.eq_of_nesting flat with rfl | rfl | rfl | rfl
      · exact absurd rfl notTruth
      all_goals rfl
  | _ => cases isTable

/-- A tree that implies a type is whole: its keys have texts, so they are no tables, and its values imply
    types. -/
theorem Tree.whole_of_implied {tree : Tree} {ty : Ty} (implied : tree.implied = .ok ty) : tree.Whole := by
  induction tree using Tree.induct generalizing ty with
  | endless => cases implied
  | table entries ih =>
      obtain ⟨named, attributes, byKey, rfl, each⟩ := Reading.impliedObject_eq_ok.mp implied
      refine Tree.whole_table.mpr fun entry member => ?_
      have inRead : Entry.mk entry.1.position? (entry.1.keyText entry.1.read) entry.2.read ∈
          readEntries entries := readEntries_eq_map entries ▸ List.mem_map_of_mem member
      obtain ⟨other, inNamed, text, same⟩ :=
        Outcome.exists_of_forall₂ (Reading.byText_eq_ok byKey).2.flip inRead
      obtain ⟨attr, -, gives⟩ := Outcome.exists_of_forall₂ each.flip inNamed
      constructor
      · cases key : entry.1 with
        | table inner => exact absurd (key ▸ text) (Reading.keyText_table_ne_ok _ _)
        | endless => exact absurd (key ▸ text) nofun
        | _ => exact nofun
      · exact (ih entry member).2 (same ▸ gives.implied)
  | _ => exact nofun

namespace Host

variable {host : Host}

/-! ### One level more -/

/-- A conversion that asks only for truth or for the implied type is settled with that type. -/
theorem treeTo_convert_flat {want : Ty} (flat : want.nesting = 0) {depth : Nat} {value : HostValue}
    (same : (host.treeTo (depth + 1) value).implied = (host.treeTo depth value).implied) :
    (host.treeTo (depth + 1) value).convert want = (host.treeTo depth value).convert want := by
  rcases value.leaf_or_table with leaf | ⟨ref, rfl⟩
  · rw [treeTo_of_leaf host leaf (depth + 1) depth]
  · cases implied : (host.treeTo depth (.table ref)).implied with
    | ok ty => rw [treeTo_succ_of_whole (Tree.whole_of_implied implied)]
    | error fault =>
        by_cases truth : want = .bool
        · rw [truth]
          cases depth <;> rfl
        · rw [implied] at same
          rw [Tree.convert_of_implied_error (treeTo_kind_table host _ ref) same flat truth,
            Tree.convert_of_implied_error (treeTo_kind_table host _ ref) implied flat truth]

/-- The text of a key is settled with the type that it implies. -/
theorem keyTextTo_succ {depth : Nat} {key : HostValue}
    (same : (host.treeTo (depth + 1) key).implied = (host.treeTo depth key).implied) :
    host.keyTextTo (depth + 1) key = host.keyTextTo depth key := by
  rcases key.leaf_or_table with leaf | ⟨ref, rfl⟩
  · rw [keyTextTo, keyTextTo, treeTo_of_leaf host leaf (depth + 1) depth]
  · have strings : (host.treeTo (depth + 1) (.table ref)).read.convert .string =
        (host.treeTo depth (.table ref)).read.convert .string := treeTo_convert_flat rfl same
    rw [keyTextTo_table, keyTextTo_table, Reading.keyText, Reading.keyText, strings]

/-- What is known of an entry of a table that is seen to a depth. -/
def knownTo (host : Host) (depth : Nat) (item : HostValue × HostValue) : Entry where
  position := (host.treeTo depth item.1).position?
  text := host.keyTextTo depth item.1
  reading := (host.treeTo depth item.2).read

theorem read_treeTo (host : Host) (depth : Nat) (ref : TableRef) :
    (host.treeTo (depth + 1) (.table ref)).read =
      .table ((host.tableAt ref).items.map (host.knownTo depth)) := by
  rw [treeTo, Tree.read, Tree.readEntries_eq_map, List.map_map]
  rfl

theorem seenAlike_succ {depth : Nat} {items : List (HostValue × HostValue)}
    (settled : ∀ item ∈ items,
      (host.treeTo (depth + 1) item.1).implied = (host.treeTo depth item.1).implied) :
    Reading.SeenAlike items (host.knownTo depth) (host.knownTo (depth + 1)) where
  position item _ := position?_treeTo_succ host depth item.1
  text item member := keyTextTo_succ (settled item member)

/-! ### Implied types -/

/-- Where a level changes no implied type, the next one does not either. -/
theorem treeTo_implied_succ {depth : Nat}
    (settled : ∀ value, (host.treeTo (depth + 1) value).implied = (host.treeTo depth value).implied)
    (value : HostValue) :
    (host.treeTo (depth + 1 + 1) value).implied = (host.treeTo (depth + 1) value).implied := by
  rcases value.leaf_or_table with leaf | ⟨ref, rfl⟩
  · rw [treeTo_of_leaf host leaf (depth + 1 + 1) (depth + 1)]
  · rw [Tree.implied, Tree.implied, read_treeTo, read_treeTo]
    exact Reading.impliedObject_congr (seenAlike_succ fun item _ => settled item.1)
      fun item _ => settled item.2

/-- The tables whose implied types are not found to a depth. -/
noncomputable def endlessAt (host : Host) (depth : Nat) : Finset Nat := by
  classical exact (Finset.range host.tables.size).filter fun id =>
    (host.treeTo depth (.table ⟨id⟩)).implied = .error .endless

theorem mem_endlessAt {depth id : Nat} :
    id ∈ host.endlessAt depth ↔
      id < host.tables.size ∧ (host.treeTo depth (.table ⟨id⟩)).implied = .error .endless := by
  simp [endlessAt]

theorem endlessAt_subset (host : Host) (depth : Nat) : host.endlessAt (depth + 1) ⊆ host.endlessAt depth := by
  intro id member
  obtain ⟨bound, endless⟩ := mem_endlessAt.mp member
  exact mem_endlessAt.mpr ⟨bound, (treeTo_extends host depth _).implied.endless_of endless⟩

/-- A level that finds no implied type anew changes none. -/
theorem settled_of_endlessAt {depth : Nat} (same : host.endlessAt (depth + 1 + 1) = host.endlessAt (depth + 1))
    (value : HostValue) :
    (host.treeTo (depth + 1 + 1) value).implied = (host.treeTo (depth + 1) value).implied := by
  by_cases endless : (host.treeTo (depth + 1) value).implied = .error .endless
  · rcases value.leaf_or_table with leaf | ⟨ref, rfl⟩
    · rw [treeTo_of_leaf host leaf (depth + 1 + 1) (depth + 1)]
    · by_cases bound : ref.id < host.tables.size
      · have member := same.symm ▸ mem_endlessAt.mpr ⟨bound, endless⟩
        exact (mem_endlessAt.mp member).2.trans endless.symm
      · have missing : host.tables[ref.id]? = none := by simpa using bound
        simp [treeTo, tableAt, missing, HostTable.items, sortBy]
  · exact (treeTo_extends host (depth + 1) value).implied.eq_of_ne_endless endless

/-- Up to each level implied types are settled, or there are as many fewer tables left without one. -/
theorem settled_or_fewer (host : Host) (depth : Nat) :
    (∀ value, (host.treeTo (depth + 1 + 1) value).implied = (host.treeTo (depth + 1) value).implied) ∨
      (host.endlessAt (depth + 1 + 1)).card + (depth + 1) ≤ host.tables.size := by
  by_cases same : host.endlessAt (depth + 1 + 1) = host.endlessAt (depth + 1)
  · exact .inl (settled_of_endlessAt same)
  · have fewer := Finset.card_lt_card ((endlessAt_subset host (depth + 1)).ssubset_of_ne same)
    induction depth with
    | zero =>
        have subset : host.endlessAt (0 + 1) ⊆ Finset.range host.tables.size :=
          fun id member => Finset.mem_range.mpr (mem_endlessAt.mp member).1
        have most := Finset.card_le_card subset
        rw [Finset.card_range] at most
        exact .inr (by omega)
    | succ depth ih =>
        by_cases before : host.endlessAt (depth + 1 + 1) = host.endlessAt (depth + 1)
        · exact .inl (treeTo_implied_succ (settled_of_endlessAt before))
        · have fewerBefore := Finset.card_lt_card ((endlessAt_subset host (depth + 1)).ssubset_of_ne before)
          rcases ih before fewerBefore with settled | few
          · exact .inl (treeTo_implied_succ settled)
          · exact .inr (by omega)

/-- Seen deeper than there are tables, a value implies the type that it implies on its own. -/
theorem treeTo_implied {depth : Nat} (deep : host.tables.size + 1 ≤ depth) (value : HostValue) :
    (host.treeTo depth value).implied = host.implied value := by
  have settled (level : Nat) (above : host.tables.size + 1 ≤ level) :
      ∀ value, (host.treeTo (level + 1) value).implied = (host.treeTo level value).implied := by
    induction level, above using Nat.le_induction with
    | base =>
        rcases settled_or_fewer host host.tables.size with settled | few
        · exact settled
        · omega
    | succ level _ ih => exact treeTo_implied_succ ih
  induction depth, deep using Nat.le_induction with
  | base => rfl
  | succ depth above ih => exact (settled depth above value).trans ih

/-- Inferring the type of a value is endless exactly if it is at every depth. -/
theorem implied_eq_endless_iff {value : HostValue} :
    host.implied value = .error .endless ↔ ∀ depth, (host.treeTo depth value).implied = .error .endless := by
  constructor
  · intro endless depth
    rcases le_total depth (host.tables.size + 1) with below | above
    · exact (treeTo_extends_of_le host below value).implied.endless_of endless
    · exact (treeTo_implied above value).trans endless
  · exact fun endless => endless _

/-! ### Conversions -/

/-- The text of a key. -/
def keyText (host : Host) (key : HostValue) : Outcome String :=
  (host.tree key).keyText (host.tree key).read

theorem keyTextTo_eq {depth : Nat} (deep : host.tables.size + 1 ≤ depth) (key : HostValue) :
    host.keyTextTo depth key = host.keyText key := by
  induction depth, deep using Nat.le_induction with
  | base => rfl
  | succ depth above ih =>
      have settled := (treeTo_implied (Nat.le_succ_of_le above) key).trans (treeTo_implied above key).symm
      exact (keyTextTo_succ settled).trans ih

theorem treeTo_convert_succ {want : Ty} {depth : Nat} (deep : host.tables.size + 1 + want.nesting ≤ depth)
    (value : HostValue) :
    (host.treeTo (depth + 1) value).convert want = (host.treeTo depth value).convert want := by
  induction depth generalizing want value with
  | zero => omega
  | succ depth ih =>
      have settled (value : HostValue) (above : host.tables.size + 1 ≤ depth) :
          (host.treeTo (depth + 1) value).implied = (host.treeTo depth value).implied :=
        (treeTo_implied (Nat.le_succ_of_le above) value).trans (treeTo_implied above value).symm
      rcases value.leaf_or_table with leaf | ⟨ref, rfl⟩
      · rw [treeTo_of_leaf host leaf (depth + 1 + 1) (depth + 1)]
      · rcases Nat.eq_zero_or_pos want.nesting with flat | nested
        · have above : host.tables.size + 1 ≤ depth + 1 := by omega
          exact treeTo_convert_flat flat
            ((treeTo_implied (Nat.le_succ_of_le above) _).trans (treeTo_implied above _).symm)
        · rw [Tree.convert, Tree.convert, read_treeTo, read_treeTo]
          have above : host.tables.size + 1 ≤ depth := by omega
          refine Reading.table_convert_congr (seenAlike_succ fun item _ => settled item.1 above) nested ?_
          exact fun item _ part less => ih (by omega) item.2

/-- Seen deeper than there are tables and the wanted type is nested, a value converts as it does on its own. -/
theorem treeTo_convert {want : Ty} {depth : Nat} (deep : host.tables.size + 1 + want.nesting ≤ depth)
    (value : HostValue) : (host.treeTo depth value).convert want = host.convert value want := by
  induction depth, deep using Nat.le_induction with
  | base => rfl
  | succ depth above ih => exact (treeTo_convert_succ above value).trans ih

/-! ### Readings of host values -/

/-- What can be read from a host value. -/
def reading (host : Host) (value : HostValue) : Reading where
  implied := host.implied value
  convert := host.convert value

/-- A value whose tree is whole is read as the tree is. -/
theorem reading_of_whole {depth : Nat} {value : HostValue} (deep : host.tables.size + 1 ≤ depth)
    (whole : (host.tree value).Whole) : host.reading value = (host.treeTo depth value).read := by
  have same (deeper : Nat) (above : host.tables.size + 1 ≤ deeper) : host.treeTo deeper value = host.tree value :=
    treeTo_of_whole above whole
  have converts : host.convert value = (host.tree value).convert :=
    funext fun want => congrArg (Tree.convert · want) (same _ (Nat.le_add_right _ _))
  rw [reading, converts, same depth deep]
  rfl

end Host

/-- The position that a key denotes: a whole number. -/
def HostValue.position? : HostValue → Option Int
  | .number x => x.toInt?
  | _ => none

namespace Host

variable {host : Host}

theorem position?_treeTo (depth : Nat) (key : HostValue) :
    (host.treeTo depth key).position? = key.position? := by
  cases key with
  | userdata ref =>
      rw [treeTo]
      split <;> rfl
  | table ref => cases depth <;> rfl
  | _ => simp only [treeTo, Tree.position?, HostValue.position?]

/-- What is known of an entry of a table. -/
def known (host : Host) (item : HostValue × HostValue) : Entry where
  position := item.1.position?
  text := host.keyText item.1
  reading := host.reading item.2

theorem known_seenAlike {depth : Nat} (deep : host.tables.size + 1 ≤ depth)
    (items : List (HostValue × HostValue)) : Reading.SeenAlike items host.known (host.knownTo depth) where
  position item _ := position?_treeTo depth item.1
  text item _ := keyTextTo_eq deep item.1

/-- What is known of the entries of a table whose tree is whole is seen at every depth. -/
theorem known_of_whole {depth : Nat} (deep : host.tables.size + 1 ≤ depth) {ref : TableRef}
    (whole : (host.tree (.table ref)).Whole) :
    (host.tableAt ref).items.map (host.knownTo depth) = (host.tableAt ref).items.map host.known := by
  rw [tree, treeTo, Tree.whole_table] at whole
  apply List.map_congr_left
  intro item member
  have part : (host.tree item.2).Whole := by
    have inner := (List.forall_mem_map.mp whole item member).2
    rwa [tree, treeTo_succ_of_whole inner]
  rw [known, reading_of_whole deep part, ← keyTextTo_eq deep, ← position?_treeTo depth]
  rfl

/-- The reading of a table is put together from the readings of its keys and values, each on its own. -/
theorem reading_table (host : Host) (ref : TableRef) :
    host.reading (.table ref) = .table ((host.tableAt ref).items.map host.known) := by
  have implied : host.implied (.table ref) =
      Reading.impliedObject ((host.tableAt ref).items.map host.known) := by
    rw [← treeTo_implied (Nat.le_succ _), Tree.implied, read_treeTo]
    exact Reading.impliedObject_congr (known_seenAlike le_rfl _) fun _ _ => rfl
  have converts (want : Ty) : host.convert (.table ref) want =
      (Reading.table ((host.tableAt ref).items.map host.known)).convert want := by
    rw [← treeTo_convert (Nat.le_succ _), Tree.convert, read_treeTo]
    rcases Nat.eq_zero_or_pos want.nesting with flat | nested
    · cases found : host.implied (.table ref) with
      | ok ty => rw [known_of_whole (Nat.le_add_right _ _) (Tree.whole_of_implied found)]
      | error fault =>
          by_cases truth : want = .bool
          · rw [truth]
            rfl
          · have settled : (host.treeTo (host.tables.size + 1 + want.nesting + 1) (.table ref)).implied =
                .error fault := (treeTo_implied (by omega) _).trans found
            rw [Tree.implied, read_treeTo] at settled
            rw [Reading.table_convert_of_error settled flat truth,
              Reading.table_convert_of_error (implied.symm.trans found) flat truth]
    · refine Reading.table_convert_congr (known_seenAlike (Nat.le_add_right _ _) _) nested ?_
      exact fun item _ part less => treeTo_convert (by omega) item.2
  rw [reading, implied, funext converts]
  rfl

theorem keyText_of_keyText? {key : HostValue} {text : String} (named : key.keyText? = some text) :
    host.keyText key = .ok text :=
  keyTextTo_of_keyText? host _ named

theorem known_text {item : HostValue × HostValue} {text : String} (named : item.1.keyText? = some text) :
    (host.known item).text = .ok text :=
  keyText_of_keyText? named

end Host

end Crosswalk
