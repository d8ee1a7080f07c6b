/-
Module: Crosswalk.Proofs.Host.Filling
Purpose: Conversion does not depend on how tables were filled. Two host values that hold the same, at every
  depth and under every key, are read alike: they convert to the same value of every type or fail in the same
  way, and imply the same type. Their keys have to be numbers, strings and truth values, since those have
  their places in the iteration order whatever the order of insertion was.
Main exports: Host.SameContents, Host.PlainlyFilled, Host.read_eq_of_sameContents,
  Host.convert_eq_of_sameContents
-/
import Crosswalk.Proofs.Host.Containment
import Crosswalk.Proofs.Host.Table

namespace Crosswalk

/-- Numbers, strings and truth values. -/
def HostValue.IsPlain (key : HostValue) : Prop :=
  key.kind = .number ∨ key.kind = .string ∨ key.kind = .boolean

/-- Plain keys that can be set have a text. -/
theorem HostValue.IsPlain.named {key : HostValue} (plain : key.IsPlain) (isKey : HostTable.IsKey key) :
    key.keyText?.isSome = true := by
  cases key with
  | number x => simpa [keyText?] using Binary64.isSome_toDecimal? (isKey.2 x rfl)
  | string | boolean => rfl
  | _ => simp [IsPlain, kind] at plain

namespace Host

variable {host : Host}

/-- Values that hold the same: the same value, tables that hold the same under every key, or userdata of the
    same structural value. -/
inductive SameContents (host : Host) : HostValue → HostValue → Prop
  | same {value other : HostValue} (same : value.same other = true) : SameContents host value other
  | wrapped {value other : HostValue} {held : Value} (left : host.unwrap value = some held)
      (right : host.unwrap other = some held) : SameContents host value other
  | table {ref other : TableRef}
      (values : ∀ key, SameContents host ((host.tableAt ref).get key) ((host.tableAt other).get key)) :
      SameContents host (.table ref) (.table other)

theorem SameContents.eq_nil_iff {value other : HostValue} (same : host.SameContents value other) :
    value = .nil ↔ other = .nil := by
  cases same with
  | same same =>
      rcases HostValue.same_cases same with rfl | ⟨x, y, rfl, rfl, -⟩
      · rfl
      · simp
  | wrapped left right =>
      constructor
      · rintro rfl
        cases left
      · rintro rfl
        cases right
  | table => simp

/-- A value whose tables were filled by setting plain keys, and do not contain themselves. -/
structure PlainlyFilled (host : Host) (value : HostValue) : Prop where
  acyclic : host.Acyclic value
  filled : ∀ ref, host.Within value (.table ref) →
    ∃ calls made, HostTable.filledBy calls = .ok made ∧ (host.tableAt ref).entries = made.entries
  plain : ∀ ref, host.Within value (.table ref) → ∀ entry ∈ (host.tableAt ref).entries, entry.1.IsPlain

namespace PlainlyFilled

theorem within {outer inner : HostValue} (filled : host.PlainlyFilled outer)
    (inside : host.Within outer inner) : host.PlainlyFilled inner where
  acyclic := filled.acyclic.within inside
  filled ref further := filled.filled ref (inside.trans further)
  plain ref further := filled.plain ref (inside.trans further)

theorem consistent {ref : TableRef} (filled : host.PlainlyFilled (.table ref)) :
    HostTable.Consistent (host.tableAt ref).entries := by
  obtain ⟨calls, made, run, same⟩ := filled.filled ref .refl
  exact same ▸ HostTable.filledBy_consistent run

theorem named {ref : TableRef} (filled : host.PlainlyFilled (.table ref)) :
    ∀ entry ∈ (host.tableAt ref).entries, entry.1.keyText?.isSome = true := fun entry member =>
  (filled.plain ref .refl entry member).named (filled.consistent.keys entry.1 (List.mem_map_of_mem member))

/-- A value that is no table has nothing to be filled. -/
theorem ofLeaf {value : HostValue} (leaf : ∀ ref, value ≠ .table ref) : host.PlainlyFilled value where
  acyclic := acyclic_of_acc (acc_of_leaf leaf)
  filled ref inside := absurd (eq_of_within leaf inside).symm (leaf ref)
  plain ref inside := absurd (eq_of_within leaf inside).symm (leaf ref)

theorem leaf_of_plain {key : HostValue} (plain : key.IsPlain) (ref : TableRef) : key ≠ .table ref := by
  rintro rfl
  simp [HostValue.IsPlain, HostValue.kind] at plain

/-- A table is plainly filled if its values are and it was itself filled by setting plain keys. -/
theorem ofTable {ref : TableRef} (calls : List (HostValue × HostValue)) {made : HostTable}
    (run : HostTable.filledBy calls = .ok made) (left : (host.tableAt ref).entries = made.entries)
    (plain : ∀ entry ∈ (host.tableAt ref).entries, entry.1.IsPlain)
    (values : ∀ entry ∈ (host.tableAt ref).entries, host.PlainlyFilled entry.2) :
    host.PlainlyFilled (.table ref) := by
  have inner : ∀ part, host.Contains (.table ref) part → host.PlainlyFilled part := by
    rintro part ⟨_, ⟨⟩, entry, member, isPart⟩
    have inEntries := (sortBy_perm _ _).mem_iff.mp member
    rcases isPart with rfl | rfl
    · exact ofLeaf (leaf_of_plain (plain entry inEntries))
    · exact values entry inEntries
  refine ⟨acyclic_of_contained fun part contains => (inner part contains).acyclic, ?_, ?_⟩
  · intro other inside
    rcases inside.cases_head with ⟨⟨⟩⟩ | ⟨part, contains, further⟩
    · exact ⟨calls, made, run, left⟩
    · exact (inner part contains).filled other further
  · intro other inside
    rcases inside.cases_head with ⟨⟨⟩⟩ | ⟨part, contains, further⟩
    · exact plain
    · exact (inner part contains).plain other further

end PlainlyFilled

/-! ### Reading -/

/-- Numerically equal numbers are read alike. -/
theorem ofNumber_eq_of_numericallyEqual {x y : Binary64} (equal : x.numericallyEqual y = true) :
    Reading.ofNumber x = Reading.ofNumber y := by
  rw [Reading.ofNumber, Reading.ofNumber, Binary64.toDecimal?_eq_of_numericallyEqual equal]

theorem read_eq_of_same {value other : HostValue} (same : value.same other = true) :
    (host.tree value).read = (host.tree other).read := by
  rcases HostValue.same_cases same with rfl | ⟨x, y, rfl, rfl, equal⟩
  · rfl
  · change Reading.scalar .number true .number (Reading.ofNumber x) =
      Reading.scalar .number true .number (Reading.ofNumber y)
    rw [ofNumber_eq_of_numericallyEqual equal]

/-- Keys that are the same denote the same position. -/
theorem position?_eq_of_same {key other : HostValue} (same : key.same other = true) :
    (host.tree key).position? = (host.tree other).position? := by
  rcases HostValue.same_cases same with rfl | ⟨x, y, rfl, rfl, equal⟩
  · rfl
  · exact Binary64.toInt?_eq_of_numericallyEqual equal

/-- Keys that are the same have the same text in a reading. -/
theorem keyText_eq_of_same {key other : HostValue} (named : key.keyText?.isSome = true)
    (same : key.same other = true) :
    (host.tree key).keyText (host.tree key).read = (host.tree other).keyText (host.tree other).read := by
  obtain ⟨text, here⟩ := Option.isSome_iff_exists.mp named
  have there := (HostValue.keyText?_eq_of_same same).symm.trans here
  exact (keyTextTo_of_keyText? host _ here).trans (keyTextTo_of_keyText? host _ there).symm

/-- Values that hold the same are read alike. -/
theorem read_eq_of_sameContents {value other : HostValue} (left : host.PlainlyFilled value)
    (right : host.PlainlyFilled other) (same : host.SameContents value other) :
    (host.tree value).read = (host.tree other).read := by
  induction same with
  | same same => exact read_eq_of_same same
  | wrapped first second => rw [tree_eq_wrapped.mpr first, tree_eq_wrapped.mpr second]
  | @table ref other values ih =>
      have related := HostTable.items_related left.named right.named left.consistent right.consistent
        fun key => (values key).eq_nil_iff
      rw [tree_table left.acyclic, tree_table right.acyclic, Tree.read, Tree.read]
      congr 1
      rw [Tree.readEntries_eq_map, Tree.readEntries_eq_map, List.map_map, List.map_map,
        ← List.forall₂_eq_eq_eq, List.forall₂_map_left_iff, List.forall₂_map_right_iff]
      refine Outcome.forall₂_of_mem₂ related fun entry member found memberOther pair => ?_
      obtain ⟨same, here, there⟩ := pair
      have inside : host.Within (.table ref) entry.2 := .single ⟨ref, rfl, entry, member, .inr rfl⟩
      have insideOther : host.Within (.table other) found.2 :=
        .single ⟨other, rfl, found, memberOther, .inr rfl⟩
      have value := ih entry.1 (here ▸ left.within inside) (there ▸ right.within insideOther)
      rw [← here, ← there] at value
      have named := left.named entry ((sortBy_perm _ _).mem_iff.mp member)
      exact Entry.mk.injEq .. ▸ ⟨position?_eq_of_same same, keyText_eq_of_same named same, value⟩

/-- Conversion does not depend on how tables were filled. Values that hold the same convert to the same
    value of every type, or fail in the same way, and they imply the same type. -/
theorem convert_eq_of_sameContents {value other : HostValue} (left : host.PlainlyFilled value)
    (right : host.PlainlyFilled other) (same : host.SameContents value other) :
    (∀ want, host.convert value want = host.convert other want) ∧
      host.implied value = host.implied other := by
  have read := read_eq_of_sameContents left right same
  refine ⟨fun want => ?_, congrArg Reading.implied read⟩
  rw [convert_of_acyclic left.acyclic, convert_of_acyclic right.acyclic]
  exact congrArg (fun reading : Reading => reading.convert want) read

/-- A host with two tables that hold the same, in tables of their own. The second one was filled in another
    order, and one of its keys was removed again. -/
def filledTwice : Host :=
  { start {} with
    tables := (start {}).tables ++ #[
      { entries := [(.string "a", .boolean false), (.boolean true, .table ⟨4⟩)] },
      { entries := [(.boolean true, .table ⟨5⟩), (.string "a", .boolean false)] },
      { entries := [(.string "x", .boolean true)] },
      { entries := [(.string "x", .boolean true)] }] }

theorem filledTwice_get (key : HostValue) :
    (filledTwice.tableAt ⟨2⟩).get key = (if .string "a" = key then .boolean false
      else if .boolean true = key then .table ⟨4⟩ else .nil) ∧
    (filledTwice.tableAt ⟨3⟩).get key = (if .string "a" = key then .boolean false
      else if .boolean true = key then .table ⟨5⟩ else .nil) := by
  have first : (filledTwice.tableAt ⟨2⟩).entries =
      [(.string "a", .boolean false), (.boolean true, .table ⟨4⟩)] := rfl
  have second : (filledTwice.tableAt ⟨3⟩).entries =
      [(.boolean true, .table ⟨5⟩), (.string "a", .boolean false)] := rfl
  rw [HostTable.get, HostTable.get, first, second]
  by_cases isText : .string "a" = key
  · subst isText
    exact ⟨rfl, rfl⟩
  · by_cases isTrue : .boolean true = key
    · subst isTrue
      exact ⟨rfl, rfl⟩
    · simp [HostValue.same, isText, isTrue]

theorem filledTwice_sameContents : filledTwice.SameContents (.table ⟨2⟩) (.table ⟨3⟩) := by
  refine .table fun key => ?_
  rw [(filledTwice_get key).1, (filledTwice_get key).2]
  split
  · exact .same (HostValue.same_self _)
  · split
    · exact .table fun key => .same (HostValue.same_self _)
    · exact .same (HostValue.same_self _)

theorem filledTwice_plainlyFilled :
    filledTwice.PlainlyFilled (.table ⟨2⟩) ∧ filledTwice.PlainlyFilled (.table ⟨3⟩) := by
  have leaf (flag : Bool) : filledTwice.PlainlyFilled (.boolean flag) := .ofLeaf (by nofun)
  have inner (ref : TableRef) (sole : (filledTwice.tableAt ref).entries = [(.string "x", .boolean true)]) :
      filledTwice.PlainlyFilled (.table ref) := by
    refine .ofTable [(.string "x", .boolean true)] rfl sole ?_ ?_
    · exact sole ▸ List.forall_mem_singleton.mpr (.inr (.inl rfl))
    · exact sole ▸ List.forall_mem_singleton.mpr (leaf true)
  constructor
  · refine .ofTable [(.string "a", .boolean false), (.boolean true, .table ⟨4⟩)] rfl rfl ?_ ?_
    · exact List.forall_mem_cons.mpr ⟨.inr (.inl rfl), List.forall_mem_singleton.mpr (.inr (.inr rfl))⟩
    · exact List.forall_mem_cons.mpr ⟨leaf false, List.forall_mem_singleton.mpr (inner ⟨4⟩ rfl)⟩
  · refine .ofTable [(.string "c", .boolean true), (.boolean true, .table ⟨5⟩), (.string "a", .boolean false),
      (.string "c", .nil)] rfl rfl ?_ ?_
    · exact List.forall_mem_cons.mpr ⟨.inr (.inr rfl), List.forall_mem_singleton.mpr (.inr (.inl rfl))⟩
    · exact List.forall_mem_cons.mpr ⟨inner ⟨5⟩ rfl, List.forall_mem_singleton.mpr (leaf false)⟩

/-- Both tables are read alike: the first key that is no position is the text in both. -/
theorem convert_eq_of_sameContents_filledTwice :
    (filledTwice.tableAt ⟨2⟩).entries ≠ (filledTwice.tableAt ⟨3⟩).entries ∧
      (∀ want, filledTwice.convert (.table ⟨2⟩) want = filledTwice.convert (.table ⟨3⟩) want) ∧
      filledTwice.convert (.table ⟨3⟩) (.list .dynamic) = .error (.conversion [] (.unexpectedKey "a")) := by
  obtain ⟨convert, -⟩ := convert_eq_of_sameContents filledTwice_plainlyFilled.1 filledTwice_plainlyFilled.2
    filledTwice_sameContents
  exact ⟨by decide, convert, (convert (.list .dynamic)).symm.trans rfl⟩

end Host

end Crosswalk
