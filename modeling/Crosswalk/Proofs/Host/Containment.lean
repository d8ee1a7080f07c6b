/-
Module: Crosswalk.Proofs.Host.Containment
Purpose: What host values contain. The keys and values of a table stand inside it, and a value is acyclic if
  no table inside it contains itself. The tables on a way into an acyclic value are all different, so no way
  is longer than there are tables, and the tree of the value is whole: it is cut off nowhere, and reaching
  deeper does not change it.
Main exports: Tree.Within, Tree.Whole, Host.Contains, Host.Within, Host.Acyclic, Host.treeTo_of_whole,
  Host.whole_of_acyclic, Host.convert_of_acyclic, Host.tree_table, Host.exists_within_of_treeTo
-/
import Crosswalk.Proofs.Host.Depth
import Mathlib.Data.Finset.Card
import Mathlib.Data.Finset.Range
import Mathlib.Logic.Relation

namespace Crosswalk

/-- A tree stands inside another one, at some depth, or is that one. -/
inductive Tree.Within (inner : Tree) : Tree → Prop
  | here : Within inner inner
  | key {entries : List (Tree × Tree)} {entry : Tree × Tree} (member : entry ∈ entries)
      (further : Within inner entry.1) : Within inner (.table entries)
  | value {entries : List (Tree × Tree)} {entry : Tree × Tree} (member : entry ∈ entries)
      (further : Within inner entry.2) : Within inner (.table entries)

/-- A tree that is cut off nowhere. -/
def Tree.Whole (tree : Tree) : Prop :=
  ¬ Tree.Within .endless tree

theorem Tree.whole_table {entries : List (Tree × Tree)} :
    (Tree.table entries).Whole ↔ ∀ entry ∈ entries, entry.1.Whole ∧ entry.2.Whole := by
  constructor
  · exact fun whole entry member =>
      ⟨fun inside => whole (.key member inside), fun inside => whole (.value member inside)⟩
  · intro parts inside
    cases inside with
    | key member further => exact (parts _ member).1 further
    | value member further => exact (parts _ member).2 further

theorem Tree.kind_of_not_whole {tree : Tree} (cut : ¬ tree.Whole) : tree.kind = .table := by
  cases tree with
  | table | endless => rfl
  | _ => exact absurd nofun cut

/-- What is no table is cut off nowhere. -/
theorem Tree.whole_of_kind {tree : Tree} (leaf : tree.kind ≠ .table) : tree.Whole :=
  not_not.mp (mt Tree.kind_of_not_whole leaf)

namespace Host

/-- A table contains the keys and values of its entries. -/
def Contains (host : Host) (outer inner : HostValue) : Prop :=
  ∃ ref, outer = .table ref ∧
    ∃ entry ∈ (host.tableAt ref).items, inner = entry.1 ∨ inner = entry.2

/-- A value stands inside another one, at some depth, or is that one. -/
def Within (host : Host) (outer inner : HostValue) : Prop :=
  Relation.ReflTransGen host.Contains outer inner

/-- No table inside the value contains itself. -/
def Acyclic (host : Host) (value : HostValue) : Prop :=
  ∀ inner, host.Within value inner → ¬ Relation.TransGen host.Contains inner inner

variable {host : Host}

theorem Acyclic.within {outer inner : HostValue} (acyclic : host.Acyclic outer)
    (inside : host.Within outer inner) : host.Acyclic inner :=
  fun deeper further => acyclic deeper (inside.trans further)

/-- A value is acyclic if everything that it contains is. -/
theorem acyclic_of_contained {value : HostValue}
    (inner : ∀ part, host.Contains value part → host.Acyclic part) : host.Acyclic value := by
  intro deeper inside cycle
  rcases inside.cases_head with rfl | ⟨part, contains, further⟩
  · obtain ⟨part, contains, back⟩ := Relation.TransGen.head'_iff.mp cycle
    exact inner part contains part .refl (.tail' back contains)
  · exact inner part contains deeper further cycle

/-- A value is acyclic if every way into it ends. -/
theorem acyclic_of_acc {value : HostValue} (ends : Acc (fun inner outer => host.Contains outer inner) value) :
    host.Acyclic value := by
  induction ends with
  | intro value _ ih => exact acyclic_of_contained ih

/-- Only tables contain anything. -/
theorem acc_of_leaf {value : HostValue} (leaf : ∀ ref, value ≠ .table ref) :
    Acc (fun inner outer => host.Contains outer inner) value :=
  .intro value fun _ ⟨ref, isTable, _⟩ => absurd isTable (leaf ref)

/-- Nothing else stands inside a value that is no table. -/
theorem eq_of_within {value inner : HostValue} (leaf : ∀ ref, value ≠ .table ref)
    (inside : host.Within value inner) : inner = value := by
  rcases inside.cases_head with same | ⟨_, ⟨ref, isTable, _⟩, _⟩
  · exact same.symm
  · exact absurd isTable (leaf ref)

/-! ### Depth of acyclic values -/

/-- The tables of the host that stand inside a value. -/
noncomputable def tablesWithin (host : Host) (value : HostValue) : Finset Nat := by
  classical exact (Finset.range host.tables.size).filter fun id => host.Within value (.table ⟨id⟩)

theorem mem_tablesWithin {value : HostValue} {id : Nat} :
    id ∈ host.tablesWithin value ↔ id < host.tables.size ∧ host.Within value (.table ⟨id⟩) := by
  simp [tablesWithin]

/-- A table with entries is one of the tables of the host. -/
theorem lt_of_contains {ref : TableRef} {inner : HostValue} (contains : host.Contains (.table ref) inner) :
    ref.id < host.tables.size := by
  obtain ⟨_, ⟨⟩, entry, member, -⟩ := contains
  by_contra outside
  have missing : host.tables[ref.id]? = none := by simpa using outside
  simp [tableAt, missing, HostTable.items, sortBy] at member

/-- Fewer tables stand inside what an acyclic value contains than inside the value. -/
theorem card_tablesWithin_lt {outer inner : HostValue} (acyclic : host.Acyclic outer)
    (contains : host.Contains outer inner) :
    (host.tablesWithin inner).card < (host.tablesWithin outer).card := by
  obtain ⟨ref, rfl, -⟩ := id contains
  apply Finset.card_lt_card
  rw [Finset.ssubset_iff_of_subset]
  · refine ⟨ref.id, mem_tablesWithin.mpr ⟨lt_of_contains contains, .refl⟩, ?_⟩
    intro member
    have back : host.Within inner (.table ref) := (mem_tablesWithin.mp member).2
    exact acyclic _ .refl (.head' contains back)
  · intro id member
    obtain ⟨bound, inside⟩ := mem_tablesWithin.mp member
    exact mem_tablesWithin.mpr ⟨bound, inside.head contains⟩

/-- A whole tree shows all that the value holds: one that reaches a level deeper is the same. -/
theorem treeTo_succ_of_whole {depth : Nat} {value : HostValue} (whole : (host.treeTo depth value).Whole) :
    host.treeTo (depth + 1) value = host.treeTo depth value := by
  induction depth generalizing value with
  | zero =>
      rcases value.leaf_or_table with leaf | ⟨ref, rfl⟩
      · exact treeTo_of_leaf host leaf _ _
      · exact absurd .here whole
  | succ depth ih =>
      rcases value.leaf_or_table with leaf | ⟨ref, rfl⟩
      · exact treeTo_of_leaf host leaf _ _
      · rw [treeTo] at whole
        have parts := List.forall_mem_map.mp (Tree.whole_table.mp whole)
        rw [treeTo, treeTo]
        congr 1
        apply List.map_congr_left
        intro entry member
        exact Prod.ext (ih (parts entry member).1) (ih (parts entry member).2)

theorem treeTo_of_whole {depth deeper : Nat} (le : depth ≤ deeper) {value : HostValue}
    (whole : (host.treeTo depth value).Whole) : host.treeTo deeper value = host.treeTo depth value := by
  induction le with
  | refl => rfl
  | step _ ih => exact (treeTo_succ_of_whole (ih ▸ whole)).trans ih

/-- A tree that reaches deeper than there are tables inside an acyclic value is whole. -/
theorem whole_of_acyclic {depth : Nat} {value : HostValue} (acyclic : host.Acyclic value)
    (deep : (host.tablesWithin value).card < depth) : (host.treeTo depth value).Whole := by
  induction depth generalizing value with
  | zero => omega
  | succ depth ih =>
      cases value with
      | table ref =>
          have inner {part : HostValue} (contains : host.Contains (.table ref) part) :
              (host.treeTo depth part).Whole := by
            apply ih (acyclic.within (.single contains))
            have fewer := card_tablesWithin_lt acyclic contains
            omega
          rw [treeTo, Tree.whole_table]
          refine List.forall_mem_map.mpr fun entry member => ?_
          exact ⟨inner ⟨ref, rfl, entry, member, .inl rfl⟩, inner ⟨ref, rfl, entry, member, .inr rfl⟩⟩
      | userdata ref =>
          rw [treeTo]
          split <;> exact Tree.whole_of_kind (by simp [Tree.kind])
      | _ => exact Tree.whole_of_kind (by simp [treeTo, Tree.kind])

theorem card_tablesWithin_le (host : Host) (value : HostValue) :
    (host.tablesWithin value).card ≤ host.tables.size := by
  have subset : host.tablesWithin value ⊆ Finset.range host.tables.size :=
    fun id member => Finset.mem_range.mpr (mem_tablesWithin.mp member).1
  simpa using Finset.card_le_card subset

/-- The tree of an acyclic value is whole. -/
theorem tree_whole {value : HostValue} (acyclic : host.Acyclic value) : (host.tree value).Whole :=
  whole_of_acyclic acyclic (Nat.lt_succ_of_le (card_tablesWithin_le host value))

/-- An acyclic value converts as its tree does. -/
theorem convert_of_acyclic {value : HostValue} (acyclic : host.Acyclic value) (want : Ty) :
    host.convert value want = (host.tree value).convert want := by
  rw [convert, treeTo_of_whole (Nat.le_add_right _ _) (tree_whole acyclic)]
  rfl

/-- Seen as a part of an acyclic table, a value is seen whole. -/
theorem treeTo_of_contains {ref : TableRef} (acyclic : host.Acyclic (.table ref)) {part : HostValue}
    (contains : host.Contains (.table ref) part) :
    host.treeTo host.tables.size part = host.tree part := by
  have fewer := card_tablesWithin_lt acyclic contains
  have most := card_tablesWithin_le host (.table ref)
  have whole := whole_of_acyclic (acyclic.within (.single contains)) (fewer.trans_le most)
  exact (treeTo_of_whole (Nat.le_succ _) whole).symm

/-- The tree of an acyclic table consists of the trees of its keys and values. -/
theorem tree_table {ref : TableRef} (acyclic : host.Acyclic (.table ref)) :
    host.tree (.table ref) =
      .table ((host.tableAt ref).items.map fun entry => (host.tree entry.1, host.tree entry.2)) := by
  have inner {part : HostValue} (contains : host.Contains (.table ref) part) :=
    treeTo_of_contains acyclic contains
  rw [tree, treeTo]
  congr 1
  apply List.map_congr_left
  rintro ⟨key, part⟩ member
  exact Prod.ext (inner ⟨ref, rfl, _, member, .inl rfl⟩) (inner ⟨ref, rfl, _, member, .inr rfl⟩)

/-! ### What trees hold -/

/-- A tree is that of a table if the value is a table, and its entries are seen to a smaller depth. -/
theorem exists_entry_of_treeTo {depth : Nat} {value : HostValue} {entries : List (Tree × Tree)}
    (isTable : host.treeTo depth value = .table entries) {entry : Tree × Tree} (member : entry ∈ entries) :
    ∃ ref smaller, value = .table ref ∧ ∃ original ∈ (host.tableAt ref).items,
      entry = (host.treeTo smaller original.1, host.treeTo smaller original.2) := by
  cases value with
  | table ref =>
      cases depth with
      | zero => cases isTable
      | succ depth =>
          cases isTable
          obtain ⟨original, inItems, rfl⟩ := List.mem_map.mp member
          exact ⟨ref, depth, rfl, original, inItems, rfl⟩
  | userdata ref =>
      rw [treeTo] at isTable
      split at isTable <;> cases isTable
  | _ => simp only [treeTo, reduceCtorEq] at isTable

/-- What stands inside the tree of a value is the tree of something inside the value. -/
theorem exists_within_of_treeTo {depth : Nat} {value : HostValue} {inner : Tree}
    (inside : inner.Within (host.treeTo depth value)) :
    ∃ object smaller, host.Within value object ∧ host.treeTo smaller object = inner := by
  generalize seen : host.treeTo depth value = tree at inside
  induction inside generalizing depth value with
  | here => exact ⟨value, depth, .refl, seen⟩
  | key member _ ih =>
      obtain ⟨ref, smaller, rfl, original, inItems, rfl⟩ := exists_entry_of_treeTo seen member
      obtain ⟨object, least, further, same⟩ := ih rfl
      exact ⟨object, least, further.head ⟨ref, rfl, original, inItems, .inl rfl⟩, same⟩
  | value member _ ih =>
      obtain ⟨ref, smaller, rfl, original, inItems, rfl⟩ := exists_entry_of_treeTo seen member
      obtain ⟨object, least, further, same⟩ := ih rfl
      exact ⟨object, least, further.head ⟨ref, rfl, original, inItems, .inr rfl⟩, same⟩

end Host

end Crosswalk
