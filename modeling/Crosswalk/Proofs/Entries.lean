/-
Module: Crosswalk.Proofs.Entries
Purpose: Look-ups in lists of keyed entries. What a look-up finds is an entry, an entry of a list whose
  keys are all different is found under its key, and putting entries one after the other keeps keys
  different.
Main exports: mem_of_lookup, lookup_of_mem, lookup_eq_none_of_not_mem, nodup_keys_entriesOf,
  entriesOf_of_nodup
-/
import Crosswalk.Entries
import Mathlib.Data.List.Nodup

namespace Crosswalk

variable {α β : Type} [BEq α] [LawfulBEq α]

/-- What a look-up finds is an entry. -/
theorem mem_of_lookup {entries : List (α × β)} {key : α} {value : β}
    (found : entries.lookup key = some value) : (key, value) ∈ entries := by
  obtain ⟨before, after, rfl, -⟩ := List.lookup_eq_some_iff.mp found
  exact List.mem_append_right before List.mem_cons_self

/-- An entry is found under its key if no other entry has that key. -/
theorem lookup_of_mem {entries : List (α × β)} (nodup : (entries.map Prod.fst).Nodup)
    {key : α} {value : β} (member : (key, value) ∈ entries) :
    entries.lookup key = some value := by
  induction entries with
  | nil => simp at member
  | cons entry rest ih =>
      rw [List.map_cons, List.nodup_cons] at nodup
      rcases List.mem_cons.mp member with rfl | later
      · exact List.lookup_cons_self
      · have different : (key == entry.1) = false := by
          refine beq_false_of_ne fun same => nodup.1 ?_
          exact same ▸ List.mem_map_of_mem later
        rw [List.lookup_cons, different]
        exact ih nodup.2 later

/-- An entry is found with its value changed if all values are. -/
theorem lookup_map_of_mem {γ : Type} {change : β → γ} {entries : List (α × β)}
    (nodup : (entries.map Prod.fst).Nodup) {entry : α × β} (member : entry ∈ entries) :
    (entries.map fun entry => (entry.1, change entry.2)).lookup entry.1 = some (change entry.2) := by
  have keys : (entries.map fun entry => (entry.1, change entry.2)).map Prod.fst =
      entries.map Prod.fst := by rw [List.map_map]; rfl
  apply lookup_of_mem (keys ▸ nodup)
  exact List.mem_map_of_mem (f := fun entry => (entry.1, change entry.2)) member

/-- Nothing is found under a key that no entry has. -/
theorem lookup_eq_none_of_not_mem {entries : List (α × β)} {key : α}
    (absent : key ∉ entries.map Prod.fst) : entries.lookup key = none := by
  rw [List.lookup_eq_none_iff]
  intro entry member
  rw [bne_iff_ne]
  rintro rfl
  exact absent (List.mem_map_of_mem member)

/-- A key under which nothing is found belongs to no entry. -/
theorem not_mem_of_lookup_eq_none {entries : List (α × β)} {key : α}
    (missing : entries.lookup key = none) : key ∉ entries.map Prod.fst := by
  intro member
  obtain ⟨entry, inEntries, rfl⟩ := List.mem_map.mp member
  have different := List.lookup_eq_none_iff.mp missing entry inEntries
  simp at different

/-- The keys after putting an entry: the same ones, and the new key if it was not among them. -/
theorem keys_putEntry (key : α) (value : β) (entries : List (α × β)) :
    (putEntry key value entries).map Prod.fst =
      if key ∈ entries.map Prod.fst then entries.map Prod.fst
      else entries.map Prod.fst ++ [key] := by
  induction entries with
  | nil => simp [putEntry]
  | cons entry rest ih =>
      obtain ⟨k, v⟩ := entry
      by_cases same : k = key
      · simp [putEntry, same]
      · have different : (k == key) = false := beq_false_of_ne same
        simp only [putEntry, different, Bool.false_eq_true, if_false, List.map_cons, ih,
          List.mem_cons, Ne.symm same, false_or]
        split <;> rfl

theorem nodup_keys_putEntry {entries : List (α × β)} (nodup : (entries.map Prod.fst).Nodup)
    (key : α) (value : β) : ((putEntry key value entries).map Prod.fst).Nodup := by
  rw [keys_putEntry]
  split
  · exact nodup
  next absent =>
      refine List.nodup_append.mpr ⟨nodup, List.nodup_singleton key, ?_⟩
      rintro k member _ last rfl
      exact absent (List.mem_singleton.mp last ▸ member)

/-- A new key goes to the end. -/
theorem putEntry_of_not_mem {entries : List (α × β)} {key : α}
    (absent : key ∉ entries.map Prod.fst) (value : β) :
    putEntry key value entries = entries ++ [(key, value)] := by
  induction entries with
  | nil => rfl
  | cons entry rest ih =>
      obtain ⟨k, v⟩ := entry
      rw [List.map_cons, List.mem_cons, not_or] at absent
      have different : (k == key) = false := beq_false_of_ne (Ne.symm absent.1)
      simp [putEntry, different, ih absent.2]

/-- Every entry that remains after putting pairs is one of the pairs. -/
theorem mem_of_mem_putEntry {entries : List (α × β)} {key : α} {value : β} {entry : α × β}
    (member : entry ∈ putEntry key value entries) : entry = (key, value) ∨ entry ∈ entries := by
  induction entries with
  | nil => exact .inl (List.mem_singleton.mp member)
  | cons first rest ih =>
      obtain ⟨k, v⟩ := first
      unfold putEntry at member
      split at member
      next same =>
          rcases List.mem_cons.mp member with rfl | later
          · exact .inl (by rw [beq_iff_eq.mp same])
          · exact .inr (List.mem_cons_of_mem _ later)
      next =>
          rcases List.mem_cons.mp member with rfl | later
          · exact .inr List.mem_cons_self
          · exact (ih later).imp_right (List.mem_cons_of_mem _)

section Fold

variable (pairs entries : List (α × β))

private theorem nodup_keys_foldl (nodup : (entries.map Prod.fst).Nodup) :
    ((pairs.foldl (fun entries pair => putEntry pair.1 pair.2 entries) entries).map
      Prod.fst).Nodup := by
  induction pairs generalizing entries with
  | nil => exact nodup
  | cons pair rest ih => exact ih _ (nodup_keys_putEntry nodup _ _)

private theorem mem_foldl {entry : α × β}
    (member : entry ∈ pairs.foldl (fun entries pair => putEntry pair.1 pair.2 entries) entries) :
    entry ∈ entries ∨ entry ∈ pairs := by
  induction pairs generalizing entries with
  | nil => exact .inl member
  | cons pair rest ih =>
      rcases ih _ member with earlier | later
      · rcases mem_of_mem_putEntry earlier with rfl | before
        · exact .inr List.mem_cons_self
        · exact .inl before
      · exact .inr (List.mem_cons_of_mem _ later)

private theorem foldl_of_nodup (nodup : ((entries ++ pairs).map Prod.fst).Nodup) :
    pairs.foldl (fun entries pair => putEntry pair.1 pair.2 entries) entries = entries ++ pairs := by
  induction pairs generalizing entries with
  | nil => exact (List.append_nil entries).symm
  | cons pair rest ih =>
      have absent : pair.1 ∉ entries.map Prod.fst := by
        rw [List.map_append, List.nodup_append] at nodup
        intro member
        exact nodup.2.2 _ member _ (List.mem_map_of_mem List.mem_cons_self) rfl
      rw [List.foldl_cons, putEntry_of_not_mem absent, ih _ (by simpa using nodup)]
      simp

end Fold

/-- The entries that remain have different keys. -/
theorem nodup_keys_entriesOf (pairs : List (α × β)) : ((entriesOf pairs).map Prod.fst).Nodup :=
  nodup_keys_foldl pairs [] List.nodup_nil

/-- The entries that remain are among the pairs. -/
theorem mem_of_mem_entriesOf {pairs : List (α × β)} {entry : α × β}
    (member : entry ∈ entriesOf pairs) : entry ∈ pairs :=
  (mem_foldl pairs [] member).resolve_left List.not_mem_nil

/-- Pairs with different keys all remain. -/
theorem entriesOf_of_nodup {pairs : List (α × β)} (nodup : (pairs.map Prod.fst).Nodup) :
    entriesOf pairs = pairs :=
  foldl_of_nodup pairs [] nodup

end Crosswalk
