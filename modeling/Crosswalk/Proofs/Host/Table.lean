/-
Module: Crosswalk.Proofs.Host.Table
Purpose: What a table remembers of how it was filled. Setting keys one after the other leaves every key once,
  and where the keys are numbers, strings and truth values, the iteration order is a linear order of their
  places. So tables that yield the same at every key are iterated in the same order of keys, whatever was
  set, overwritten and removed before.
Main exports: HostTable.filledBy, HostTable.Consistent, HostTable.filledBy_consistent, HostTable.place,
  HostTable.items_related
-/
import Crosswalk.Proofs.Binary64.Whole
import Crosswalk.Proofs.Host.KeyedTable
import Crosswalk.Proofs.Inference
import Crosswalk.Proofs.Sorting
import Mathlib.Data.Prod.Lex
import Mathlib.Data.String.Basic

namespace Crosswalk

namespace HostTable

/-! ### Filling -/

/-- The table that is left when keys are set one after the other, from an empty table on. -/
def filledBy (calls : List (HostValue × HostValue)) : Outcome HostTable :=
  calls.foldlM (fun table call => table.set call.1 call.2) {}

/-- What stands under a key that can be set: not nil, nor a datum that is not a number. -/
def IsKey (key : HostValue) : Prop :=
  key ≠ .nil ∧ ∀ x, key = .number x → x.isNaN = false

/-- Positions are keys. -/
theorem isKey_ofNat (position : Nat) : IsKey (.ofNat position) :=
  ⟨nofun, fun _ same => HostValue.number.inj same ▸ Binary64.isNaN_ofInt position⟩

/-- Entries with a key each, no two of which are the same, and with a value each. -/
structure Consistent (entries : List (HostValue × HostValue)) : Prop where
  apart : (entries.map Prod.fst).Pairwise fun key other => key.same other = false
  keys : ∀ key ∈ entries.map Prod.fst, IsKey key
  values : ∀ value ∈ entries.map Prod.snd, value ≠ .nil

/-- Setting a key removes the entry there, or puts one. -/
theorem set_eq_ok {table made : HostTable} {key value : HostValue}
    (done : table.set key value = .ok made) :
    IsKey key ∧ ((value = .nil ∧ made.entries = table.entries.filter fun entry => !entry.1.same key) ∨
      (value ≠ .nil ∧ made.entries = put key value table.entries)) := by
  unfold set at done
  split at done
  next => cases done
  next => cases done
  next notNil notNaN =>
      refine ⟨⟨notNil, ?_⟩, ?_⟩
      · rintro x rfl
        cases x with
        | nan negative payload => exact absurd rfl (notNaN negative payload)
        | _ => rfl
      · cases Except.ok.inj done
        cases value with
        | nil => exact .inl ⟨rfl, rfl⟩
        | _ => exact .inr ⟨by nofun, rfl⟩

theorem keys_put (key value : HostValue) (entries : List (HostValue × HostValue)) :
    (put key value entries).map Prod.fst =
      if entries.any fun entry => entry.1.same key then entries.map Prod.fst
      else entries.map Prod.fst ++ [key] := by
  induction entries with
  | nil => rfl
  | cons first rest ih =>
      obtain ⟨k, v⟩ := first
      rw [put]
      by_cases same : k.same key = true
      · simp [same]
      · simp only [same, Bool.false_eq_true, if_false, List.map_cons, ih, List.any_cons, Bool.false_or]
        split <;> rfl

theorem mem_values_put {key value found : HostValue} {entries : List (HostValue × HostValue)}
    (member : found ∈ (put key value entries).map Prod.snd) :
    found = value ∨ found ∈ entries.map Prod.snd := by
  induction entries with
  | nil => exact .inl (List.mem_singleton.mp member)
  | cons first rest ih =>
      obtain ⟨k, v⟩ := first
      rw [put] at member
      split at member
      · exact (List.mem_cons.mp member).imp id (List.mem_cons_of_mem _)
      · rcases List.mem_cons.mp member with rfl | later
        · exact .inr List.mem_cons_self
        · exact (ih later).imp id (List.mem_cons_of_mem _)

/-- Setting a key keeps entries consistent. -/
theorem set_consistent {table made : HostTable} {key value : HostValue}
    (before : Consistent table.entries) (done : table.set key value = .ok made) :
    Consistent made.entries := by
  obtain ⟨isKey, ⟨-, removed⟩ | ⟨notNil, changed⟩⟩ := set_eq_ok done
  · have fewer : made.entries.Sublist table.entries := removed ▸ List.filter_sublist
    refine ⟨before.apart.sublist (fewer.map _), ?_, ?_⟩
    · exact fun key member => before.keys key ((fewer.map _).subset member)
    · exact fun value member => before.values value ((fewer.map _).subset member)
  · have keys := keys_put key value table.entries
    rw [← changed] at keys
    have values : ∀ found ∈ made.entries.map Prod.snd, found ≠ .nil := by
      intro found member
      rw [changed] at member
      rcases mem_values_put member with rfl | earlier
      · exact notNil
      · exact before.values found earlier
    split at keys
    · exact ⟨keys ▸ before.apart, keys ▸ before.keys, values⟩
    next fresh =>
        refine ⟨?_, ?_, values⟩
        · rw [keys, List.pairwise_append]
          refine ⟨before.apart, List.pairwise_singleton _ key, fun other member last isLast => ?_⟩
          obtain rfl := List.mem_singleton.mp isLast
          obtain ⟨entry, inEntries, rfl⟩ := List.mem_map.mp member
          simpa using (List.any_eq_false.mp (Bool.eq_false_iff.mpr fresh)) entry inEntries
        · rw [keys]
          intro other member
          rcases List.mem_append.mp member with earlier | last
          · exact before.keys other earlier
          · exact List.mem_singleton.mp last ▸ isKey

/-- Setting further keys keeps entries consistent. -/
theorem foldlM_consistent {calls : List (HostValue × HostValue)} {table made : HostTable}
    (before : Consistent table.entries)
    (filled : calls.foldlM (fun table call => table.set call.1 call.2) table = .ok made) :
    Consistent made.entries := by
  induction calls generalizing table with
  | nil =>
      cases filled
      exact before
  | cons call rest ih =>
      rw [List.foldlM_cons] at filled
      obtain ⟨next, one, later⟩ := Outcome.bind_eq_ok.mp filled
      exact ih (set_consistent before one) later

/-- Whatever is set in whatever order, the entries that are left are consistent. -/
theorem filledBy_consistent {calls : List (HostValue × HostValue)} {made : HostTable}
    (filled : filledBy calls = .ok made) : Consistent made.entries :=
  foldlM_consistent ⟨.nil, List.forall_mem_nil _, List.forall_mem_nil _⟩ filled

/-! ### Places of keys -/

/-- The place of a key in the iteration order: its group, and within that its number or text. References
    share one place. -/
def place : HostValue → ℕ ×ₗ ℤ ×ₗ String
  | .number x => toLex (0, toLex (x.rank.getD 0, ""))
  | .string text => toLex (1, toLex (0, text))
  | .boolean flag => toLex (2, toLex (if flag then 1 else 0, ""))
  | _ => toLex (3, toLex (0, ""))

/-- A key with a text is one that can be set. -/
theorem isKey_of_named {key : HostValue} (named : key.keyText?.isSome = true) : IsKey key := by
  refine ⟨?_, ?_⟩
  · rintro rfl
    cases named
  · rintro (_ | _ | _) rfl
    · rfl
    · rfl
    · cases named

/-- A number that is a key has a place in the numerical order. -/
theorem exists_rank {x : Binary64} (isKey : IsKey (.number x)) : ∃ rank, x.rank = some rank := by
  cases x with
  | finite negative units => exact ⟨_, rfl⟩
  | infinity negative => exact ⟨_, rfl⟩
  | nan => cases isKey.2 _ rfl

section Places

variable {key other : HostValue} (named : key.keyText?.isSome = true)
  (namedOther : other.keyText?.isSome = true)
include named namedOther

/-- Numbers, strings and truth values are the same key if they have the same place. -/
theorem same_iff_place : key.same other = true ↔ place key = place other := by
  cases key with
  | number x =>
      obtain ⟨rank, found⟩ := exists_rank (isKey_of_named named)
      cases other with
      | number y =>
          obtain ⟨rankOther, foundOther⟩ := exists_rank (isKey_of_named namedOther)
          have equal : x.numericallyEqual y = true ↔ rank = rankOther := by
            simp [Binary64.numericallyEqual, Binary64.compareBy, found, foundOther]
          have ofEq : x = y → rank = rankOther := by
            rintro rfl
            exact Option.some.inj (found.symm.trans foundOther)
          simp [HostValue.same, place, found, foundOther, equal, or_iff_right_of_imp ofEq]
      | string | boolean => simp [HostValue.same, place]
      | _ => cases namedOther
  | string text =>
      cases other with
      | number | string | boolean => simp [HostValue.same, place]
      | _ => cases namedOther
  | boolean flag =>
      cases other with
      | number | string => simp [HostValue.same, place]
      | boolean another => cases flag <;> cases another <;> simp [HostValue.same, place]
      | _ => cases namedOther
  | _ => cases named

end Places

/-- Keys precede each other as their places do. -/
theorem keyPrecedes_iff_place {key other : HostValue} (isKey : IsKey key) (isKeyOther : IsKey other) :
    keyPrecedes key other = true ↔ place key ≤ place other := by
  cases key with
  | nil => exact absurd rfl isKey.1
  | number x =>
      obtain ⟨rank, found⟩ := exists_rank isKey
      cases other with
      | nil => exact absurd rfl isKeyOther.1
      | number y =>
          obtain ⟨rankOther, foundOther⟩ := exists_rank isKeyOther
          simpa [keyPrecedes, place, Binary64.lessOrEqual, Binary64.compareBy, found, foundOther,
            Prod.Lex.toLex_le_toLex] using le_iff_lt_or_eq
      | string | boolean | table | function | userdata =>
          simp [keyPrecedes, group, place, Prod.Lex.toLex_le_toLex]
  | string text =>
      cases other with
      | nil => exact absurd rfl isKeyOther.1
      | string another => simp [keyPrecedes, textPrecedes, place, Prod.Lex.toLex_le_toLex]
      | number | boolean | table | function | userdata =>
          simp [keyPrecedes, group, place, Prod.Lex.toLex_le_toLex]
  | boolean flag =>
      cases other with
      | nil => exact absurd rfl isKeyOther.1
      | boolean another =>
          cases flag <;> cases another <;> simp [keyPrecedes, place, Prod.Lex.toLex_le_toLex]
      | number | string | table | function | userdata =>
          simp [keyPrecedes, group, place, Prod.Lex.toLex_le_toLex]
  | table | function | userdata =>
      cases other with
      | nil => exact absurd rfl isKeyOther.1
      | _ => simp [keyPrecedes, group, place, Prod.Lex.toLex_le_toLex]

/-! ### Iteration -/

/-- The entries are iterated in the order of the places of their keys. -/
theorem items_ordered {table : HostTable} (keys : ∀ entry ∈ table.entries, IsKey entry.1) :
    (table.items.map fun entry => place entry.1).Pairwise (· ≤ ·) := by
  have byPlace : table.items = sortBy (fun a b => decide (place a.1 ≤ place b.1)) table.entries := by
    refine sortBy_congr fun a first b second => Bool.eq_iff_iff.mpr ?_
    rw [keyPrecedes_iff_place (keys a first) (keys b second), decide_eq_true_iff]
  rw [byPlace, List.pairwise_map]
  refine (pairwise_sortBy (fun a b => ?_) (fun a b c => ?_) table.entries).imp of_decide_eq_true
  · simpa using le_total (place a.1) (place b.1)
  · simpa using le_trans

section Iteration

variable {table : HostTable} (named : ∀ entry ∈ table.entries, entry.1.keyText?.isSome = true)
include named

variable (consistent : Consistent table.entries)
include consistent

/-- No two keys have the same place. -/
theorem places_nodup : (table.entries.map fun entry => place entry.1).Nodup := by
  refine List.pairwise_map.mpr ((List.pairwise_map.mp consistent.apart).imp_of_mem ?_)
  intro a b first second different same
  rw [← same_iff_place (named a first) (named b second)] at same
  cases different.symm.trans same

/-- A table yields the value of an entry at every key that has its place. -/
theorem get_of_place {key : HostValue} (namedKey : key.keyText?.isSome = true)
    {entry : HostValue × HostValue} (member : entry ∈ table.entries) (same : place entry.1 = place key) :
    table.get key = entry.2 := by
  unfold get
  split
  next found isFound =>
      have inEntries := List.mem_of_find?_eq_some isFound
      have isKey : found.1.same key = true := by simpa using List.find?_some isFound
      have here := (same_iff_place (named found inEntries) namedKey).mp isKey
      rw [List.inj_on_of_nodup_map (places_nodup named consistent) inEntries member (here.trans same.symm)]
  next none =>
      have different := List.find?_eq_none.mp none entry member
      exact absurd ((same_iff_place (named entry member) namedKey).mpr same) different

end Iteration

/-- What a table yields other than nil is the value of an entry. -/
theorem exists_of_get {table : HostTable} {key : HostValue} (present : table.get key ≠ .nil) :
    ∃ entry ∈ table.entries, entry.1.same key = true ∧ table.get key = entry.2 := by
  unfold get at present ⊢
  split
  next found isFound =>
      have same : found.1.same key = true := by simpa using List.find?_some isFound
      exact ⟨found, List.mem_of_find?_eq_some isFound, same, rfl⟩
  next none =>
      rw [none] at present
      exact absurd rfl present

section Two

variable {table other : HostTable} (named : ∀ entry ∈ table.entries, entry.1.keyText?.isSome = true)
  (namedOther : ∀ entry ∈ other.entries, entry.1.keyText?.isSome = true)
  (consistent : Consistent table.entries) (consistentOther : Consistent other.entries)
  (absent : ∀ key, table.get key = .nil ↔ other.get key = .nil)

include named namedOther consistent absent in
/-- An entry of one table has its place in another one that yields nil at no other keys. -/
theorem mem_places {entry : HostValue × HostValue} (member : entry ∈ table.entries) :
    place entry.1 ∈ other.entries.map fun entry => place entry.1 := by
  have here := get_of_place named consistent (named entry member) member rfl
  have present : table.get entry.1 ≠ .nil :=
    here ▸ consistent.values entry.2 (List.mem_map_of_mem member)
  obtain ⟨found, inOther, same, -⟩ := exists_of_get fun missing => present ((absent entry.1).mpr missing)
  rw [← (same_iff_place (namedOther found inOther) (named entry member)).mp same]
  exact List.mem_map_of_mem inOther

include named namedOther consistent consistentOther absent in
/-- Tables that yield nil at the same keys are iterated in the same order: their keys have the same places
    one by one, and their values are what both tables yield at these keys. -/
theorem items_related : List.Forall₂ (fun entry found => entry.1.same found.1 = true ∧
    entry.2 = table.get entry.1 ∧ found.2 = other.get entry.1) table.items other.items := by
  have perm := sortBy_perm (fun a b => keyPrecedes a.1 b.1) table.entries
  have permOther := sortBy_perm (fun a b => keyPrecedes a.1 b.1) other.entries
  have places : (table.items.map fun entry => place entry.1).Perm
      (other.items.map fun entry => place entry.1) := by
    refine (perm.map _).trans (.trans ?_ (permOther.map _).symm)
    apply (List.perm_ext_iff_of_nodup (places_nodup named consistent)
      (places_nodup namedOther consistentOther)).mpr
    intro position
    constructor
    · rintro member
      obtain ⟨entry, inEntries, rfl⟩ := List.mem_map.mp member
      exact mem_places named namedOther consistent absent inEntries
    · rintro member
      obtain ⟨entry, inEntries, rfl⟩ := List.mem_map.mp member
      exact mem_places namedOther named consistentOther (fun key => (absent key).symm) inEntries
  have aligned := places.eq_of_pairwise (fun _ _ _ _ => le_antisymm)
    (items_ordered fun entry member => isKey_of_named (named entry member))
    (items_ordered fun entry member => isKey_of_named (namedOther entry member))
  rw [← List.forall₂_eq_eq_eq, List.forall₂_map_left_iff, List.forall₂_map_right_iff] at aligned
  refine Outcome.forall₂_of_mem₂ aligned fun entry member found memberOther same => ?_
  have inEntries := perm.mem_iff.mp member
  have inOther := permOther.mem_iff.mp memberOther
  have namedEntry := named entry inEntries
  refine ⟨(same_iff_place namedEntry (namedOther found inOther)).mpr same, ?_, ?_⟩
  · exact (get_of_place named consistent namedEntry inEntries rfl).symm
  · exact (get_of_place namedOther consistentOther namedEntry inOther same.symm).symm

end Two

end HostTable

end Crosswalk
