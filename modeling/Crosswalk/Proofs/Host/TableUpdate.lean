/-
Module: Crosswalk.Proofs.Host.TableUpdate
Purpose: What setting a key does to a table. It fails exactly for what cannot be a key, changes what the table
  yields at that key and at no other, and puts a new key behind the others. Each key that is present is listed
  once, and the length is the least position that is not present, unless all positions are; that takes more
  entries than there are whole numbers with a double each.
Main exports: HostTable.set_isOk_iff, HostTable.get_set, HostTable.keys_set, HostTable.countP_keys,
  HostTable.getIndex_length, HostTable.count_of_filled
-/
import Crosswalk.Proofs.Binary64.Overflow
import Crosswalk.Proofs.Host.Reach
import Crosswalk.Proofs.Host.Table

namespace Crosswalk

/-! ### The same key -/

theorem Binary64.exists_rank_of_numericallyEqual {x y : Binary64} (equal : x.numericallyEqual y = true) :
    ∃ rank, x.rank = some rank ∧ y.rank = some rank := by
  unfold numericallyEqual compareBy at equal
  split at equal
  next left right here there => exact ⟨left, here, there.trans (congrArg some (beq_iff_eq.mp equal).symm)⟩
  next => cases equal

theorem Binary64.not_less_of_less {x y : Binary64} (less : x.less y = true) : ¬y.less x = true := by
  unfold Binary64.less compareBy at *
  split at less
  next here there =>
      rw [here, there]
      have := of_decide_eq_true less
      simp
      omega
  next => cases less

/-- Whole numbers of no more bits than a significand are doubles. -/
theorem Binary64.toInt?_ofInt {n : Nat} (small : n ≤ twoPow significandBits) : (ofInt n).toInt? = some (n : Int) := by
  have fits : IsMagnitude (n * one) := by
    refine ⟨?_, Nat.mod_eq_zero_of_dvd (twoPow_spareBits_dvd small _)⟩
    calc n * one ≤ twoPow significandBits * one := Nat.mul_le_mul_right _ small
      _ = twoPow (significandBits + unitExponent) := by rw [one, ← twoPow_add]
      _ < limit := twoPow_lt_twoPow (by decide)
  have nearest := nearest_of_isMagnitude fits
  have positive : decide ((n : Int) < 0) = false := decide_eq_false (by omega)
  have rounded : ofInt n = .finite false (n * one) fits := by
    rw [ofInt, positive, Int.natAbs_natCast, ofUnits, dif_pos (nearest.symm ▸ fits.1)]
    simp only [nearest]
  have unit : 0 < one := twoPow_pos unitExponent
  rw [rounded, toInt?, if_pos (Nat.mul_mod_left _ _), Nat.mul_div_cancel _ unit]
  rfl

namespace HostValue

variable {a b c : HostValue}

theorem same_of_numericallyEqual {x y : Binary64} (equal : x.numericallyEqual y = true) :
    (number x).same (number y) = true :=
  Bool.or_eq_true_iff.mpr (.inr equal)

theorem same_symm (same : a.same b = true) : b.same a = true := by
  rcases same_cases same with rfl | ⟨x, y, rfl, rfl, equal⟩
  · exact same
  · obtain ⟨rank, here, there⟩ := Binary64.exists_rank_of_numericallyEqual equal
    exact same_of_numericallyEqual (Binary64.numericallyEqual_of_rank there here)

theorem same_trans (first : a.same b = true) (second : b.same c = true) : a.same c = true := by
  rcases same_cases first with rfl | ⟨x, y, rfl, rfl, equal⟩
  · exact second
  · rcases same_cases second with rfl | ⟨_, z, sameNumber, rfl, equalNext⟩
    · exact first
    · cases sameNumber
      obtain ⟨rank, here, there⟩ := Binary64.exists_rank_of_numericallyEqual equal
      obtain ⟨_, here', there'⟩ := Binary64.exists_rank_of_numericallyEqual equalNext
      rw [there] at here'
      exact same_of_numericallyEqual (Binary64.numericallyEqual_of_rank here (here' ▸ there'))

/-- A key is told apart from all that are the same by what it is told apart from one of them. -/
theorem same_congr (same : a.same b = true) : a.same c = b.same c :=
  Bool.eq_iff_iff.mpr ⟨same_trans (same_symm same), same_trans same⟩

theorem isNil_iff {value : HostValue} : value.isNil = true ↔ value = .nil := by
  cases value <;> simp [isNil]

end HostValue

namespace HostTable

open HostValue

variable {table made : HostTable} {key value other : HostValue} {entries : List (HostValue × HostValue)}

/-! ### Setting a key -/

theorem exists_set (isKey : IsKey key) (table : HostTable) (value : HostValue) :
    ∃ made, table.set key value = .ok made := by
  cases key with
  | nil => exact absurd rfl isKey.1
  | number x =>
      cases x with
      | nan => cases isKey.2 _ rfl
      | finite | infinity => exact ⟨_, rfl⟩
  | boolean | string | table | function | userdata => exact ⟨_, rfl⟩

/-- A key can be set unless it is nil or not a number. -/
theorem set_isOk_iff : (∃ made, table.set key value = .ok made) ↔ IsKey key :=
  ⟨fun ⟨_, done⟩ => (set_eq_ok done).1, fun isKey => exists_set isKey table value⟩

/-- The value of the first entry with a key. -/
def valueAt? (entries : List (HostValue × HostValue)) (key : HostValue) : Option HostValue :=
  (entries.find? fun entry => entry.1.same key).map Prod.snd

theorem get_eq (table : HostTable) (key : HostValue) : table.get key = (valueAt? table.entries key).getD .nil := by
  unfold get valueAt?
  split
  next found isFound => rw [isFound, Option.map_some, Option.getD_some]
  next none => rw [none, Option.map_none, Option.getD_none]

theorem valueAt?_cons (entry : HostValue × HostValue) :
    valueAt? (entry :: entries) key = if entry.1.same key then some entry.2 else valueAt? entries key := by
  rw [valueAt?, List.find?_cons]
  cases entry.1.same key <;> rfl

theorem valueAt?_put :
    valueAt? (put key value entries) other = if key.same other then some value else valueAt? entries other := by
  induction entries with
  | nil => exact valueAt?_cons (key, value)
  | cons entry rest ih =>
      obtain ⟨k, v⟩ := entry
      rw [put]
      split
      next same =>
          rw [valueAt?_cons, valueAt?_cons, same_congr same]
          split <;> rfl
      next different =>
          rw [valueAt?_cons, valueAt?_cons, ih]
          by_cases here : k.same other = true
          · have apart : key.same other ≠ true := fun same => different (same_trans here (same_symm same))
            rw [if_pos here, if_neg apart, if_pos here]
          · rw [if_neg here, if_neg here]

theorem valueAt?_removed :
    valueAt? (entries.filter fun entry => !entry.1.same key) other =
      if key.same other then none else valueAt? entries other := by
  induction entries with
  | nil => exact (ite_self _).symm
  | cons entry rest ih =>
      by_cases same : entry.1.same key = true
      · rw [List.filter_cons_of_neg (by simp [same]), ih, valueAt?_cons, same_congr same]
        split <;> rfl
      · rw [List.filter_cons_of_pos (by simp [same]), valueAt?_cons, valueAt?_cons, ih]
        by_cases here : entry.1.same other = true
        · have apart : key.same other ≠ true := fun there => same (same_trans here (same_symm there))
          rw [if_pos here, if_neg apart, if_pos here]
        · rw [if_neg here, if_neg here]

/-- A table yields what was set at the key, and at all other keys what it did before. -/
theorem get_set (done : table.set key value = .ok made) (other : HostValue) :
    made.get other = if key.same other then value else table.get other := by
  rw [get_eq, get_eq]
  obtain ⟨-, ⟨rfl, removed⟩ | ⟨-, changed⟩⟩ := set_eq_ok done
  · rw [removed, valueAt?_removed]
    split <;> rfl
  · rw [changed, valueAt?_put]
    split <;> rfl

/-! ### Keys that are present -/

theorem get_of_mem_consistent (consistent : Consistent table.entries) (member : key ∈ table.entries.map Prod.fst) :
    table.get key ≠ .nil := by
  obtain ⟨entry, inEntries, rfl⟩ := List.mem_map.mp member
  unfold get
  split
  next found isFound => exact consistent.values _ (List.mem_map_of_mem (List.mem_of_find?_eq_some isFound))
  next none => exact absurd (same_self entry.1) (List.find?_eq_none.mp none entry inEntries)

/-- Setting a key leaves keys as they are or takes some of them away, or puts one that was not present behind
    them. -/
theorem keys_set (done : table.set key value = .ok made) :
    (made.entries.map Prod.fst).Sublist (table.entries.map Prod.fst) ∨
      (made.entries.map Prod.fst = table.entries.map Prod.fst ++ [key] ∧ table.get key = .nil) := by
  obtain ⟨-, ⟨-, removed⟩ | ⟨-, changed⟩⟩ := set_eq_ok done
  · exact .inl ((removed ▸ List.filter_sublist).map _)
  · have keys := keys_put key value table.entries
    rw [← changed] at keys
    split at keys
    next => exact .inl (keys ▸ List.Sublist.refl _)
    next fresh =>
        refine .inr ⟨keys, ?_⟩
        have nothing : table.entries.find? (fun entry => entry.1.same key) = none :=
          List.find?_eq_none.mpr fun entry member present => fresh (List.any_eq_true.mpr ⟨entry, member, present⟩)
        rw [get, nothing]

/-- Of entries with keys apart one at most has a key, and a key that none has yields nil. -/
theorem countP_valueAt? (consistent : Consistent entries) (key : HostValue) :
    (entries.map Prod.fst).countP (fun listed => listed.same key) =
      if (valueAt? entries key).getD .nil = .nil then 0 else 1 := by
  obtain ⟨apart, -, values⟩ := consistent
  induction entries with
  | nil => rfl
  | cons entry rest ih =>
      obtain ⟨first, apart⟩ := List.pairwise_cons.mp apart
      obtain ⟨notNil, values⟩ := List.forall_mem_cons.mp values
      rw [List.map_cons, valueAt?_cons, List.countP_cons]
      by_cases same : entry.1.same key = true
      · have others : ∀ later ∈ rest.map Prod.fst, ¬later.same key = true := by
          intro later member there
          cases (first later member).symm.trans (same_trans same (same_symm there))
        rw [List.countP_eq_zero.mpr others, if_pos same, if_pos same, Option.getD_some, if_neg notNil]
      · rw [if_neg same, if_neg same]
        exact ih apart values

/-- A key that is present is listed once, and no other is. -/
theorem countP_keys (consistent : Consistent table.entries) (key : HostValue) :
    table.keys.countP (fun listed => listed.same key) = if table.get key = .nil then 0 else 1 := by
  have listed : table.keys.Perm (table.entries.map Prod.fst) :=
    (sortBy_perm (fun (a b : HostValue × HostValue) => keyPrecedes a.1 b.1) table.entries).map Prod.fst
  rw [listed.countP_eq, get_eq, countP_valueAt? consistent]

/-! ### Positions -/

theorem getIndex_firstFree (table : HostTable) (start bound : Nat) :
    start ≤ table.firstFree start bound ∧ table.firstFree start bound ≤ start + bound ∧
      (∀ position, start ≤ position → position < table.firstFree start bound → table.getIndex position ≠ .nil) ∧
      (table.firstFree start bound < start + bound → table.getIndex (table.firstFree start bound) = .nil) := by
  induction bound generalizing start with
  | zero =>
      exact ⟨le_rfl, le_rfl, fun position low high => absurd high (not_lt.mpr low),
        fun less => absurd less (lt_irrefl _)⟩
  | succ bound ih =>
      rw [firstFree]
      split
      next free =>
          exact ⟨le_rfl, by omega, fun position low high => absurd high (not_lt.mpr low),
            fun _ => isNil_iff.mp free⟩
      next taken =>
          obtain ⟨low, high, present, free⟩ := ih (start + 1)
          refine ⟨by omega, by omega, fun position from_ below => ?_, fun less => free (by omega)⟩
          rcases from_.eq_or_lt with rfl | after
          · exact fun missing => taken (isNil_iff.mpr missing)
          · exact present position after below

theorem exists_horizon : ∃ last, horizon = last + 1 :=
  Nat.exists_eq_succ_of_ne_zero (twoPow_pos 1024).ne'

/-- The positions from the last one before the horizon on are the infinite number. -/
theorem ofNat_of_horizon_le {position : Nat} (far : horizon ≤ position + 1) :
    HostValue.ofNat position = .number (.infinity false) := by
  have size : Binary64.limit = horizon * Binary64.one := by
    rw [horizon, Binary64.one, ← twoPow_add]
    rfl
  have small : Binary64.one ≤ twoPow 2044 := twoPow_le_twoPow (by decide)
  have scaled : horizon * Binary64.one ≤ position * Binary64.one + Binary64.one := by
    rw [← Nat.succ_mul]
    exact Nat.mul_le_mul_right _ far
  have beyond : Binary64.overflowThreshold ≤ position * Binary64.one := by
    unfold Binary64.overflowThreshold
    omega
  have positive : decide ((position : Int) < 0) = false := decide_eq_false (by omega)
  rw [HostValue.ofNat, Binary64.ofInt, positive, Int.natAbs_natCast]
  exact congrArg _ (Binary64.ofUnits_of_le _ Nat.one_pos (by rwa [Nat.mul_one]))

/-- The length of a table is the least position that is not present, unless all positions are. -/
theorem getIndex_length (table : HostTable) :
    (∀ position < table.length, table.getIndex position ≠ .nil) ∧
      (table.getIndex table.length = .nil ∨ ∀ position, table.getIndex position ≠ .nil) := by
  obtain ⟨-, bounded, present, free⟩ := getIndex_firstFree table 0 horizon
  refine ⟨fun position => present position (Nat.zero_le position), ?_⟩
  rcases bounded.lt_or_eq with less | all
  · exact .inl (free less)
  · refine .inr fun position => ?_
    rw [Nat.zero_add] at all
    rcases Nat.lt_or_ge position horizon with inside | beyond
    · exact present position (Nat.zero_le position) (inside.trans_eq all.symm)
    · obtain ⟨last, isLast⟩ := exists_horizon
      have there := present last (Nat.zero_le last) (by omega)
      rw [getIndex, ofNat_of_horizon_le (by omega)] at there ⊢
      exact there

/-- Where all positions are present, there are more entries than whole numbers of the bits of a significand. -/
theorem count_of_filled (all : ∀ position, table.getIndex position ≠ .nil) :
    twoPow Binary64.significandBits < table.count := by
  have listed : ((List.range (twoPow Binary64.significandBits + 1)).map Int.ofNat) ⊆
      table.entries.filterMap fun entry => entry.1.position? := by
    intro position member
    obtain ⟨n, inRange, rfl⟩ := List.mem_map.mp member
    obtain ⟨entry, inEntries, same, -⟩ := exists_of_get (all n)
    have whole := Binary64.toInt?_ofInt (Nat.le_of_lt_succ (List.mem_range.mp inRange))
    refine List.mem_filterMap.mpr ⟨entry, inEntries, ?_⟩
    rcases same_cases same with isNumber | ⟨x, y, isNumber, isPosition, equal⟩
    · rw [isNumber]
      exact whole
    · rw [← HostValue.number.inj isPosition] at equal
      rw [isNumber]
      exact (Binary64.toInt?_eq_of_numericallyEqual equal).trans whole
  have distinct : ((List.range (twoPow Binary64.significandBits + 1)).map Int.ofNat).Nodup :=
    List.nodup_range.map fun _ _ same => Int.ofNat.inj same
  have fewer := (distinct.subperm listed).length_le
  rw [List.length_map, List.length_range] at fewer
  exact fewer.trans (List.length_filterMap_le _ _)

end HostTable

end Crosswalk
