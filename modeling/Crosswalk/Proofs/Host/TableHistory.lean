/-
Module: Crosswalk.Proofs.Host.TableHistory
Purpose: Tables over every history of calls that set keys and append values. A table yields at each key what was
  written there last, holds nothing else, lists its keys in an order that numbers, texts and truth values
  determine and that is the order of insertion for references, and appends at the least position that is not
  present. One call preserves this, so all calls do.
Main exports: HostTable.Call, HostTable.after, HostTable.Writes, HostTable.InsertedAt, HostTable.KeyBefore,
  HostTable.after_represents
-/
import Crosswalk.Proofs.Host.Filling
import Crosswalk.Proofs.Host.TableUpdate

namespace Crosswalk

namespace HostTable

/-! ### Calls -/

/-- A call that changes a table. -/
inductive Call where
  /-- Sets a key; nil removes it. -/
  | set (key value : HostValue)
  /-- Sets a text key. -/
  | setField (name : String) (value : HostValue)
  /-- Sets the first free position. -/
  | append (value : HostValue)

/-- What a call does to a table. -/
def perform (table : HostTable) : Call → Outcome HostTable
  | .set key value => table.set key value
  | .setField name value => table.set (.string name) value
  | .append value => table.append value

/-- The table after a call; one that fails changes nothing. -/
def step (table : HostTable) (call : Call) : HostTable :=
  match table.perform call with
  | .ok made => made
  | .error _ => table

/-- The table after a history of calls, from an empty table on. -/
def after (calls : List Call) : HostTable :=
  calls.foldl step {}

/-- The key that a call sets. -/
def Call.key (table : HostTable) : Call → HostValue
  | .set key _ => key
  | .setField name _ => .string name
  | .append _ => HostValue.ofNat table.length

/-- The value that a call sets. -/
def Call.value : Call → HostValue
  | .set _ value | .setField _ value | .append value => value

/-- A call sets a key, and does not fail. -/
def Call.WritesTo (call : Call) (table : HostTable) (key : HostValue) : Prop :=
  IsKey (call.key table) ∧ (call.key table).same key = true

/-- The call at an index of a history sets a key to a value. -/
def Writes (calls : List Call) (index : Nat) (key value : HostValue) : Prop :=
  ∃ call, calls[index]? = some call ∧ call.WritesTo (after (calls.take index)) key ∧ call.value = value

/-- The call at an index is the last one that put a key that was absent: the key has been present since. -/
structure InsertedAt (calls : List Call) (key : HostValue) (index : Nat) : Prop where
  inside : index < calls.length
  absent : (after (calls.take index)).get key = .nil
  lasts (later : Nat) (above : index < later) (within : later ≤ calls.length) :
    (after (calls.take later)).get key ≠ .nil

/-- Tables, functions and userdata are keys by reference. -/
def IsReference (key : HostValue) : Prop :=
  key.kind = .table ∨ key.kind = .function ∨ key.kind = .userdata

/-- The order in which a table with a history lists its keys: numbers, then texts, then truth values, then
    references, which follow each other as they were inserted. -/
inductive KeyBefore (calls : List Call) : HostValue → HostValue → Prop
  | groups {key other : HostValue} (less : group key < group other) : KeyBefore calls key other
  | numbers {x y : Binary64} (less : x.less y = true) : KeyBefore calls (.number x) (.number y)
  | strings {text other : String} (less : text < other) : KeyBefore calls (.string text) (.string other)
  | booleans : KeyBefore calls (.boolean false) (.boolean true)
  | references {key other : HostValue} {first second : Nat} (reference : IsReference key)
      (referenceOther : IsReference other) (inserted : InsertedAt calls key first)
      (insertedOther : InsertedAt calls other second) (earlier : first < second) : KeyBefore calls key other

variable {table made : HostTable} {call : Call} {calls : List Call} {key value : HostValue} {index : Nat}

/-! ### One call -/

theorem perform_eq (table : HostTable) (call : Call) : table.perform call = table.set (call.key table) call.value := by
  cases call <;> rfl

/-- A call fails exactly if its key is nil or not a number. -/
theorem perform_isOk_iff : (∃ made, table.perform call = .ok made) ↔ IsKey (call.key table) := by
  rw [perform_eq]
  exact set_isOk_iff

theorem step_cases (table : HostTable) (call : Call) :
    (IsKey (call.key table) ∧ table.set (call.key table) call.value = .ok (table.step call)) ∨
      (¬IsKey (call.key table) ∧ table.step call = table) := by
  unfold step
  split
  next made done => exact .inl ⟨perform_isOk_iff.mp ⟨made, done⟩, (perform_eq table call).symm.trans done⟩
  next fault failed =>
      refine .inr ⟨fun isKey => ?_, rfl⟩
      obtain ⟨made, done⟩ := perform_isOk_iff.mpr isKey
      cases failed.symm.trans done

theorem get_step_of_writesTo (writes : call.WritesTo table key) : (table.step call).get key = call.value := by
  rcases step_cases table call with ⟨-, done⟩ | ⟨failed, -⟩
  · rw [get_set done, if_pos writes.2]
  · exact absurd writes.1 failed

theorem get_step_of_not_writesTo (other : ¬call.WritesTo table key) :
    (table.step call).get key = table.get key := by
  rcases step_cases table call with ⟨isKey, done⟩ | ⟨-, same⟩
  · rw [get_set done, if_neg fun same => other ⟨isKey, same⟩]
  · rw [same]

theorem consistent_step (before : Consistent table.entries) (call : Call) :
    Consistent (table.step call).entries := by
  rcases step_cases table call with ⟨-, done⟩ | ⟨-, same⟩
  · exact set_consistent before done
  · rwa [same]

theorem keys_step (table : HostTable) (call : Call) :
    ((table.step call).entries.map Prod.fst).Sublist (table.entries.map Prod.fst) ∨
      ((table.step call).entries.map Prod.fst = table.entries.map Prod.fst ++ [call.key table] ∧
        table.get (call.key table) = .nil) := by
  rcases step_cases table call with ⟨-, done⟩ | ⟨-, same⟩
  · exact keys_set done
  · rw [same]
    exact .inl (List.Sublist.refl _)

/-! ### Histories -/

theorem after_append (calls : List Call) (call : Call) : after (calls ++ [call]) = (after calls).step call := by
  rw [after, List.foldl_append]
  rfl

theorem consistent_after (calls : List Call) : Consistent (after calls).entries := by
  induction calls using List.reverseRecOn with
  | nil => exact ⟨.nil, List.forall_mem_nil _, List.forall_mem_nil _⟩
  | append_singleton calls call ih =>
      rw [after_append]
      exact consistent_step ih call

theorem count_after_le (calls : List Call) : (after calls).count ≤ calls.length := by
  induction calls using List.reverseRecOn with
  | nil => exact le_rfl
  | append_singleton calls call ih =>
      rw [after_append, List.length_append, List.length_singleton]
      have size (table : HostTable) : table.count = (table.entries.map Prod.fst).length := (List.length_map _).symm
      rw [size] at ih ⊢
      rcases keys_step (after calls) call with fewer | ⟨more, -⟩
      · exact fewer.length_le.trans (ih.trans (Nat.le_succ _))
      · rw [more, List.length_append, List.length_singleton]
        exact Nat.succ_le_succ ih

/-! ### The last value written -/

theorem writes_append : Writes (calls ++ [call]) index key value ↔
    Writes calls index key value ∨ (index = calls.length ∧ call.WritesTo (after calls) key ∧ call.value = value) := by
  rcases Nat.lt_trichotomy index calls.length with inside | rfl | beyond
  · rw [Writes, Writes, List.getElem?_append_left inside, List.take_append_of_le_length inside.le]
    exact (or_iff_left fun last => absurd last.1 inside.ne).symm
  · have nothing : ¬Writes calls calls.length key value := by
      rintro ⟨_, found, -⟩
      simp at found
    rw [or_iff_right nothing, Writes, List.take_left]
    simp
  · refine iff_of_false ?_ ?_
    · rintro ⟨_, found, -⟩
      rw [List.getElem?_eq_none (by simp; omega)] at found
      cases found
    · rintro (⟨_, found, -⟩ | ⟨rfl, -⟩)
      · rw [List.getElem?_eq_none (by omega)] at found
        cases found
      · exact lt_irrefl _ beyond

/-- A table yields what was written last at a key, or nil if nothing was. -/
theorem get_after (calls : List Call) (key : HostValue) :
    (∃ index value, Writes calls index key value ∧ (∀ later other, index < later → ¬Writes calls later key other) ∧
      (after calls).get key = value) ∨
    ((∀ index value, ¬Writes calls index key value) ∧ (after calls).get key = .nil) := by
  induction calls using List.reverseRecOn with
  | nil =>
      refine .inr ⟨?_, rfl⟩
      rintro index value ⟨_, found, -⟩
      cases found
  | append_singleton calls call ih =>
      rw [after_append]
      by_cases writes : call.WritesTo (after calls) key
      · refine .inl ⟨calls.length, call.value, writes_append.mpr (.inr ⟨rfl, writes, rfl⟩), ?_,
          get_step_of_writesTo writes⟩
        rintro later other above (⟨_, found, -⟩)
        rw [List.getElem?_eq_none (by simp; omega)] at found
        cases found
      · have same (index : Nat) (value : HostValue) :
            Writes (calls ++ [call]) index key value ↔ Writes calls index key value :=
          writes_append.trans (or_iff_left fun last => writes last.2.1)
        simp only [same, get_step_of_not_writesTo writes]
        exact ih

/-! ### The order of insertion -/

theorem InsertedAt.append (inserted : InsertedAt calls key index) (kept : (after (calls ++ [call])).get key ≠ .nil) :
    InsertedAt (calls ++ [call]) key index := by
  have inside := inserted.inside
  refine ⟨by simp; omega, ?_, fun later above within => ?_⟩
  · rw [List.take_append_of_le_length inside.le]
    exact inserted.absent
  · rcases Nat.lt_or_ge calls.length later with last | earlier
    · rwa [List.take_of_length_le (by simp; omega)]
    · rw [List.take_append_of_le_length earlier]
      exact inserted.lasts later above earlier

theorem insertedAt_length (absent : (after calls).get key = .nil) (put : (after (calls ++ [call])).get key ≠ .nil) :
    InsertedAt (calls ++ [call]) key calls.length := by
  refine ⟨by simp, ?_, fun later above within => ?_⟩
  · rwa [List.take_left]
  · rwa [List.take_of_length_le (by simp; omega)]

/-- A key was inserted before another one. -/
def InsertedBefore (calls : List Call) (key other : HostValue) : Prop :=
  ∃ first second, InsertedAt calls key first ∧ InsertedAt calls other second ∧ first < second

theorem InsertedBefore.append {other : HostValue} (before : InsertedBefore calls key other)
    (kept : (after (calls ++ [call])).get key ≠ .nil) (keptOther : (after (calls ++ [call])).get other ≠ .nil) :
    InsertedBefore (calls ++ [call]) key other := by
  obtain ⟨first, second, here, there, less⟩ := before
  exact ⟨first, second, here.append kept, there.append keptOther, less⟩

/-- The entries of a table stand in the order in which their keys were inserted. -/
theorem entries_inserted (calls : List Call) :
    (∀ key ∈ (after calls).entries.map Prod.fst, ∃ index, InsertedAt calls key index) ∧
      ((after calls).entries.map Prod.fst).Pairwise (InsertedBefore calls) := by
  induction calls using List.reverseRecOn with
  | nil => exact ⟨List.forall_mem_nil _, .nil⟩
  | append_singleton calls call ih =>
      obtain ⟨inserted, ordered⟩ := ih
      have kept {key : HostValue} (member : key ∈ (after (calls ++ [call])).entries.map Prod.fst) :
          (after (calls ++ [call])).get key ≠ .nil :=
        get_of_mem_consistent (consistent_after (calls ++ [call])) member
      -- keys that were there before and still are keep their calls, and with them their order
      have remain {keys : List HostValue} (fewer : keys.Sublist ((after calls).entries.map Prod.fst))
          (still : keys ⊆ (after (calls ++ [call])).entries.map Prod.fst) :
          (∀ key ∈ keys, ∃ index, InsertedAt (calls ++ [call]) key index) ∧
            keys.Pairwise (InsertedBefore (calls ++ [call])) := by
        refine ⟨fun key member => ?_, (ordered.sublist fewer).imp_of_mem fun member memberOther before => ?_⟩
        · obtain ⟨index, here⟩ := inserted key (fewer.subset member)
          exact ⟨index, here.append (kept (still member))⟩
        · exact before.append (kept (still member)) (kept (still memberOther))
      rcases keys_step (after calls) call with fewer | ⟨more, absent⟩
      · rw [← after_append] at fewer
        exact remain fewer (List.Subset.refl _)
      · rw [← after_append] at more
        have still : (after calls).entries.map Prod.fst ⊆ (after (calls ++ [call])).entries.map Prod.fst :=
          more ▸ List.subset_append_left _ _
        have newest : InsertedAt (calls ++ [call]) (call.key (after calls)) calls.length :=
          insertedAt_length absent (kept (more ▸ List.mem_append_right _ List.mem_cons_self))
        obtain ⟨all, before⟩ := remain (List.Sublist.refl _) still
        rw [more]
        refine ⟨fun key member => ?_, List.pairwise_append.mpr
          ⟨before, List.pairwise_singleton _ _, fun key member last isLast => ?_⟩⟩
        · rcases List.mem_append.mp member with earlier | last
          · exact all key earlier
          · exact List.mem_singleton.mp last ▸ ⟨_, newest⟩
        · obtain ⟨index, here⟩ := inserted key member
          exact ⟨index, calls.length, here.append (kept (still member)), List.mem_singleton.mp isLast ▸ newest,
            here.inside⟩

/-- A key was inserted last by one call. -/
theorem InsertedAt.unique {first second : Nat} (inserted : InsertedAt calls key first)
    (insertedToo : InsertedAt calls key second) : first = second := by
  rcases Nat.lt_trichotomy first second with before | same | behind
  · exact absurd insertedToo.absent (inserted.lasts second before insertedToo.inside.le)
  · exact same
  · exact absurd inserted.absent (insertedToo.lasts first behind inserted.inside.le)

/-! ### The order of keys -/

theorem IsReference.group_eq (reference : IsReference key) : group key = 3 := by
  cases key <;> simp_all [IsReference, HostValue.kind, group]

/-- No two keys are listed before each other. -/
theorem KeyBefore.asymm {other : HostValue} (before : KeyBefore calls key other) : ¬KeyBefore calls other key := by
  intro behind
  cases before with
  | groups less =>
      cases behind with
      | groups greater => exact less.asymm greater
      | numbers | strings | booleans => exact lt_irrefl _ less
      | references reference referenceOther =>
          rw [reference.group_eq, referenceOther.group_eq] at less
          exact lt_irrefl _ less
  | numbers less =>
      cases behind with
      | groups greater => exact lt_irrefl _ greater
      | numbers greater => exact Binary64.not_less_of_less less greater
      | references reference => cases reference.group_eq
  | strings less =>
      cases behind with
      | groups greater => exact lt_irrefl _ greater
      | strings greater => exact less.asymm greater
      | references reference => cases reference.group_eq
  | booleans =>
      cases behind with
      | groups greater => exact lt_irrefl _ greater
      | references reference => cases reference.group_eq
  | references reference referenceOther inserted insertedOther earlier =>
      cases behind with
      | groups greater =>
          rw [reference.group_eq, referenceOther.group_eq] at greater
          exact lt_irrefl _ greater
      | numbers | strings | booleans => cases reference.group_eq
      | references _ _ insertedOther' inserted' later =>
          rw [inserted.unique inserted', insertedOther.unique insertedOther'] at earlier
          exact earlier.asymm later

theorem group_eq_place (key : HostValue) : (ofLex (place key)).1 = group key := by
  cases key <;> rfl

section Order

variable {other : HostValue} (isKey : IsKey key) (isKeyOther : IsKey other)
include isKey isKeyOther

/-- A key with a lesser place is listed before one with a greater place. -/
theorem keyBefore_of_place (less : place key < place other) : KeyBefore calls key other := by
  rcases Prod.Lex.lt_iff.mp less with lower | ⟨same, inside⟩
  · rw [group_eq_place, group_eq_place] at lower
    exact .groups lower
  · rw [group_eq_place, group_eq_place] at same
    cases key with
    | nil => exact absurd rfl isKey.1
    | number x =>
        cases other with
        | number y =>
            obtain ⟨rank, found⟩ := exists_rank isKey
            obtain ⟨rankOther, foundOther⟩ := exists_rank isKeyOther
            refine .numbers ?_
            simpa [place, found, foundOther, Prod.Lex.toLex_lt_toLex, Binary64.less, Binary64.compareBy] using inside
        | _ => cases same
    | string text =>
        cases other with
        | string another => exact .strings (by simpa [place, Prod.Lex.toLex_lt_toLex] using inside)
        | _ => cases same
    | boolean flag =>
        cases other with
        | boolean another =>
            cases flag <;> cases another <;> simp [place, Prod.Lex.toLex_lt_toLex] at inside
            exact .booleans
        | _ => cases same
    | table | function | userdata =>
        cases other with
        | table | function | userdata => exact absurd inside (lt_irrefl _)
        | nil => exact absurd rfl isKeyOther.1
        | _ => cases same

/-- Different keys with one place are references. -/
theorem isReference_of_place (different : key.same other = false) (same : place key = place other) :
    IsReference key ∧ IsReference other := by
  have last {key : HostValue} (isKey : IsKey key) : IsReference key ↔ group key = 3 := by
    cases key with
    | nil => exact absurd rfl isKey.1
    | _ => simp [IsReference, HostValue.kind, group]
  have plain {key : HostValue} (isKey : IsKey key) (noReference : ¬IsReference key) : key.keyText?.isSome = true := by
    refine HostValue.IsPlain.named ?_ isKey
    cases key with
    | nil => exact absurd rfl isKey.1
    | number | string | boolean => simp [HostValue.IsPlain, HostValue.kind]
    | table | function | userdata => simp [IsReference, HostValue.kind] at noReference
  have both : IsReference key ↔ IsReference other := by
    rw [last isKey, last isKeyOther, ← group_eq_place, ← group_eq_place, same]
  by_cases reference : IsReference key
  · exact ⟨reference, both.mp reference⟩
  · have identified := (same_iff_place (plain isKey reference) (plain isKeyOther (mt both.mpr reference))).mpr same
    cases different.symm.trans identified

end Order

/-- The keys of a table are listed in the order that its history determines. -/
theorem keys_ordered (calls : List Call) : (after calls).keys.Pairwise (KeyBefore calls) := by
  have consistent := consistent_after calls
  have isKey : ∀ entry ∈ (after calls).entries, IsKey entry.1 :=
    fun entry member => consistent.keys entry.1 (List.mem_map_of_mem member)
  have perm : (after calls).items.Perm (after calls).entries := sortBy_perm _ _
  have byPlace := List.pairwise_map.mp (items_ordered isKey)
  have stable := sortBy_stable (fun a b : HostValue × HostValue => keyPrecedes a.1 b.1)
    (List.pairwise_map.mp (entries_inserted calls).2)
  have apart : (after calls).items.Pairwise fun a b => a.1.same b.1 = false := by
    refine (perm.pairwise_iff fun different => ?_).mpr (List.pairwise_map.mp consistent.apart)
    exact Bool.eq_false_iff.mpr fun same => Bool.eq_false_iff.mp different (HostValue.same_symm same)
  refine List.pairwise_map.mpr ((byPlace.and (stable.and apart)).imp_of_mem ?_)
  rintro a b member memberOther ⟨le, inserted, different⟩
  have isKeyA := isKey a (perm.mem_iff.mp member)
  have isKeyB := isKey b (perm.mem_iff.mp memberOther)
  rcases le.lt_or_eq with less | same
  · exact keyBefore_of_place isKeyA isKeyB less
  · obtain ⟨reference, referenceOther⟩ := isReference_of_place isKeyA isKeyB different same
    obtain ⟨first, second, here, there, earlier⟩ :=
      inserted ((keyPrecedes_iff_place isKeyB isKeyA).mpr same.ge)
    exact .references reference referenceOther here there earlier

example : (after [.set (.table ⟨2⟩) (.boolean true), .set (.table ⟨3⟩) (.boolean true), .set (.table ⟨2⟩) .nil,
    .set (.boolean true) (.string "x"), .setField "a" (.string "y"), .set (.table ⟨2⟩) (.boolean false),
    .append (.string "z")]).keys =
      [HostValue.ofNat 0, .string "a", .boolean true, .table ⟨3⟩, .table ⟨2⟩] := by decide +kernel

/-- Over every history of calls a table represents what was written to it: it yields the last value written at
    each key, holds neither keys that are nil or no numbers nor values that are nil, lists each key that is
    present once and in order, has as its length the least position that is not present, and appends there.
    Only after more than 2^53 calls can there be no such position. -/
theorem after_represents (calls : List Call) :
    (∀ call : Call, ((∃ fault, (after calls).perform call = .error fault) ↔ ¬IsKey (call.key (after calls))) ∧
      (¬IsKey (call.key (after calls)) → after (calls ++ [call]) = after calls)) ∧
    (∀ key,
      (∃ index value, Writes calls index key value ∧
        (∀ later other, index < later → ¬Writes calls later key other) ∧ (after calls).get key = value) ∨
      ((∀ index value, ¬Writes calls index key value) ∧ (after calls).get key = .nil)) ∧
    (∀ entry ∈ (after calls).entries, IsKey entry.1 ∧ entry.2 ≠ .nil) ∧
    ((after calls).keys.Pairwise (KeyBefore calls) ∧
      (∀ key other, KeyBefore calls key other → ¬KeyBefore calls other key) ∧
      ∀ key, (after calls).keys.countP (fun listed => listed.same key) =
        if (after calls).get key = .nil then 0 else 1) ∧
    ((∀ position < (after calls).length, (after calls).getIndex position ≠ .nil) ∧
      ((after calls).getIndex (after calls).length = .nil ∨
        (∀ position, (after calls).getIndex position ≠ .nil) ∧ twoPow 53 < calls.length)) ∧
    ∀ value key, (after (calls ++ [.append value])).get key =
      if (HostValue.ofNat (after calls).length).same key then value else (after calls).get key := by
  have consistent := consistent_after calls
  obtain ⟨present, free⟩ := getIndex_length (after calls)
  refine ⟨fun call => ⟨?_, fun failed => ?_⟩, get_after calls, fun entry member => ⟨?_, ?_⟩,
    ⟨keys_ordered calls, fun _ _ => KeyBefore.asymm, countP_keys consistent⟩, ⟨present, ?_⟩, fun value key => ?_⟩
  · rw [← perform_isOk_iff]
    cases (after calls).perform call <;> simp
  · rw [after_append]
    exact ((step_cases (after calls) call).resolve_left fun done => failed done.1).2
  · exact consistent.keys entry.1 (List.mem_map_of_mem member)
  · exact consistent.values entry.2 (List.mem_map_of_mem member)
  · exact free.imp_right fun all => ⟨all, (count_of_filled all).trans_le (count_after_le calls)⟩
  · rw [after_append]
    obtain ⟨-, done⟩ := (step_cases (after calls) (.append value)).resolve_right fun failed =>
      failed.1 (isKey_ofNat (after calls).length)
    exact get_set done key

end HostTable

end Crosswalk
