/-
Module: Crosswalk.Proofs.Value.ExactEquality
Purpose: Exact equality is an equivalence on well-formed values. Sets and maps are compared by looking for
  the parts of one side on the other, so symmetry is a matter of counting: with equally many parts on both
  sides, and no two of one side equal to each other, every part of the other side is met.
Main exports: Value.exactlyEqual_refl, Value.exactlyEqual_trans, Value.exactlyEqual_symm, Value.exactlyEqual_comm
-/
import Crosswalk.Proofs.Outcome
import Crosswalk.Proofs.Value.WellFormed
import Mathlib.Data.List.Forall2
import Mathlib.Data.List.Perm.Subperm

namespace Crosswalk

/-! ### Counting -/

section Matching

variable {α β : Type} {Match : α → β → Prop}

/-- If all members of one list have a match in another list, and no two of them have a match in common,
    then the matches can be listed without repetition. -/
theorem exists_partners {as : List α} {bs : List β} (total : ∀ a ∈ as, ∃ b ∈ bs, Match a b)
    (apart : as.Pairwise fun a a' => ∀ b, Match a b → ¬ Match a' b) :
    ∃ cs, List.Forall₂ Match as cs ∧ cs ⊆ bs ∧ cs.Nodup := by
  induction apart with
  | nil => exact ⟨[], .nil, List.nil_subset bs, List.nodup_nil⟩
  | @cons a rest first _ ih =>
      obtain ⟨b, inOther, isMatch⟩ := total a List.mem_cons_self
      obtain ⟨cs, matched, among, nodup⟩ := ih fun a' member => total a' (List.mem_cons_of_mem a member)
      refine ⟨b :: cs, .cons isMatch matched, List.cons_subset.mpr ⟨inOther, among⟩, ?_⟩
      refine List.nodup_cons.mpr ⟨fun member => ?_, nodup⟩
      obtain ⟨a', inRest, again⟩ := Outcome.exists_of_forall₂ matched member
      exact first a' inRest b isMatch again

/-- If there are no more members of the other list, the matches are all of it. -/
theorem exists_partners_perm {as : List α} {bs : List β} (length : as.length = bs.length)
    (total : ∀ a ∈ as, ∃ b ∈ bs, Match a b)
    (apart : as.Pairwise fun a a' => ∀ b, Match a b → ¬ Match a' b) :
    ∃ cs, List.Forall₂ Match as cs ∧ cs.Perm bs := by
  obtain ⟨cs, matched, among, nodup⟩ := exists_partners total apart
  exact ⟨cs, matched, (List.subperm_of_subset nodup among).perm_of_length_le
    (by rw [← length, matched.length_eq])⟩

/-- Members with matches of their own are no more than those of the other list. -/
theorem length_le_of_partners {as : List α} {bs : List β} (total : ∀ a ∈ as, ∃ b ∈ bs, Match a b)
    (apart : as.Pairwise fun a a' => ∀ b, Match a b → ¬ Match a' b) : as.length ≤ bs.length := by
  obtain ⟨cs, matched, among, nodup⟩ := exists_partners total apart
  exact matched.length_eq ▸ (List.subperm_of_subset nodup among).length_le

/-- If all members of one list have a match in another list of equal length, and no two of them have a
    match in common, then all members of the other list are matches. -/
theorem exists_match_of_length_eq {as : List α} {bs : List β} (length : as.length = bs.length)
    (total : ∀ a ∈ as, ∃ b ∈ bs, Match a b)
    (apart : as.Pairwise fun a a' => ∀ b, Match a b → ¬ Match a' b) :
    ∀ b ∈ bs, ∃ a ∈ as, Match a b := by
  obtain ⟨cs, matched, perm⟩ := exists_partners_perm length total apart
  intro b member
  exact Outcome.exists_of_forall₂ matched (perm.mem_iff.mpr member)

/-- The keys of one list of entries are those of another list of equal length if they are different and
    all occur there. -/
theorem perm_keys_of_length_eq {as : List (String × α)} {bs : List (String × β)}
    (length : as.length = bs.length) (nodup : (as.map Prod.fst).Nodup)
    (among : ∀ key ∈ as.map Prod.fst, key ∈ bs.map Prod.fst) :
    (as.map Prod.fst).Perm (bs.map Prod.fst) :=
  (List.subperm_of_subset nodup among).perm_of_length_le (by simp [length])

variable (Match) in
/-- If all entries of one list have a match under their keys in another list of equal length, then so have
    all entries of the other list. -/
theorem exists_lookup_of_length_eq {as : List (String × α)} {bs : List (String × β)}
    (length : as.length = bs.length) (nodup : (as.map Prod.fst).Nodup)
    (among : ∀ entry ∈ as, ∃ b, bs.lookup entry.1 = some b ∧ Match entry.2 b) :
    ∀ entry ∈ bs, ∃ a, as.lookup entry.1 = some a ∧ Match a entry.2 := by
  have keys : (as.map Prod.fst).Perm (bs.map Prod.fst) := by
    apply perm_keys_of_length_eq length nodup
    intro key member
    obtain ⟨entry, inFirst, rfl⟩ := List.mem_map.mp member
    obtain ⟨b, found, -⟩ := among entry inFirst
    exact List.mem_map.mpr ⟨_, mem_of_lookup found, rfl⟩
  intro entry member
  have here : bs.lookup entry.1 = some entry.2 := lookup_of_mem (keys.nodup_iff.mp nodup) member
  obtain ⟨original, inFirst, sameKey⟩ := List.mem_map.mp (keys.mem_iff.mpr (List.mem_map_of_mem member))
  obtain ⟨b, found, isMatch⟩ := among original inFirst
  have only : entry.2 = b := Option.some.inj (here.symm.trans (sameKey ▸ found))
  exact ⟨original.2, sameKey ▸ lookup_of_mem nodup inFirst, only ▸ isMatch⟩

end Matching

namespace Value

/-! ### Exact equality, kind by kind -/

theorem exactlyEqualItems_iff {as bs : List Value} :
    exactlyEqualItems as bs = true ↔ List.Forall₂ (fun a b => exactlyEqual a b = true) as bs := by
  induction as generalizing bs with
  | nil => cases bs <;> simp [exactlyEqualItems]
  | cons a as ih => cases bs <;> simp [exactlyEqualItems, ih]

theorem membersAmong_iff {as bs : List Value} :
    membersAmong as bs = true ↔ ∀ a ∈ as, ∃ b ∈ bs, exactlyEqual a b = true := by
  induction as with
  | nil => simp [membersAmong]
  | cons a as ih => simp [membersAmong, ih]

theorem entriesAmong_iff {as bs : List (String × Value)} :
    entriesAmong as bs = true ↔
      ∀ entry ∈ as, ∃ b, bs.lookup entry.1 = some b ∧ exactlyEqual entry.2 b = true := by
  induction as with
  | nil => simp [entriesAmong]
  | cons entry as ih =>
      obtain ⟨key, a⟩ := entry
      cases found : bs.lookup key <;> simp [entriesAmong, found, ih]

section Kinds

variable {b : Value}

theorem exactlyEqual_list {element : Ty} {as : List Value} :
    exactlyEqual (.list element as) b = true ↔
      ∃ bs, .list element bs = b ∧ List.Forall₂ (fun a b => exactlyEqual a b = true) as bs := by
  cases b with
  | list other bs =>
      change (decide (element = other) && exactlyEqualItems as bs) = true ↔ _
      simp [exactlyEqualItems_iff, and_assoc]
  | _ => exact iff_of_false Bool.false_ne_true (by rintro ⟨_, differs, _⟩; cases differs)

theorem exactlyEqual_tuple {as : List Value} :
    exactlyEqual (.tuple as) b = true ↔
      ∃ bs, .tuple bs = b ∧ List.Forall₂ (fun a b => exactlyEqual a b = true) as bs := by
  cases b with
  | tuple bs =>
      change exactlyEqualItems as bs = true ↔ _
      simp [exactlyEqualItems_iff]
  | _ => exact iff_of_false Bool.false_ne_true (by rintro ⟨_, differs, _⟩; cases differs)

theorem exactlyEqual_set {element : Ty} {as : List Value} :
    exactlyEqual (.set element as) b = true ↔
      ∃ bs, .set element bs = b ∧ as.length = bs.length ∧
        ∀ a ∈ as, ∃ b ∈ bs, exactlyEqual a b = true := by
  cases b with
  | set other bs =>
      change (decide (element = other) && decide (as.length = bs.length) && membersAmong as bs) = true ↔ _
      simp [membersAmong_iff, and_assoc]
  | _ => exact iff_of_false Bool.false_ne_true (by rintro ⟨_, differs, _⟩; cases differs)

theorem exactlyEqual_map {element : Ty} {as : List (String × Value)} :
    exactlyEqual (.map element as) b = true ↔
      ∃ bs, .map element bs = b ∧ as.length = bs.length ∧
        ∀ entry ∈ as, ∃ b, bs.lookup entry.1 = some b ∧ exactlyEqual entry.2 b = true := by
  cases b with
  | map other bs =>
      change (decide (element = other) && decide (as.length = bs.length) && entriesAmong as bs) = true ↔ _
      simp only [Bool.and_eq_true, decide_eq_true_eq, entriesAmong_iff, map.injEq, and_assoc,
        exists_and_left, exists_eq_left]
  | _ => exact iff_of_false Bool.false_ne_true (by rintro ⟨_, differs, _⟩; cases differs)

theorem exactlyEqual_object {as : List (String × Value)} :
    exactlyEqual (.object as) b = true ↔
      ∃ bs, .object bs = b ∧ as.length = bs.length ∧
        ∀ entry ∈ as, ∃ b, bs.lookup entry.1 = some b ∧ exactlyEqual entry.2 b = true := by
  cases b with
  | object bs =>
      change (decide (as.length = bs.length) && entriesAmong as bs) = true ↔ _
      simp only [Bool.and_eq_true, decide_eq_true_eq, entriesAmong_iff, object.injEq, exists_eq_left]
  | _ => exact iff_of_false Bool.false_ne_true (by rintro ⟨_, differs, _⟩; cases differs)

end Kinds

/-! ### An equivalence -/

/-- A well-formed value is exactly equal to itself. -/
theorem exactlyEqual_refl {a : Value} (wellFormed : a.WellFormed) : exactlyEqual a a = true := by
  induction wellFormed with
  | null | unknown | bool | number | string => exact decide_eq_true rfl
  | list _ _ _ ih => exact exactlyEqual_list.mpr ⟨_, rfl, List.forall₂_same.mpr ih⟩
  | set _ _ _ _ ih =>
      exact exactlyEqual_set.mpr ⟨_, rfl, rfl, fun item member => ⟨item, member, ih item member⟩⟩
  | map _ nodup _ _ ih =>
      refine exactlyEqual_map.mpr ⟨_, rfl, rfl, fun entry member => ?_⟩
      exact ⟨entry.2, lookup_of_mem nodup member, ih entry member⟩
  | object nodup _ _ ih =>
      refine exactlyEqual_object.mpr ⟨_, rfl, rfl, fun entry member => ?_⟩
      exact ⟨entry.2, lookup_of_mem nodup member, ih entry member⟩
  | tuple _ _ ih => exact exactlyEqual_tuple.mpr ⟨_, rfl, List.forall₂_same.mpr ih⟩

/-- Items equal to items that are equal to further items. -/
private theorem items_trans {as bs cs : List Value}
    (ih : ∀ a ∈ as, ∀ b c, exactlyEqual a b = true → exactlyEqual b c = true →
      exactlyEqual a c = true)
    (first : List.Forall₂ (fun a b => exactlyEqual a b = true) as bs)
    (second : List.Forall₂ (fun b c => exactlyEqual b c = true) bs cs) :
    List.Forall₂ (fun a c => exactlyEqual a c = true) as cs := by
  induction first generalizing cs with
  | nil =>
      cases second
      exact .nil
  | cons equal _ rest =>
      obtain _ | ⟨equalNext, others⟩ := second
      have head := ih _ List.mem_cons_self _ _ equal equalNext
      exact .cons head (rest (fun a member => ih a (List.mem_cons_of_mem _ member)) others)

/-- Entries found among entries that are found among further entries. -/
private theorem entries_trans {as bs cs : List (String × Value)}
    (ih : ∀ entry ∈ as, ∀ b c, exactlyEqual entry.2 b = true → exactlyEqual b c = true →
      exactlyEqual entry.2 c = true)
    (first : ∀ entry ∈ as, ∃ b, bs.lookup entry.1 = some b ∧ exactlyEqual entry.2 b = true)
    (second : ∀ entry ∈ bs, ∃ c, cs.lookup entry.1 = some c ∧ exactlyEqual entry.2 c = true) :
    ∀ entry ∈ as, ∃ c, cs.lookup entry.1 = some c ∧ exactlyEqual entry.2 c = true := by
  intro entry member
  obtain ⟨b, found, equal⟩ := first entry member
  obtain ⟨c, foundNext, equalNext⟩ := second (entry.1, b) (mem_of_lookup found)
  exact ⟨c, foundNext, ih entry member b c equal equalNext⟩

/-- Exact equality is transitive, on whatever values. -/
theorem exactlyEqual_trans {a b c : Value} (first : exactlyEqual a b = true)
    (second : exactlyEqual b c = true) : exactlyEqual a c = true := by
  induction a using Value.induct generalizing b c with
  | null | unknown | bool | number | string =>
      cases b <;> simp [exactlyEqual] at first
      subst first
      exact second
  | list element as ih =>
      obtain ⟨bs, rfl, equal⟩ := exactlyEqual_list.mp first
      obtain ⟨cs, rfl, equalNext⟩ := exactlyEqual_list.mp second
      refine exactlyEqual_list.mpr ⟨cs, rfl, items_trans ?_ equal equalNext⟩
      exact fun a member b c => ih a member
  | set element as ih =>
      obtain ⟨bs, rfl, length, among⟩ := exactlyEqual_set.mp first
      obtain ⟨cs, rfl, lengthNext, amongNext⟩ := exactlyEqual_set.mp second
      refine exactlyEqual_set.mpr ⟨cs, rfl, length.trans lengthNext, fun a member => ?_⟩
      obtain ⟨b, inSecond, equal⟩ := among a member
      obtain ⟨c, inThird, equalNext⟩ := amongNext b inSecond
      exact ⟨c, inThird, ih a member equal equalNext⟩
  | map element as ih =>
      obtain ⟨bs, rfl, length, among⟩ := exactlyEqual_map.mp first
      obtain ⟨cs, rfl, lengthNext, amongNext⟩ := exactlyEqual_map.mp second
      refine exactlyEqual_map.mpr ⟨cs, rfl, length.trans lengthNext, entries_trans ?_ among amongNext⟩
      exact fun entry member b c => ih entry member
  | object as ih =>
      obtain ⟨bs, rfl, length, among⟩ := exactlyEqual_object.mp first
      obtain ⟨cs, rfl, lengthNext, amongNext⟩ := exactlyEqual_object.mp second
      refine exactlyEqual_object.mpr ⟨cs, rfl, length.trans lengthNext, entries_trans ?_ among amongNext⟩
      exact fun entry member b c => ih entry member
  | tuple as ih =>
      obtain ⟨bs, rfl, equal⟩ := exactlyEqual_tuple.mp first
      obtain ⟨cs, rfl, equalNext⟩ := exactlyEqual_tuple.mp second
      refine exactlyEqual_tuple.mpr ⟨cs, rfl, items_trans ?_ equal equalNext⟩
      exact fun a member b c => ih a member

/-- Items equal in one direction are equal in the other. -/
private theorem items_symm {as bs : List Value}
    (ih : ∀ a ∈ as, ∀ b, exactlyEqual a b = true → exactlyEqual b a = true)
    (equal : List.Forall₂ (fun a b => exactlyEqual a b = true) as bs) :
    List.Forall₂ (fun b a => exactlyEqual b a = true) bs as := by
  induction equal with
  | nil => exact .nil
  | cons first _ rest =>
      have head := ih _ List.mem_cons_self _ first
      exact .cons head (rest fun a member => ih a (List.mem_cons_of_mem _ member))

/-- Of two lists of equally many entries with different keys on one side, each is found in the other. -/
private theorem entries_symm {as bs : List (String × Value)} (length : as.length = bs.length)
    (nodup : (as.map Prod.fst).Nodup)
    (ih : ∀ entry ∈ as, ∀ b, exactlyEqual entry.2 b = true → exactlyEqual b entry.2 = true)
    (among : ∀ entry ∈ as, ∃ b, bs.lookup entry.1 = some b ∧ exactlyEqual entry.2 b = true) :
    ∀ entry ∈ bs, ∃ a, as.lookup entry.1 = some a ∧ exactlyEqual entry.2 a = true := by
  intro entry member
  obtain ⟨a, found, equal⟩ :=
    exists_lookup_of_length_eq (fun a b => exactlyEqual a b = true) length nodup among entry member
  exact ⟨a, found, ih (entry.1, a) (mem_of_lookup found) entry.2 equal⟩

/-- Exact equality is symmetric where the left value is well-formed. -/
theorem exactlyEqual_symm {a b : Value} (wellFormed : a.WellFormed)
    (equal : exactlyEqual a b = true) : exactlyEqual b a = true := by
  induction wellFormed generalizing b with
  | null | unknown | bool | number | string =>
      cases b <;> simp [exactlyEqual] at equal
      simp [exactlyEqual, equal]
  | list _ _ _ ih =>
      obtain ⟨bs, rfl, items⟩ := exactlyEqual_list.mp equal
      exact exactlyEqual_list.mpr ⟨_, rfl, items_symm (fun a member b => ih a member) items⟩
  | set _ _ differ _ ih =>
      obtain ⟨bs, rfl, length, among⟩ := exactlyEqual_set.mp equal
      refine exactlyEqual_set.mpr ⟨_, rfl, length.symm, fun b member => ?_⟩
      obtain ⟨a, inFirst, found⟩ := exists_match_of_length_eq length among
        (differ.imp_of_mem fun _ inFirst different c left right =>
          Bool.eq_false_iff.mp different.1 (exactlyEqual_trans left (ih _ inFirst right))) b member
      exact ⟨a, inFirst, ih a inFirst found⟩
  | map _ nodup _ _ ih =>
      obtain ⟨bs, rfl, length, among⟩ := exactlyEqual_map.mp equal
      refine exactlyEqual_map.mpr ⟨_, rfl, length.symm, ?_⟩
      exact entries_symm length nodup (fun entry member b => ih entry member) among
  | object nodup _ _ ih =>
      obtain ⟨bs, rfl, length, among⟩ := exactlyEqual_object.mp equal
      refine exactlyEqual_object.mpr ⟨_, rfl, length.symm, ?_⟩
      exact entries_symm length nodup (fun entry member b => ih entry member) among
  | tuple _ _ ih =>
      obtain ⟨bs, rfl, items⟩ := exactlyEqual_tuple.mp equal
      exact exactlyEqual_tuple.mpr ⟨_, rfl, items_symm (fun a member b => ih a member) items⟩

theorem exactlyEqual_comm {a b : Value} (left : a.WellFormed) (right : b.WellFormed) :
    exactlyEqual a b = exactlyEqual b a :=
  Bool.eq_iff_iff.mpr ⟨exactlyEqual_symm left, exactlyEqual_symm right⟩

end Value

end Crosswalk
