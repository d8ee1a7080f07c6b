/-
Module: Crosswalk.Proofs.Value.Alike
Purpose: What exactly equal values have in common. They have one type, and their members and entries can be
  paired off, in the given order or in another one where they are members of a set or entries of a mapping.
  `Alike` is the relation between the results of two conversions: equality, or only as far as types go.
Main exports: Value.type_eq_of_exactlyEqual, Value.sequence?_arranged, Value.mapping?_among, Value.Alike,
  Value.Alike.set, Value.Alike.map
-/
import Crosswalk.Proofs.Arrangement
import Crosswalk.Proofs.Value.Failure

namespace Crosswalk.Value

/-! ### Equal values and their types -/

/-- The values without parts are those without data and those of the primitive types. -/
theorem leaf_iff {a : Value} : a.isAbsent = true ∨ a.type.isPrimitive = true ↔
    sequence? a = none ∧ mapping? a = none := by
  cases a <;> simp [sequence?, mapping?, isAbsent, isNull, isKnown, type, Ty.objectOf, Ty.isPrimitive, Ty.kind]

/-- Exactly equal values without parts are the same. -/
theorem eq_of_exactlyEqual {a b : Value} (leaf : a.isAbsent = true ∨ a.type.isPrimitive = true)
    (equal : exactlyEqual a b = true) : a = b := by
  cases a with
  | null | unknown | bool | number | string => cases b <;> simp_all [exactlyEqual]
  | list | set | tuple => cases (leaf_iff.mp leaf).1
  | map | object => cases (leaf_iff.mp leaf).2

section Mappings

variable {as bs : List (String × Value)} (length : as.length = bs.length)
  (nodup : (as.map Prod.fst).Nodup)
  (among : ∀ entry ∈ as, ∃ y, bs.lookup entry.1 = some y ∧ exactlyEqual entry.2 y = true)
include length nodup among

theorem perm_keys_of_among : (as.map Prod.fst).Perm (bs.map Prod.fst) := by
  apply perm_keys_of_length_eq length nodup
  intro key member
  obtain ⟨entry, inFirst, rfl⟩ := List.mem_map.mp member
  obtain ⟨y, found, -⟩ := among entry inFirst
  exact List.mem_map.mpr ⟨_, mem_of_lookup found, rfl⟩

/-- Under a name both of two equal mappings have no entry, or both have one, and these are equal. -/
theorem lookup_of_among (name : String) : (as.lookup name = none ∧ bs.lookup name = none) ∨
    ∃ x y, as.lookup name = some x ∧ bs.lookup name = some y ∧ exactlyEqual x y = true := by
  cases found : as.lookup name with
  | some x =>
      obtain ⟨y, other, equal⟩ := among (name, x) (mem_of_lookup found)
      exact .inr ⟨x, y, rfl, other, equal⟩
  | none =>
      have keys := perm_keys_of_among length nodup among
      have absent := mt keys.mem_iff.mpr (not_mem_of_lookup_eq_none found)
      exact .inl ⟨rfl, lookup_eq_none_of_not_mem absent⟩

/-- Entries that are found on the other side are its entries in another order. -/
theorem arranged_of_among :
    Arranged False (fun p q => p.1 = q.1 ∧ exactlyEqual p.2 q.2 = true) as bs := by
  have total : ∀ p ∈ as, ∃ q ∈ bs, p.1 = q.1 ∧ exactlyEqual p.2 q.2 = true := by
    intro p member
    obtain ⟨y, found, same⟩ := among p member
    exact ⟨_, mem_of_lookup found, rfl, same⟩
  have apart : as.Pairwise fun p other => ∀ q : String × Value,
      p.1 = q.1 ∧ exactlyEqual p.2 q.2 = true → ¬ (other.1 = q.1 ∧ exactlyEqual other.2 q.2 = true) :=
    (List.pairwise_map.mp nodup).imp fun different q here there => different (here.1.trans there.1.symm)
  obtain ⟨cs, related, perm⟩ := exists_partners_perm length total apart
  exact ⟨cs, related, perm, False.elim⟩

end Mappings

/-- Exactly equal values have one type. -/
theorem type_eq_of_exactlyEqual {a b : Value} (left : a.WellFormed) (right : b.WellFormed)
    (equal : exactlyEqual a b = true) : a.type = b.type := by
  induction left generalizing b with
  | null | unknown => rw [eq_of_exactlyEqual (.inl rfl) equal]
  | bool | number | string => rw [eq_of_exactlyEqual (.inr rfl) equal]
  | list =>
      obtain ⟨bs, rfl, -⟩ := exactlyEqual_list.mp equal
      rfl
  | set =>
      obtain ⟨bs, rfl, -⟩ := exactlyEqual_set.mp equal
      rfl
  | map =>
      obtain ⟨bs, rfl, -⟩ := exactlyEqual_map.mp equal
      rfl
  | @object as nodup described inner ih =>
      obtain ⟨bs, rfl, length, among⟩ := exactlyEqual_object.mp equal
      cases right with
      | object nodupRight describedRight innerRight =>
          obtain ⟨attributes, isObject, sorted, types⟩ := describedRight
          refine Eq.trans ?_ isObject.symm
          apply Ty.objectOf_eq_of_lookup sorted (keys_entryTypes as ▸ nodup)
          intro name
          rw [lookup_entryTypes]
          refine Eq.trans ?_ (types name).symm
          rcases lookup_of_among length nodup among name with ⟨missing, other⟩ |
            ⟨a, b, found, other, same⟩
          · rw [missing, other]
          · rw [found, other]
            exact congrArg some (ih (name, a) (mem_of_lookup found)
              (innerRight (name, b) (mem_of_lookup other)) same)
  | @tuple as _ inner ih =>
      obtain ⟨bs, rfl, items⟩ := exactlyEqual_tuple.mp equal
      cases right with
      | tuple _ innerRight =>
          simp only [type, itemTypes_eq_map, Ty.tuple.injEq]
          rw [← List.forall₂_eq_eq_eq, List.forall₂_map_left_iff, List.forall₂_map_right_iff]
          exact Outcome.forall₂_of_mem₂ items fun a inFirst b inSecond same =>
            ih a inFirst (innerRight b inSecond) same

/-! ### Elements of equal types -/

/-- Whether elements fit a type depends on which types they have. -/
theorem fits_congr {xs ys : List Value} (types : ∀ ty, ty ∈ xs.map type ↔ ty ∈ ys.map type)
    {element : Ty} : (∀ item ∈ xs, Fits element item) ↔ ∀ item ∈ ys, Fits element item := by
  have byType (items : List Value) : (∀ item ∈ items, Fits element item) ↔
      ∀ ty ∈ items.map type, element = .dynamic ∨ ty = element := by
    rw [List.forall_mem_map]
    rfl
  rw [byType, byType]
  simp only [types]

theorem elementType_agrees {xs ys : List Value} (types : ∀ ty, ty ∈ xs.map type ↔ ty ∈ ys.map type)
    (collection : String) (asked : Ty) :
    Outcome.Agrees (fun one other => one = asked ∧ other = asked ∧ (∀ item ∈ xs, Fits asked item) ∧
        ∀ item ∈ ys, Fits asked item)
      (elementType collection xs (some asked)) (elementType collection ys (some asked)) := by
  have accepted (items : List Value) (fits : ∀ item ∈ items, Fits asked item) :
      elementType collection items (some asked) = .ok asked := elementType_check_eq_ok.mpr ⟨rfl, fits⟩
  have refused (items : List Value) (misfit : ¬ ∀ item ∈ items, Fits asked item) :
      ∃ fault, elementType collection items (some asked) = .error fault := by
    cases checked : elementType collection items (some asked) with
    | ok element => exact absurd (elementType_check_eq_ok.mp checked).2 misfit
    | error fault => exact ⟨fault, rfl⟩
  by_cases fits : ∀ item ∈ xs, Fits asked item
  · have fitsOther := (fits_congr types).mp fits
    rw [accepted xs fits, accepted ys fitsOther]
    exact .ok ⟨rfl, rfl, fits, fitsOther⟩
  · obtain ⟨fault, one⟩ := refused xs fits
    obtain ⟨another, other⟩ := refused ys (mt (fits_congr types).mpr fits)
    rw [one, other]
    exact .error fault another

/-- The elements that remain in a set have the types of all of them. -/
theorem mem_types_withoutRepeats {items : List Value} (inner : ∀ item ∈ items, item.WellFormed)
    (ty : Ty) : ty ∈ (withoutRepeats items).map type ↔ ty ∈ items.map type := by
  rw [List.mem_map, List.mem_map]
  constructor
  · rintro ⟨item, member, rfl⟩
    exact ⟨item, mem_of_mem_withoutRepeats member, rfl⟩
  · rintro ⟨item, member, rfl⟩
    obtain ⟨kept, remains, equal⟩ := exists_mem_withoutRepeats inner member
    have keptInner := inner kept (mem_of_mem_withoutRepeats remains)
    exact ⟨kept, remains, (type_eq_of_exactlyEqual (inner item member) keptInner equal).symm⟩

/-! ### Sets of equal members -/

section WithoutRepeats

variable {xs ys : List Value} (right : ∀ y ∈ ys, y.WellFormed)
  (among : ∀ x ∈ xs, ∃ y ∈ ys, exactlyEqual x y = true)
include right among

theorem among_withoutRepeats :
    ∀ x ∈ withoutRepeats xs, ∃ y ∈ withoutRepeats ys, exactlyEqual x y = true := by
  intro x member
  obtain ⟨y, inSecond, equal⟩ := among x (mem_of_mem_withoutRepeats member)
  obtain ⟨kept, remains, same⟩ := exists_mem_withoutRepeats right inSecond
  exact ⟨kept, remains, exactlyEqual_trans equal same⟩

variable (left : ∀ x ∈ xs, x.WellFormed)
include left

/-- Different members have different equals, so that there are no fewer of these. -/
theorem length_withoutRepeats_le : (withoutRepeats xs).length ≤ (withoutRepeats ys).length := by
  apply length_le_of_partners (among_withoutRepeats right among)
  apply (differ_withoutRepeats left).imp_of_mem
  intro x other _ member differ y equal same
  have back := exactlyEqual_symm (left other (mem_of_mem_withoutRepeats member)) same
  exact Bool.eq_false_iff.mp differ.1 (exactlyEqual_trans equal back)

/-- Lists whose members are met by equal ones on the other side make equal sets. -/
theorem exactlyEqual_withoutRepeats (back : ∀ y ∈ ys, ∃ x ∈ xs, exactlyEqual y x = true)
    (element : Ty) :
    exactlyEqual (.set element (withoutRepeats xs)) (.set element (withoutRepeats ys)) = true :=
  exactlyEqual_set.mpr ⟨_, rfl, le_antisymm (length_withoutRepeats_le right among left)
    (length_withoutRepeats_le left back right), among_withoutRepeats right among⟩

end WithoutRepeats

/-! ### Results that are alike

Where `exact` fails, results are only compared as far as their types. Values without parts are the same in
any case, since the text of a number or truth value decides whether it converts further. -/

/-- Well-formed values of one type that are equal where `exact` says so. -/
structure Alike (exact : Prop) (a b : Value) : Prop where
  left : a.WellFormed
  right : b.WellFormed
  type_eq : a.type = b.type
  leaf : a.isAbsent = true ∨ a.type.isPrimitive = true → a = b
  equal : exact → exactlyEqual a b = true

namespace Alike

variable {exact keeps : Prop} {element : Ty}

theorem ofEqual {a b : Value} (left : a.WellFormed) (right : b.WellFormed)
    (equal : exactlyEqual a b = true) : Alike exact a b where
  left := left
  right := right
  type_eq := type_eq_of_exactlyEqual left right equal
  leaf without := eq_of_exactlyEqual without equal
  equal _ := equal

theorem refl {a : Value} (wellFormed : a.WellFormed) : Alike exact a a :=
  ofEqual wellFormed wellFormed (exactlyEqual_refl wellFormed)

/-- Elements that are alike have the same types. -/
theorem mem_types {xs ys : List Value} (arranged : Arranged keeps (Alike exact) xs ys) (ty : Ty) :
    ty ∈ xs.map type ↔ ty ∈ ys.map type := by
  rw [List.mem_map, List.mem_map]
  constructor
  · rintro ⟨x, inFirst, rfl⟩
    obtain ⟨y, inSecond, alike⟩ := arranged.exists_right inFirst
    exact ⟨y, inSecond, alike.type_eq.symm⟩
  · rintro ⟨y, inSecond, rfl⟩
    obtain ⟨x, inFirst, alike⟩ := arranged.exists_left inSecond
    exact ⟨x, inFirst, alike.type_eq⟩

theorem left_of_mem {xs ys : List Value} (arranged : Arranged keeps (Alike exact) xs ys) :
    ∀ item ∈ xs, item.WellFormed := by
  intro x member
  obtain ⟨y, -, alike⟩ := arranged.exists_right member
  exact alike.left

theorem right_of_mem {xs ys : List Value} (arranged : Arranged keeps (Alike exact) xs ys) :
    ∀ item ∈ ys, item.WellFormed := by
  intro y member
  obtain ⟨x, -, alike⟩ := arranged.exists_left member
  exact alike.right

theorem list {xs ys : List Value} (outer : element.WellFormed)
    (arranged : Arranged keeps (Alike exact) xs ys) (ordered : exact → keeps)
    (fits : ∀ item ∈ xs, Fits element item) : Alike exact (.list element xs) (.list element ys) where
  left := .list outer fits (left_of_mem arranged)
  right := .list outer ((fits_congr (mem_types arranged)).mp fits) (right_of_mem arranged)
  type_eq := rfl
  leaf without := nomatch (leaf_iff.mp without).1
  equal isExact := by
    have items := (arranged.forall₂ (ordered isExact)).imp fun _ _ alike => alike.equal isExact
    exact exactlyEqual_list.mpr ⟨ys, rfl, items⟩

theorem set {xs ys : List Value} (outer : element.WellFormed)
    (arranged : Arranged keeps (Alike exact) xs ys)
    (fits : ∀ item ∈ withoutRepeats xs, Fits element item)
    (fitsOther : ∀ item ∈ withoutRepeats ys, Fits element item) :
    Alike exact (.set element (withoutRepeats xs)) (.set element (withoutRepeats ys)) where
  left := .set outer fits (differ_withoutRepeats (left_of_mem arranged))
    fun item member => left_of_mem arranged item (mem_of_mem_withoutRepeats member)
  right := .set outer fitsOther (differ_withoutRepeats (right_of_mem arranged))
    fun item member => right_of_mem arranged item (mem_of_mem_withoutRepeats member)
  type_eq := rfl
  leaf without := nomatch (leaf_iff.mp without).1
  equal isExact := by
    refine exactlyEqual_withoutRepeats (right_of_mem arranged) ?_ (left_of_mem arranged) ?_ element
    · intro x member
      obtain ⟨y, inSecond, alike⟩ := arranged.exists_right member
      exact ⟨y, inSecond, alike.equal isExact⟩
    · intro y member
      obtain ⟨x, inFirst, alike⟩ := arranged.exists_left member
      exact ⟨x, inFirst, exactlyEqual_symm alike.left (alike.equal isExact)⟩

/-- Values that are alike, under keys or steps that are related. -/
def Under {κ : Type} (Same : κ → κ → Prop) (exact : Prop) (p q : κ × Value) : Prop :=
  Same p.1 q.1 ∧ Alike exact p.2 q.2

theorem values {κ : Type} {Same : κ → κ → Prop} {xs ys : List (κ × Value)}
    (arranged : Arranged keeps (Under Same exact) xs ys) :
    Arranged keeps (Alike exact) (xs.map Prod.snd) (ys.map Prod.snd) :=
  arranged.map fun _ _ pair => pair.2

/-- Entries of one side are looked up on the other. -/
theorem among_of_entries {xs ys : List (String × Value)} (arranged : Arranged keeps (Under Eq exact) xs ys)
    (nodup : (ys.map Prod.fst).Nodup) (isExact : exact) :
    ∀ entry ∈ xs, ∃ b, ys.lookup entry.1 = some b ∧ exactlyEqual entry.2 b = true := by
  intro entry member
  obtain ⟨other, inSecond, same, alike⟩ := arranged.exists_right member
  exact ⟨other.2, same ▸ lookup_of_mem nodup inSecond, alike.equal isExact⟩

theorem map {xs ys : List (String × Value)} (outer : element.WellFormed)
    (arranged : Arranged keeps (Under Eq exact) xs ys) (nodup : (xs.map Prod.fst).Nodup)
    (nodupOther : (ys.map Prod.fst).Nodup) (fits : ∀ item ∈ xs.map Prod.snd, Fits element item) :
    Alike exact (.map element xs) (.map element ys) where
  left := .map outer nodup (List.forall_mem_map.mp fits)
    (List.forall_mem_map.mp (left_of_mem (values arranged)))
  right := .map outer nodupOther (List.forall_mem_map.mp ((fits_congr (mem_types (values arranged))).mp fits))
    (List.forall_mem_map.mp (right_of_mem (values arranged)))
  type_eq := rfl
  leaf without := nomatch (leaf_iff.mp without).2
  equal isExact := exactlyEqual_map.mpr
    ⟨ys, rfl, arranged.length_eq, among_of_entries arranged nodupOther isExact⟩

theorem tuple {xs ys : List Value} (related : List.Forall₂ (Alike exact) xs ys) :
    Alike exact (.tuple xs) (.tuple ys) where
  left := .ofItems (left_of_mem (Arranged.inOrder related))
  right := .ofItems (right_of_mem (Arranged.inOrder related))
  type_eq := by
    simp only [type, itemTypes_eq_map, Ty.tuple.injEq]
    rw [← List.forall₂_eq_eq_eq, List.forall₂_map_left_iff, List.forall₂_map_right_iff]
    exact related.imp fun _ _ alike => alike.type_eq
  leaf without := nomatch (leaf_iff.mp without).1
  equal isExact := exactlyEqual_tuple.mpr ⟨ys, rfl, related.imp fun _ _ alike => alike.equal isExact⟩

theorem object {xs ys : List (String × Value)} (related : List.Forall₂ (Under Eq exact) xs ys)
    (nodup : (xs.map Prod.fst).Nodup) : Alike exact (.object xs) (.object ys) where
  left := .ofEntries nodup
    (List.forall_mem_map.mp (left_of_mem (values (Arranged.inOrder related))))
  right := .ofEntries (Outcome.keys_eq_of_forall₂ (related.imp fun _ _ pair => pair.1.symm) ▸ nodup)
    (List.forall_mem_map.mp (right_of_mem (values (Arranged.inOrder related))))
  type_eq := by
    simp only [type, entryTypes_eq_map]
    congr 1
    rw [← List.forall₂_eq_eq_eq, List.forall₂_map_left_iff, List.forall₂_map_right_iff]
    exact related.imp fun _ _ pair => Prod.ext pair.1 pair.2.type_eq
  leaf without := nomatch (leaf_iff.mp without).2
  equal isExact := by
    have keys := Outcome.keys_eq_of_forall₂ (related.imp fun _ _ pair => pair.1.symm)
    exact exactlyEqual_object.mpr ⟨ys, rfl, related.length_eq,
      among_of_entries (Arranged.inOrder related) (keys ▸ nodup) isExact⟩

end Alike

/-! ### Parts of equal values -/

/-- A value whose members have an order of their own: all but the sets of two or more. -/
def Ordered (value : Value) : Prop :=
  ∀ element items, value = .set element items → items.length < 2

theorem eq_of_perm_of_length {α : Type} {xs ys : List α} (perm : xs.Perm ys) (few : ys.length < 2) :
    xs = ys := by
  match ys with
  | [] => exact perm.eq_nil
  | [y] => exact List.perm_singleton.mp perm

section Parts

variable {a b : Value} (left : a.WellFormed) (equal : exactlyEqual a b = true)
include left equal

/-- Of two equal values both are sequences, whose elements are equal in some order, or neither is. -/
theorem sequence?_arranged : (sequence? a = none ∧ sequence? b = none) ∨
    ∃ la lb own, sequence? a = some (la, own) ∧ sequence? b = some (lb, own) ∧
      Arranged a.Ordered (fun p q => exactlyEqual p.2 q.2 = true) la lb := by
  have placed {keeps : Prop} {as bs : List Value}
      (arranged : Arranged keeps (fun x y => exactlyEqual x y = true) as bs) :
      Arranged keeps (fun p q => exactlyEqual p.2 q.2 = true) (sequence?.atPositions as)
        (sequence?.atPositions bs) := by
    have items : Arranged keeps (fun x y => exactlyEqual x y = true)
        ((sequence?.atPositions as).map Prod.snd) ((sequence?.atPositions bs).map Prod.snd) := by
      rwa [snd_atPositions, snd_atPositions]
    exact items.of_map
  cases left with
  | null | unknown => rw [← eq_of_exactlyEqual (.inl rfl) equal]; exact .inl ⟨rfl, rfl⟩
  | bool | number | string => rw [← eq_of_exactlyEqual (.inr rfl) equal]; exact .inl ⟨rfl, rfl⟩
  | @list element as =>
      obtain ⟨bs, rfl, items⟩ := exactlyEqual_list.mp equal
      exact .inr ⟨_, _, some element, rfl, rfl, placed (.ofForall₂ items)⟩
  | @tuple as =>
      obtain ⟨bs, rfl, items⟩ := exactlyEqual_tuple.mp equal
      exact .inr ⟨_, _, none, rfl, rfl, placed (.ofForall₂ items)⟩
  | @set element as _ _ differ inner =>
      obtain ⟨bs, rfl, length, among⟩ := exactlyEqual_set.mp equal
      have apart : as.Pairwise fun x y => ∀ c, exactlyEqual x c = true → ¬ exactlyEqual y c = true :=
        differ.imp_of_mem fun _ inFirst different c here there =>
          Bool.eq_false_iff.mp different.1 (exactlyEqual_trans here (exactlyEqual_symm (inner _ inFirst) there))
      obtain ⟨cs, related, perm⟩ := exists_partners_perm length among apart
      refine .inr ⟨_, _, some element, rfl, rfl, placed ⟨cs, related, perm, fun ordered => ?_⟩⟩
      exact eq_of_perm_of_length perm (length ▸ ordered element as rfl)
  | map =>
      obtain ⟨bs, rfl, -⟩ := exactlyEqual_map.mp equal
      exact .inl ⟨rfl, rfl⟩
  | object =>
      obtain ⟨bs, rfl, -⟩ := exactlyEqual_object.mp equal
      exact .inl ⟨rfl, rfl⟩

/-- Of two equal values both are mappings, with equal entries under the same keys, or neither is. -/
theorem mapping?_among : (mapping? a = none ∧ mapping? b = none) ∨
    ∃ as bs own, mapping? a = some (as, own) ∧ mapping? b = some (bs, own) ∧ as.length = bs.length ∧
      ∀ entry ∈ as, ∃ y, bs.lookup entry.1 = some y ∧ exactlyEqual entry.2 y = true := by
  cases left with
  | null | unknown => rw [← eq_of_exactlyEqual (.inl rfl) equal]; exact .inl ⟨rfl, rfl⟩
  | bool | number | string => rw [← eq_of_exactlyEqual (.inr rfl) equal]; exact .inl ⟨rfl, rfl⟩
  | list =>
      obtain ⟨bs, rfl, -⟩ := exactlyEqual_list.mp equal
      exact .inl ⟨rfl, rfl⟩
  | set =>
      obtain ⟨bs, rfl, -⟩ := exactlyEqual_set.mp equal
      exact .inl ⟨rfl, rfl⟩
  | tuple =>
      obtain ⟨bs, rfl, -⟩ := exactlyEqual_tuple.mp equal
      exact .inl ⟨rfl, rfl⟩
  | @map element as =>
      obtain ⟨bs, rfl, length, among⟩ := exactlyEqual_map.mp equal
      exact .inr ⟨as, bs, some element, rfl, rfl, length, among⟩
  | @object as =>
      obtain ⟨bs, rfl, length, among⟩ := exactlyEqual_object.mp equal
      exact .inr ⟨as, bs, none, rfl, rfl, length, among⟩

end Parts

end Crosswalk.Value
