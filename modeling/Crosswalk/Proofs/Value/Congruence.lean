/-
Module: Crosswalk.Proofs.Value.Congruence
Purpose: Conversion of values that are exactly equal. Equal values may hold the members of their sets and
  the entries of their maps and objects in different orders. Conversions succeed for both or for neither,
  and with equal results, unless a set becomes a tuple or a list on the way and so shows its order.
Main exports: Value.SetBecomes, Value.Interchangeable, Value.convertTo_agrees, Value.convert_congr
-/
import Crosswalk.Proofs.Decimal.Writing
import Crosswalk.Proofs.Ty.Unification
import Crosswalk.Proofs.Value.Alike

namespace Crosswalk.Value

/-! ### Values that may stand for each other -/

/-- On the way to a type a set of two or more members is brought to the type asked about. -/
def SetBecomes (asked want : Ty) (value : Value) : Prop :=
  ∃ path element items, value.follow? path = some (.set element items) ∧ 2 ≤ items.length ∧
    want.follow? path = some asked

theorem SetBecomes.ofPart {asked want inner : Ty} {value part : Value} {step : Step}
    (becomes : SetBecomes asked inner part) (leads : want.part? step = some inner)
    (among : value.part? step = some part) : SetBecomes asked want value := by
  obtain ⟨path, element, items, isSet, several, reaches⟩ := becomes
  refine ⟨step :: path, element, items, ?_, several, ?_⟩
  · rw [follow?, List.foldlM_cons, among]
    exact isSet
  · rw [Ty.follow?, List.foldlM_cons, leads]
    exact reaches

/-- Well-formed values that are exactly equal, of which no set shows its order in a tuple or, where `exact`
    asks for equal results, in a list. -/
structure Interchangeable (exact : Prop) (want : Ty) (a b : Value) : Prop where
  left : a.WellFormed
  right : b.WellFormed
  equal : exactlyEqual a b = true
  tuples : ∀ wants, ¬ SetBecomes (.tuple wants) want a
  lists : exact → ∀ element, ¬ SetBecomes (.list element) want a

namespace Interchangeable

variable {exact : Prop} {a b : Value}

theorem part {want inner : Ty} {step : Step} {x y : Value} (given : Interchangeable exact want a b)
    (leads : want.part? step = some inner) (among : a.part? step = some x) (right : y.WellFormed)
    (equal : exactlyEqual x y = true) : Interchangeable exact inner x y where
  left := part?_wellFormed given.left among
  right := right
  equal := equal
  tuples wants becomes := given.tuples wants (becomes.ofPart leads among)
  lists isExact element becomes := given.lists isExact element (becomes.ofPart leads among)

theorem ordered_tuple {wants : List Ty} (given : Interchangeable exact (.tuple wants) a b) : a.Ordered := by
  rintro element items rfl
  by_contra several
  exact given.tuples wants ⟨[], element, items, rfl, not_lt.mp several, rfl⟩

theorem ordered_list {element : Ty} (given : Interchangeable exact (.list element) a b)
    (isExact : exact) : a.Ordered := by
  rintro own items rfl
  by_contra several
  exact given.lists isExact element ⟨[], own, items, rfl, not_lt.mp several, rfl⟩

end Interchangeable

/-! ### Conversions of alike parts -/

section Elements

variable {exact keeps : Prop} {Same : Step → Step → Prop} {la lb : Located}

/-- Conversions that agree on the elements of two collections are taken for each of them. -/
theorem convertEach_agrees {convertOne convertOther : Value → Outcome Value}
    (each : Arranged keeps (fun p q => Same p.1 q.1 ∧
      Outcome.Agrees (Alike exact) (convertOne p.2) (convertOther q.2)) la lb) :
    Outcome.Agrees (fun ra rb => ra.map Prod.fst = la.map Prod.fst ∧ rb.map Prod.fst = lb.map Prod.fst ∧
      Arranged keeps (Alike.Under Same exact) ra rb)
      (convertEach convertOne la) (convertEach convertOther lb) := by
  have arranged : Outcome.Agrees (Arranged keeps (Alike.Under Same exact))
      (convertEach convertOne la) (convertEach convertOther lb) := by
    apply Outcome.Agrees.mapM_arranged
    apply each.imp
    intro p _ q _ pair
    exact pair.2.under.map fun _ _ alike => ⟨pair.1, alike⟩
  apply arranged.imp
  intro ra rb one other related
  refine ⟨?_, ?_, related⟩
  · exact Outcome.keys_eq_of_forall₂ ((convertEach_eq_ok one).imp fun _ _ step => step.1)
  · exact Outcome.keys_eq_of_forall₂ ((convertEach_eq_ok other).imp fun _ _ step => step.1)

/-- Bringing alike elements to the type that they have in common with their siblings. An element of
    another type has no parts, so that alike ones are the same. -/
theorem settle_agrees {types : List Ty} {common : Ty} (found : Ty.unify types = some common)
    (outer : common.WellFormed) {a b : Value} (member : a.type ∈ types) (alike : Alike exact a b) :
    Outcome.Agrees (Alike exact) (settle common a) (settle common b) := by
  by_cases already : (common.isDynamic || a.type = common) = true
  · rw [settle, if_pos already, settle, if_pos (alike.type_eq ▸ already)]
    exact .ok alike
  · have leaf : a.isAbsent = true ∨ a.type.isPrimitive = true := by
      rcases Ty.eq_of_unify found member with dynamic | same | ⟨-, primitive⟩
      · left
        by_contra present
        exact type_ne_dynamic (Bool.eq_false_iff.mpr present) dynamic
      · simp [same] at already
      · exact .inr primitive
    obtain rfl := alike.leaf leaf
    exact .self fun result settled => .refl (settle_wellFormed outer alike.left settled)

/-- The elements of two collections after conversion: they have one type in common, and are alike in the
    places of the elements that they come from. -/
structure Gathered (keeps : Prop) (Same : Step → Step → Prop) (exact : Prop) (steps others : List Step)
    (r s : List Value × Ty) : Prop where
  common : r.2 = s.2
  outer : r.2.WellFormed
  length : r.1.length = steps.length
  lengthOther : s.1.length = others.length
  arranged : Arranged keeps (Alike.Under Same exact) (steps.zip r.1) (others.zip s.1)

theorem Gathered.ofLocated {common : Ty} (outer : common.WellFormed)
    (arranged : Arranged keeps (Alike.Under Same exact) la lb) :
    Gathered keeps Same exact (la.map Prod.fst) (lb.map Prod.fst)
      (la.map Prod.snd, common) (lb.map Prod.snd, common) where
  common := rfl
  outer := outer
  length := by simp
  lengthOther := by simp
  arranged := by
    have zipped (located : Located) : (located.map Prod.fst).zip (located.map Prod.snd) = located := by
      rw [← List.unzip_fst, ← List.unzip_snd, List.zip_unzip]
    rwa [zipped, zipped]

theorem Gathered.items {steps others : List Step} {r s : List Value × Ty}
    (gathered : Gathered keeps Same exact steps others r s) : Arranged keeps (Alike exact) r.1 s.1 := by
  have values := Alike.values gathered.arranged
  rwa [List.map_snd_zip gathered.length.le, List.map_snd_zip gathered.lengthOther.le] at values

theorem commonElements_agrees {element fallback : Ty} (outer : element.WellFormed)
    (empty : fallback.WellFormed) (arranged : Arranged keeps (Alike.Under Same exact) la lb) :
    Outcome.Agrees (Gathered keeps Same exact (la.map Prod.fst) (lb.map Prod.fst))
      (commonElements element fallback la) (commonElements element fallback lb) := by
  unfold commonElements
  split
  · exact .ok (.ofLocated outer arranged)
  · by_cases isEmpty : la = []
    · subst isEmpty
      obtain rfl : lb = [] := List.eq_nil_of_length_eq_zero arranged.length_eq.symm
      have nothing := Gathered.ofLocated empty arranged
      exact .ok nothing
    · have nonempty : lb ≠ [] := by
        rintro rfl
        exact isEmpty (List.eq_nil_of_length_eq_zero arranged.length_eq)
      have types : Ty.unify (la.map fun entry => entry.2.type) =
          Ty.unify (lb.map fun entry => entry.2.type) := by
        have values := Alike.mem_types (Alike.values arranged)
        rw [List.map_map, List.map_map] at values
        exact Ty.unify_congr fun ty _ => values ty
      simp only [List.isEmpty_iff, isEmpty, nonempty, if_false, ← types]
      split
      · exact .error _ _
      next common found =>
          have outer : common.WellFormed := by
            apply Ty.unify_wellFormed found
            refine List.forall_mem_map.mpr fun p member => ?_
            obtain ⟨q, -, -, alike⟩ := arranged.exists_right member
            exact alike.left.type
          have settled : Arranged keeps (fun p q => Same p.1 q.1 ∧
              Outcome.Agrees (Alike exact) (settle common p.2) (settle common q.2)) la lb := by
            apply arranged.imp
            intro p member q _ pair
            exact ⟨pair.1, settle_agrees found outer (List.mem_map_of_mem member) pair.2⟩
          apply (convertEach_agrees settled).bind
          intro ra rb related
          obtain ⟨steps, others, alike⟩ := related
          rw [← steps, ← others]
          exact .ok (.ofLocated outer alike)

/-- Two runs that convert the elements of collections, and go on with those and their common type. -/
theorem gather_agrees {element : Ty} {own : Option Ty} {α β : Type} {Wanted : α → β → Prop}
    {next : List Value × Ty → Outcome α} {other : List Value × Ty → Outcome β}
    (outer : element.WellFormed) (ownType : ∀ ty ∈ own, ty.WellFormed)
    (each : Arranged keeps (fun p q => Same p.1 q.1 ∧
      Outcome.Agrees (Alike exact) (convertTo element p.2) (convertTo element q.2)) la lb)
    (after : ∀ r s, Gathered keeps Same exact (la.map Prod.fst) (lb.map Prod.fst) r s →
      Outcome.Agrees Wanted (next r) (other s)) :
    Outcome.Agrees Wanted
      (convertEach (fun item => convertTo element item) la >>= fun converted =>
        commonElements element (fallbackType element own) converted >>= next)
      (convertEach (fun item => convertTo element item) lb >>= fun converted =>
        commonElements element (fallbackType element own) converted >>= other) := by
  apply (convertEach_agrees each).bind
  intro ca cb related
  obtain ⟨steps, others, alike⟩ := related
  have together := commonElements_agrees outer (fallbackType_wellFormed outer ownType) alike
  rw [steps, others] at together
  exact together.bind after

variable {steps others : List Step} {r s : List Value × Ty}

theorem listOf_agrees (gathered : Gathered keeps Same exact steps others r s) (ordered : exact → keeps) :
    Outcome.Agrees (Alike exact) (listOf r.1 (some r.2)) (listOf s.1 (some s.2)) := by
  rw [← gathered.common]
  apply (elementType_agrees (Alike.mem_types gathered.items) "list" r.2).map
  rintro _ _ ⟨rfl, rfl, fits, -⟩
  exact .list gathered.outer gathered.items ordered fits

theorem setOf_agrees (gathered : Gathered keeps Same exact steps others r s) :
    Outcome.Agrees (Alike exact) (setOf r.1 (some r.2)) (setOf s.1 (some s.2)) := by
  have types (ty : Ty) : ty ∈ (withoutRepeats r.1).map type ↔ ty ∈ (withoutRepeats s.1).map type := by
    rw [mem_types_withoutRepeats (Alike.left_of_mem gathered.items),
      mem_types_withoutRepeats (Alike.right_of_mem gathered.items)]
    exact Alike.mem_types gathered.items ty
  rw [← gathered.common]
  apply (elementType_agrees types "set" r.2).map
  rintro _ _ ⟨rfl, rfl, fits, fitsOther⟩
  exact .set gathered.outer gathered.items fits fitsOther

theorem mapOf_agrees {as bs : List (String × Value)} (nodup : (as.map Prod.fst).Nodup)
    (nodupOther : (bs.map Prod.fst).Nodup)
    (gathered : Gathered keeps Eq exact (as.map fun entry => Step.key entry.1)
      (bs.map fun entry => Step.key entry.1) r s) :
    Outcome.Agrees (Alike exact) (mapOf ((as.map Prod.fst).zip r.1) (some r.2))
      (mapOf ((bs.map Prod.fst).zip s.1) (some s.2)) := by
  have located (entries : List (String × Value)) (items : List Value) :
      (entries.map fun entry => Step.key entry.1).zip items =
        ((entries.map Prod.fst).zip items).map fun entry => (Step.key entry.1, entry.2) := by
    have keys : (entries.map fun entry => Step.key entry.1) = (entries.map Prod.fst).map Step.key := by
      rw [List.map_map]
      rfl
    rw [keys, List.zip_map_left]
    rfl
  have keysOf {entries : List (String × Value)} {items : List Value}
      (length : items.length = (entries.map fun entry => Step.key entry.1).length) :
      ((entries.map Prod.fst).zip items).map Prod.fst = entries.map Prod.fst :=
    List.map_fst_zip (by simpa using length.ge)
  have arranged : Arranged keeps (Alike.Under Eq exact) ((as.map Prod.fst).zip r.1)
      ((bs.map Prod.fst).zip s.1) := by
    have placed := gathered.arranged
    rw [located, located] at placed
    exact placed.of_map.imp fun p _ q _ pair => ⟨Step.key.inj pair.1, pair.2⟩
  have different : (((as.map Prod.fst).zip r.1).map Prod.fst).Nodup := by
    rwa [keysOf gathered.length]
  have differentOther : (((bs.map Prod.fst).zip s.1).map Prod.fst).Nodup := by
    rwa [keysOf gathered.lengthOther]
  unfold mapOf
  rw [← gathered.common, entriesOf_of_nodup different, entriesOf_of_nodup differentOther]
  apply (elementType_agrees (Alike.mem_types (Alike.values arranged)) "map" r.2).map
  rintro _ _ ⟨rfl, rfl, fits, -⟩
  exact .map gathered.outer arranged different differentOther fits

end Elements

/-! ### Structures of alike parts -/

theorem convertElements_agrees {exact : Prop} {Related : Step × Value → Step × Value → Prop}
    {wants : List Ty} {la lb : Located} (related : List.Forall₂ Related la lb)
    (each : ∀ (i : Nat) want p q, wants[i]? = some want → la[i]? = some p → q ∈ lb → Related p q →
      Outcome.Agrees (Alike exact) (convertTo want p.2) (convertTo want q.2)) :
    Outcome.Agrees (List.Forall₂ (Alike exact)) (convertElements wants la) (convertElements wants lb) := by
  induction related generalizing wants with
  | nil => cases wants <;> exact .ok .nil
  | @cons p q la lb first _ ih =>
      cases wants with
      | nil => exact .ok .nil
      | cons want wants =>
          apply (each 0 want p q rfl rfl List.mem_cons_self first).under.bind
          intro x y alike
          have rest := ih fun i want p q wanted inFirst inSecond =>
            each (i + 1) want p q wanted inFirst (List.mem_cons_of_mem _ inSecond)
          apply rest.bind
          intro xs ys others
          exact .ok (.cons alike others)

theorem convertAttributes_agrees {exact : Prop} {wants : List (String × Ty)}
    {as bs : List (String × Value)}
    (each : ∀ want ∈ wants, (as.lookup want.1 = none ∧ bs.lookup want.1 = none) ∨
      ∃ x y, as.lookup want.1 = some x ∧ bs.lookup want.1 = some y ∧
        Outcome.Agrees (Alike exact) (convertTo want.2 x) (convertTo want.2 y)) :
    Outcome.Agrees (List.Forall₂ (Alike.Under Eq exact)) (convertAttributes wants as)
      (convertAttributes wants bs) := by
  induction wants with
  | nil => exact .ok .nil
  | cons want wants ih =>
      obtain ⟨name, want⟩ := want
      unfold convertAttributes
      rcases each _ List.mem_cons_self with ⟨missing, other⟩ | ⟨x, y, found, other, agree⟩
      · rw [missing, other]
        exact .error _ _
      · rw [found, other]
        apply agree.under.bind
        intro x y alike
        apply (ih fun want member => each want (List.mem_cons_of_mem _ member)).bind
        intro xs ys rest
        exact .ok (.cons ⟨rfl, alike⟩ rest)

/-- Whether a mapping has an entry that the attributes do not provide for depends on its keys. -/
theorem unsupported?_congr {a b : Value} {as bs : List (String × Value)} {own : Option Ty}
    (parts : mapping? a = some (as, own)) (partsOther : mapping? b = some (bs, own))
    (keys : (as.map Prod.fst).Perm (bs.map Prod.fst)) (wants : List (String × Ty)) :
    unsupported? wants a = none ↔ unsupported? wants b = none := by
  cases a with
  | map element =>
      cases parts
      cases b with
      | map =>
          cases partsOther
          have byKey (entries : List (String × Value)) : unsupported? wants (.map element entries) = none ↔
              ∀ key ∈ entries.map Prod.fst, ¬ (Ty.attribute? wants key).isNone = true := by
            rw [unsupported?, Option.map_eq_none_iff, List.find?_eq_none, List.forall_mem_map]
          rw [byKey, byKey]
          simp only [keys.mem_iff]
      | _ => cases partsOther
  | object =>
      cases parts
      cases b with
      | object => simp [unsupported?]
      | _ => cases partsOther
  | _ => cases parts

/-! ### The conversion -/

section Equal

variable {exact : Prop} {want : Ty} {a b : Value} (left : a.WellFormed)
  (equal : exactlyEqual a b = true)
include left equal

/-- A conversion to primitive data succeeds for values without parts only. -/
theorem convertPrimitive_agrees :
    Outcome.Agrees (Alike exact) (convertPrimitive want a) (convertPrimitive want b) := by
  have sequences {value : Value} {parts : Located × Option Ty} (found : sequence? value = some parts) :
      convertPrimitive want value = mismatch want := by
    cases value <;> cases found <;> cases want <;> rfl
  have mappings {value : Value} {parts : List (String × Value) × Option Ty}
      (found : mapping? value = some parts) : convertPrimitive want value = mismatch want := by
    cases value <;> cases found <;> cases want <;> rfl
  rcases sequence?_arranged left equal with ⟨noItems, -⟩ | ⟨la, lb, own, parts, partsOther, -⟩
  · rcases mapping?_among left equal with ⟨noEntries, -⟩ | ⟨as, bs, own, parts, partsOther, -⟩
    · obtain rfl := eq_of_exactlyEqual (leaf_iff.mpr ⟨noItems, noEntries⟩) equal
      exact .self fun result converted => .refl (convertPrimitive_eq_ok converted).wellFormed
    · rw [mappings parts, mappings partsOther]
      exact .error _ _
  · rw [sequences parts, sequences partsOther]
    exact .error _ _

/-- Values that have the wanted type already, or have no data, convert alike. It remains to look at values
    with data of other types. -/
theorem convertTo_agrees_of_present (outer : want.WellFormed) (right : b.WellFormed)
    (others : want.isDynamic = false → a.isAbsent = false → b.isAbsent = false → a.type ≠ want →
      b.type ≠ want → Outcome.Agrees (Alike exact) (convertTo want a) (convertTo want b)) :
    Outcome.Agrees (Alike exact) (convertTo want a) (convertTo want b) := by
  have types := type_eq_of_exactlyEqual left right equal
  by_cases already : want.isDynamic = true ∨ a.type = want
  · have unchanged {value : Value} (already : want.isDynamic = true ∨ value.type = want) :
        convertTo want value = .ok value := by
      rw [convertTo.eq_def, if_pos (by simpa using already)]
    rw [unchanged already, unchanged (types ▸ already)]
    exact .ok (.ofEqual left right equal)
  · rw [not_or] at already
    by_cases absent : a.isAbsent = true ∨ b.isAbsent = true
    · obtain rfl : a = b := by
        rcases absent with absent | absent
        · exact eq_of_exactlyEqual (.inl absent) equal
        · exact (eq_of_exactlyEqual (.inl absent) (exactlyEqual_symm left equal)).symm
      exact .self fun result converted => .refl (convertTo_wellFormed outer left converted)
    · simp only [not_or, Bool.not_eq_true] at absent already
      exact others already.1 absent.1 absent.2 already.2 (types ▸ already.2)

end Equal

section Parts

variable {exact : Prop} {a b : Value}

/-- The steps to equal members of sets need have nothing in common. -/
def AnyStep (_ _ : Step) : Prop :=
  True

/-- Elements of equal sequences agree on a type wanted for all of them. -/
theorem elements_agree {want element : Ty} {la lb : Located} {own : Option Ty}
    (given : Interchangeable exact want a b)
    (ih : ∀ {x y : Value}, Interchangeable exact element x y →
      Outcome.Agrees (Alike exact) (convertTo element x) (convertTo element y))
    (leads : ∀ position, want.part? (.position position) = some element)
    (parts : sequence? a = some (la, own)) (partsOther : sequence? b = some (lb, own))
    (arranged : Arranged a.Ordered (fun p q => exactlyEqual p.2 q.2 = true) la lb) :
    Arranged a.Ordered (fun p q => AnyStep p.1 q.1 ∧
      Outcome.Agrees (Alike exact) (convertTo element p.2) (convertTo element q.2)) la lb := by
  apply arranged.imp
  intro p inFirst q inSecond same
  obtain ⟨position, isPosition, among⟩ := exists_position parts inFirst
  have right := (given.right.sequence? partsOther).1 q inSecond
  exact ⟨trivial, ih (given.part (isPosition ▸ leads position) among right same)⟩

/-- Entries of equal mappings agree on a type wanted for all of them. -/
theorem entries_agree {want element : Ty} {as bs : List (String × Value)} {own : Option Ty}
    (given : Interchangeable exact want a b)
    (ih : ∀ {x y : Value}, Interchangeable exact element x y →
      Outcome.Agrees (Alike exact) (convertTo element x) (convertTo element y))
    (leads : ∀ name, want.part? (.key name) = some element)
    (parts : mapping? a = some (as, own)) (partsOther : mapping? b = some (bs, own))
    (arranged : Arranged False (fun p q => p.1 = q.1 ∧ exactlyEqual p.2 q.2 = true) as bs) :
    Arranged False (fun p q => p.1 = q.1 ∧
        Outcome.Agrees (Alike exact) (convertTo element p.2) (convertTo element q.2))
      (as.map fun entry => (Step.key entry.1, entry.2)) (bs.map fun entry => (Step.key entry.1, entry.2)) := by
  have agree : Arranged False (fun p q => p.1 = q.1 ∧
      Outcome.Agrees (Alike exact) (convertTo element p.2) (convertTo element q.2)) as bs := by
    apply arranged.imp
    intro p inFirst q inSecond pair
    have among : a.part? (.key p.1) = some p.2 := by
      rw [(part?_of_mapping? parts p.1).2]
      exact lookup_of_mem (given.left.mapping? parts).1 inFirst
    have right := (given.right.mapping? partsOther).2.1 q inSecond
    exact ⟨pair.1, ih (given.part (leads p.1) among right pair.2)⟩
  exact agree.map fun _ _ pair => ⟨congrArg Step.key pair.1, pair.2⟩

/-- Elements of equal sequences in the same places agree on the types wanted there. -/
theorem positions_agree {wants : List Ty} {la lb : Located} {own : Option Ty}
    (given : Interchangeable exact (.tuple wants) a b)
    (ih : ∀ want ∈ wants, ∀ {x y : Value}, Interchangeable exact want x y →
      Outcome.Agrees (Alike exact) (convertTo want x) (convertTo want y))
    (parts : sequence? a = some (la, own)) (partsOther : sequence? b = some (lb, own))
    (related : List.Forall₂ (fun p q => exactlyEqual p.2 q.2 = true) la lb) :
    Outcome.Agrees (List.Forall₂ (Alike exact)) (convertElements wants la) (convertElements wants lb) := by
  apply convertElements_agrees related
  intro i want p q wanted inFirst inSecond same
  obtain ⟨isPosition, among⟩ := part?_of_sequence? parts inFirst
  have leads : (Ty.tuple wants).part? p.1 = some want := by
    rw [isPosition]
    exact (itemAt?_natCast wants i).trans wanted
  have right := (given.right.sequence? partsOther).1 q inSecond
  exact ih want (List.mem_of_getElem? wanted) (given.part leads among right same)

/-- Entries of equal mappings under the names of attributes agree on the types of these. -/
theorem attributes_agree {wants : List (String × Ty)} {as bs : List (String × Value)} {own : Option Ty}
    (given : Interchangeable exact (.object wants) a b) (sorted : Ty.Sorted wants)
    (ih : ∀ want ∈ wants, ∀ {x y : Value}, Interchangeable exact want.2 x y →
      Outcome.Agrees (Alike exact) (convertTo want.2 x) (convertTo want.2 y))
    (parts : mapping? a = some (as, own)) (partsOther : mapping? b = some (bs, own))
    (lookups : ∀ name, (as.lookup name = none ∧ bs.lookup name = none) ∨
      ∃ x y, as.lookup name = some x ∧ bs.lookup name = some y ∧ exactlyEqual x y = true) :
    Outcome.Agrees (List.Forall₂ (Alike.Under Eq exact)) (convertAttributes wants as)
      (convertAttributes wants bs) := by
  apply convertAttributes_agrees
  intro want member
  rcases lookups want.1 with missing | ⟨x, y, found, other, same⟩
  · exact .inl missing
  · right
    have leads : (Ty.object wants).part? (.attr want.1) = some want.2 :=
      lookup_of_mem sorted.nodup member
    have right := (given.right.mapping? partsOther).2.1 _ (mem_of_lookup other)
    have among := (part?_of_mapping? parts want.1).1.trans found
    exact ⟨x, y, found, other, ih want member (given.part leads among right same)⟩

end Parts

/-- Equal values convert alike. -/
theorem convertTo_agrees {exact : Prop} {want : Ty} (outer : want.WellFormed) {a b : Value}
    (given : Interchangeable exact want a b) :
    Outcome.Agrees (Alike exact) (convertTo want a) (convertTo want b) := by
  induction outer generalizing a b with
  | bool | number | string =>
      apply convertTo_agrees_of_present given.left given.equal (by constructor) given.right
      intro _ present presentOther differs differsOther
      rw [convertTo_primitive present differs rfl, convertTo_primitive presentOther differsOther rfl]
      exact convertPrimitive_agrees given.left given.equal
  | dynamic =>
      apply convertTo_agrees_of_present given.left given.equal .dynamic given.right
      exact fun static => nomatch static
  | list inner ih =>
      apply convertTo_agrees_of_present given.left given.equal (.list inner) given.right
      intro _ present presentOther differs differsOther
      rw [convertTo_list present differs, convertTo_list presentOther differsOther]
      rcases sequence?_arranged given.left given.equal with ⟨none, other⟩ |
        ⟨la, lb, own, parts, partsOther, arranged⟩
      · rw [none, other]
        exact .error _ _
      · rw [parts, partsOther]
        have each := elements_agree given ih (fun _ => rfl) parts partsOther arranged
        apply gather_agrees inner (given.left.sequence? parts).2 each
        exact fun r s gathered => listOf_agrees gathered given.ordered_list
  | set inner ih =>
      apply convertTo_agrees_of_present given.left given.equal (.set inner) given.right
      intro _ present presentOther differs differsOther
      rw [convertTo_set present differs, convertTo_set presentOther differsOther]
      rcases sequence?_arranged given.left given.equal with ⟨none, other⟩ |
        ⟨la, lb, own, parts, partsOther, arranged⟩
      · rw [none, other]
        exact .error _ _
      · rw [parts, partsOther]
        have each := elements_agree given ih (fun _ => rfl) parts partsOther arranged
        apply gather_agrees inner (given.left.sequence? parts).2 each
        exact fun r s gathered => setOf_agrees gathered
  | map inner ih =>
      apply convertTo_agrees_of_present given.left given.equal (.map inner) given.right
      intro _ present presentOther differs differsOther
      rw [convertTo_map present differs, convertTo_map presentOther differsOther]
      rcases mapping?_among given.left given.equal with ⟨none, other⟩ |
        ⟨as, bs, own, parts, partsOther, length, among⟩
      · rw [none, other]
        exact .error _ _
      · rw [parts, partsOther]
        obtain ⟨nodup, -, ownType⟩ := given.left.mapping? parts
        obtain ⟨nodupOther, -, -⟩ := given.right.mapping? partsOther
        have arranged := arranged_of_among length nodup among
        have each := entries_agree given ih (fun _ => rfl) parts partsOther arranged
        apply gather_agrees inner ownType each
        intro r s gathered
        rw [List.map_map, List.map_map] at gathered
        exact mapOf_agrees nodup nodupOther gathered
  | @object wants sorted inner ih =>
      apply convertTo_agrees_of_present given.left given.equal (.object sorted inner) given.right
      intro _ present presentOther differs differsOther
      rw [convertTo_object present differs, convertTo_object presentOther differsOther]
      rcases mapping?_among given.left given.equal with ⟨none, other⟩ |
        ⟨as, bs, own, parts, partsOther, length, among⟩
      · rw [none, other]
        exact .error _ _
      · rw [parts, partsOther]
        obtain ⟨nodup, -, -⟩ := given.left.mapping? parts
        have keys := perm_keys_of_among length nodup among
        have supported := unsupported?_congr parts partsOther keys wants
        have lookups := lookup_of_among length nodup among
        have attributes := attributes_agree given sorted ih parts partsOther lookups
        dsimp only
        cases refused : unsupported? wants a with
        | some key =>
            cases refusedOther : unsupported? wants b with
            | some other => exact .error _ _
            | none => simp [refused, refusedOther] at supported
        | none =>
            rw [supported.mp refused]
            have results : Outcome.Agrees (fun xs ys => List.Forall₂ (Alike.Under Eq exact) xs ys ∧
                (xs.map Prod.fst).Nodup) (convertAttributes wants as) (convertAttributes wants bs) :=
              attributes.imp fun xs ys one _ related =>
                ⟨related, keys_of_convertAttributes one ▸ sorted.nodup⟩
            exact results.map fun xs ys both => .object both.1 both.2
  | @tuple wants inner ih =>
      apply convertTo_agrees_of_present given.left given.equal (.tuple inner) given.right
      intro _ present presentOther differs differsOther
      rw [convertTo_tuple present differs, convertTo_tuple presentOther differsOther]
      rcases sequence?_arranged given.left given.equal with ⟨none, other⟩ |
        ⟨la, lb, own, parts, partsOther, arranged⟩
      · rw [none, other]
        exact .error _ _
      · rw [parts, partsOther]
        have related := arranged.forall₂ given.ordered_tuple
        have elements := positions_agree given ih parts partsOther related
        dsimp only
        rw [related.length_eq]
        split
        · exact elements.map fun _ _ alike => .tuple alike
        · exact .error _ _

/-- Values that are exactly equal convert to both results or to none, and the results have one type, unless
    a set of two or more members becomes a tuple. If none becomes a list either, then the results are equal.
    A number becomes the text of its digits as they are given, and the digits of one number are written alike
    however they are given: numbers convert alike whatever their sign, coefficient and exponent are. -/
theorem convert_congr {a b : Value} (left : a.WellFormed) (right : b.WellFormed)
    (equal : exactlyEqual a b = true) {want : Ty} (outer : want.WellFormed)
    (tuples : ∀ wants, ¬ SetBecomes (.tuple wants) want a) :
    Outcome.Agrees (fun x y => x.type = y.type ∧
        ((∀ element, ¬ SetBecomes (.list element) want a) → exactlyEqual x y = true))
      (a.convert want) (b.convert want) ∧
    (∀ numeral : Numeral, (number (.ofNumeral numeral)).convert .string =
      (numeral.write.mapError Fault.ofWriting).map ofText) ∧
    ∀ first second : Numeral, first.value = second.value →
      first.write = second.write ∧
        (number (.ofNumeral first)).convert want = (number (.ofNumeral second)).convert want := by
  refine ⟨?_, fun numeral => ?_, fun first second same => ?_⟩
  · have given : Interchangeable (∀ element, ¬ SetBecomes (.list element) want a) want a b :=
      ⟨left, right, equal, tuples, id⟩
    exact (convertTo_agrees outer given).imp fun _ _ _ _ alike => ⟨alike.type_eq, alike.equal⟩
  · rw [Numeral.write_eq_render]
    rfl
  · have decimal := Numeral.ofNumeral_eq_iff.mpr same
    exact ⟨by rw [Numeral.write_eq_render, Numeral.write_eq_render, decimal], by rw [decimal]⟩

/-- A set of two numbers. -/
def twoNumbers (first second : Decimal) : Value :=
  .set .number [.number first, .number second]

theorem twoNumbers_wellFormed {first second : Decimal} (differ : first ≠ second) :
    (twoNumbers first second).WellFormed := by
  refine .set .number ?_ ?_ ?_
  · simp [Fits, type]
  · exact List.pairwise_pair.mpr ⟨decide_eq_false differ, decide_eq_false differ.symm⟩
  · simpa using ⟨.number first, .number second⟩

/-- Inside a set of two numbers there are these numbers only. -/
theorem follow?_twoNumbers {first second : Decimal} {step : Step} {path : Path} {part : Value}
    (follows : (twoNumbers first second).follow? (step :: path) = some part) :
    part = .number first ∨ part = .number second := by
  rw [follow?, List.foldlM_cons] at follows
  obtain ⟨item, leads, follows⟩ := Option.bind_eq_some_iff.mp follows
  have member : item = .number first ∨ item = .number second := by
    cases step with
    | position index => exact List.mem_pair.mp (mem_of_itemAt? leads)
    | _ => cases leads
  rcases member with rfl | rfl
  · exact .inl (eq_of_follow? (fun step => by cases step <;> rfl) follows)
  · exact .inr (eq_of_follow? (fun step => by cases step <;> rfl) follows)

private def oneAmount : Decimal := .finite 1 0 (by decide)

private def twoAmount : Decimal := .finite 2 0 (by decide)

/-- Numbers in a set become texts in a set, in whatever order they were put in. -/
theorem convert_congr_twoNumbers :
    exactlyEqual (twoNumbers oneAmount twoAmount) (twoNumbers twoAmount oneAmount) = true ∧
      Outcome.Agrees (fun x y => x.type = y.type ∧
          ((∀ element, ¬ SetBecomes (.list element) (.set .string) (twoNumbers oneAmount twoAmount)) →
            exactlyEqual x y = true))
        ((twoNumbers oneAmount twoAmount).convert (.set .string))
        ((twoNumbers twoAmount oneAmount).convert (.set .string)) := by
  have equal : exactlyEqual (twoNumbers oneAmount twoAmount) (twoNumbers twoAmount oneAmount) = true := by
    decide
  have noTuple (wants : List Ty) :
      ¬ SetBecomes (.tuple wants) (.set .string) (twoNumbers oneAmount twoAmount) := by
    rintro ⟨path, element, items, isSet, -, reaches⟩
    cases path with
    | nil => cases reaches
    | cons step path => rcases follow?_twoNumbers isSet with same | same <;> cases same
  exact ⟨equal, (convert_congr (twoNumbers_wellFormed (by decide)) (twoNumbers_wellFormed (by decide))
    equal (.set .string) noTuple).1⟩

/-- The sets of the numbers 1 and 2, put in in either order, are equal, but the lists that they convert to are
    not. The sets of the texts true and x are equal, but only one converts to a truth value and a text. -/
theorem convert_shows_order :
    (∃ a b, setOf [.number oneAmount, .number twoAmount] none = .ok a ∧
      setOf [.number twoAmount, .number oneAmount] none = .ok b ∧ exactlyEqual a b = true ∧
      ∃ x y, a.convert (.list .number) = .ok x ∧ b.convert (.list .number) = .ok y ∧
        exactlyEqual x y = false) ∧
    ∃ a b, setOf [.string "true", .string "x"] none = .ok a ∧
      setOf [.string "x", .string "true"] none = .ok b ∧ exactlyEqual a b = true ∧
      (∃ x, a.convert (.tuple [.bool, .string]) = .ok x) ∧
      ∃ fault, b.convert (.tuple [.bool, .string]) = .error fault := by
  constructor
  · exact ⟨twoNumbers oneAmount twoAmount, twoNumbers twoAmount oneAmount, rfl, rfl, rfl, _, _, rfl, rfl, rfl⟩
  · exact ⟨_, _, rfl, rfl, rfl, ⟨_, rfl⟩, ⟨_, rfl⟩⟩

end Crosswalk.Value
