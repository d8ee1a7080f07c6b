/-
Module: Crosswalk.Proofs.Value.Conversion
Purpose: Conversion between structural types keeps values well-formed. `Converts` says once how a conversion
  can succeed, kind by kind; what a conversion preserves is proved from it by induction on the wanted type.
Main exports: Value.ComeTogether, Value.commonElements_eq_ok, Value.Converts, Value.converts_of_convertTo,
  Value.convertTo_wellFormed
-/
import Crosswalk.Proofs.Value.Construction
import Crosswalk.Value.Convert

namespace Crosswalk.Value

/-! ### Values without parts -/

/-- A null or unknown value stays what it is, or takes the wanted type where that has no dynamic part. -/
theorem convertAbsent_eq_ok {want : Ty} {value result : Value}
    (converted : convertAbsent want value = .ok result) :
    (want.hasDynamic = true ∧ result = value) ∨
      (want.hasDynamic = false ∧ result = if value.isKnown then .null want else .unknown want) := by
  unfold convertAbsent at converted
  split at converted
  · cases converted
  · split at converted
    next dynamic => exact .inl ⟨dynamic, (Except.ok.inj converted).symm⟩
    next static =>
        exact .inr ⟨Bool.eq_false_iff.mpr static, (Except.ok.inj converted).symm⟩

theorem convertAbsent_wellFormed {want : Ty} {value result : Value} (outer : want.WellFormed)
    (inner : value.WellFormed) (converted : convertAbsent want value = .ok result) :
    result.WellFormed := by
  rcases convertAbsent_eq_ok converted with ⟨-, rfl⟩ | ⟨-, rfl⟩
  · exact inner
  · split
    · exact .null outer
    · exact .unknown outer

/-- Data converted to a primitive type: a well-formed value of that type, with data. -/
structure PrimitiveOf (want : Ty) (result : Value) : Prop where
  wellFormed : result.WellFormed
  type_eq : result.type = want
  present : result.isAbsent = false

theorem convertPrimitive_eq_ok {want : Ty} {value result : Value}
    (converted : convertPrimitive want value = .ok result) : PrimitiveOf want result := by
  unfold convertPrimitive at converted
  split at converted
  next =>
      obtain ⟨text, -, rfl⟩ := Outcome.map_eq_ok.mp converted
      exact ⟨ofText_wellFormed text, rfl, rfl⟩
  next => exact Except.ok.inj converted ▸ ⟨ofText_wellFormed _, rfl, rfl⟩
  next =>
      split at converted
      · exact Except.ok.inj converted ▸ ⟨.number _, rfl, rfl⟩
      · cases converted
  next =>
      split at converted
      · exact Except.ok.inj converted ▸ ⟨.bool true, rfl, rfl⟩
      · split at converted
        · exact Except.ok.inj converted ▸ ⟨.bool false, rfl, rfl⟩
        · cases converted
  next => cases converted

theorem settle_wellFormed {common : Ty} {value result : Value} (outer : common.WellFormed)
    (inner : value.WellFormed) (settled : settle common value = .ok result) : result.WellFormed := by
  unfold settle at settled
  split at settled
  · exact Except.ok.inj settled ▸ inner
  · split at settled
    · exact convertAbsent_wellFormed outer inner settled
    · exact (convertPrimitive_eq_ok settled).wellFormed

/-! ### Parts of collections -/

/-- Each value is converted in its place. -/
theorem convertEach_eq_ok {convertOne : Value → Outcome Value} {located converted : Located}
    (each : convertEach convertOne located = .ok converted) :
    List.Forall₂ (fun before after => after.1 = before.1 ∧ convertOne before.2 = .ok after.2)
      located converted := by
  apply (Outcome.mapM_eq_ok.mp each).imp
  intro before after step
  obtain ⟨result, one, rfl⟩ := Outcome.map_eq_ok.mp step
  exact ⟨rfl, Outcome.under_eq_ok.mp one⟩

/-- The ways in which converted elements come together. At an element type without dynamic parts they do so
    as they are, and otherwise at the type that they have in common, to which each of them is brought. -/
inductive ComeTogether (element fallback : Ty) (converted : Located) : List Value → Ty → Prop
  | static (static : element.hasDynamic = false) :
      ComeTogether element fallback converted (converted.map Prod.snd) element
  | empty (dynamic : element.hasDynamic = true) (none : converted = []) :
      ComeTogether element fallback converted [] fallback
  | settled {common : Ty} {settled : Located} (dynamic : element.hasDynamic = true)
      (nonempty : converted ≠ [])
      (agreed : Ty.unify (converted.map fun entry => entry.2.type) = some common)
      (each : convertEach (settle common) converted = .ok settled) :
      ComeTogether element fallback converted (settled.map Prod.snd) common

theorem commonElements_eq_ok {element fallback common : Ty} {converted : Located} {items : List Value} :
    commonElements element fallback converted = .ok (items, common) ↔
      ComeTogether element fallback converted items common := by
  constructor
  · intro together
    unfold commonElements at together
    split at together
    next static =>
        obtain ⟨rfl, rfl⟩ := Prod.mk.inj (Except.ok.inj together)
        exact .static (by simpa using static)
    next dynamic =>
        have dynamic : element.hasDynamic = true := by simpa using dynamic
        split at together
        next none =>
            obtain ⟨rfl, rfl⟩ := Prod.mk.inj (Except.ok.inj together)
            exact .empty dynamic (List.isEmpty_iff.mp none)
        next nonempty =>
            split at together
            next => cases together
            next agreed =>
                obtain ⟨settled, each, done⟩ := Outcome.bind_eq_ok.mp together
                obtain ⟨rfl, rfl⟩ := Prod.mk.inj (Except.ok.inj done)
                exact .settled dynamic (mt List.isEmpty_iff.mpr nonempty) agreed each
  · intro together
    unfold commonElements
    cases together with
    | static static => simp [static]
    | empty dynamic none => simp [dynamic, none]
    | settled dynamic nonempty agreed each =>
        simp only [dynamic, Bool.not_true, Bool.false_eq_true, if_false, List.isEmpty_iff, nonempty, agreed]
        exact Outcome.bind_eq_ok.mpr ⟨_, each, rfl⟩

/-- The elements of a collection after conversion to an element type, and their common type. -/
def Collected (element : Ty) (own : Option Ty) (located : Located) (items : List Value)
    (common : Ty) : Prop :=
  ∃ converted, convertEach (fun item => convertTo element item) located = .ok converted ∧
    commonElements element (fallbackType element own) converted = .ok (items, common)

/-- Where the element type has no dynamic part, the elements are converted to it one by one. -/
theorem Collected.static {element common : Ty} {own : Option Ty} {located : Located}
    {items : List Value} (collected : Collected element own located items common)
    (static : element.hasDynamic = false) :
    common = element ∧
      List.Forall₂ (fun before item => convertTo element before.2 = .ok item) located items := by
  obtain ⟨converted, each, together⟩ := collected
  cases commonElements_eq_ok.mp together with
  | static =>
      refine ⟨rfl, List.forall₂_map_right_iff.mpr ?_⟩
      exact (convertEach_eq_ok each).imp fun _ _ step => step.2
  | empty dynamic | settled dynamic => cases static.symm.trans dynamic

/-- The common type and the elements of that type are well-formed where the converted elements are. -/
theorem commonElements_wellFormed {element fallback common : Ty} {converted : Located}
    {items : List Value} (outer : element.WellFormed) (empty : fallback.WellFormed)
    (inner : ∀ entry ∈ converted, entry.2.WellFormed)
    (together : commonElements element fallback converted = .ok (items, common)) :
    common.WellFormed ∧ ∀ item ∈ items, item.WellFormed := by
  cases commonElements_eq_ok.mp together with
  | static => exact ⟨outer, List.forall_mem_map.mpr inner⟩
  | empty => exact ⟨empty, List.forall_mem_nil _⟩
  | settled _ _ agreed each =>
      have common : common.WellFormed := by
        apply Ty.unify_wellFormed agreed
        exact List.forall_mem_map.mpr fun entry inConverted => (inner entry inConverted).type
      refine ⟨common, List.forall_mem_map.mpr fun after member => ?_⟩
      obtain ⟨before, inConverted, -, step⟩ :=
        Outcome.exists_of_forall₂ (convertEach_eq_ok each) member
      exact settle_wellFormed common (inner before inConverted) step

/-- The element type of an empty collection is well-formed where the wanted and its own one are. -/
theorem fallbackType_wellFormed {element : Ty} {own : Option Ty} (outer : element.WellFormed)
    (ownType : ∀ ty ∈ own, ty.WellFormed) : (fallbackType element own).WellFormed := by
  unfold fallbackType
  split
  · cases own with
    | none => exact outer
    | some ty => exact ownType ty rfl
  · exact outer

/-- Collected elements are well-formed where the conversion of each part keeps values well-formed. -/
theorem Collected.wellFormed {element common : Ty} {own : Option Ty} {located : Located}
    {items : List Value} (collected : Collected element own located items common)
    (outer : element.WellFormed) (ownType : ∀ ty ∈ own, ty.WellFormed)
    (step : ∀ before ∈ located, ∀ item, convertTo element before.2 = .ok item → item.WellFormed) :
    common.WellFormed ∧ ∀ item ∈ items, item.WellFormed := by
  obtain ⟨converted, each, together⟩ := collected
  apply commonElements_wellFormed outer (fallbackType_wellFormed outer ownType) _ together
  intro after member
  obtain ⟨before, inLocated, -, one⟩ := Outcome.exists_of_forall₂ (convertEach_eq_ok each) member
  exact step before inLocated after.2 one

/-! ### Parts of structures -/

/-- Each position takes the conversion of its element to its type. -/
theorem convertElements_eq_ok {wants : List Ty} {located : Located} {items : List Value}
    (converted : convertElements wants located = .ok items) :
    List.Forall₂ (fun part item => convertTo part.1 part.2.2 = .ok item) (wants.zip located) items := by
  induction wants generalizing located items with
  | nil =>
      cases located <;> cases converted <;> exact .nil
  | cons want wants ih =>
      cases located with
      | nil =>
          cases converted
          exact .nil
      | cons first rest =>
          obtain ⟨step, value⟩ := first
          obtain ⟨item, one, others⟩ := Outcome.bind_eq_ok.mp converted
          obtain ⟨items, later, done⟩ := Outcome.bind_eq_ok.mp others
          cases done
          exact .cons (Outcome.under_eq_ok.mp one) (ih later)

/-- Each attribute takes the conversion of the entry of its name to its type. -/
theorem convertAttributes_eq_ok {wants : List (String × Ty)} {entries result : List (String × Value)}
    (converted : convertAttributes wants entries = .ok result) :
    List.Forall₂ (fun want entry => entry.1 = want.1 ∧
      ∃ value, entries.lookup want.1 = some value ∧ convertTo want.2 value = .ok entry.2)
      wants result := by
  induction wants generalizing result with
  | nil =>
      cases converted
      exact .nil
  | cons want wants ih =>
      obtain ⟨name, want⟩ := want
      unfold convertAttributes at converted
      split at converted
      next => cases converted
      next value found =>
          obtain ⟨item, one, others⟩ := Outcome.bind_eq_ok.mp converted
          obtain ⟨items, later, done⟩ := Outcome.bind_eq_ok.mp others
          cases done
          exact .cons ⟨rfl, value, found, Outcome.under_eq_ok.mp one⟩ (ih later)

/-! ### How a conversion succeeds -/

/-- A value has its own type already. -/
theorem convertTo_type (value : Value) : convertTo value.type value = .ok value := by
  rw [convertTo.eq_def]
  simp

/-- Every value has the dynamic type already. -/
theorem convert_dynamic (value : Value) : value.convert .dynamic = .ok value := by
  rw [convert, convertTo.eq_def]
  rfl

/-- A null or unknown value of another type is converted without regard to the parts of the type. -/
theorem convertTo_of_absent {want : Ty} {value : Value} (differs : value.type ≠ want)
    (static : want.isDynamic = false) (absent : value.isAbsent = true) :
    convertTo want value = convertAbsent want value := by
  rw [convertTo.eq_def]
  simp [differs, static, absent]

section Present

variable {value : Value} (present : value.isAbsent = false)
include present

theorem convertTo_primitive {want : Ty} (differs : value.type ≠ want)
    (primitive : want.isPrimitive = true) : convertTo want value = convertPrimitive want value := by
  rw [convertTo.eq_def]
  cases want with
  | bool | number | string => simp [differs, present, Ty.isDynamic]
  | _ => cases primitive

theorem convertTo_list {element : Ty} (differs : value.type ≠ .list element) :
    convertTo (.list element) value =
      match sequence? value with
      | none => mismatch (.list element)
      | some (located, own) =>
        convertEach (fun item => convertTo element item) located >>= fun converted =>
          commonElements element (fallbackType element own) converted >>= fun result =>
            listOf result.1 (some result.2) := by
  exact (if_neg (by simp [Ty.isDynamic, differs])).trans (if_neg (by simp [present]))

theorem convertTo_set {element : Ty} (differs : value.type ≠ .set element) :
    convertTo (.set element) value =
      match sequence? value with
      | none => mismatch (.set element)
      | some (located, own) =>
        convertEach (fun item => convertTo element item) located >>= fun converted =>
          commonElements element (fallbackType element own) converted >>= fun result =>
            setOf result.1 (some result.2) := by
  exact (if_neg (by simp [Ty.isDynamic, differs])).trans (if_neg (by simp [present]))

theorem convertTo_map {element : Ty} (differs : value.type ≠ .map element) :
    convertTo (.map element) value =
      match mapping? value with
      | none => mismatch (.map element)
      | some (entries, own) =>
        convertEach (fun item => convertTo element item)
            (entries.map fun entry => (Step.key entry.1, entry.2)) >>= fun converted =>
          commonElements element (fallbackType element own) converted >>= fun result =>
            mapOf ((entries.map Prod.fst).zip result.1) (some result.2) := by
  exact (if_neg (by simp [Ty.isDynamic, differs])).trans (if_neg (by simp [present]))

theorem convertTo_tuple {wants : List Ty} (differs : value.type ≠ .tuple wants) :
    convertTo (.tuple wants) value =
      match sequence? value with
      | none => mismatch (.tuple wants)
      | some (located, _) =>
        if located.length = wants.length then Except.map .tuple (convertElements wants located)
        else .error (.conversion [] (.tupleLength wants.length)) := by
  exact (if_neg (by simp [Ty.isDynamic, differs])).trans (if_neg (by simp [present]))

theorem convertTo_object {wants : List (String × Ty)} (differs : value.type ≠ .object wants) :
    convertTo (.object wants) value =
      match mapping? value with
      | none => mismatch (.object wants)
      | some (entries, _) =>
        match unsupported? wants value with
        | some key => .error (.conversion [] (.unsupportedAttribute key))
        | none => Except.map .object (convertAttributes wants entries) := by
  exact (if_neg (by simp [Ty.isDynamic, differs])).trans (if_neg (by simp [present]))

end Present

/-- The ways in which a value is converted as a whole. -/
inductive ConvertsWhole (want : Ty) (value : Value) : Value → Prop
  | same (already : want = .dynamic ∨ value.type = want) : ConvertsWhole want value value
  | absent {result : Value} (absent : value.isAbsent = true)
      (converted : convertAbsent want value = .ok result) : ConvertsWhole want value result
  | primitive {result : Value} (present : value.isAbsent = false)
      (converted : convertPrimitive want value = .ok result) : ConvertsWhole want value result

/-- The ways in which a conversion can succeed. Conversions of the parts appear as the outcomes that they
    have. -/
inductive Converts : Ty → Value → Value → Prop
  | whole {want : Ty} {value result : Value} (whole : ConvertsWhole want value result) :
      Converts want value result
  | list {element common : Ty} {value result : Value} {own : Option Ty} {located : Located}
      {items : List Value} (present : value.isAbsent = false)
      (parts : sequence? value = some (located, own))
      (collected : Collected element own located items common)
      (built : listOf items (some common) = .ok result) : Converts (.list element) value result
  | set {element common : Ty} {value result : Value} {own : Option Ty} {located : Located}
      {items : List Value} (present : value.isAbsent = false)
      (parts : sequence? value = some (located, own))
      (collected : Collected element own located items common)
      (built : setOf items (some common) = .ok result) : Converts (.set element) value result
  | map {element common : Ty} {value result : Value} {own : Option Ty}
      {entries : List (String × Value)} {items : List Value} (present : value.isAbsent = false)
      (parts : mapping? value = some (entries, own))
      (collected : Collected element own (entries.map fun entry => (Step.key entry.1, entry.2))
        items common)
      (built : mapOf ((entries.map Prod.fst).zip items) (some common) = .ok result) :
      Converts (.map element) value result
  | tuple {wants : List Ty} {value : Value} {own : Option Ty} {located : Located}
      {items : List Value} (present : value.isAbsent = false)
      (parts : sequence? value = some (located, own)) (length : located.length = wants.length)
      (converted : convertElements wants located = .ok items) :
      Converts (.tuple wants) value (.tuple items)
  | object {wants : List (String × Ty)} {value : Value} {own : Option Ty}
      {entries result : List (String × Value)} (present : value.isAbsent = false)
      (parts : mapping? value = some (entries, own)) (supported : unsupported? wants value = none)
      (converted : convertAttributes wants entries = .ok result) :
      Converts (.object wants) value (.object result)

/-- Every successful conversion is one of these. -/
theorem converts_of_convertTo {want : Ty} {value result : Value}
    (converted : convertTo want value = .ok result) : Converts want value result := by
  unfold convertTo at converted
  split at converted
  next already =>
      cases converted
      rcases Bool.or_eq_true_iff.mp already with dynamic | same
      · exact .whole (.same (.inl (Ty.isDynamic_iff.mp dynamic)))
      · exact .whole (.same (.inr (of_decide_eq_true same)))
  next =>
      split at converted
      next absent => exact .whole (.absent absent converted)
      next present =>
          have present := Bool.eq_false_iff.mpr present
          cases want with
          | bool | number | string | dynamic => exact .whole (.primitive present converted)
          | list element =>
              cases parts : sequence? value with
              | none => simp [parts, mismatch] at converted
              | some found =>
                  simp only [parts, Outcome.bind_eq_ok] at converted
                  obtain ⟨each, converted, ⟨items, common⟩, together, built⟩ := converted
                  exact .list present parts ⟨each, converted, together⟩ built
          | set element =>
              cases parts : sequence? value with
              | none => simp [parts, mismatch] at converted
              | some found =>
                  simp only [parts, Outcome.bind_eq_ok] at converted
                  obtain ⟨each, converted, ⟨items, common⟩, together, built⟩ := converted
                  exact .set present parts ⟨each, converted, together⟩ built
          | map element =>
              cases parts : mapping? value with
              | none => simp [parts, mismatch] at converted
              | some found =>
                  simp only [parts, Outcome.bind_eq_ok] at converted
                  obtain ⟨each, converted, ⟨items, common⟩, together, built⟩ := converted
                  exact .map present parts ⟨each, converted, together⟩ built
          | tuple wants =>
              cases parts : sequence? value with
              | none => simp [parts, mismatch] at converted
              | some found =>
                  simp only [parts] at converted
                  split at converted
                  next length =>
                      obtain ⟨items, each, rfl⟩ := Outcome.map_eq_ok.mp converted
                      exact .tuple present parts length each
                  next => cases converted
          | object wants =>
              cases parts : mapping? value with
              | none => simp [parts, mismatch] at converted
              | some found =>
                  simp only [parts] at converted
                  split at converted
                  next => cases converted
                  next supported =>
                      obtain ⟨result, each, rfl⟩ := Outcome.map_eq_ok.mp converted
                      exact .object present parts supported each

/-! ### Well-formedness -/

theorem snd_atPositions (items : List Value) : (sequence?.atPositions items).map Prod.snd = items := by
  rw [sequence?.atPositions, List.map_map]
  exact List.zipIdx_map_fst 0 items

theorem mem_atPositions {items : List Value} {located : Step × Value}
    (member : located ∈ sequence?.atPositions items) : located.2 ∈ items := by
  obtain ⟨⟨item, i⟩, inItems, rfl⟩ := List.mem_map.mp member
  exact List.fst_mem_of_mem_zipIdx inItems

/-- The elements of a well-formed value and their own type are well-formed. -/
theorem WellFormed.sequence? {value : Value} {located : Located} {own : Option Ty}
    (wellFormed : value.WellFormed) (parts : sequence? value = some (located, own)) :
    (∀ entry ∈ located, entry.2.WellFormed) ∧ ∀ ty ∈ own, ty.WellFormed := by
  cases wellFormed with
  | list outer _ inner =>
      cases parts
      exact ⟨fun entry member => inner _ (mem_atPositions member),
        fun ty asked => Option.some.inj asked ▸ outer⟩
  | set outer _ _ inner =>
      cases parts
      exact ⟨fun entry member => inner _ (mem_atPositions member),
        fun ty asked => Option.some.inj asked ▸ outer⟩
  | tuple _ inner =>
      cases parts
      exact ⟨fun entry member => inner _ (mem_atPositions member), nofun⟩
  | _ => cases parts

/-- The entries of a well-formed value and their own type are well-formed. -/
theorem WellFormed.mapping? {value : Value} {entries : List (String × Value)} {own : Option Ty}
    (wellFormed : value.WellFormed) (parts : mapping? value = some (entries, own)) :
    (entries.map Prod.fst).Nodup ∧ (∀ entry ∈ entries, entry.2.WellFormed) ∧
      ∀ ty ∈ own, ty.WellFormed := by
  cases wellFormed with
  | map outer nodup _ inner =>
      cases parts
      exact ⟨nodup, inner, fun ty asked => Option.some.inj asked ▸ outer⟩
  | object nodup _ inner =>
      cases parts
      exact ⟨nodup, inner, nofun⟩
  | _ => cases parts

/-- The keys of a converted object are the names of the wanted attributes. -/
theorem keys_of_convertAttributes {wants : List (String × Ty)}
    {entries result : List (String × Value)}
    (converted : convertAttributes wants entries = .ok result) :
    result.map Prod.fst = wants.map Prod.fst :=
  Outcome.keys_eq_of_forall₂ ((convertAttributes_eq_ok converted).imp fun _ _ pair => pair.1)

theorem ConvertsWhole.wellFormed {want : Ty} {value result : Value}
    (whole : ConvertsWhole want value result) (outer : want.WellFormed) (inner : value.WellFormed) :
    result.WellFormed := by
  cases whole with
  | same => exact inner
  | absent _ converted => exact convertAbsent_wellFormed outer inner converted
  | primitive _ converted => exact (convertPrimitive_eq_ok converted).wellFormed

/-- The outcome of a conversion of a well-formed value to a well-formed type is well-formed. -/
theorem convertTo_wellFormed {want : Ty} {value result : Value} (outer : want.WellFormed)
    (inner : value.WellFormed) (converted : convertTo want value = .ok result) :
    result.WellFormed := by
  induction outer generalizing value result with
  | bool | number | string | dynamic =>
      cases converts_of_convertTo converted with
      | whole whole => exact whole.wellFormed (by constructor) inner
  | list outer ih =>
      cases converts_of_convertTo converted with
      | whole whole => exact whole.wellFormed (.list outer) inner
      | list _ parts collected built =>
          obtain ⟨elements, own⟩ := inner.sequence? parts
          obtain ⟨common, items⟩ := collected.wellFormed outer own
            fun before member item step => ih (elements before member) step
          exact listOf_wellFormed (fun ty asked => Option.some.inj asked ▸ common) items built
  | set outer ih =>
      cases converts_of_convertTo converted with
      | whole whole => exact whole.wellFormed (.set outer) inner
      | set _ parts collected built =>
          obtain ⟨elements, own⟩ := inner.sequence? parts
          obtain ⟨common, items⟩ := collected.wellFormed outer own
            fun before member item step => ih (elements before member) step
          exact setOf_wellFormed (fun ty asked => Option.some.inj asked ▸ common) items built
  | map outer ih =>
      cases converts_of_convertTo converted with
      | whole whole => exact whole.wellFormed (.map outer) inner
      | map _ parts collected built =>
          obtain ⟨-, elements, own⟩ := inner.mapping? parts
          obtain ⟨common, items⟩ := collected.wellFormed outer own <|
            List.forall_mem_map.mpr fun entry member item step => ih (elements entry member) step
          refine mapOf_wellFormed (fun ty asked => Option.some.inj asked ▸ common) ?_ built
          exact fun pair member => items _ (List.of_mem_zip member).2
  | object sorted outer ih =>
      cases converts_of_convertTo converted with
      | whole whole => exact whole.wellFormed (.object sorted outer) inner
      | object _ parts _ each =>
          obtain ⟨-, elements, -⟩ := inner.mapping? parts
          apply WellFormed.ofEntries (keys_of_convertAttributes each ▸ sorted.nodup)
          intro entry member
          obtain ⟨want, inWants, -, value, found, step⟩ :=
            Outcome.exists_of_forall₂ (convertAttributes_eq_ok each) member
          exact ih want inWants (elements _ (mem_of_lookup found)) step
  | tuple outer ih =>
      cases converts_of_convertTo converted with
      | whole whole => exact whole.wellFormed (.tuple outer) inner
      | tuple _ parts _ each =>
          obtain ⟨elements, -⟩ := inner.sequence? parts
          apply WellFormed.ofItems
          intro item member
          obtain ⟨part, inParts, step⟩ :=
            Outcome.exists_of_forall₂ (convertElements_eq_ok each) member
          obtain ⟨inWants, inElements⟩ := List.of_mem_zip inParts
          exact ih part.1 inWants (elements part.2 inElements) step

end Crosswalk.Value
