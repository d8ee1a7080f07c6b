/-
Module: Crosswalk.Proofs.Value.Failure
Purpose: How a conversion between structural types fails. `Fails` says it once: the value itself does not
  convert, a number in it cannot be written, a part does not convert to the type wanted for it, or the
  elements of a collection with a dynamic element type do not come together. Bringing converted elements to
  their common type never fails with a conversion failure of its own.
Main exports: Decimal.Unwritable, Value.Fails, Value.fails_of_convertTo, Value.fault_of_convertTo
-/
import Crosswalk.Proofs.Location

namespace Crosswalk

/-- The fault is one that conversions report. -/
def Fault.IsConversion (fault : Fault) : Prop :=
  ∃ path cause, fault = .conversion path cause

theorem Fault.isConversion_under {step : Step} {fault : Fault} :
    (fault.under step).IsConversion ↔ fault.IsConversion := by
  cases fault <;> simp [Fault.IsConversion, under, underPath]

theorem Fault.under_eq_conversion {step : Step} {fault : Fault} {path : Path} {cause : ConversionCause} :
    fault.under step = .conversion path cause ↔
      ∃ inner, path = step :: inner ∧ fault = .conversion inner cause := by
  cases fault <;> simp [under, underPath, eq_comm]

theorem Fault.ofWriting_not_isConversion (error : Decimal.WritingError) :
    ¬ (Fault.ofWriting error).IsConversion := by
  cases error <;> rintro ⟨_, _, ⟨⟩⟩

/-- An amount that cannot be written, and the fault that writing it ends with. -/
def Decimal.Unwritable (amount : Decimal) (fault : Fault) : Prop :=
  ∃ error, amount.render = .error error ∧ fault = .ofWriting error

theorem Decimal.Unwritable.fault_cases {amount : Decimal} {fault : Fault}
    (unwritable : amount.Unwritable fault) : fault = .exponentOverflow ∨ ∃ cause, fault = .invalid cause := by
  obtain ⟨_ | _, -, rfl⟩ := unwritable
  · exact .inr ⟨_, rfl⟩
  · exact .inl rfl

theorem Decimal.Unwritable.not_isConversion {amount : Decimal} {fault : Fault}
    (unwritable : amount.Unwritable fault) : ¬ fault.IsConversion := by
  obtain ⟨error, -, rfl⟩ := unwritable
  exact Fault.ofWriting_not_isConversion error

theorem Decimal.Unwritable.ne_endless {amount : Decimal} {fault : Fault} (unwritable : amount.Unwritable fault) :
    fault ≠ .endless := by
  obtain ⟨_ | _, -, rfl⟩ := unwritable <;> exact nofun

/-- The fault is the same seen from further out. -/
theorem Decimal.Unwritable.under_eq {amount : Decimal} {fault : Fault} (unwritable : amount.Unwritable fault)
    (step : Step) : fault.under step = fault := by
  obtain ⟨_ | _, -, rfl⟩ := unwritable <;> rfl

/-- An amount with a text can be written. -/
theorem Decimal.not_unwritable {amount : Decimal} {text : String} (written : amount.render = .ok text)
    (fault : Fault) : ¬ amount.Unwritable fault := by
  rintro ⟨error, failed, -⟩
  cases written.symm.trans failed

namespace Value

/-! ### Values without parts -/

theorem convertAbsent_eq_error {want : Ty} {value : Value} {fault : Fault}
    (failed : convertAbsent want value = .error fault) :
    value.type.canConvert want = false ∧ fault = .conversion [] (.required want) := by
  unfold convertAbsent at failed
  split at failed
  next refused => exact ⟨by simpa using refused, (Except.error.inj failed).symm⟩
  next => split at failed <;> cases failed

theorem convertPrimitive_eq_error {want : Ty} {value : Value} {fault : Fault}
    (failed : convertPrimitive want value = .error fault) :
    fault = .conversion [] (.required want) ∨
      ∃ amount, value = .number amount ∧ amount.Unwritable fault := by
  unfold convertPrimitive at failed
  split at failed
  next amount =>
      rw [Outcome.map_eq_error] at failed
      cases rendered : amount.render with
      | ok text => rw [rendered] at failed; cases failed
      | error error =>
          rw [rendered] at failed
          exact .inr ⟨amount, rfl, error, rendered, (Except.error.inj failed).symm⟩
  next => cases failed
  next =>
      split at failed
      · cases failed
      · exact .inl (Except.error.inj failed).symm
  next =>
      split at failed
      · cases failed
      · split at failed
        · cases failed
        · exact .inl (Except.error.inj failed).symm
  next => exact .inl (Except.error.inj failed).symm

/-- To a primitive type a value itself does not convert, or is a number that cannot be written. -/
theorem convertTo_primitive_eq_error {want : Ty} {value : Value} {fault : Fault}
    (primitive : want.isPrimitive = true) (failed : convertTo want value = .error fault) :
    fault = .conversion [] (.required want) ∨
      ∃ amount, value = .number amount ∧ amount.Unwritable fault := by
  rw [convertTo.eq_def] at failed
  split at failed
  · cases failed
  · split at failed
    · exact .inl (convertAbsent_eq_error failed).2
    · cases want with
      | bool | number | string => exact convertPrimitive_eq_error failed
      | _ => cases primitive

/-- A value with data converts to string if its type is primitive, or is a number that cannot be
    written. -/
theorem convertPrimitive_string {value : Value} (present : value.isAbsent = false)
    (primitive : value.type.isPrimitive = true) (different : value.type ≠ .string) {fault : Fault}
    (failed : convertPrimitive .string value = .error fault) :
    ∃ amount, value = .number amount ∧ amount.Unwritable fault := by
  cases value with
  | null | unknown => cases present
  | number amount =>
      rw [convertPrimitive, Outcome.map_eq_error] at failed
      cases rendered : amount.render with
      | ok text => rw [rendered] at failed; cases failed
      | error error =>
          rw [rendered] at failed
          exact ⟨amount, rfl, error, rendered, (Except.error.inj failed).symm⟩
  | bool => cases failed
  | string => exact absurd rfl different
  | _ => cases primitive

/-- The type of a value with data is not the dynamic one. -/
theorem type_ne_dynamic {value : Value} (present : value.isAbsent = false) : value.type ≠ .dynamic := by
  cases value with
  | null | unknown => cases present
  | _ => simp [type, Ty.objectOf]

/-- Bringing an element to the type that it has in common with its siblings fails only for a number that
    cannot be written, where that type is string. -/
theorem settle_eq_error {types : List Ty} {common : Ty} (found : Ty.unify types = some common)
    {value : Value} (member : value.type ∈ types) {fault : Fault}
    (failed : settle common value = .error fault) :
    common = .string ∧ ∃ amount, value = .number amount ∧ amount.Unwritable fault := by
  unfold settle at failed
  split at failed
  · cases failed
  next differs =>
      simp only [Bool.or_eq_true, decide_eq_true_eq, not_or] at differs
      have shared := Ty.eq_of_unify found member
      split at failed
      next absent =>
          obtain ⟨refused, -⟩ := convertAbsent_eq_error failed
          rcases shared with dynamic | same | ⟨rfl, primitive⟩
          · rw [dynamic, Ty.canConvert_dynamic] at refused
            cases refused
          · exact absurd same differs.2
          · generalize value.type = given at refused primitive
            cases given with
            | bool | number | string =>
                simp [Ty.canConvert, Ty.acceptsFrom] at refused
            | _ => cases primitive
      next present =>
          have present := Bool.eq_false_iff.mpr present
          rcases shared with dynamic | same | ⟨rfl, primitive⟩
          · exact absurd dynamic (type_ne_dynamic present)
          · exact absurd same differs.2
          · exact ⟨rfl, convertPrimitive_string present primitive differs.2 failed⟩

/-! ### Parts -/

/-- Every element of a sequence is the part at some position. -/
theorem exists_position {value : Value} {located : Located} {own : Option Ty}
    (parts : sequence? value = some (located, own)) {entry : Step × Value} (member : entry ∈ located) :
    ∃ position : Nat, entry.1 = .position position ∧ value.part? entry.1 = some entry.2 := by
  obtain ⟨position, found⟩ := List.getElem?_of_mem member
  exact ⟨position, part?_of_sequence? parts found⟩

theorem convertEach_eq_error {convertOne : Value → Outcome Value} {located : Located} {fault : Fault}
    (failed : convertEach convertOne located = .error fault) :
    ∃ entry ∈ located, ∃ inner, convertOne entry.2 = .error inner ∧ inner.under entry.1 = fault := by
  obtain ⟨entry, member, one⟩ := Outcome.exists_of_mapM_eq_error failed
  exact ⟨entry, member, Outcome.under_eq_error.mp (Outcome.map_eq_error.mp one)⟩

/-- Converted elements have no common type, or cannot be brought to it. -/
theorem commonElements_eq_error {element fallback : Ty} {converted : Located} {fault : Fault}
    (failed : commonElements element fallback converted = .error fault) :
    element.hasDynamic = true ∧
      (fault = .conversion [] .inconsistentTypes ∨ ¬ fault.IsConversion) := by
  unfold commonElements at failed
  split at failed
  · cases failed
  next dynamic =>
      refine ⟨by simpa using dynamic, ?_⟩
      split at failed
      · cases failed
      · split at failed
        · exact .inl (Except.error.inj failed).symm
        next common found =>
            right
            rcases Outcome.bind_eq_error.mp failed with failed | ⟨_, -, done⟩
            · obtain ⟨entry, member, inner, one, rfl⟩ := convertEach_eq_error failed
              obtain ⟨-, amount, -, unwritable⟩ := settle_eq_error found (List.mem_map_of_mem member) one
              exact mt Fault.isConversion_under.mp unwritable.not_isConversion
            · cases done

/-- Each position that fails does so as the element there for its type. -/
theorem convertElements_eq_error {wants : List Ty} {located : Located} {fault : Fault}
    (failed : convertElements wants located = .error fault) :
    ∃ position : Nat, ∃ want step item inner, wants[position]? = some want ∧
      located[position]? = some (step, item) ∧ convertTo want item = .error inner ∧
      inner.under step = fault := by
  induction wants generalizing located with
  | nil => cases located <;> cases failed
  | cons want wants ih =>
      cases located with
      | nil => cases failed
      | cons first rest =>
          obtain ⟨step, value⟩ := first
          rcases Outcome.bind_eq_error.mp failed with first | ⟨item, -, failed⟩
          · obtain ⟨inner, one, located⟩ := Outcome.under_eq_error.mp first
            exact ⟨0, want, step, value, inner, rfl, rfl, one, located⟩
          · rcases Outcome.bind_eq_error.mp failed with later | ⟨items, -, done⟩
            · obtain ⟨position, found⟩ := ih later
              exact ⟨position + 1, found⟩
            · cases done

/-- An attribute is missing, or fails as the entry of its name for its type. -/
theorem convertAttributes_eq_error {wants : List (String × Ty)} {entries : List (String × Value)}
    {fault : Fault} (failed : convertAttributes wants entries = .error fault) :
    (∃ name, fault = .conversion [] (.attributeRequired name)) ∨
      ∃ want ∈ wants, ∃ value inner, entries.lookup want.1 = some value ∧
        convertTo want.2 value = .error inner ∧ inner.under (.attr want.1) = fault := by
  induction wants with
  | nil => cases failed
  | cons want wants ih =>
      obtain ⟨name, ty⟩ := want
      unfold convertAttributes at failed
      split at failed
      next => exact .inl ⟨name, (Except.error.inj failed).symm⟩
      next value found =>
          rcases Outcome.bind_eq_error.mp failed with first | ⟨item, -, failed⟩
          · obtain ⟨inner, one, located⟩ := Outcome.under_eq_error.mp first
            exact .inr ⟨(name, ty), List.mem_cons_self, value, inner, found, one, located⟩
          · rcases Outcome.bind_eq_error.mp failed with later | ⟨items, -, done⟩
            · rcases ih later with missing | ⟨want, member, found⟩
              · exact .inl missing
              · exact .inr ⟨want, List.mem_cons_of_mem _ member, found⟩
            · cases done

/-! ### Refused elements

The constructors refuse only elements that do not fit, and not with a conversion failure. -/

private theorem elementType_refused {collection : String} {items : List Value} {common : Ty}
    {fault : Fault} (failed : elementType collection items (some common) = .error fault) :
    ¬ fault.IsConversion ∧ ¬ ∀ item ∈ items, Fits common item := by
  constructor
  · rintro ⟨path, cause, rfl⟩
    change elementType.check collection items common = _ at failed
    unfold elementType.check at failed
    split at failed <;> cases failed
  · intro fits
    have accepted : elementType collection items (some common) = .ok common :=
      elementType_check_eq_ok.mpr ⟨rfl, fits⟩
    cases accepted.symm.trans failed

theorem listOf_refused {items : List Value} {common : Ty} {fault : Fault}
    (failed : listOf items (some common) = .error fault) :
    ¬ fault.IsConversion ∧ ¬ ∀ item ∈ items, Fits common item :=
  elementType_refused (Outcome.map_eq_error.mp failed)

theorem setOf_refused {items : List Value} {common : Ty} {fault : Fault}
    (failed : setOf items (some common) = .error fault) :
    ¬ fault.IsConversion ∧ ¬ ∀ item ∈ items, Fits common item := by
  obtain ⟨other, misfit⟩ := elementType_refused (Outcome.map_eq_error.mp failed)
  exact ⟨other, fun fits => misfit fun item member => fits item (mem_of_mem_withoutRepeats member)⟩

theorem mapOf_refused {keys : List String} {items : List Value} {common : Ty} {fault : Fault}
    (failed : mapOf (keys.zip items) (some common) = .error fault) :
    ¬ fault.IsConversion ∧ ¬ ∀ item ∈ items, Fits common item := by
  obtain ⟨other, misfit⟩ := elementType_refused (Outcome.map_eq_error.mp failed)
  refine ⟨other, fun fits => misfit (List.forall_mem_map.mpr fun entry member => ?_)⟩
  exact fits _ (List.of_mem_zip (mem_of_mem_entriesOf member)).2

/-! ### How a conversion fails -/

/-- The ways in which a conversion can fail. Failures of the parts appear as the outcomes that they have. -/
inductive Fails (want : Ty) (value : Value) : Fault → Prop
  /-- The value itself does not convert. -/
  | own (cause : ConversionCause) : Fails want value (.conversion [] cause)
  /-- The value is a number that cannot be written. -/
  | unwritable {amount : Decimal} {fault : Fault} (isNumber : value = .number amount)
      (unwritable : amount.Unwritable fault) : Fails want value fault
  /-- A part does not convert to the type wanted for it. -/
  | part {step : Step} {part : Value} {asked : Ty} {fault : Fault}
      (leads : value.part? step = some part) (wanted : want.part? step = some asked)
      (failed : convertTo asked part = .error fault) : Fails want value (fault.under step)
  /-- Elements whose type is not determined cannot be put together. -/
  | undetermined {fault : Fault} (dynamic : want.hasDynamic = true)
      (other : ¬ fault.IsConversion) : Fails want value fault

/-- A collection fails at an element, or while its elements are put together. It does not refuse elements
    of its element type. -/
private theorem Fails.ofCollection {want element : Ty} {value : Value} {own : Option Ty}
    {located : Located} {fault : Fault} (build : List Value → Ty → Outcome Value)
    (outer : element.WellFormed) (dynamic : want.hasDynamic = element.hasDynamic)
    (inner : ∀ entry ∈ located, entry.2.WellFormed)
    (leads : ∀ entry ∈ located,
      value.part? entry.1 = some entry.2 ∧ want.part? entry.1 = some element)
    (refused : ∀ items common fault, build items common = .error fault →
      ¬ fault.IsConversion ∧ ¬ ∀ item ∈ items, Fits common item)
    (failed : (do
      let converted ← convertEach (fun item => convertTo element item) located
      let (items, common) ← commonElements element (fallbackType element own) converted
      build items common) = .error fault) : Fails want value fault := by
  rcases Outcome.bind_eq_error.mp failed with failed | ⟨converted, each, failed⟩
  · obtain ⟨entry, member, inside, one, rfl⟩ := convertEach_eq_error failed
    exact .part (leads entry member).1 (leads entry member).2 one
  · rcases Outcome.bind_eq_error.mp failed with failed | ⟨⟨items, common⟩, together, failed⟩
    · obtain ⟨undetermined, rfl | other⟩ := commonElements_eq_error failed
      · exact .own _
      · exact .undetermined (dynamic.trans undetermined) other
    · obtain ⟨other, misfit⟩ := refused items common fault failed
      cases static : element.hasDynamic with
      | true => exact .undetermined (dynamic.trans static) other
      | false =>
          have collected : Collected element own located items common := ⟨converted, each, together⟩
          obtain ⟨rfl, typed⟩ := collected.hasType static fun before member item step =>
            convertTo_hasType outer static (inner before member) step
          exact absurd (fun item member => .inr ((typed item member).type_eq outer)) misfit

/-- A list or set fails if the value is no sequence, or as a collection of its elements. -/
private theorem Fails.ofSequence {want element : Ty} {value : Value} {fault : Fault}
    (build : List Value → Ty → Outcome Value) (outer : element.WellFormed) (inner : value.WellFormed)
    (dynamic : want.hasDynamic = element.hasDynamic)
    (wanted : ∀ position : Nat, want.part? (.position position) = some element)
    (refused : ∀ items common fault, build items common = .error fault →
      ¬ fault.IsConversion ∧ ¬ ∀ item ∈ items, Fits common item)
    (failed : (match sequence? value with
      | none => mismatch want
      | some (located, given) => do
        let converted ← convertEach (fun item => convertTo element item) located
        let (items, common) ← commonElements element (fallbackType element given) converted
        build items common) = .error fault) : Fails want value fault := by
  cases parts : sequence? value with
  | none =>
      simp only [parts] at failed
      cases failed
      exact .own _
  | some found =>
      simp only [parts] at failed
      refine .ofCollection build outer dynamic (inner.sequence? parts).1 ?_ refused failed
      intro entry member
      obtain ⟨position, step, leads⟩ := exists_position parts member
      exact ⟨leads, step ▸ wanted position⟩

/-- Every failed conversion is one of these. -/
theorem fails_of_convertTo {want : Ty} {value : Value} {fault : Fault} (outer : want.WellFormed)
    (inner : value.WellFormed) (failed : convertTo want value = .error fault) :
    Fails want value fault := by
  unfold convertTo at failed
  split at failed
  next => cases failed
  next =>
      split at failed
      next => exact (convertAbsent_eq_error failed).2 ▸ .own _
      next =>
          cases outer with
          | bool | number | string | dynamic =>
              rcases convertPrimitive_eq_error failed with rfl | ⟨_, isNumber, unwritable⟩
              · exact .own _
              · exact .unwritable isNumber unwritable
          | @list element outer =>
              exact .ofSequence (fun items common => listOf items (some common)) outer inner rfl
                (fun _ => rfl) (fun _ _ _ => listOf_refused) failed
          | @set element outer =>
              exact .ofSequence (fun items common => setOf items (some common)) outer inner rfl
                (fun _ => rfl) (fun _ _ _ => setOf_refused) failed
          | @map element outer =>
              cases parts : mapping? value with
              | none =>
                  simp only [parts] at failed
                  cases failed
                  exact .own _
              | some found =>
                  obtain ⟨entries, own⟩ := found
                  obtain ⟨nodup, elements, -⟩ := inner.mapping? parts
                  simp only [parts] at failed
                  refine .ofCollection (fun items common =>
                    mapOf ((entries.map Prod.fst).zip items) (some common)) outer rfl
                    (List.forall_mem_map.mpr elements) (List.forall_mem_map.mpr ?_) ?_ failed
                  · intro entry member
                    exact ⟨(part?_of_mapping? parts entry.1).2.trans (lookup_of_mem nodup member), rfl⟩
                  · exact fun items common fault => mapOf_refused
          | @object wants sorted outer =>
              cases parts : mapping? value with
              | none =>
                  simp only [parts] at failed
                  cases failed
                  exact .own _
              | some found =>
                  simp only [parts] at failed
                  split at failed
                  next =>
                      cases failed
                      exact .own _
                  next =>
                      rcases convertAttributes_eq_error (Outcome.map_eq_error.mp failed) with
                        ⟨name, rfl⟩ | ⟨want, member, item, inside, found, one, rfl⟩
                      · exact .own _
                      · refine .part ((part?_of_mapping? parts want.1).1.trans found) ?_ one
                        exact lookup_of_mem sorted.nodup member
          | @tuple wants outer =>
              cases parts : sequence? value with
              | none =>
                  simp only [parts] at failed
                  cases failed
                  exact .own _
              | some found =>
                  simp only [parts] at failed
                  split at failed
                  next =>
                      obtain ⟨position, want, step, item, inside, wanted, placed, one, rfl⟩ :=
                        convertElements_eq_error (Outcome.map_eq_error.mp failed)
                      obtain ⟨rfl, leads⟩ := part?_of_sequence? parts placed
                      exact .part leads ((itemAt?_natCast wants position).trans wanted) one
                  next =>
                      cases failed
                      exact .own _

/-! ### Conversion to types without dynamic parts -/

/-- A conversion to a type without dynamic parts fails with a conversion failure, or meets a number that
    cannot be written. -/
theorem fault_of_convertTo {want : Ty} {value : Value} {fault : Fault} (outer : want.WellFormed)
    (static : want.hasDynamic = false) (inner : value.WellFormed)
    (failed : convertTo want value = .error fault) :
    fault.IsConversion ∨
      ∃ path amount, value.follow? path = some (.number amount) ∧ amount.Unwritable fault := by
  induction value using part?_induct generalizing want fault with
  | parts value ih =>
      cases fails_of_convertTo outer inner failed with
      | own cause => exact .inl ⟨[], cause, rfl⟩
      | unwritable isNumber unwritable => exact .inr ⟨[], _, congrArg some isNumber, unwritable⟩
      | undetermined dynamic => exact absurd (static.symm.trans dynamic) Bool.false_ne_true
      | @part step part asked inside leads wanted partFailed =>
          rcases Ty.part?_static static wanted with staticPart | rfl
          · rcases ih step part leads (Ty.part?_wellFormed outer wanted) staticPart
              (part?_wellFormed inner leads) partFailed with
              conversion | ⟨path, amount, found, unwritable⟩
            · exact .inl (Fault.isConversion_under.mpr conversion)
            · refine .inr ⟨step :: path, amount, (follow?_cons leads).trans found, ?_⟩
              exact (unwritable.under_eq step).symm ▸ unwritable
          · simp [convertTo, Ty.isDynamic] at partFailed

end Value

end Crosswalk
