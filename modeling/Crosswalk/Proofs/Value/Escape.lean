/-
Module: Crosswalk.Proofs.Value.Escape
Purpose: Conversions that do not fail as conversions do. Numbers that cannot be written as texts are one
  reason. The other one is a collection whose elements agree on a type with dynamic parts, while one of them
  has no data and has kept the dynamic type: the constructor of the collection then refuses that element.
Main exports: Value.FirstUnwritable, Value.gather_eq_error, Value.Determine, Value.Escapes,
  Value.convert_escapes_iff, Value.convert_refusesOwnElement
-/
import Crosswalk.Proofs.Value.Alike
import Crosswalk.Proofs.Value.Demands

namespace Crosswalk.Value

/-! ### Elements that keep another type -/

/-- Where the common type has dynamic parts, converted elements stay as they are. -/
theorem settle_of_hasDynamic {types : List Ty} {common : Ty} (found : Ty.unify types = some common)
    (dynamic : common.hasDynamic = true) {value : Value} (member : value.type ∈ types) :
    settle common value = .ok value := by
  unfold settle
  split
  · rfl
  next differs =>
      simp only [Bool.or_eq_true, decide_eq_true_eq, not_or] at differs
      rcases Ty.eq_of_unify found member with isDynamic | same | ⟨rfl, -⟩
      · cases absent : value.isAbsent with
        | true => simp [convertAbsent, isDynamic, Ty.canConvert_dynamic, dynamic]
        | false => exact absurd isDynamic (type_ne_dynamic absent)
      · exact absurd same differs.2
      · cases dynamic

/-- Otherwise they take the common type. -/
theorem type_of_settle {common : Ty} (static : common.hasDynamic = false) {value result : Value}
    (settled : settle common value = .ok result) : result.type = common := by
  unfold settle at settled
  split at settled
  next same =>
      obtain rfl := Except.ok.inj settled
      rcases Bool.or_eq_true_iff.mp same with dynamic | typed
      · rw [Ty.isDynamic_iff.mp dynamic] at static
        cases static
      · exact of_decide_eq_true typed
  next =>
      split at settled
      · rcases convertAbsent_eq_ok settled with ⟨dynamic, -⟩ | ⟨-, rfl⟩
        · cases static.symm.trans dynamic
        · split <;> rfl
      · exact (convertPrimitive_eq_ok settled).type_eq

/-- A number that cannot be written does not become a text. -/
theorem convertPrimitive_unwritable {amount : Decimal} {fault : Fault} (unwritable : amount.Unwritable fault) :
    convertPrimitive .string (.number amount) = .error fault := by
  obtain ⟨error, failed, rfl⟩ := unwritable
  rw [convertPrimitive, failed]
  rfl

/-- The first number among the items that cannot be written, and the fault that writing it ends with. -/
def FirstUnwritable (items : List Value) (fault : Fault) : Prop :=
  ∃ before amount after, items = before ++ .number amount :: after ∧
    (∀ earlier, .number earlier ∈ before → ∃ text, earlier.render = .ok text) ∧ amount.Unwritable fault

section Settled

variable {located : Located} {common : Ty}
  (found : Ty.unify (located.map fun entry => entry.2.type) = some common)
include found

theorem convertEach_settle_of_hasDynamic (dynamic : common.hasDynamic = true) :
    convertEach (settle common) located = .ok located := by
  refine Outcome.mapM_eq_ok.mpr (List.forall₂_same.mpr fun entry member => ?_)
  have unchanged := settle_of_hasDynamic found dynamic (List.mem_map_of_mem member)
  exact Outcome.map_eq_ok.mpr ⟨entry.2, Outcome.under_eq_ok.mpr unchanged, rfl⟩

/-- Converted elements cannot be brought to their common type where a number among them cannot be written. -/
theorem convertEach_settle_eq_error {fault : Fault} :
    convertEach (settle common) located = .error fault ↔
      common = .string ∧ FirstUnwritable (located.map Prod.snd) fault := by
  rw [convertEach, Outcome.mapM_eq_error]
  constructor
  · rintro ⟨before, entry, after, rfl, earlier, failed⟩
    obtain ⟨inner, one, rfl⟩ := Outcome.under_eq_error.mp (Outcome.map_eq_error.mp failed)
    obtain ⟨rfl, amount, isNumber, unwritable⟩ := settle_eq_error found (by simp) one
    refine ⟨rfl, before.map Prod.snd, amount, after.map Prod.snd, by simp [isNumber], ?_, ?_⟩
    · intro number member
      obtain ⟨other, inBefore, isOther⟩ := List.mem_map.mp member
      obtain ⟨_, settled⟩ := earlier other inBefore
      obtain ⟨_, one, -⟩ := Outcome.map_eq_ok.mp settled
      have written : convertPrimitive .string (.number number) = .ok _ := isOther ▸ Outcome.under_eq_ok.mp one
      cases rendered : number.render with
      | ok text => exact ⟨text, rfl⟩
      | error error =>
          cases (convertPrimitive_unwritable ⟨error, rendered, rfl⟩).symm.trans written
    · exact (unwritable.under_eq entry.1).symm ▸ unwritable
  · rintro ⟨rfl, before, amount, after, split, earlier, unwritable⟩
    obtain ⟨front, rest, rfl, rfl, later⟩ := List.map_eq_append_iff.mp split
    obtain ⟨entry, back, rfl, isNumber, rfl⟩ := List.map_eq_cons_iff.mp later
    refine ⟨front, entry, back, rfl, fun other inFront => ?_, ?_⟩
    · cases settled : settle .string other.2 with
      | ok result => exact ⟨_, Outcome.map_eq_ok.mpr ⟨result, Outcome.under_eq_ok.mpr settled, rfl⟩⟩
      | error fault =>
          obtain ⟨-, number, isOther, other⟩ := settle_eq_error found (List.mem_map_of_mem (by simp [inFront])) settled
          obtain ⟨text, written⟩ := earlier number (isOther ▸ List.mem_map_of_mem inFront)
          exact absurd other (Decimal.not_unwritable written fault)
    · have failed : settle .string entry.2 = .error fault := by
        rw [isNumber]
        exact convertPrimitive_unwritable unwritable
      exact Outcome.map_eq_error.mpr (Outcome.under_eq_error.mpr ⟨fault, failed, unwritable.under_eq entry.1⟩)

end Settled

/-! ### Collections of converted elements -/

/-- A constructor of collections with so many elements refuses elements of the dynamic type, unless that is
    the element type. -/
def RefusesDynamic (word : String) (count : Nat) (build : List Value × Ty → Outcome Value) : Prop :=
  ∀ items common fault, items.length = count → (∀ item ∈ items, item.WellFormed) →
    (∀ item ∈ items, item.type = common ∨ item.type = .dynamic) →
    (build (items, common) = .error fault ↔ common ≠ .dynamic ∧ (∃ item ∈ items, item.type = .dynamic) ∧
      fault = .invalid (.elementMismatch word .dynamic common))

theorem elementType_refusesDynamic (word : String) {items : List Value} {common : Ty} {fault : Fault}
    (types : ∀ item ∈ items, item.type = common ∨ item.type = .dynamic) :
    elementType word items (some common) = .error fault ↔
      common ≠ .dynamic ∧ (∃ item ∈ items, item.type = .dynamic) ∧
        fault = .invalid (.elementMismatch word .dynamic common) := by
  change elementType.check word items common = _ ↔ _
  unfold elementType.check
  split
  next item found =>
      have misfit := List.find?_some found
      have member := List.mem_of_find?_eq_some found
      simp only [ne_eq, Bool.and_eq_true, decide_eq_true_eq, Bool.not_eq_true'] at misfit
      have isDynamic := (types item member).resolve_left misfit.1
      rw [isDynamic]
      constructor
      · rintro ⟨⟩
        exact ⟨fun same => misfit.1 (isDynamic.trans same.symm), ⟨item, member, isDynamic⟩, rfl⟩
      · rintro ⟨-, -, rfl⟩
        rfl
  next none =>
      constructor
      · intro failed
        cases failed
      · rintro ⟨determined, ⟨item, member, isDynamic⟩, -⟩
        have fits := List.find?_eq_none.mp none item member
        simp only [isDynamic, ne_eq, determined.symm, not_false_eq_true, decide_true, Bool.true_and,
          Bool.not_eq_true', Bool.not_eq_false, Ty.isDynamic_iff] at fits
        exact absurd fits determined

theorem listOf_refusesDynamic (count : Nat) :
    RefusesDynamic "list" count fun result => listOf result.1 (some result.2) := by
  intro items common fault _ _ types
  exact Outcome.map_eq_error.trans (elementType_refusesDynamic "list" types)

theorem setOf_refusesDynamic (count : Nat) :
    RefusesDynamic "set" count fun result => setOf result.1 (some result.2) := by
  intro items common fault _ inner types
  have members := mem_types_withoutRepeats inner .dynamic
  rw [List.mem_map, List.mem_map] at members
  rw [← members]
  refine Outcome.map_eq_error.trans (elementType_refusesDynamic "set" fun item member => ?_)
  exact types item (mem_of_mem_withoutRepeats member)

theorem mapOf_refusesDynamic {keys : List String} (nodup : keys.Nodup) :
    RefusesDynamic "map" keys.length fun result => mapOf (keys.zip result.1) (some result.2) := by
  intro items common fault length _ types
  have keysOf : (keys.zip items).map Prod.fst = keys := List.map_fst_zip length.ge
  have valuesOf : (keys.zip items).map Prod.snd = items := List.map_snd_zip length.le
  have made : entriesOf (keys.zip items) = keys.zip items := entriesOf_of_nodup (keysOf.symm ▸ nodup)
  simp only [mapOf, made, valuesOf]
  exact Outcome.map_eq_error.trans (elementType_refusesDynamic "map" types)

/-- Elements that have all been brought to a common type without dynamic parts are not refused. -/
theorem accepts_settled {located settled : Located} {common : Ty} {word : String}
    {build : List Value × Ty → Outcome Value} (inner : ∀ entry ∈ located, entry.2.WellFormed)
    (refuses : RefusesDynamic word located.length build)
    (found : Ty.unify (located.map fun entry => entry.2.type) = some common)
    (static : common.hasDynamic = false) (each : convertEach (settle common) located = .ok settled)
    (fault : Fault) : build (settled.map Prod.snd, common) ≠ .error fault := by
  intro failed
  have outer : common.WellFormed := by
    refine Ty.unify_wellFormed found (List.forall_mem_map.mpr fun entry member => ?_)
    exact (inner entry member).type
  have related := convertEach_eq_ok each
  have typed : ∀ item ∈ settled.map Prod.snd, item.WellFormed ∧ item.type = common := by
    refine List.forall_mem_map.mpr fun after member => ?_
    obtain ⟨before, inLocated, -, one⟩ := Outcome.exists_of_forall₂ related member
    exact ⟨settle_wellFormed outer (inner before inLocated) one, type_of_settle static one⟩
  have length : (settled.map Prod.snd).length = located.length := by
    rw [List.length_map, related.length_eq]
  have refused := refuses _ common fault length (fun item member => (typed item member).1)
    fun item member => .inl (typed item member).2
  obtain ⟨determined, ⟨item, member, isDynamic⟩, -⟩ := refused.mp failed
  exact determined ((typed item member).2.symm.trans isDynamic)

/-- How converted elements fail to come together where their type is left to them. They have no common type,
    or one of them is a number that cannot be written among texts, or one of them keeps the dynamic type
    while others determine a type with dynamic parts. -/
theorem gather_eq_error {element fallback : Ty} {located : Located} {word : String}
    {build : List Value × Ty → Outcome Value} (dynamic : element.hasDynamic = true)
    (inner : ∀ entry ∈ located, entry.2.WellFormed) (refuses : RefusesDynamic word located.length build)
    {fault : Fault} :
    (commonElements element fallback located >>= build) = .error fault ↔
      (Ty.unify ((located.map Prod.snd).map type) = none ∧ fault = .conversion [] .inconsistentTypes) ∨
      (Ty.unify ((located.map Prod.snd).map type) = some .string ∧
        FirstUnwritable (located.map Prod.snd) fault) ∨
      ∃ common, Ty.unify ((located.map Prod.snd).map type) = some common ∧ common.hasDynamic = true ∧
        common ≠ .dynamic ∧ (∃ item ∈ located.map Prod.snd, item.type = .dynamic) ∧
        fault = .invalid (.elementMismatch word .dynamic common) := by
  have types : (located.map Prod.snd).map type = located.map fun entry => entry.2.type := by
    rw [List.map_map]
    rfl
  rw [types]
  simp only [commonElements, dynamic, Bool.not_true, Bool.false_eq_true, if_false]
  split
  next none =>
      obtain rfl := List.isEmpty_iff.mp none
      have refused := refuses [] fallback fault rfl (List.forall_mem_nil _) (List.forall_mem_nil _)
      have empty : Ty.unify [] = some .dynamic := rfl
      refine refused.trans ?_
      simp [empty]
  next =>
      cases found : Ty.unify (located.map fun entry => entry.2.type) with
      | none =>
          change Except.error (Fault.conversion [] .inconsistentTypes) = _ ↔ _
          simp [eq_comm (b := fault)]
      | some common =>
          have shared : ∀ item ∈ located.map Prod.snd, common.hasDynamic = true →
              item.type = common ∨ item.type = .dynamic := by
            refine List.forall_mem_map.mpr fun entry member dynamicCommon => ?_
            rcases Ty.eq_of_unify found (List.mem_map_of_mem member) with isDynamic | same | ⟨rfl, -⟩
            · exact .inr isDynamic
            · exact .inl same
            · cases dynamicCommon
          simp only [reduceCtorEq, false_and, false_or, Option.some.injEq]
          cases dynamicCommon : common.hasDynamic with
          | true =>
              rw [convertEach_settle_of_hasDynamic found dynamicCommon]
              have refused := refuses (located.map Prod.snd) common fault (List.length_map _)
                (List.forall_mem_map.mpr inner) fun item member => shared item member dynamicCommon
              refine refused.trans ?_
              constructor
              · intro clash
                exact .inr ⟨common, rfl, dynamicCommon, clash⟩
              · rintro (⟨rfl, -⟩ | ⟨_, rfl, -, clash⟩)
                · cases dynamicCommon
                · exact clash
          | false =>
              have failing := @convertEach_settle_eq_error located common found fault
              constructor
              · intro failed
                rcases Outcome.bind_eq_error.mp failed with failed | ⟨result, together, failed⟩
                · rcases Outcome.bind_eq_error.mp failed with failed | ⟨_, -, done⟩
                  · exact .inl (failing.mp failed)
                  · cases done
                · obtain ⟨settled, each, done⟩ := Outcome.bind_eq_ok.mp together
                  obtain rfl := Except.ok.inj done
                  exact absurd failed (accepts_settled inner refuses found dynamicCommon each fault)
              · rintro (unwritable | ⟨_, rfl, dynamic, -⟩)
                · rw [failing.mpr unwritable]
                  rfl
                · cases dynamicCommon.symm.trans dynamic

/-! ### Assembled collections -/

/-- A collection is asked for as many parts as it has, and its converted parts are brought together by its
    constructor. A value of another kind is asked for none, and refused. -/
theorem assemble_collection {want element : Ty} {word : String} {value : Value} {results : List Value}
    (collection : want.collection? = some (word, element)) (inner : value.WellFormed)
    (length : (demands want value).length = results.length) :
    (demands want value = [] ∧ assemble want value results = mismatch want) ∨
      ∃ fallback located build, located.map Prod.snd = results ∧ RefusesDynamic word located.length build ∧
        assemble want value results = commonElements element fallback located >>= build := by
  cases want with
  | list given =>
      obtain ⟨rfl, rfl⟩ := Prod.mk.inj (Option.some.inj collection)
      cases parts : sequence? value with
      | none => exact .inl ⟨by simp only [demands, parts], by simp only [assemble, parts]⟩
      | some found =>
          simp only [demands, parts, elementDemands, List.length_map] at length
          have values : ((found.1.map Prod.fst).zip results).map Prod.snd = results :=
            List.map_snd_zip (by simp [length])
          exact .inr ⟨fallbackType given found.2, _, _, values, listOf_refusesDynamic _,
            by simp only [assemble, parts]⟩
  | set given =>
      obtain ⟨rfl, rfl⟩ := Prod.mk.inj (Option.some.inj collection)
      cases parts : sequence? value with
      | none => exact .inl ⟨by simp only [demands, parts], by simp only [assemble, parts]⟩
      | some found =>
          simp only [demands, parts, elementDemands, List.length_map] at length
          have values : ((found.1.map Prod.fst).zip results).map Prod.snd = results :=
            List.map_snd_zip (by simp [length])
          exact .inr ⟨fallbackType given found.2, _, _, values, setOf_refusesDynamic _,
            by simp only [assemble, parts]⟩
  | map given =>
      obtain ⟨rfl, rfl⟩ := Prod.mk.inj (Option.some.inj collection)
      cases parts : mapping? value with
      | none => exact .inl ⟨by simp only [demands, parts], by simp only [assemble, parts]⟩
      | some found =>
          simp only [demands, parts, elementDemands, List.length_map] at length
          have values : ((found.1.map fun entry => Step.key entry.1).zip results).map Prod.snd = results :=
            List.map_snd_zip (by simp [length])
          have refuses := mapOf_refusesDynamic (inner.mapping? parts).1
          rw [List.length_map, length, ← values, List.length_map] at refuses
          exact .inr ⟨fallbackType given found.2, _, _, values, refuses, by simp only [assemble, parts]⟩
  | _ => cases collection

/-- A structure is assembled or fails as a conversion. -/
theorem isConversion_of_assemble {want : Ty} {value : Value} {results : List Value} {fault : Fault}
    (structural : want.kind = .structural) (failed : assemble want value results = .error fault) :
    fault.IsConversion := by
  cases want with
  | tuple wants =>
      simp only [assemble] at failed
      split at failed
      · exact ⟨_, _, (Except.error.inj failed).symm⟩
      · split at failed
        · cases failed
        · exact ⟨_, _, (Except.error.inj failed).symm⟩
  | object wants =>
      simp only [assemble] at failed
      split at failed
      · exact ⟨_, _, (Except.error.inj failed).symm⟩
      · split at failed
        · exact ⟨_, _, (Except.error.inj failed).symm⟩
        · split at failed
          · exact ⟨_, _, (Except.error.inj failed).symm⟩
          · cases failed
  | _ => cases structural

/-! ### Conversions that do not fail as such -/

/-- Converted parts of a collection whose type is left to them, and the type that they determine. -/
structure Determine (word : String) (want : Ty) (value : Value) (results : List Value) (common : Ty) :
    Prop where
  differs : value.type ≠ want
  collection : ∃ element, want.collection? = some (word, element) ∧ element.hasDynamic = true
  each : List.Forall₂ (fun demand item => convertTo demand.asked demand.part = .ok item)
    (demands want value) results
  agreed : Ty.unify (results.map type) = some common

/-- The faults with which a conversion to a type fails otherwise than as a conversion. -/
inductive Escapes : Ty → Value → Fault → Prop
  /-- A number that cannot be written is wanted as a text. -/
  | unwritable {amount : Decimal} {fault : Fault} (unwritable : amount.Unwritable fault) :
      Escapes .string (.number amount) fault
  /-- The first part that does not convert fails like that. -/
  | part {want : Ty} {value : Value} {demand : Demand} {before after : List Demand} {fault : Fault}
      (differs : value.type ≠ want) (asked : demands want value = before ++ demand :: after)
      (earlier : ∀ other ∈ before, ∃ item, convertTo other.asked other.part = .ok item)
      (escapes : Escapes demand.asked demand.part fault) : Escapes want value fault
  /-- The elements are to be texts together, and one of them is a number that cannot be written. The first of
      these counts. -/
  | mixed {want : Ty} {word : String} {value : Value} {results : List Value} {fault : Fault}
      (determine : Determine word want value results .string) (first : FirstUnwritable results fault) :
      Escapes want value fault
  /-- The elements determine a type with dynamic parts, and one of them keeps the dynamic type. -/
  | clash {want common : Ty} {word : String} {value item : Value} {results : List Value}
      (determine : Determine word want value results common) (dynamic : common.hasDynamic = true)
      (determined : common ≠ .dynamic) (member : item ∈ results) (kept : item.type = .dynamic) :
      Escapes want value (.invalid (.elementMismatch word .dynamic common))

namespace Escapes

variable {want : Ty} {value : Value} {fault : Fault}

theorem fault_cases (escapes : Escapes want value fault) :
    fault = .exponentOverflow ∨ ∃ cause, fault = .invalid cause := by
  induction escapes with
  | unwritable unwritable => exact unwritable.fault_cases
  | mixed _ first =>
      obtain ⟨_, _, _, -, -, unwritable⟩ := first
      exact unwritable.fault_cases
  | part _ _ _ _ ih => exact ih
  | clash => exact .inr ⟨_, rfl⟩

theorem not_isConversion (escapes : Escapes want value fault) : ¬ fault.IsConversion := by
  rcases escapes.fault_cases with rfl | ⟨cause, rfl⟩
  · rintro ⟨_, _, ⟨⟩⟩
  · rintro ⟨_, _, ⟨⟩⟩

/-- Such faults are the same seen from further out. -/
theorem under_eq (escapes : Escapes want value fault) (step : Step) : fault.under step = fault := by
  rcases escapes.fault_cases with rfl | ⟨cause, rfl⟩ <;> rfl

end Escapes

section Results

variable {want element : Ty} {word : String} {value : Value} {results : List Value} {fault : Fault}
  (outer : want.WellFormed) (inner : value.WellFormed)
  (each : List.Forall₂ (fun demand item => convertTo demand.asked demand.part = .ok item)
    (demands want value) results)
include outer inner each

theorem results_wellFormed {item : Value} (member : item ∈ results) : item.WellFormed := by
  obtain ⟨demand, asked, one⟩ := Outcome.exists_of_forall₂ each member
  obtain ⟨askedOuter, askedInner⟩ := wellFormed_of_mem_demands outer inner asked
  exact convertTo_wellFormed askedOuter askedInner one

/-- The elements of a collection whose element type has no dynamic parts all take that type. -/
theorem results_type (collection : want.collection? = some (word, element))
    (static : element.hasDynamic = false) {item : Value} (member : item ∈ results) :
    item.type = element := by
  obtain ⟨demand, asked, one⟩ := Outcome.exists_of_forall₂ each member
  obtain ⟨askedOuter, askedInner⟩ := wellFormed_of_mem_demands outer inner asked
  obtain rfl := Ty.part?_of_collection? collection (exists_part_of_demands outer inner asked).2
  exact (convertTo_hasType askedOuter static askedInner one).type_eq askedOuter

/-- Assembled elements of a collection fail as conversions do, or as `Escapes` says. -/
theorem escapes_of_assemble (differs : value.type ≠ want)
    (collection : want.collection? = some (word, element))
    (failed : assemble want value results = .error fault) (other : ¬ fault.IsConversion) :
    Escapes want value fault := by
  rcases assemble_collection collection inner each.length_eq with
    ⟨-, refused⟩ | ⟨fallback, located, build, rfl, refuses, assembled⟩
  · rw [refused] at failed
    cases failed
    exact absurd ⟨_, _, rfl⟩ other
  · rw [assembled] at failed
    have wellFormed : ∀ entry ∈ located, entry.2.WellFormed :=
      fun entry member => results_wellFormed outer inner each (List.mem_map_of_mem member)
    cases dynamic : element.hasDynamic with
    | true =>
        rcases (gather_eq_error dynamic wellFormed refuses).mp failed with
          ⟨-, rfl⟩ | ⟨agreed, first⟩ |
            ⟨common, agreed, partly, determined, ⟨item, member, kept⟩, rfl⟩
        · exact absurd ⟨_, _, rfl⟩ other
        · exact .mixed ⟨differs, ⟨element, collection, dynamic⟩, each, agreed⟩ first
        · exact .clash ⟨differs, ⟨element, collection, dynamic⟩, each, agreed⟩ partly determined member kept
    | false =>
        simp only [commonElements, dynamic, Bool.not_false, if_true] at failed
        have typed := fun (item : Value) (member : item ∈ located.map Prod.snd) =>
          results_type outer inner each collection dynamic member
        have refused := refuses (located.map Prod.snd) element fault (List.length_map _)
          (List.forall_mem_map.mpr wellFormed) fun item member => .inl (typed item member)
        obtain ⟨determined, ⟨item, member, isDynamic⟩, -⟩ := refused.mp failed
        exact absurd ((typed item member).symm.trans isDynamic) determined

end Results

/-- Elements that determine a type are brought together as the elements of the collection. -/
theorem Determine.gathers {want common : Ty} {word : String} {value item : Value} {results : List Value}
    (determine : Determine word want value results common) (outer : want.WellFormed)
    (inner : value.WellFormed) (member : item ∈ results) {fault : Fault}
    (disagree : (common = .string ∧ FirstUnwritable results fault) ∨
      (common.hasDynamic = true ∧ common ≠ .dynamic ∧ (∃ item ∈ results, item.type = .dynamic) ∧
        fault = .invalid (.elementMismatch word .dynamic common))) :
    convertTo want value = .error fault := by
  obtain ⟨element, collection, dynamic⟩ := determine.collection
  obtain ⟨demand, asked, -⟩ := Outcome.exists_of_forall₂ determine.each member
  obtain ⟨present, notDynamic⟩ := present_of_mem_demands asked
  refine (convertTo_eq_error present determine.differs notDynamic).mpr (.inr ⟨results, determine.each, ?_⟩)
  have wellFormed : ∀ item ∈ results, item.WellFormed := fun _ =>
    results_wellFormed outer inner determine.each
  have agreed := determine.agreed
  rcases assemble_collection collection inner determine.each.length_eq with
    ⟨none, -⟩ | ⟨fallback, located, build, rfl, refuses, assembled⟩
  · rw [none] at asked
    cases asked
  · rw [assembled, gather_eq_error dynamic (List.forall_mem_map.mp wellFormed) refuses]
    rcases disagree with ⟨rfl, mixed⟩ | clash
    · exact .inr (.inl ⟨agreed, mixed⟩)
    · exact .inr (.inr ⟨common, agreed, clash⟩)

/-- A conversion fails as `Escapes` says. -/
theorem Escapes.convertTo_eq {want : Ty} {value : Value} {fault : Fault}
    (escapes : Escapes want value fault) (outer : want.WellFormed) (inner : value.WellFormed) :
    convertTo want value = .error fault := by
  induction escapes with
  | unwritable unwritable =>
      rw [convertTo_primitive rfl (by simp [type]) rfl, convertPrimitive_unwritable unwritable]
  | @part want value demand before after fault differs asked earlier escapes ih =>
      have member : demand ∈ demands want value := asked ▸ List.mem_append_right before List.mem_cons_self
      obtain ⟨present, notDynamic⟩ := present_of_mem_demands member
      obtain ⟨askedOuter, askedInner⟩ := wellFormed_of_mem_demands outer inner member
      have failed := ih askedOuter askedInner
      exact (convertTo_eq_error present differs notDynamic).mpr
        (.inl ⟨before, demand, after, fault, asked, earlier, failed, escapes.under_eq _⟩)
  | mixed determine first =>
      obtain ⟨_, _, _, split, _⟩ := id first
      exact determine.gathers outer inner (split ▸ List.mem_append_right _ List.mem_cons_self) (.inl ⟨rfl, first⟩)
  | clash determine dynamic determined member kept =>
      exact determine.gathers outer inner member
        (.inr ⟨dynamic, determined, ⟨_, member, kept⟩, rfl⟩)

/-- A conversion that does not fail as conversions do fails as `Escapes` says. -/
theorem escapes_of_convertTo {want : Ty} {value : Value} {fault : Fault} (outer : want.WellFormed)
    (inner : value.WellFormed) (failed : convertTo want value = .error fault)
    (other : ¬ fault.IsConversion) : Escapes want value fault := by
  induction value using part?_induct generalizing want fault with
  | parts value ih =>
      have differs : value.type ≠ want := by
        rintro rfl
        cases (convertTo_type value).symm.trans failed
      have notDynamic : want ≠ .dynamic := by
        rintro rfl
        cases (convert_dynamic value).symm.trans failed
      cases absent : value.isAbsent with
      | true =>
          have static := Bool.eq_false_iff.mpr (mt Ty.isDynamic_iff.mp notDynamic)
          rw [convertTo_of_absent differs static absent] at failed
          exact absurd ⟨_, _, (convertAbsent_eq_error failed).2⟩ other
      | false =>
          rcases (convertTo_eq_error absent differs notDynamic).mp failed with
            ⟨before, demand, after, fault, asked, earlier, one, rfl⟩ | ⟨results, each, failed⟩
          · have member : demand ∈ demands want value :=
              asked ▸ List.mem_append_right before List.mem_cons_self
            obtain ⟨leads, wanted⟩ := exists_part_of_demands outer inner member
            have escapes := ih demand.step demand.part leads (Ty.part?_wellFormed outer wanted)
              (part?_wellFormed inner leads) one (mt Fault.isConversion_under.mpr other)
            exact (escapes.under_eq demand.step).symm ▸ .part differs asked earlier escapes
          · cases want with
            | dynamic => exact absurd rfl notDynamic
            | bool | number =>
                rcases convertPrimitive_eq_error failed with rfl | ⟨amount, rfl, -⟩
                · exact absurd ⟨_, _, rfl⟩ other
                · exact absurd ⟨_, _, (Except.error.inj failed).symm⟩ other
            | string =>
                rcases convertPrimitive_eq_error failed with rfl | ⟨amount, rfl, unwritable⟩
                · exact absurd ⟨_, _, rfl⟩ other
                · exact .unwritable unwritable
            | list | set | map => exact escapes_of_assemble outer inner each differs rfl failed other
            | tuple | object => exact absurd (isConversion_of_assemble rfl failed) other

/-- A conversion fails with anything but a conversion failure exactly where `Escapes` says so. -/
theorem convert_escapes_iff {want : Ty} {value : Value} (outer : want.WellFormed) (inner : value.WellFormed)
    {fault : Fault} :
    (value.convert want = .error fault ∧ ¬ fault.IsConversion) ↔ Escapes want value fault := by
  constructor
  · rintro ⟨failed, other⟩
    exact escapes_of_convertTo outer inner failed other
  · intro escapes
    exact ⟨escapes.convertTo_eq outer inner, escapes.not_isConversion⟩

/-- A null of the dynamic type beside an empty list. As elements of a list of lists they are to agree on a
    type, and that is the type of the list, which the null does not take. -/
def nullBesideList : Value :=
  .tuple [.null .dynamic, .list .dynamic []]

theorem nullBesideList_wellFormed : nullBesideList.WellFormed := by
  apply WellFormed.ofItems
  simp only [List.forall_mem_cons, List.not_mem_nil, false_implies, implies_true, and_true]
  exact ⟨.null .dynamic, .list .dynamic (List.forall_mem_nil _) (List.forall_mem_nil _)⟩

/-- A conversion can end with a list that refuses its own elements. -/
theorem convert_refusesOwnElement :
    nullBesideList.WellFormed ∧ ∃ fault, nullBesideList.convert (.list (.list .dynamic)) = .error fault ∧
      fault = .invalid (.elementMismatch "list" .dynamic (.list .dynamic)) ∧ ¬ fault.IsConversion := by
  refine ⟨nullBesideList_wellFormed, _, rfl, rfl, ?_⟩
  rintro ⟨_, _, ⟨⟩⟩

/-- The same inside an object that becomes a map. -/
theorem convert_escapes_iff_rows :
    (Value.object [("rows", nullBesideList)]).convert (.map (.list (.list .dynamic))) =
        .error (.invalid (.elementMismatch "list" .dynamic (.list .dynamic))) ∧
      ¬ (Fault.invalid (.elementMismatch "list" .dynamic (.list .dynamic))).IsConversion := by
  have inner : (Value.object [("rows", nullBesideList)]).WellFormed := by
    refine WellFormed.ofEntries (List.nodup_singleton _) fun entry member => ?_
    exact List.mem_singleton.mp member ▸ nullBesideList_wellFormed
  have determine : Determine "list" (.list (.list .dynamic)) nullBesideList
      [.null .dynamic, .list .dynamic []] (.list .dynamic) :=
    ⟨nofun, ⟨.list .dynamic, rfl, rfl⟩, .cons rfl (.cons rfl .nil), rfl⟩
  have escapes : Escapes (.list (.list .dynamic)) nullBesideList _ :=
    .clash determine rfl nofun List.mem_cons_self rfl
  refine (convert_escapes_iff (.map (.list (.list .dynamic))) inner).mpr ?_
  exact @Escapes.part _ _ ⟨.key "rows", _, _⟩ [] [] _ nofun rfl (List.forall_mem_nil _) escapes

end Crosswalk.Value
