/-
Module: Crosswalk.Proofs.Value.Demands
Purpose: Conversion in two stages. The wanted type asks for parts of the value at types of their own, and these
  are converted one after the other; then the results are assembled to a whole. A conversion fails at the
  first part that does not convert, or while the results are assembled.
Main exports: Value.Demand, Value.demands, Value.assemble, Value.exists_part_of_demands,
  Value.convertTo_eq_assemble, Value.convertTo_eq_ok, Value.convertTo_eq_error
-/
import Crosswalk.Proofs.Value.Failure

namespace Crosswalk.Value

/-! ### Parts that are asked for -/

/-- A part of a value with the step that leads to it, and the type that it is asked for. -/
structure Demand where
  step : Step
  asked : Ty
  part : Value

/-- The conversion of the part; a failure is located by the step. -/
def Demand.convert (demand : Demand) : Outcome Value :=
  Outcome.under demand.step (convertTo demand.asked demand.part)

/-- All elements of a collection are asked for one type. -/
def elementDemands (element : Ty) (located : Located) : List Demand :=
  located.map fun entry => ⟨entry.1, element, entry.2⟩

/-- Each element is asked for the type of its position. -/
def positionDemands (wants : List Ty) (located : Located) : List Demand :=
  (wants.zip located).map fun pair => ⟨pair.2.1, pair.1, pair.2.2⟩

/-- Each attribute asks for the entry of its name, as far as there are entries. -/
def attributeDemands (entries : List (String × Value)) : List (String × Ty) → List Demand
  | [] => []
  | (name, want) :: wants =>
    match entries.lookup name with
    | none => []
    | some value => ⟨.attr name, want, value⟩ :: attributeDemands entries wants

/-- The parts that a wanted type asks for, in the order in which they are converted. A value of the wrong kind
    or length is asked for nothing. -/
def demands (want : Ty) (value : Value) : List Demand :=
  match want with
  | .bool | .number | .string | .dynamic => []
  | .list element | .set element =>
    match sequence? value with
    | none => []
    | some (located, _) => elementDemands element located
  | .map element =>
    match mapping? value with
    | none => []
    | some (entries, _) => elementDemands element (entries.map fun entry => (.key entry.1, entry.2))
  | .tuple wants =>
    match sequence? value with
    | none => []
    | some (located, _) => if located.length = wants.length then positionDemands wants located else []
  | .object wants =>
    match mapping? value with
    | none => []
    | some (entries, _) =>
      match unsupported? wants value with
      | some _ => []
      | none => attributeDemands entries wants

theorem mem_attributeDemands {entries : List (String × Value)} {wants : List (String × Ty)} {demand : Demand}
    (member : demand ∈ attributeDemands entries wants) :
    ∃ want ∈ wants, entries.lookup want.1 = some demand.part ∧ demand.step = .attr want.1 ∧
      demand.asked = want.2 := by
  induction wants with
  | nil => cases member
  | cons want wants ih =>
      unfold attributeDemands at member
      split at member
      next => cases member
      next value found =>
          rcases List.mem_cons.mp member with rfl | later
          · exact ⟨want, List.mem_cons_self, found, rfl, rfl⟩
          · obtain ⟨other, inWants, same⟩ := ih later
            exact ⟨other, List.mem_cons_of_mem _ inWants, same⟩

/-- Whatever is asked for is a part of the value, and its type is the one for that part. -/
theorem exists_part_of_demands {want : Ty} {value : Value} (outer : want.WellFormed)
    (inner : value.WellFormed) {demand : Demand} (member : demand ∈ demands want value) :
    value.part? demand.step = some demand.part ∧ want.part? demand.step = some demand.asked := by
  cases outer with
  | bool | number | string | dynamic => cases member
  | list outer | set outer =>
      simp only [demands] at member
      split at member
      next => cases member
      next located own parts =>
          obtain ⟨entry, inLocated, rfl⟩ := List.mem_map.mp member
          obtain ⟨position, isPosition, leads⟩ := exists_position parts inLocated
          exact ⟨leads, isPosition ▸ rfl⟩
  | map outer =>
      simp only [demands] at member
      split at member
      next => cases member
      next entries own parts =>
          obtain ⟨located, inLocated, rfl⟩ := List.mem_map.mp member
          obtain ⟨entry, inEntries, rfl⟩ := List.mem_map.mp inLocated
          have found := lookup_of_mem (inner.mapping? parts).1 inEntries
          exact ⟨(part?_of_mapping? parts entry.1).2.trans found, rfl⟩
  | @tuple wants outer =>
      simp only [demands] at member
      split at member
      next => cases member
      next located own parts =>
          split at member
          next =>
              obtain ⟨pair, inPairs, rfl⟩ := List.mem_map.mp member
              obtain ⟨position, placed⟩ := List.getElem?_of_mem inPairs
              obtain ⟨wanted, item⟩ := List.getElem?_zip_eq_some.mp placed
              obtain ⟨isPosition, leads⟩ := part?_of_sequence? parts item
              refine ⟨leads, ?_⟩
              rw [isPosition]
              exact (itemAt?_natCast wants position).trans wanted
          next => cases member
  | @object wants sorted outer =>
      simp only [demands] at member
      split at member
      next => cases member
      next entries own parts =>
          split at member
          next => cases member
          next =>
              obtain ⟨want, inWants, found, isAttribute, isAsked⟩ := mem_attributeDemands member
              rw [isAttribute, isAsked]
              exact ⟨(part?_of_mapping? parts want.1).1.trans found, lookup_of_mem sorted.nodup inWants⟩

theorem wellFormed_of_mem_demands {want : Ty} {value : Value} (outer : want.WellFormed)
    (inner : value.WellFormed) {demand : Demand} (member : demand ∈ demands want value) :
    demand.asked.WellFormed ∧ demand.part.WellFormed := by
  obtain ⟨leads, wanted⟩ := exists_part_of_demands outer inner member
  exact ⟨Ty.part?_wellFormed outer wanted, part?_wellFormed inner leads⟩

/-- Values without data, and any values at the dynamic type, are asked for no parts. -/
theorem present_of_mem_demands {want : Ty} {value : Value} {demand : Demand}
    (member : demand ∈ demands want value) : value.isAbsent = false ∧ want ≠ .dynamic := by
  constructor
  · cases value with
    | null | unknown => cases want <;> cases member
    | _ => rfl
  · rintro rfl
    cases member

/-! ### Assembling -/

/-- The first attribute without an entry. -/
def missing? (entries : List (String × Value)) (wants : List (String × Ty)) : Option String :=
  (wants.find? fun want => (entries.lookup want.1).isNone).map Prod.fst

/-- The whole that the converted parts of a value make. -/
def assemble (want : Ty) (value : Value) (results : List Value) : Outcome Value :=
  match want with
  | .bool | .number | .string | .dynamic => convertPrimitive want value
  | .list element =>
    match sequence? value with
    | none => mismatch want
    | some (located, own) =>
      commonElements element (fallbackType element own) ((located.map Prod.fst).zip results) >>= fun result =>
        listOf result.1 (some result.2)
  | .set element =>
    match sequence? value with
    | none => mismatch want
    | some (located, own) =>
      commonElements element (fallbackType element own) ((located.map Prod.fst).zip results) >>= fun result =>
        setOf result.1 (some result.2)
  | .map element =>
    match mapping? value with
    | none => mismatch want
    | some (entries, own) =>
      commonElements element (fallbackType element own)
          ((entries.map fun entry => Step.key entry.1).zip results) >>= fun result =>
        mapOf ((entries.map Prod.fst).zip result.1) (some result.2)
  | .tuple wants =>
    match sequence? value with
    | none => mismatch want
    | some (located, _) =>
      if located.length = wants.length then .ok (.tuple results)
      else .error (.conversion [] (.tupleLength wants.length))
  | .object wants =>
    match mapping? value with
    | none => mismatch want
    | some (entries, _) =>
      match unsupported? wants value with
      | some key => .error (.conversion [] (.unsupportedAttribute key))
      | none =>
        match missing? entries wants with
        | some name => .error (.conversion [] (.attributeRequired name))
        | none => .ok (.object ((wants.map Prod.fst).zip results))

/-! ### What is asked of all parts -/

/-- All elements are asked for one type. -/
theorem forall_elementDemands (P : Ty → Value → Prop) {element : Ty} {located : Located} :
    (∀ demand ∈ elementDemands element located, P demand.asked demand.part) ↔
      ∀ item ∈ located.map Prod.snd, P element item := by
  rw [elementDemands, List.forall_mem_map, List.forall_mem_map]

/-- Each element is asked for the type of its position. -/
theorem forall_positionDemands (P : Ty → Value → Prop) {wants : List Ty} {located : Located} :
    (∀ demand ∈ positionDemands wants located, P demand.asked demand.part) ↔
      ∀ pair ∈ wants.zip (located.map Prod.snd), P pair.1 pair.2 := by
  rw [positionDemands, List.zip_map_right, List.forall_mem_map, List.forall_mem_map]
  rfl

theorem exists_of_complete {entries : List (String × Value)} {wants : List (String × Ty)}
    (complete : missing? entries wants = none) {want : String × Ty} (member : want ∈ wants) :
    ∃ item, entries.lookup want.1 = some item := by
  have found := List.find?_eq_none.mp (Option.map_eq_none_iff.mp complete) want member
  rw [Option.isNone_iff_eq_none] at found
  exact Option.ne_none_iff_exists'.mp found

/-- Each attribute of an object asks for its entry, if none is missing. -/
theorem forall_attributeDemands (P : Ty → Value → Prop) {entries : List (String × Value)}
    {wants : List (String × Ty)} (complete : missing? entries wants = none) :
    (∀ demand ∈ attributeDemands entries wants, P demand.asked demand.part) ↔
      ∀ want ∈ wants, ∃ item, entries.lookup want.1 = some item ∧ P want.2 item := by
  induction wants with
  | nil => simp [attributeDemands]
  | cons want wants ih =>
      rw [missing?, Option.map_eq_none_iff, List.find?_cons] at complete
      unfold attributeDemands
      cases found : entries.lookup want.1 with
      | none => simp [found] at complete
      | some value =>
          simp only [found, Option.isNone_some] at complete
          have later := ih (Option.map_eq_none_iff.mpr complete)
          simp only [List.forall_mem_cons, later, found, Option.some.injEq, exists_eq_left']

/-! ### Two stages -/

/-- The elements of a collection are converted as it asks for them. -/
theorem convertEach_bind (element : Ty) (located : Located) (next : Located → Outcome Value) :
    (convertEach (fun item => convertTo element item) located >>= next) =
      (elementDemands element located).mapM Demand.convert >>= fun results =>
        next ((located.map Prod.fst).zip results) := by
  induction located generalizing next with
  | nil => rfl
  | cons entry rest ih =>
      obtain ⟨step, value⟩ := entry
      unfold convertEach at ih ⊢
      simp only [elementDemands, List.map_cons, List.mapM_cons, bind_assoc, pure_bind] at ih ⊢
      simp only [Demand.convert] at ih ⊢
      cases Outcome.under step (convertTo element value) with
      | error fault => rfl
      | ok result => exact ih fun converted => next ((step, result) :: converted)

/-- The positions of a tuple are converted as they ask for elements. -/
theorem convertElements_eq_mapM (wants : List Ty) (located : Located) :
    convertElements wants located = (positionDemands wants located).mapM Demand.convert := by
  induction wants generalizing located with
  | nil => cases located <;> rfl
  | cons want wants ih =>
      match located with
      | [] => rfl
      | (step, value) :: rest =>
          simp only [convertElements, ih, positionDemands, List.zip_cons_cons, List.map_cons, List.mapM_cons]
          rfl

/-- The attributes of an object are converted as they ask for entries, until one is missing. -/
theorem convertAttributes_eq_mapM (wants : List (String × Ty)) (entries : List (String × Value)) :
    convertAttributes wants entries =
      (attributeDemands entries wants).mapM Demand.convert >>= fun results =>
        match missing? entries wants with
        | some name => .error (.conversion [] (.attributeRequired name))
        | none => .ok ((wants.map Prod.fst).zip results) := by
  induction wants with
  | nil => rfl
  | cons want wants ih =>
      obtain ⟨name, want⟩ := want
      rw [convertAttributes, attributeDemands, missing?, List.find?_cons]
      cases found : entries.lookup name with
      | none => rfl
      | some value =>
          simp only [Option.isNone_some, ih, List.mapM_cons, bind_assoc, pure_bind, Demand.convert]
          congr 1
          funext head
          congr 1
          funext results
          change (match missing? entries wants with
            | some name => Except.error (Fault.conversion [] (.attributeRequired name))
            | none => _) >>= _ = match missing? entries wants with
              | some name => _
              | none => _
          cases missing? entries wants <;> rfl

/-- A value with data of another type converts in two stages. -/
theorem convertTo_eq_assemble {want : Ty} {value : Value} (present : value.isAbsent = false)
    (differs : value.type ≠ want) (notDynamic : want ≠ .dynamic) :
    convertTo want value = (demands want value).mapM Demand.convert >>= assemble want value := by
  cases want with
  | dynamic => exact absurd rfl notDynamic
  | bool | number | string => exact convertTo_primitive present differs rfl
  | list element =>
      rw [convertTo_list present differs]
      cases parts : sequence? value with
      | none => simp [demands, assemble, parts]
      | some found =>
          simp only [demands, parts, convertEach_bind]
          exact congrArg _ (funext fun results => by simp only [assemble, parts])
  | set element =>
      rw [convertTo_set present differs]
      cases parts : sequence? value with
      | none => simp [demands, assemble, parts]
      | some found =>
          simp only [demands, parts, convertEach_bind]
          exact congrArg _ (funext fun results => by simp only [assemble, parts])
  | map element =>
      rw [convertTo_map present differs]
      cases parts : mapping? value with
      | none => simp [demands, assemble, parts]
      | some found =>
          simp only [demands, parts, convertEach_bind, List.map_map]
          exact congrArg _ (funext fun results => by simp only [assemble, parts]; rfl)
  | tuple wants =>
      rw [convertTo_tuple present differs]
      cases parts : sequence? value with
      | none => simp [demands, assemble, parts]
      | some found =>
          simp only [demands, parts]
          split
          next length =>
              rw [convertElements_eq_mapM]
              cases (positionDemands wants found.1).mapM Demand.convert with
              | error fault => rfl
              | ok results =>
                  simp [assemble, parts, length, Except.map, bind, Except.bind]
          next length => simp [assemble, parts, length, bind, Except.bind, pure, Except.pure]
  | object wants =>
      rw [convertTo_object present differs]
      cases parts : mapping? value with
      | none => simp [demands, assemble, parts]
      | some found =>
          simp only [demands, parts]
          cases supported : unsupported? wants value with
          | some key => simp [assemble, parts, supported, bind, Except.bind, pure, Except.pure]
          | none =>
              simp only [convertAttributes_eq_mapM]
              cases (attributeDemands found.1 wants).mapM Demand.convert with
              | error fault => rfl
              | ok results =>
                  simp only [assemble, parts, supported, bind, Except.bind]
                  cases missing? found.1 wants <;> rfl

section Present

variable {want : Ty} {value : Value} (present : value.isAbsent = false) (differs : value.type ≠ want)
  (notDynamic : want ≠ .dynamic)
include present differs notDynamic

/-- It succeeds where each part converts that is asked for, and the results make a whole. -/
theorem convertTo_eq_ok {result : Value} :
    convertTo want value = .ok result ↔
      ∃ results, List.Forall₂ (fun demand item => convertTo demand.asked demand.part = .ok item)
        (demands want value) results ∧ assemble want value results = .ok result := by
  rw [convertTo_eq_assemble present differs notDynamic, Outcome.bind_eq_ok]
  simp only [Outcome.mapM_eq_ok, Demand.convert, Outcome.under_eq_ok]

/-- It fails at the first part that does not convert, or while the results are assembled. -/
theorem convertTo_eq_error {fault : Fault} :
    convertTo want value = .error fault ↔
      (∃ before demand after inner, demands want value = before ++ demand :: after ∧
        (∀ other ∈ before, ∃ item, convertTo other.asked other.part = .ok item) ∧
        convertTo demand.asked demand.part = .error inner ∧ inner.under demand.step = fault) ∨
      ∃ results, List.Forall₂ (fun demand item => convertTo demand.asked demand.part = .ok item)
        (demands want value) results ∧ assemble want value results = .error fault := by
  rw [convertTo_eq_assemble present differs notDynamic, Outcome.bind_eq_error]
  simp only [Outcome.mapM_eq_ok, Outcome.mapM_eq_error, Demand.convert, Outcome.under_eq_ok,
    Outcome.under_eq_error, exists_and_left]

end Present

end Crosswalk.Value
