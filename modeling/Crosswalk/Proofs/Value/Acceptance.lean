/-
Module: Crosswalk.Proofs.Value.Acceptance
Purpose: What the types foretell of a conversion. A wanted type accepts the type of every value that converts
  to it, except where a collection without elements was converted somewhere inside: of such a collection
  nothing is asked, whatever its element type.
Main exports: Value.accepted_of_collection, Value.accepted_as_structure,
  Value.accepted_of_tuple, Value.accepted_of_object, Value.Vacuous, Value.canConvert_eq_false_iff_vacuous
-/
import Crosswalk.Proofs.Value.Escape
import Crosswalk.Proofs.Value.Reconversion

namespace Crosswalk.Value

/-! ### Types that are accepted -/

section Assembled

variable {want own : Ty} {value result : Value} {results : List Value} (differs : value.type ≠ want)
  (assembled : assemble want value results = .ok result)
include differs assembled

/-- A collection is accepted as another one if its element type is. -/
theorem accepted_of_collection {element : Ty} {word : String} (isOwn : ownElement? value = some own)
    (collection : want.collection? = some (word, element)) :
    value.type.canConvert want = own.canConvert element := by
  cases value with
  | list given items | set given items =>
      cases isOwn
      cases want with
      | list given | set given =>
          cases collection
          simp only [type, ne_eq, Ty.list.injEq, Ty.set.injEq] at differs
          simp [Ty.canConvert, Ty.acceptsFrom, Ty.isDynamic, type, differs]
      | map given => cases assembled
      | _ => cases collection
  | map given entries =>
      cases isOwn
      cases want with
      | map given =>
          cases collection
          simp only [type, ne_eq, Ty.map.injEq] at differs
          simp [Ty.canConvert, Ty.acceptsFrom, Ty.isDynamic, type, differs]
      | list given | set given => cases assembled
      | _ => cases collection
  | _ => cases isOwn

/-- A collection is accepted as a tuple if its element type is for each position. -/
theorem accepted_as_tuple {wants : List Ty} (isOwn : ownElement? value = some own)
    (isTuple : want = .tuple wants) :
    value.type.canConvert want = true ↔
      ∀ demand ∈ demands want value, own.canConvert demand.asked = true := by
  subst isTuple
  simp only [assemble] at assembled
  split at assembled
  · cases assembled
  next located given parts =>
      split at assembled
      next length =>
          simp only [demands, parts, if_pos length]
          rw [forall_positionDemands fun asked _ => own.canConvert asked = true]
          have wantsOf : (wants.zip (located.map Prod.snd)).map Prod.fst = wants :=
            List.map_fst_zip (by simp [length])
          have asked : (∀ want ∈ (wants.zip (located.map Prod.snd)).map Prod.fst,
                own.canConvert want = true) ↔
              ∀ pair ∈ wants.zip (located.map Prod.snd), own.canConvert pair.1 = true :=
            List.forall_mem_map
          rw [← asked, wantsOf]
          cases value with
          | list | set =>
              cases isOwn
              simp [Ty.canConvert, Ty.acceptsFrom, Ty.isDynamic, type, Ty.allAcceptFrom_iff]
          | map => cases parts
          | _ => cases isOwn
      next => cases assembled

/-- A collection is accepted as an object if its element type is for each attribute. -/
theorem accepted_as_object {wants : List (String × Ty)} (isOwn : ownElement? value = some own)
    (isObject : want = .object wants) :
    value.type.canConvert want = true ↔
      ∀ demand ∈ demands want value, own.canConvert demand.asked = true := by
  subst isObject
  simp only [assemble] at assembled
  split at assembled
  · cases assembled
  next entries given parts =>
      split at assembled
      · cases assembled
      next supported =>
          split at assembled
          · cases assembled
          next complete =>
              simp only [demands, parts, supported]
              rw [forall_attributeDemands (fun asked _ => own.canConvert asked = true) complete]
              cases value with
              | map =>
                  cases isOwn
                  have accepts : (Ty.map own).canConvert (.object wants) =
                      Ty.allAttributesAcceptFrom wants own := by
                    simp [Ty.canConvert, Ty.acceptsFrom, Ty.isDynamic]
                  rw [type, accepts, Ty.allAttributesAcceptFrom_iff]
                  refine forall₂_congr fun want member => ?_
                  obtain ⟨item, found⟩ := exists_of_complete complete member
                  simp [found, Ty.canConvert]
              | list | set => cases parts
              | _ => cases isOwn

/-- A collection is accepted as a structure if its element type is for each part. -/
theorem accepted_as_structure (isOwn : ownElement? value = some own) (structural : want.kind = .structural) :
    value.type.canConvert want = true ↔
      ∀ demand ∈ demands want value, own.canConvert demand.asked = true := by
  cases want with
  | tuple wants => exact accepted_as_tuple differs assembled isOwn rfl
  | object wants => exact accepted_as_object differs assembled isOwn rfl
  | _ => cases structural

end Assembled

/-- Elements whose type was left to them have one in common. -/
theorem exists_unify_of_assemble {want element : Ty} {word : String} {value result : Value}
    {results : List Value} (collection : want.collection? = some (word, element))
    (dynamic : element.hasDynamic = true) (inner : value.WellFormed)
    (length : (demands want value).length = results.length)
    (assembled : assemble want value results = .ok result) :
    (Ty.unify (results.map type)).isSome = true := by
  rcases assemble_collection collection inner length with
    ⟨-, refused⟩ | ⟨fallback, located, build, rfl, -, gathered⟩
  · cases refused.symm.trans assembled
  · have types : (located.map Prod.snd).map type = located.map fun entry => entry.2.type := by
      rw [List.map_map]
      rfl
    rw [types]
    obtain ⟨⟨_, _⟩, together, -⟩ := Outcome.bind_eq_ok.mp (gathered.symm.trans assembled)
    cases commonElements_eq_ok.mp together with
    | static static => cases static.symm.trans dynamic
    | empty _ none => exact none ▸ rfl
    | settled _ _ agreed => exact agreed ▸ rfl

/-- Parts that are asked for at the dynamic type stay as they are. -/
theorem results_of_dynamic {located : Located} {results : List Value}
    (each : List.Forall₂ (fun demand item => convertTo demand.asked demand.part = .ok item)
      (elementDemands .dynamic located) results) : results = located.map Prod.snd := by
  rw [elementDemands, List.forall₂_map_left_iff] at each
  rw [← List.forall₂_eq_eq_eq, List.forall₂_map_right_iff]
  refine each.flip.imp fun result entry one => ?_
  exact Except.ok.inj (one.symm.trans (convert_dynamic entry.2))

section Structures

variable {want : Ty} {value result : Value} {results : List Value} (inner : value.WellFormed)
  (differs : value.type ≠ want)
  (each : List.Forall₂ (fun demand item => convertTo demand.asked demand.part = .ok item)
    (demands want value) results)
  (assembled : assemble want value results = .ok result)
include inner differs each assembled

/-- A tuple is accepted if each element is that is asked for. -/
theorem accepted_of_tuple {items : List Value} (isTuple : value = .tuple items) :
    value.type.canConvert want = true ↔
      ∀ demand ∈ demands want value, demand.part.type.canConvert demand.asked = true := by
  subst isTuple
  cases want with
  | list element | set element =>
      have unified := fun dynamic => exists_unify_of_assemble rfl dynamic inner each.length_eq assembled
      simp only [demands, sequence?]
      rw [forall_elementDemands fun asked part => part.type.canConvert asked = true, snd_atPositions, type,
        itemTypes_eq_map]
      by_cases dynamic : element = .dynamic
      · subst dynamic
        rw [results_of_dynamic each, snd_atPositions] at unified
        simp [Ty.canConvert, Ty.acceptsFrom, Ty.isDynamic, unified rfl]
      · simp [Ty.canConvert, Ty.acceptsFrom, Ty.isDynamic]
  | tuple wants =>
      simp only [assemble, sequence?] at assembled
      split at assembled
      next length =>
          simp only [demands, sequence?, if_pos length]
          rw [forall_positionDemands fun asked part => part.type.canConvert asked = true, snd_atPositions]
          have lengths : wants.length = (items.map type).length := by
            simpa [sequence?.atPositions] using length.symm
          have accepts : (tuple items).type.canConvert (.tuple wants) =
              Ty.acceptsElements wants (items.map type) := by
            rw [type, itemTypes_eq_map] at differs ⊢
            simp only [Ty.canConvert, Ty.acceptsFrom, Ty.isDynamic, differs, decide_false, Bool.or_false,
              Bool.false_eq_true, if_false]
          rw [accepts, Ty.acceptsElements_iff lengths, List.zip_map_right, List.forall_mem_map]
          rfl
      next => cases assembled
  | _ => cases assembled

/-- An object is accepted if each entry is that is asked for. -/
theorem accepted_of_object {entries : List (String × Value)} (isObject : value = .object entries) :
    value.type.canConvert want = true ↔
      ∀ demand ∈ demands want value, demand.part.type.canConvert demand.asked = true := by
  subst isObject
  obtain ⟨nodup, -, -⟩ := inner.mapping? rfl
  cases want with
  | map element =>
      have unified := fun dynamic => exists_unify_of_assemble rfl dynamic inner each.length_eq assembled
      have values : (entries.map fun entry => (Step.key entry.1, entry.2)).map Prod.snd =
          entries.map Prod.snd := by
        rw [List.map_map]
        rfl
      simp only [demands, mapping?]
      rw [forall_elementDemands fun asked part => part.type.canConvert asked = true, values]
      -- The type lists the types of the entries in another order.
      have types (ty : Ty) : ty ∈ (sortBy (fun a b => textPrecedes a.1 b.1) (entryTypes entries)).map Prod.snd ↔
          ty ∈ (entries.map Prod.snd).map type := by
        rw [((sortBy_perm _ _).map Prod.snd).mem_iff, entryTypes_eq_map, List.map_map, List.map_map]
        rfl
      rw [type, Ty.objectOf]
      by_cases dynamic : element = .dynamic
      · subst dynamic
        rw [results_of_dynamic each, values, ← Ty.unify_congr fun ty _ => types ty] at unified
        simp [Ty.canConvert, Ty.acceptsFrom, Ty.isDynamic, unified rfl]
      · have accepts : (Ty.object (sortBy (fun a b => textPrecedes a.1 b.1) (entryTypes entries))).canConvert
            (.map element) = ((sortBy (fun a b => textPrecedes a.1 b.1) (entryTypes entries)).map Prod.snd).all
              fun ty => ty.canConvert element := by
          simp [Ty.canConvert, Ty.acceptsFrom, Ty.isDynamic, Function.comp_def]
        rw [accepts, List.all_eq_true]
        simp only [types, List.forall_mem_map]
  | object wants =>
      simp only [assemble, mapping?] at assembled
      split at assembled
      · cases assembled
      next supported =>
          split at assembled
          · cases assembled
          next complete =>
              simp only [demands, mapping?, supported]
              rw [forall_attributeDemands (fun asked part => part.type.canConvert asked = true) complete]
              have accepts : (object entries).type.canConvert (.object wants) =
                  Ty.acceptsAttributes wants
                    (sortBy (fun a b => textPrecedes a.1 b.1) (entryTypes entries)) := by
                rw [type, Ty.objectOf] at differs ⊢
                simp only [Ty.canConvert, Ty.acceptsFrom, Ty.isDynamic, differs, decide_false, Bool.or_false,
                  Bool.false_eq_true, if_false]
              rw [accepts, Ty.acceptsAttributes_iff]
              refine forall₂_congr fun want member => ?_
              rw [Ty.attribute?_sortBy (keys_entryTypes entries ▸ nodup), Ty.attribute?, lookup_entryTypes]
              simp [Ty.canConvert]
  | _ => cases assembled

end Structures

/-! ### Values that convert although their type is refused -/

/-- A value inside which a conversion meets a collection without elements, of which nothing is asked. -/
inductive Vacuous : Ty → Value → Prop
  /-- A collection without elements, of an element type that is not accepted. -/
  | empty {want own element : Ty} {word : String} {value : Value} (isOwn : ownElement? value = some own)
      (collection : want.collection? = some (word, element)) (empty : ∀ step, value.part? step = none)
      (refused : own.canConvert element = false) : Vacuous want value
  /-- A value with such a part, unless it leaves the type of its parts open. -/
  | part {want : Ty} {value : Value} {demand : Demand} (differs : value.type ≠ want)
      (closed : ownElement? value ≠ some .dynamic) (member : demand ∈ demands want value)
      (vacuous : Vacuous demand.asked demand.part) : Vacuous want value

/-- A converted collection that is asked for nothing has no elements. -/
theorem part?_of_demands_eq_nil {want own element : Ty} {word : String} {value result : Value}
    {results : List Value} (isOwn : ownElement? value = some own)
    (collection : want.collection? = some (word, element)) (unasked : demands want value = [])
    (assembled : assemble want value results = .ok result) (step : Step) : value.part? step = none := by
  cases value with
  | list given items | set given items =>
      cases want with
      | list element | set element =>
          simp only [demands, sequence?, sequence?.atPositions, elementDemands, List.map_eq_nil_iff,
            List.zipIdx_eq_nil_iff] at unasked
          subst unasked
          cases step <;> simp [part?, itemAt?]
      | map => cases assembled
      | _ => cases collection
  | map given entries =>
      cases want with
      | map element =>
          simp only [demands, mapping?, elementDemands, List.map_eq_nil_iff] at unasked
          subst unasked
          cases step <;> rfl
      | list | set => cases assembled
      | _ => cases collection
  | _ => cases isOwn

/-- Primitive values convert only between types that accept each other. -/
theorem canConvert_of_primitive {want : Ty} {value result : Value} {results : List Value}
    (primitive : want.isPrimitive = true) (assembled : assemble want value results = .ok result) :
    value.type.canConvert want = true := by
  have converted : convertPrimitive want value = .ok result := by
    cases want with
    | bool | number | string => exact assembled
    | _ => cases primitive
  unfold convertPrimitive at converted
  split at converted
  · rfl
  · rfl
  · rfl
  · rfl
  · cases converted

section Assembled

variable {want : Ty} {value result : Value} {results : List Value} (outer : want.WellFormed)
  (inner : value.WellFormed) (differs : value.type ≠ want)
  (each : List.Forall₂ (fun demand item => convertTo demand.asked demand.part = .ok item)
    (demands want value) results)
  (assembled : assemble want value results = .ok result)
include outer inner differs assembled

/-- A collection is refused for its element type, and that is the type of its elements. -/
theorem refused_collection {own : Ty} (isOwn : ownElement? value = some own) :
    value.type.canConvert want = false ↔
      (∃ word element, want.collection? = some (word, element) ∧ (∀ step, value.part? step = none) ∧
        own.canConvert element = false) ∨
      (own ≠ .dynamic ∧ ∃ demand ∈ demands want value, demand.part.type.canConvert demand.asked = false) := by
  have elements : (own ≠ .dynamic ∧
      ∃ demand ∈ demands want value, demand.part.type.canConvert demand.asked = false) ↔
      ∃ demand ∈ demands want value, own.canConvert demand.asked = false := by
    have typed (determined : own ≠ .dynamic) {demand : Demand} (member : demand ∈ demands want value) :
        demand.part.type = own := by
      have leads := (exists_part_of_demands outer inner member).1
      exact (ownElement?_fits inner isOwn leads).resolve_left determined
    constructor
    · rintro ⟨determined, demand, member, refused⟩
      exact ⟨demand, member, typed determined member ▸ refused⟩
    · rintro ⟨demand, member, refused⟩
      have determined : own ≠ .dynamic := by
        rintro rfl
        cases (Ty.canConvert_dynamic demand.asked).symm.trans refused
      exact ⟨determined, demand, member, (typed determined member).symm ▸ refused⟩
  rw [elements]
  cases collection : want.collection? with
  | some found =>
      obtain ⟨word, element⟩ := found
      have asked {demand : Demand} (member : demand ∈ demands want value) : demand.asked = element :=
        Ty.part?_of_collection? collection (exists_part_of_demands outer inner member).2
      rw [accepted_of_collection differs assembled isOwn collection]
      constructor
      · intro refused
        by_cases unasked : demands want value = []
        · exact .inl ⟨word, element, rfl, part?_of_demands_eq_nil isOwn collection unasked assembled, refused⟩
        · obtain ⟨demand, member⟩ := List.exists_mem_of_ne_nil _ unasked
          exact .inr ⟨demand, member, (asked member).symm ▸ refused⟩
      · rintro (⟨_, _, ⟨⟩, -, refused⟩ | ⟨demand, member, refused⟩)
        · exact refused
        · exact asked member ▸ refused
  | none =>
      have structural : want.kind = .structural := by
        cases want with
        | tuple | object => rfl
        | list | set | map => cases collection
        | bool | number | string | dynamic =>
            cases value with
            | list | set | map => cases assembled
            | _ => cases isOwn
      rw [← Bool.not_eq_true, accepted_as_structure differs assembled isOwn structural]
      simp

include each

/-- A structure is refused for one of its parts, and a value of a primitive type is not. -/
theorem refused_structure (present : value.isAbsent = false) (isNone : ownElement? value = none) :
    value.type.canConvert want = false ↔
      ∃ demand ∈ demands want value, demand.part.type.canConvert demand.asked = false := by
  cases value with
  | null | unknown => cases present
  | list | set | map => cases isNone
  | tuple items =>
      rw [← Bool.not_eq_true, accepted_of_tuple inner differs each assembled rfl]
      simp
  | object entries =>
      rw [← Bool.not_eq_true, accepted_of_object inner differs each assembled rfl]
      simp
  | bool | number | string =>
      cases want with
      | bool | number | string =>
          have accepted := canConvert_of_primitive rfl assembled
          simp [accepted, demands]
      | _ => cases assembled

end Assembled

/-- Where nothing is converted at all the types agree. -/
theorem not_vacuous_of_type {value : Value} : ¬ Vacuous value.type value := by
  intro vacuous
  cases vacuous with
  | part differs => exact differs rfl
  | empty isOwn collection _ refused =>
      cases value with
      | list | set | map =>
          cases isOwn
          cases collection
          cases (Ty.canConvert_refl _).symm.trans refused
      | _ => cases isOwn

theorem not_vacuous_dynamic {value : Value} : ¬ Vacuous .dynamic value := by
  intro vacuous
  cases vacuous with
  | part _ _ member => cases member
  | empty _ collection => cases collection

theorem not_vacuous_of_absent {want : Ty} {value : Value} (absent : value.isAbsent = true) :
    ¬ Vacuous want value := by
  intro vacuous
  cases vacuous with
  | part _ _ member => cases absent.symm.trans (present_of_mem_demands member).1
  | empty isOwn =>
      cases value with
      | null | unknown => cases isOwn
      | _ => cases absent

/-- A collection is vacuous itself, or has a vacuous part at the type that it fixes for its parts. -/
theorem vacuous_collection {want own : Ty} {value : Value} (differs : value.type ≠ want)
    (isOwn : ownElement? value = some own) :
    Vacuous want value ↔
      (∃ word element, want.collection? = some (word, element) ∧ (∀ step, value.part? step = none) ∧
        own.canConvert element = false) ∨
      (own ≠ .dynamic ∧ ∃ demand ∈ demands want value, Vacuous demand.asked demand.part) := by
  constructor
  · intro vacuous
    cases vacuous with
    | empty isElement collection empty refused =>
        cases isOwn.symm.trans isElement
        exact .inl ⟨_, _, collection, empty, refused⟩
    | part _ closed member vacuous => exact .inr ⟨by simpa [isOwn] using closed, _, member, vacuous⟩
  · rintro (⟨word, element, collection, empty, refused⟩ | ⟨determined, demand, member, vacuous⟩)
    · exact .empty isOwn collection empty refused
    · exact .part differs (by simpa [isOwn] using determined) member vacuous

/-- A structure is vacuous in a part. -/
theorem vacuous_structure {want : Ty} {value : Value} (differs : value.type ≠ want)
    (isNone : ownElement? value = none) :
    Vacuous want value ↔ ∃ demand ∈ demands want value, Vacuous demand.asked demand.part := by
  constructor
  · intro vacuous
    cases vacuous with
    | empty isElement => cases isNone.symm.trans isElement
    | part _ _ member vacuous => exact ⟨_, member, vacuous⟩
  · rintro ⟨demand, member, vacuous⟩
    exact .part differs (by simp [isNone]) member vacuous

/-- A value without data converts only if its type is accepted. -/
theorem accepted_of_absent {want : Ty} {value result : Value} (absent : value.isAbsent = true)
    (differs : value.type ≠ want) (notDynamic : want ≠ .dynamic)
    (converted : convertTo want value = .ok result) : value.type.canConvert want = true := by
  rw [convertTo_of_absent differs (Bool.eq_false_iff.mpr (mt Ty.isDynamic_iff.mp notDynamic)) absent,
    convertAbsent] at converted
  split at converted
  · cases converted
  next accepted => simpa using accepted

/-- The type of a value that converts is refused exactly if the conversion met such a collection. -/
theorem canConvert_eq_false_iff_vacuous {want : Ty} {value result : Value} (outer : want.WellFormed)
    (inner : value.WellFormed) (converted : value.convert want = .ok result) :
    value.type.canConvert want = false ↔ Vacuous want value := by
  change convertTo want value = .ok result at converted
  induction value using part?_induct generalizing want result with
  | parts value ih =>
      by_cases same : value.type = want
      · subst same
        simp [Ty.canConvert_refl, not_vacuous_of_type]
      by_cases dynamic : want = .dynamic
      · subst dynamic
        simp [Ty.canConvert_to_dynamic, not_vacuous_dynamic]
      cases absent : value.isAbsent with
      | true => simp [accepted_of_absent absent same dynamic converted, not_vacuous_of_absent absent]
      | false =>
          obtain ⟨results, each, assembled⟩ := (convertTo_eq_ok absent same dynamic).mp converted
          have parts : (∃ demand ∈ demands want value, demand.part.type.canConvert demand.asked = false) ↔
              ∃ demand ∈ demands want value, Vacuous demand.asked demand.part := by
            refine exists_congr fun demand => and_congr_right fun member => ?_
            obtain ⟨leads, -⟩ := exists_part_of_demands outer inner member
            obtain ⟨askedOuter, askedInner⟩ := wellFormed_of_mem_demands outer inner member
            obtain ⟨item, -, one⟩ := Outcome.exists_of_forall₂ each.flip member
            exact ih _ _ leads askedOuter askedInner one
          cases isOwn : ownElement? value with
          | some own =>
              rw [refused_collection outer inner same assembled isOwn, vacuous_collection same isOwn, parts]
          | none =>
              rw [refused_structure outer inner same each assembled absent isOwn,
                vacuous_structure same isOwn, parts]

/-- Values of one type do not all fare alike: an empty list converts, where a null list and an unknown one are
    refused for their type. -/
theorem convert_vacuous :
    (list .number []).convert (.list .bool) = .ok (.list .bool []) ∧
      (list .number []).type.canConvert (.list .bool) = false ∧
      (null (.list .number)).convert (.list .bool) = .error (.conversion [] (.required (.list .bool))) ∧
      (unknown (.list .number)).convert (.list .bool) = .error (.conversion [] (.required (.list .bool))) :=
  ⟨rfl, rfl, rfl, rfl⟩

/-- An object with an empty row of numbers and a row of truth values. -/
def unevenRows : Value :=
  .object [("rows", .tuple [.list .number [], .list .bool [.bool true]])]

theorem unevenRows_wellFormed : unevenRows.WellFormed := by
  have row : (list .bool [.bool true]).WellFormed := by
    refine .list .bool (fun item member => ?_) fun item member => ?_
    · exact .inr (List.mem_singleton.mp member ▸ rfl)
    · exact List.mem_singleton.mp member ▸ .bool true
  have rows : (tuple [.list .number [], .list .bool [.bool true]]).WellFormed := by
    apply WellFormed.ofItems
    simp only [List.forall_mem_cons, List.not_mem_nil, false_implies, implies_true, and_true]
    exact ⟨.list .number (List.forall_mem_nil _) (List.forall_mem_nil _), row⟩
  refine WellFormed.ofEntries (List.nodup_singleton _) fun entry member => ?_
  exact List.mem_singleton.mp member ▸ rows

/-- The empty row is why its type is refused as a map of lists of rows of truth values, which it becomes. -/
theorem canConvert_eq_false_iff_vacuous_unevenRows :
    (∃ result, unevenRows.convert (.map (.list (.list .bool))) = .ok result) ∧
      unevenRows.type.canConvert (.map (.list (.list .bool))) = false := by
  refine ⟨⟨_, rfl⟩, ?_⟩
  refine (canConvert_eq_false_iff_vacuous (.map (.list (.list .bool))) unevenRows_wellFormed rfl).mpr ?_
  have row : Vacuous (.list .bool) (list .number []) := by
    refine .empty rfl rfl (fun step => ?_) rfl
    cases step <;> simp [part?, itemAt?]
  have rows : Vacuous (.list (.list .bool)) (tuple [.list .number [], .list .bool [.bool true]]) :=
    @Vacuous.part _ _ ⟨.position 0, _, _⟩ (by simp [type]) (by simp [ownElement?]) List.mem_cons_self row
  refine @Vacuous.part _ _ ⟨.key "rows", _, _⟩ ?_ ?_ List.mem_cons_self rows
  · simp [unevenRows, type, Ty.objectOf]
  · simp [unevenRows, ownElement?]

end Crosswalk.Value
