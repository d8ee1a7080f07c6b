/-
Module: Crosswalk.Proofs.Reading.ByInference
Purpose: Conversion by way of inference. A table becomes a map directly, entry by entry, or by way of the
  object whose type it implies, which is then converted as a structural value. For the types that are built
  from string and number by making maps, both ways succeed on the same tables and give equal maps.
Main exports: Ty.Tabular, Reading.toMap_static, Tree.parts_of_convert_dynamic, Tree.agrees_by_inference,
  Host.convert_map_by_inference
-/
import Crosswalk.Proofs.Arrangement
import Crosswalk.Proofs.Host.Reach
import Crosswalk.Proofs.Inference
import Crosswalk.Proofs.Value.Alike
import Crosswalk.Proofs.Value.Success

namespace Crosswalk

/-- The types built from string and number by making maps. -/
inductive Ty.Tabular : Ty → Prop
  | string : Tabular .string
  | number : Tabular .number
  | map {element : Ty} (inner : Tabular element) : Tabular (.map element)

theorem Ty.Tabular.static {ty : Ty} (tabular : ty.Tabular) : ty.Static := by
  induction tabular with
  | string => exact ⟨.string, rfl⟩
  | number => exact ⟨.number, rfl⟩
  | map _ ih => exact ⟨.map ih.wellFormed, ih.hasNone⟩

/-! ### Objects as maps -/

namespace Value

/-- A value converts to a map if its entries convert to the elements, and otherwise not. -/
theorem each_of_convertTo_map {element : Ty} (static : element.Static) {parts : List (String × Value)}
    {result : Value} (converted : convertTo (.map element) (.object parts) = .ok result) :
    ∀ part ∈ parts, ∃ item, convertTo element part.2 = .ok item := by
  cases converts_of_convertTo converted with
  | whole whole =>
      cases whole with
      | same already =>
          rcases already with dynamic | same
          · cases dynamic
          · cases same
      | absent absent => cases absent
      | primitive _ converted => cases converted
  | map _ found collected =>
      cases found
      intro part member
      obtain ⟨item, -, one⟩ := Outcome.exists_of_forall₂ (collected.static static.hasNone).2.flip
        (List.mem_map_of_mem member)
      exact ⟨item, one⟩

end Value

/-! ### Tables as maps and objects -/

namespace Reading

/-- A table becomes a map of the values that its entries convert to. -/
theorem toMap_static {want : Ty} (static : want.Static) {entries : List Entry}
    (inner : ∀ entry ∈ entries, entry.reading.Sound) {named : List (String × Reading)}
    (byKey : byText entries = .ok named) {result : Value} (read : toMap want entries = .ok result) :
    ∃ items, result = .map want items ∧ List.Forall₂ (fun other item => item.1 = other.1 ∧
      other.2.convert want = .ok item.2) named items := by
  obtain ⟨again, values, element, byKeyAgain, converted, built⟩ := toMap_eq_ok read
  obtain rfl : named = again := Except.ok.inj (byKey.symm.trans byKeyAgain)
  obtain ⟨-, -, typed⟩ := convertElements_sound static.wellFormed
    (List.forall_mem_map.mpr (byText_sound inner byKey)) converted
  obtain ⟨rfl, -⟩ := typed static.hasNone
  have each := List.forall₂_map_left_iff.mp (convertElements_eq_ok converted).1
  have items := Outcome.forall₂_zip_keys (List.forall₂_same.mpr fun other _ => Eq.refl other) each
  have keys : ((named.map Prod.fst).zip values).map Prod.fst = named.map Prod.fst :=
    List.map_fst_zip (by simp [each.length_eq])
  obtain ⟨ty, found, rfl⟩ := Value.mapOf_eq_ok built
  obtain ⟨rfl, -⟩ := Value.elementType_check_eq_ok.mp found
  have different : (((named.map Prod.fst).zip values).map Prod.fst).Nodup := by
    rw [keys]
    exact (byText_eq_ok byKey).1
  rw [entriesOf_of_nodup different]
  refine ⟨_, rfl, items.imp ?_⟩
  rintro other item ⟨_, rfl, same, one⟩
  exact ⟨same, one⟩

end Reading

namespace Tree

section Tables

variable {entries : List (Tree × Tree)} {named : List (String × Reading)}
  (byKey : Reading.byText (readEntries entries) = .ok named)
include byKey

/-- The object that a table becomes where the type is left open is made of what its entries become where
    the type is left open, in the order of their names. -/
theorem parts_of_convert_dynamic {result : Value}
    (converted : (Tree.table entries).convert .dynamic = .ok result) :
    ∃ parts, result = .object parts ∧ Arranged False (fun other part => part.1 = other.1 ∧
      other.2.convert .dynamic = .ok part.2) named parts := by
  rw [convert_dynamic] at converted
  obtain ⟨ty, implied, converted⟩ := Outcome.bind_eq_ok.mp converted
  obtain ⟨again, attributes, byKeyAgain, rfl, each⟩ := Reading.impliedObject_eq_ok.mp implied
  obtain rfl : named = again := Except.ok.inj (byKey.symm.trans byKeyAgain)
  obtain ⟨again, parts, rfl, byKeyAgain, -, related⟩ := Reading.toObject_eq_ok converted
  obtain rfl : named = again := Except.ok.inj (byKey.symm.trans byKeyAgain)
  have sorted : Arranged False Reading.Gives named
      (sortBy (fun a b => textPrecedes a.1 b.1) attributes) :=
    ⟨attributes, each, (sortBy_perm _ _).symm, False.elim⟩
  refine ⟨parts, rfl, (sorted.trans (.ofForall₂ related)).imp ?_⟩
  rintro other member part - ⟨attr, gives, name, one⟩
  rw [gives.name, lookup_of_mem (Reading.byText_eq_ok byKey).1 member] at one
  obtain ⟨entry, -, same⟩ := exists_entry_of_byText byKey member
  have implied := gives.implied
  refine ⟨name.trans gives.name, ?_⟩
  rw [same] at implied one ⊢
  exact (convert_dynamic_of_implied implied).trans one

/-- A table becomes an object where the type is left open if all of its entries become something. -/
theorem exists_convert_dynamic
    (each : ∀ other ∈ named, ∃ part, other.2.convert .dynamic = .ok part) :
    ∃ result, (Tree.table entries).convert .dynamic = .ok result := by
  have opened : ∀ other ∈ named, ∃ ty, other.2.implied = .ok ty ∧
      ∃ part, other.2.convert ty = .ok part := by
    intro other member
    obtain ⟨entry, -, same⟩ := exists_entry_of_byText byKey member
    obtain ⟨part, converted⟩ := each other member
    rw [same] at converted ⊢
    obtain ⟨ty, implied, one⟩ := Outcome.bind_eq_ok.mp ((convert_dynamic entry.2).symm.trans converted)
    exact ⟨ty, implied, part, one⟩
  obtain ⟨attributes, implied⟩ : ∃ attributes, Reading.impliedEach named = .ok attributes := by
    apply Outcome.exists_mapM_eq_ok
    intro other member
    obtain ⟨ty, implied, -⟩ := opened other member
    exact ⟨(other.1, ty), Outcome.map_eq_ok.mpr ⟨ty, Outcome.under_eq_ok.mpr implied, rfl⟩⟩
  have object : (Tree.table entries).implied = .ok (.objectOf attributes) :=
    Outcome.bind_eq_ok.mpr ⟨named, byKey, Outcome.bind_eq_ok.mpr ⟨attributes, implied, rfl⟩⟩
  obtain ⟨again, _, byKeyAgain, same, gives⟩ := Reading.impliedObject_eq_ok.mp object
  obtain rfl : named = again := Except.ok.inj (byKey.symm.trans byKeyAgain)
  rw [convert_dynamic_of_implied object, same]
  apply Reading.exists_convert_objectOf byKey gives
  intro other member ty implied
  obtain ⟨_, impliedAgain, converts⟩ := opened other member
  cases implied.symm.trans impliedAgain
  exact converts

end Tables

/-! ### Both ways agree -/

/-- A wrapped value is found as it is where the type is left open. -/
theorem convert_dynamic_wrapped (value : Value) : (Tree.wrapped value).convert .dynamic = .ok value := by
  rw [convert_dynamic_of_implied (show (Tree.wrapped value).implied = .ok value.type from rfl)]
  simpa [convert, read, Reading.wrapped, Value.convert] using Value.convertTo_type value

/-- A number or string is what the structural form of a host value converts to. -/
theorem convert_primitive_by_inference (tree : Tree) {want : Ty}
    (primitive : want = .number ∨ want = .string) :
    tree.convert want = tree.convert .dynamic >>= fun value => value.convert want := by
  have static : want.isDynamic = false := by rcases primitive with rfl | rfl <;> rfl
  cases tree with
  | nil | boolean | string | table | function | foreign | endless => rcases primitive with rfl | rfl <;> rfl
  | number x =>
      rcases primitive with rfl | rfl
      · change Reading.ofNumber x = Reading.ofNumber x >>= fun value => value.convert .number
        cases form : Reading.ofNumber x with
        | error fault => rfl
        | ok value =>
            have own := (ofNumber_form x value form).type_eq
            exact (own ▸ Value.convertTo_type value).symm
      · rfl
  | wrapped value =>
      rw [convert_dynamic_wrapped]
      change value.convert (if want.isDynamic then value.type else want) = value.convert want
      rw [static]
      rfl

/-- A host value becomes a value of the type exactly if its structural form does, and then both results are
    equal. -/
def AgreesByInference (reading : Reading) (want : Ty) : Prop :=
  Outcome.Agrees (fun direct result => direct.exactlyEqual result = true) (reading.convert want)
    (reading.convert .dynamic >>= fun value => value.convert want)

theorem nil_agrees {want : Ty} (static : want.Static) : AgreesByInference Reading.nil want := by
  have differs : Ty.dynamic ≠ want := by
    rintro rfl
    cases static.hasNone
  have through : (Reading.nil.convert .dynamic >>= fun value => value.convert want) = .ok (.null want) :=
    Value.convertTo_absent_ok static differs rfl (Ty.canConvert_dynamic want)
  rw [AgreesByInference, through]
  exact .ok (Value.exactlyEqual_refl (Value.WellFormed.null static.wellFormed))

/-- A value of a primitive kind does not convert to a map, nor does its structural form. -/
theorem scalar_agrees {kind : HostKind} {truthy : Bool} {ownType element : Ty} {own : Outcome Value}
    (form : Reading.OwnForm ownType own) (primitive : ownType.isPrimitive = true) :
    AgreesByInference (Reading.scalar kind truthy ownType own) (.map element) := by
  have differs : Ty.map element ≠ ownType := by
    rintro rfl
    cases primitive
  have refused : (Reading.scalar kind truthy ownType own).convert (.map element) =
      Reading.notAllowed kind := by
    simp [Reading.scalar, Ty.isDynamic, differs]
  rw [AgreesByInference, refused]
  change Outcome.Agrees _ _ (own >>= fun value => value.convert (.map element))
  cases found : own with
  | error fault => exact .error _ fault
  | ok value =>
      obtain ⟨-, type_eq, present⟩ := form value found
      have leaf : Value.mapping? value = none := (Value.leaf_iff.mp (.inr (type_eq ▸ primitive))).2
      have mismatch : value.convert (.map element) = Value.mismatch (.map element) := by
        rw [Value.convert, Value.convertTo_map present (type_eq ▸ differs.symm), leaf]
      change Outcome.Agrees _ _ (value.convert (.map element))
      rw [mismatch]
      exact .error _ _

section Table

variable {entries : List (Tree × Tree)} (payloads : (Tree.table entries).All Value.WellFormed)
  {element : Ty} (static : element.Static)

include payloads in
theorem readEntries_sound : ∀ entry ∈ readEntries entries, entry.reading.Sound := by
  cases payloads with
  | table _ values =>
      rw [readEntries_eq_map]
      exact List.forall_mem_map.mpr fun entry member => read_sound (values entry member)

variable {named : List (String × Reading)} (byKey : Reading.byText (readEntries entries) = .ok named)
  (agree : ∀ other ∈ named, AgreesByInference other.2 element)
include payloads static byKey agree

/-- If the values of a table become the elements of a map, its object becomes an equal map. -/
theorem exists_map_by_inference {items : List (String × Value)}
    (related : List.Forall₂ (fun other item => item.1 = other.1 ∧ other.2.convert element = .ok item.2)
      named items) :
    ∃ result, ((Tree.table entries).convert .dynamic >>= fun value => value.convert (.map element)) =
      .ok result ∧ (Value.map element items).exactlyEqual result = true := by
  have opened : ∀ other ∈ named, ∃ part, other.2.convert .dynamic = .ok part ∧
      ∃ result, part.convert element = .ok result := by
    intro other member
    obtain ⟨item, -, -, one⟩ := Outcome.exists_of_forall₂ related.flip member
    obtain ⟨result, through⟩ := (agree other member).succeeds_iff.mp ⟨item.2, one⟩
    obtain ⟨part, converted, onward⟩ := Outcome.bind_eq_ok.mp through
    exact ⟨part, converted, result, onward⟩
  obtain ⟨value, converted⟩ := exists_convert_dynamic byKey fun other member =>
    (opened other member).imp fun part found => found.1
  have wellFormed := (read_sound payloads).wellFormed .dynamic value .dynamic converted
  obtain ⟨parts, rfl, arranged⟩ := parts_of_convert_dynamic byKey converted
  have onward : ∀ part ∈ parts, ∃ result, Value.convertTo element part.2 = .ok result := by
    intro part member
    obtain ⟨other, inNamed, -, one⟩ := arranged.exists_left member
    obtain ⟨again, found, converts⟩ := opened other inNamed
    cases one.symm.trans found
    exact converts
  obtain ⟨results, through, done⟩ := Value.exists_map rfl wellFormed static (by nofun) rfl onward
  refine ⟨_, Outcome.bind_eq_ok.mpr ⟨_, converted, done⟩, ?_⟩
  have nodup : (results.map Prod.fst).Nodup := by
    rw [Outcome.keys_eq_of_forall₂ (through.imp fun _ _ pair => pair.1)]
    cases wellFormed with
    | object nodup => exact nodup
  have length := related.length_eq.symm.trans (arranged.length_eq.trans through.length_eq)
  refine Value.exactlyEqual_map.mpr ⟨results, rfl, length, fun item member => ?_⟩
  obtain ⟨other, inNamed, key, one⟩ := Outcome.exists_of_forall₂ related member
  obtain ⟨part, inParts, keyPart, opens⟩ := arranged.exists_right inNamed
  obtain ⟨result, inResults, keyResult, two⟩ := Outcome.exists_of_forall₂ through.flip inParts
  refine ⟨result.2, ?_, ?_⟩
  · rw [key, ← keyPart, ← keyResult]
    exact lookup_of_mem nodup inResults
  · exact (agree other inNamed).related one (Outcome.bind_eq_ok.mpr ⟨part.2, opens, two⟩)

/-- If the object of a table becomes a map, so does the table. -/
theorem exists_map_of_inference {value result : Value}
    (converted : (Tree.table entries).convert .dynamic = .ok value)
    (onward : value.convert (.map element) = .ok result) :
    ∃ direct, (Tree.table entries).convert (.map element) = .ok direct := by
  obtain ⟨parts, rfl, arranged⟩ := parts_of_convert_dynamic byKey converted
  apply Reading.exists_toMap static.hasNone byKey
  intro other member
  obtain ⟨part, inParts, -, opens⟩ := arranged.exists_right member
  obtain ⟨item, one⟩ := Value.each_of_convertTo_map static onward part inParts
  obtain ⟨direct, found⟩ := (agree other member).succeeds_iff.mpr
    ⟨item, Outcome.bind_eq_ok.mpr ⟨part.2, opens, one⟩⟩
  have sound := Reading.byText_sound (readEntries_sound payloads) byKey other member
  have typed := sound.typed element direct static.wellFormed static.hasNone found
  exact ⟨direct, found, typed.type_eq static.wellFormed⟩

omit byKey agree

theorem table_agrees (each : ∀ entry ∈ entries, AgreesByInference entry.2.read element) :
    AgreesByInference (Tree.table entries).read (.map element) := by
  have agree {named : List (String × Reading)} (byKey : Reading.byText (readEntries entries) = .ok named) :
      ∀ other ∈ named, AgreesByInference other.2 element := by
    intro other member
    obtain ⟨entry, inTable, same⟩ := exists_entry_of_byText byKey member
    exact same ▸ each entry inTable
  apply Outcome.Agrees.ofSuccesses
  · intro direct read
    obtain ⟨named, _, _, byKey, -⟩ := Reading.toMap_eq_ok read
    obtain ⟨items, rfl, related⟩ :=
      Reading.toMap_static static (readEntries_sound payloads) byKey read
    exact exists_map_by_inference payloads static byKey (agree byKey) related
  · intro result through
    obtain ⟨value, converted, onward⟩ := Outcome.bind_eq_ok.mp through
    have opened := (convert_dynamic (.table entries)).symm.trans converted
    obtain ⟨ty, implied, -⟩ := Outcome.bind_eq_ok.mp opened
    obtain ⟨named, _, byKey, -⟩ := Reading.impliedObject_eq_ok.mp implied
    exact exists_map_of_inference payloads static byKey (agree byKey) converted onward

end Table

/-- A host value converts to a type built from string and number by making maps if it has a structural
    form that converts to that type, and then the results are equal. -/
theorem agrees_by_inference {tree : Tree} (payloads : tree.All Value.WellFormed) {want : Ty}
    (tabular : want.Tabular) : AgreesByInference tree.read want := by
  have same {tree : Tree} {want : Ty} (payloads : tree.All Value.WellFormed) (outer : want.WellFormed) :
      Outcome.Agrees (fun direct result => direct.exactlyEqual result = true) (tree.convert want)
        (tree.convert want) :=
    .self fun result read =>
      Value.exactlyEqual_refl ((read_sound payloads).wellFormed want result outer read)
  induction tabular generalizing tree with
  | string =>
      rw [AgreesByInference, ← convert, ← convert, ← convert_primitive_by_inference tree (.inr rfl)]
      exact same payloads .string
  | number =>
      rw [AgreesByInference, ← convert, ← convert, ← convert_primitive_by_inference tree (.inl rfl)]
      exact same payloads .number
  | @map element inner ih =>
      have static : (Ty.map element).Static := inner.map.static
      cases tree with
      | nil => exact nil_agrees static
      | boolean flag => exact scalar_agrees (boolean_form flag) rfl
      | number x => exact scalar_agrees (ofNumber_form x) rfl
      | string text => exact scalar_agrees (string_form text) rfl
      | function | foreign | endless => exact .error _ _
      | wrapped value =>
          rw [AgreesByInference, ← convert, ← convert, convert_dynamic_wrapped]
          exact same payloads static.wellFormed
      | table entries =>
          apply table_agrees payloads static.ofMap
          cases payloads with
          | table _ values => exact fun entry member => ih (values entry member)

end Tree

/-! ### Host values -/

namespace Host

variable {host : Host}

/-- A wrapped value is converted as such. -/
theorem convert_wrap (host : Host) (value : Value) {want : Ty} (static : want.isDynamic = false) :
    (host.wrap value).2.convert (host.wrap value).1 want = value.convert want := by
  rw [convert, treeTo_eq_wrapped.mpr (unwrap_wrap host value)]
  change value.convert (if want.isDynamic then value.type else want) = value.convert want
  rw [static]
  rfl

/-- A table becomes a map of a type built from string and number by making maps exactly if it becomes a
    value where the type is left open and that value, wrapped, becomes such a map; and then the maps are
    equal. -/
theorem convert_map_by_inference (payloads : host.Carries Value.WellFormed) {element : Ty}
    (tabular : (Ty.map element).Tabular) (ref : TableRef) :
    ((∃ direct, host.convert (.table ref) (.map element) = .ok direct) ↔
      ∃ value result, host.convert (.table ref) .dynamic = .ok value ∧
        (host.wrap value).2.convert (host.wrap value).1 (.map element) = .ok result) ∧
    ∀ direct value result, host.convert (.table ref) (.map element) = .ok direct →
      host.convert (.table ref) .dynamic = .ok value →
      (host.wrap value).2.convert (host.wrap value).1 (.map element) = .ok result →
        direct.exactlyEqual result = true := by
  -- Seen as deep as the map asks for, the table is also seen as deep as inference asks for.
  obtain ⟨depth, deep, deepEnough⟩ : ∃ depth, host.tables.size + 1 + (Ty.map element).nesting ≤ depth ∧
      host.tables.size + 1 + Ty.dynamic.nesting ≤ depth := ⟨_, le_rfl, Nat.le_add_right _ _⟩
  have agree := Tree.agrees_by_inference (treeTo_all payloads depth (.table ref)) tabular
  rw [Tree.AgreesByInference, ← Tree.convert, ← Tree.convert, treeTo_convert deep,
    treeTo_convert deepEnough] at agree
  constructor
  · refine agree.succeeds_iff.trans ⟨?_, ?_⟩
    · rintro ⟨result, through⟩
      obtain ⟨value, converted, onward⟩ := Outcome.bind_eq_ok.mp through
      exact ⟨value, result, converted, (convert_wrap host value rfl).trans onward⟩
    · rintro ⟨value, result, converted, onward⟩
      rw [convert_wrap host value rfl] at onward
      exact ⟨result, Outcome.bind_eq_ok.mpr ⟨value, converted, onward⟩⟩
  · intro direct value result read converted onward
    rw [convert_wrap host value rfl] at onward
    exact agree.related read (Outcome.bind_eq_ok.mpr ⟨value, converted, onward⟩)

/-- A host with a table of a table with a truth value and a wrapped object with another one. -/
def nestedTruths : Host :=
  { start {} with
    tables := (start {}).tables ++ #[
      { entries := [(.string "b", .userdata ⟨0⟩), (.boolean true, .table ⟨3⟩)] },
      { entries := [(.string "x", .boolean true)] }]
    userdata := #[⟨.structural (.object [("k", .bool false)]), some wrappedMetatable⟩] }

theorem nestedTruths_carries : nestedTruths.Carries Value.WellFormed := by
  refine (carries_of_sole rfl).mono ?_
  rintro _ rfl
  exact .ofEntries (List.nodup_singleton "k") (List.forall_mem_singleton.mpr (.bool false))

/-- What its table becomes as a map of maps of strings. -/
def nestedTexts : Value :=
  .map (.map .string) [("b", .map .string [("k", .string "false")]),
    ("true", .map .string [("x", .string "true")])]

/-- The table becomes that map directly, and so it does by way of its object. -/
theorem convert_map_by_inference_nestedTruths :
    ∃ value result, nestedTruths.convert (.table ⟨2⟩) .dynamic = .ok value ∧
      (nestedTruths.wrap value).2.convert (nestedTruths.wrap value).1 (.map (.map .string)) = .ok result ∧
      nestedTexts.exactlyEqual result = true := by
  have read : nestedTruths.convert (.table ⟨2⟩) (.map (.map .string)) = .ok nestedTexts := rfl
  obtain ⟨both, equal⟩ := convert_map_by_inference nestedTruths_carries (.map (.map .string)) ⟨2⟩
  obtain ⟨value, result, converted, onward⟩ := both.mp ⟨_, read⟩
  exact ⟨value, result, converted, onward, equal _ value result read converted onward⟩

end Host

end Crosswalk
