/-
Module: Crosswalk.Proofs.Value.Widening
Purpose: Conversions that lose nothing. A value that is converted to a wider type and back is the value that
  it was, if its numbers are written, and with all their digits. Each kind of value has a lemma for each of the
  types that it widens to, and the result follows by induction on the widening.
Main exports: Value.Lossless, Value.RoundTrips, Value.roundTrips_of_widens, Value.convert_widened
-/
import Crosswalk.Proofs.Text.Spelling
import Crosswalk.Proofs.Value.Restoring

namespace Crosswalk.Value

/-! ### There and back -/

/-- A value of a type, all of whose numbers are written with all their digits. -/
structure Lossless (ty : Ty) (value : Value) : Prop where
  typed : HasType value ty
  wellFormed : value.WellFormed
  written : ∀ path amount, value.follow? path = some (.number amount) → amount.Precise ∧ amount.IsShort

namespace Lossless

theorem part {ty partTy : Ty} {value part : Value} {step : Step} (lossless : Lossless ty value)
    (leads : value.part? step = some part) (typed : HasType part partTy) : Lossless partTy part where
  typed := typed
  wellFormed := part?_wellFormed lossless.wellFormed leads
  written path amount isNumber :=
    lossless.written (step :: path) amount ((follow?_cons leads).trans isNumber)

theorem item {ty partTy : Ty} {value part : Value} {located : Located} {own : Option Ty}
    (lossless : Lossless ty value) (parts : sequence? value = some (located, own))
    (member : part ∈ located.map Prod.snd) (typed : HasType part partTy) : Lossless partTy part := by
  obtain ⟨entry, inLocated, rfl⟩ := List.mem_map.mp member
  obtain ⟨_, -, leads⟩ := exists_position parts inLocated
  exact lossless.part leads typed

/-- The elements of a sequence that has its type throughout. -/
theorem elements {ty partTy : Ty} {value : Value} {items : List Value} {own : Option Ty}
    (lossless : Lossless ty value) (parts : sequence? value = some (sequence?.atPositions items, own))
    (typed : ∀ item ∈ items, HasType item partTy) : ∀ item ∈ items, Lossless partTy item :=
  fun item member => lossless.item parts ((snd_atPositions items).symm ▸ member) (typed item member)

/-- The elements of a tuple at the types of their positions. -/
theorem positions {types : List Ty} {items : List Value} (lossless : Lossless (.tuple types) (.tuple items))
    (length : items.length = types.length) (typed : ∀ pair ∈ items.zip types, HasType pair.1 pair.2) :
    List.Forall₂ Lossless types items := by
  have each : List.Forall₂ HasType items types :=
    List.forall₂_iff_zip.mpr ⟨length, fun member => typed _ member⟩
  apply List.Forall₂.flip
  apply Outcome.forall₂_of_mem each
  exact fun item member ty given => lossless.item rfl ((snd_atPositions items).symm ▸ member) given

theorem entry {ty partTy : Ty} {value part : Value} {entries : List (String × Value)} {own : Option Ty}
    {name : String} (lossless : Lossless ty value) (parts : mapping? value = some (entries, own))
    (found : entries.lookup name = some part) (typed : HasType part partTy) : Lossless partTy part :=
  lossless.part ((part?_of_mapping? parts name).1.trans found) typed

/-- An object has an entry for every attribute. -/
theorem field {attributes : List (String × Ty)} {entries : List (String × Value)}
    (lossless : Lossless (.object attributes) (.object entries)) (sorted : Ty.Sorted attributes)
    {want : String × Ty} (member : want ∈ attributes) :
    ∃ item, entries.lookup want.1 = some item ∧ Lossless want.2 item := by
  cases lossless.typed with
  | object keys inner =>
      have named : want.1 ∈ entries.map Prod.fst := keys.mem_iff.mpr (List.mem_map_of_mem member)
      obtain ⟨⟨name, item⟩, inEntries, same⟩ := List.mem_map.mp named
      have nodup : (entries.map Prod.fst).Nodup := keys.nodup_iff.mpr sorted.nodup
      have found : entries.lookup want.1 = some item := same ▸ lookup_of_mem nodup inEntries
      have asked : Ty.attribute? attributes want.1 = some want.2 := lookup_of_mem sorted.nodup member
      exact ⟨item, found, lossless.entry rfl found (inner want.1 item want.2 found asked)⟩

end Lossless

/-- A value converts to a type, and the result restores it. -/
def RoundTrips (ty wide : Ty) (value : Value) : Prop :=
  ∃ widened, convertTo wide value = .ok widened ∧ Restores ty widened value

theorem RoundTrips.restores {ty wide : Ty} {value widened : Value} (roundTrips : RoundTrips ty wide value)
    (converted : convertTo wide value = .ok widened) : Restores ty widened value := by
  obtain ⟨_, another, restores⟩ := roundTrips
  obtain rfl := Except.ok.inj (another.symm.trans converted)
  exact restores

/-- Values of the type itself and values without data come back. It remains to look at values with data. -/
theorem roundTrips_of_present {ty wide : Ty} {value : Value} (widens : ty.Widens wide)
    (static : ty.Static) (staticWide : wide.Static) (lossless : Lossless ty value)
    (others : ty ≠ wide → value.isAbsent = false → RoundTrips ty wide value) :
    RoundTrips ty wide value := by
  have isType := lossless.typed.type_eq static.wellFormed
  have unchanged : convertTo ty value = .ok value := isType ▸ convertTo_type value
  have equal := exactlyEqual_refl lossless.wellFormed
  by_cases same : ty = wide
  · subst same
    exact ⟨value, unchanged, value, unchanged, equal⟩
  · by_cases absent : value.isAbsent = true
    · obtain ⟨forward, back⟩ := widens.canConvert static staticWide
      have there {given : Value} (given_type : given.type = ty) (absent : given.isAbsent = true) :=
        convertTo_absent_ok staticWide (given_type ▸ same) absent (given_type ▸ forward)
      have again {given : Value} (given_type : given.type = wide) (absent : given.isAbsent = true) :=
        convertTo_absent_ok static (given_type ▸ Ne.symm same) absent (given_type ▸ back)
      cases value with
      | null given =>
          cases isType
          exact ⟨_, there rfl rfl, _, again rfl rfl, equal⟩
      | unknown given =>
          cases isType
          exact ⟨_, there rfl rfl, _, again rfl rfl, equal⟩
      | _ => cases absent
    · exact others same (Bool.eq_false_iff.mpr absent)

/-- A truth value is read from its text. -/
theorem roundTrips_bool (flag : Bool) : RoundTrips .bool .string (.bool flag) := by
  have text : ofText (if flag then "true" else "false") = .string (if flag then "true" else "false") :=
    congrArg Value.string (Text.truth_onlySpelling flag).isNormal
  refine ⟨ofText (if flag then "true" else "false"), ?_, .bool flag, ?_, by simp [exactlyEqual]⟩
  · rw [convertTo_primitive rfl (by simp [type]) rfl]
    rfl
  · rw [text, convertTo_primitive rfl (by simp [type]) rfl]
    cases flag <;> simp [convertPrimitive]

/-- A number that is written with all its digits is read from its text. -/
theorem roundTrips_number {amount : Decimal} (precise : amount.Precise) (short : amount.IsShort) :
    RoundTrips .number .string (.number amount) := by
  have text : ofText amount.format = .string amount.format :=
    congrArg Value.string (Decimal.format_onlySpelling amount).isNormal
  refine ⟨.string amount.format, ?_, .number amount, ?_, by simp [exactlyEqual]⟩
  · rw [convertTo_primitive rfl (by simp [type]) rfl, convertPrimitive, Decimal.render_of_precise precise short]
    exact congrArg Except.ok text
  · rw [convertTo_primitive rfl (by simp [type]) rfl]
    simp only [convertPrimitive, Decimal.parse_format precise]

/-! ### Collections and structures -/

/-- What restores the elements of a sequence that were all converted to one type. -/
theorem restores_each {ty wide : Ty} {items widened : List Value}
    (each : ∀ item ∈ items, RoundTrips ty wide item)
    (related : List.Forall₂ (fun item result => convertTo wide item = .ok result) items widened) :
    List.Forall₂ (fun item part => Restores ty part item) items widened :=
  Outcome.forall₂_of_mem related fun item member _ converted => (each item member).restores converted

/-- What restores the elements of a tuple, each of which was converted to a type of its own. -/
theorem restores_positions {elements others : List Ty} {items widened : List Value}
    (length : elements.length = others.length)
    (each : List.Forall₂ (fun pair item => RoundTrips pair.1 pair.2 item) (elements.zip others) items)
    (related : List.Forall₂ (fun part result => convertTo part.1 part.2 = .ok result)
      (others.zip items) widened) :
    List.Forall₂ (fun item part => Restores part.1 part.2 item) items (elements.zip widened) := by
  induction elements generalizing others items widened with
  | nil =>
      cases each
      exact .nil
  | cons element elements ih =>
      match others with
      | other :: others =>
          cases each with
          | cons head tail =>
              cases related with
              | cons converted rest =>
                  exact .cons (head.restores converted) (ih (Nat.succ.inj length) tail rest)

theorem exists_of_each {ty wide : Ty} {items : List Value} (each : ∀ item ∈ items, RoundTrips ty wide item) :
    ∀ item ∈ items, ∃ result, convertTo wide item = .ok result :=
  fun item member => (each item member).imp fun _ both => both.1

theorem roundTrips_list {element other : Ty} (static : (Ty.list element).Static)
    (staticWide : (Ty.list other).Static) (differs : Ty.list element ≠ .list other) {items : List Value}
    (wellFormed : (Value.list element items).WellFormed)
    (each : ∀ item ∈ items, RoundTrips element other item) :
    RoundTrips (.list element) (.list other) (.list element items) := by
  obtain ⟨widened, related, forward⟩ :=
    exists_list rfl wellFormed staticWide.ofList differs rfl
      ((snd_atPositions items).symm ▸ exists_of_each each)
  rw [snd_atPositions] at related
  have inner := convertTo_wellFormed staticWide.wellFormed wellFormed forward
  refine ⟨_, forward, restores_list rfl inner static differs.symm rfl ?_⟩
  rw [snd_atPositions]
  exact restores_each each related

theorem roundTrips_setToList {element other : Ty} (static : (Ty.set element).Static)
    (staticWide : (Ty.list other).Static) {items : List Value}
    (wellFormed : (Value.set element items).WellFormed)
    (each : ∀ item ∈ items, RoundTrips element other item) :
    RoundTrips (.set element) (.list other) (.set element items) := by
  obtain ⟨widened, related, forward⟩ :=
    exists_list rfl wellFormed staticWide.ofList (by simp [type]) rfl
      ((snd_atPositions items).symm ▸ exists_of_each each)
  rw [snd_atPositions] at related
  have inner := convertTo_wellFormed staticWide.wellFormed wellFormed forward
  have restores := restores_each each related
  refine ⟨_, forward, restores_set rfl inner static wellFormed (by simp [type]) rfl ?_ ?_⟩
  · rw [snd_atPositions]
    exact fun part member => Outcome.exists_of_forall₂ restores member
  · rw [snd_atPositions]
    exact fun item member => Outcome.exists_of_forall₂ restores.flip member

/-- Members of a set that become equal were equal, so that none of them is lost. -/
theorem roundTrips_set {element other : Ty} (widens : element.Widens other)
    (static : (Ty.set element).Static) (staticWide : (Ty.set other).Static)
    (differs : Ty.set element ≠ .set other) {items : List Value}
    (wellFormed : (Value.set element items).WellFormed)
    (each : ∀ item ∈ items, RoundTrips element other item) :
    RoundTrips (.set element) (.set other) (.set element items) := by
  obtain ⟨widened, related, forward⟩ :=
    exists_set rfl wellFormed staticWide.ofSet differs rfl
      ((snd_atPositions items).symm ▸ exists_of_each each)
  rw [snd_atPositions] at related
  have inner := convertTo_wellFormed staticWide.wellFormed wellFormed forward
  have restores := restores_each each related
  have innerItems : ∀ item ∈ items, item.WellFormed := by
    cases wellFormed with
    | set _ _ _ inner => exact inner
  have results : ∀ result ∈ widened, result.WellFormed ∧ HasType result other := by
    intro result member
    obtain ⟨item, inItems, converted⟩ := Outcome.exists_of_forall₂ related member
    have outer := staticWide.ofSet
    exact ⟨convertTo_wellFormed outer.wellFormed (innerItems item inItems) converted,
      convertTo_hasType outer.wellFormed outer.hasNone (innerItems item inItems) converted⟩
  refine ⟨_, forward, restores_set rfl inner static wellFormed differs.symm rfl ?_ ?_⟩
  · rw [snd_atPositions]
    exact fun part member => Outcome.exists_of_forall₂ restores (mem_of_mem_withoutRepeats member)
  · rw [snd_atPositions]
    intro item member
    obtain ⟨part, inWidened, back, converted, equal⟩ := Outcome.exists_of_forall₂ restores.flip member
    obtain ⟨kept, remains, same⟩ :=
      exists_mem_withoutRepeats (fun result member => (results result member).1) inWidened
    obtain ⟨wellFormedPart, typed⟩ := results part inWidened
    have wellFormedKept := (results kept (mem_of_mem_withoutRepeats remains)).1
    obtain ⟨again, convertedAgain, sameBack⟩ := narrow_congr widens static.ofSet.wellFormed
      wellFormedPart wellFormedKept typed same converted
    have wellFormedBack := convertTo_wellFormed static.ofSet.wellFormed wellFormedPart converted
    exact ⟨kept, remains, again, convertedAgain,
      exactlyEqual_trans (exactlyEqual_symm wellFormedBack sameBack) equal⟩

theorem roundTrips_map {element other : Ty} (static : (Ty.map element).Static)
    (staticWide : (Ty.map other).Static) (differs : Ty.map element ≠ .map other)
    {entries : List (String × Value)} (wellFormed : (Value.map element entries).WellFormed)
    (each : ∀ entry ∈ entries, RoundTrips element other entry.2) :
    RoundTrips (.map element) (.map other) (.map element entries) := by
  obtain ⟨widened, related, forward⟩ :=
    exists_map rfl wellFormed staticWide.ofMap differs rfl
      fun entry member => (each entry member).imp fun _ both => both.1
  have inner := convertTo_wellFormed staticWide.wellFormed wellFormed forward
  have nodup := (wellFormed.mapping? rfl).1
  refine ⟨_, forward, restores_map rfl inner static nodup differs.symm rfl ?_⟩
  apply Outcome.forall₂_of_mem related
  exact fun entry member part both => ⟨both.1, (each entry member).restores both.2⟩

theorem roundTrips_tupleToList {elements : List Ty} {other : Ty} (staticWide : (Ty.list other).Static)
    {items : List Value} (wellFormed : (Value.tuple items).WellFormed)
    (each : List.Forall₂ (fun element item => RoundTrips element other item) elements items) :
    RoundTrips (.tuple elements) (.list other) (.tuple items) := by
  have converts : ∀ item ∈ items, ∃ result, convertTo other item = .ok result := by
    intro item member
    obtain ⟨element, -, result, converted, -⟩ := Outcome.exists_of_forall₂ each member
    exact ⟨result, converted⟩
  obtain ⟨widened, related, forward⟩ :=
    exists_list rfl wellFormed staticWide.ofList (by simp [type]) rfl
      ((snd_atPositions items).symm ▸ converts)
  rw [snd_atPositions] at related
  have length : (sequence?.atPositions widened).length = elements.length := by
    rw [each.length_eq, related.length_eq, ← List.length_map Prod.snd, snd_atPositions]
  refine ⟨_, forward, restores_tuple rfl (by simp [type]) rfl length ?_⟩
  rw [snd_atPositions]
  exact (Outcome.forall₂_zip each related.flip).flip.imp fun _ _ both => both.1.restores both.2

theorem roundTrips_tuple {elements others : List Ty} (staticWide : (Ty.tuple others).Static)
    (differs : Ty.tuple elements ≠ .tuple others) (length : elements.length = others.length)
    {items : List Value} (wellFormed : (Value.tuple items).WellFormed)
    (isType : (Value.tuple items).type = .tuple elements)
    (each : List.Forall₂ (fun pair item => RoundTrips pair.1 pair.2 item) (elements.zip others) items) :
    RoundTrips (.tuple elements) (.tuple others) (.tuple items) := by
  have converts : List.Forall₂ (fun other item => ∃ result, convertTo other item = .ok result)
      ((elements.zip others).map Prod.snd) items :=
    List.forall₂_map_left_iff.mpr (each.imp fun _ _ roundTrips => roundTrips.imp fun _ both => both.1)
  rw [List.map_snd_zip length.ge] at converts
  have count : (sequence?.atPositions items).length = others.length := by
    rw [converts.length_eq, ← List.length_map Prod.snd, snd_atPositions]
  obtain ⟨widened, related, forward⟩ :=
    exists_tuple rfl (isType ▸ differs) rfl count fun part member => by
      rw [snd_atPositions] at member
      exact List.forall₂_zip converts member
  rw [snd_atPositions] at related
  have typed := convertTo_hasType staticWide.wellFormed staticWide.hasNone wellFormed forward
  have isWide := typed.type_eq staticWide.wellFormed
  refine ⟨_, forward, restores_tuple rfl (isWide ▸ differs.symm) rfl ?_ ?_⟩
  · cases typed with
    | tuple sameLength =>
        rw [← List.length_map Prod.snd, snd_atPositions, sameLength, length]
  · rw [snd_atPositions]
    exact restores_positions length each related

theorem roundTrips_objectToMap {attributes : List (String × Ty)} {other : Ty}
    (static : (Ty.object attributes).Static) (staticWide : (Ty.map other).Static)
    {entries : List (String × Value)} (wellFormed : (Value.object entries).WellFormed)
    (keys : (entries.map Prod.fst).Perm (attributes.map Prod.fst))
    (each : ∀ want ∈ attributes, ∃ item, entries.lookup want.1 = some item ∧
      RoundTrips want.2 other item) :
    RoundTrips (.object attributes) (.map other) (.object entries) := by
  have nodup := (wellFormed.mapping? rfl).1
  have converts : ∀ entry ∈ entries, ∃ result, convertTo other entry.2 = .ok result := by
    intro entry member
    have named := keys.mem_iff.mp (List.mem_map_of_mem member)
    obtain ⟨want, inWants, same⟩ := List.mem_map.mp named
    obtain ⟨item, found, result, converted, -⟩ := each want inWants
    obtain rfl := Option.some.inj ((lookup_of_mem nodup member).symm.trans (same ▸ found))
    exact ⟨result, converted⟩
  obtain ⟨widened, related, forward⟩ :=
    exists_map rfl wellFormed staticWide.ofMap (by simp [type, Ty.objectOf]) rfl converts
  have sameKeys := Outcome.keys_eq_of_forall₂ (related.imp fun _ _ pair => pair.1)
  have supported : unsupported? attributes (.map other widened) = none := by
    rw [unsupported?, Option.map_eq_none_iff, List.find?_eq_none]
    intro part member
    have named := keys.mem_iff.mp (sameKeys ▸ List.mem_map_of_mem member)
    obtain ⟨want, inWants, same⟩ := List.mem_map.mp named
    rw [← same]
    have found : Ty.attribute? attributes want.1 = some want.2 := lookup_of_mem static.sorted.nodup inWants
    simp [found]
  refine ⟨_, forward, restores_object rfl keys (by simp [type]) rfl supported fun want member => ?_⟩
  obtain ⟨item, found, roundTrips⟩ := each want member
  obtain ⟨part, inParts, same, converted⟩ :=
    Outcome.exists_of_forall₂ related.flip (mem_of_lookup found)
  have foundPart : widened.lookup want.1 = some part.2 :=
    lookup_of_mem (sameKeys.symm ▸ nodup) (same ▸ inParts)
  exact ⟨item, part.2, found, foundPart, roundTrips.restores converted⟩

theorem roundTrips_object {attributes others : List (String × Ty)}
    (static : (Ty.object attributes).Static) (staticWide : (Ty.object others).Static)
    (differs : Ty.object attributes ≠ .object others)
    (names : attributes.map Prod.fst = others.map Prod.fst) {entries : List (String × Value)}
    (wellFormed : (Value.object entries).WellFormed)
    (keys : (entries.map Prod.fst).Perm (attributes.map Prod.fst))
    (isType : (Value.object entries).type = .object attributes)
    (each : ∀ pair ∈ attributes.zip others, ∃ item, entries.lookup pair.1.1 = some item ∧
      RoundTrips pair.1.2 pair.2.2 item) :
    RoundTrips (.object attributes) (.object others) (.object entries) := by
  have converts : ∀ want ∈ others, ∃ item, entries.lookup want.1 = some item ∧
      ∃ result, convertTo want.2 item = .ok result := by
    intro want member
    have wanted := lookup_of_mem staticWide.sorted.nodup member
    obtain ⟨ty, -, paired⟩ := Ty.attribute?_zip names.symm wanted
    obtain ⟨item, found, result, converted, -⟩ := each _ (Ty.mem_zip_swap paired)
    exact ⟨item, found, result, converted⟩
  obtain ⟨widened, related, forward⟩ := exists_object rfl (isType ▸ differs) rfl rfl converts
  have typed := convertTo_hasType staticWide.wellFormed staticWide.hasNone wellFormed forward
  have isWide := typed.type_eq staticWide.wellFormed
  have sameKeys := Outcome.keys_eq_of_forall₂ (related.imp fun _ _ pair => pair.1)
  refine ⟨_, forward, restores_object rfl keys (isWide ▸ differs.symm) rfl rfl fun want member => ?_⟩
  have wanted := lookup_of_mem static.sorted.nodup member
  obtain ⟨wide, isOther, paired⟩ := Ty.attribute?_zip names wanted
  obtain ⟨item, found, roundTrips⟩ := each _ paired
  obtain ⟨part, inParts, same, again, foundAgain, converted⟩ :=
    Outcome.exists_of_forall₂ related.flip (mem_of_lookup isOther)
  obtain rfl := Option.some.inj (found.symm.trans foundAgain)
  have foundPart : widened.lookup want.1 = some part.2 :=
    lookup_of_mem (sameKeys.symm ▸ staticWide.sorted.nodup) (same ▸ inParts)
  exact ⟨item, part.2, found, foundPart, roundTrips.restores converted⟩

/-- A value whose numbers are written with all their digits comes back from every wider type. -/
theorem roundTrips_of_widens {ty wide : Ty} (widens : ty.Widens wide) (static : ty.Static)
    (staticWide : wide.Static) {value : Value} (lossless : Lossless ty value) :
    RoundTrips ty wide value := by
  induction widens generalizing value with
  | refl ty =>
      apply roundTrips_of_present (.refl ty) static staticWide lossless
      exact fun differs => absurd rfl differs
  | boolToString =>
      apply roundTrips_of_present .boolToString static staticWide lossless
      intro _ present
      cases lossless.typed with
      | null | unknown => cases present
      | bool flag => exact roundTrips_bool flag
  | numberToString =>
      apply roundTrips_of_present .numberToString static staticWide lossless
      intro _ present
      cases lossless.typed with
      | null | unknown => cases present
      | number amount =>
          obtain ⟨precise, short⟩ := lossless.written [] amount rfl
          exact roundTrips_number precise short
  | @list element other inner ih =>
      apply roundTrips_of_present (.list inner) static staticWide lossless
      intro differs present
      cases lossless.typed with
      | null | unknown => cases present
      | list typed =>
          apply roundTrips_list static staticWide differs lossless.wellFormed
          intro item member
          exact ih static.ofList staticWide.ofList (lossless.elements rfl typed item member)
  | @set element other inner ih =>
      apply roundTrips_of_present (.set inner) static staticWide lossless
      intro differs present
      cases lossless.typed with
      | null | unknown => cases present
      | set typed =>
          apply roundTrips_set inner static staticWide differs lossless.wellFormed
          intro item member
          exact ih static.ofSet staticWide.ofSet (lossless.elements rfl typed item member)
  | @setToList element other inner ih =>
      apply roundTrips_of_present (.setToList inner) static staticWide lossless
      intro differs present
      cases lossless.typed with
      | null | unknown => cases present
      | set typed =>
          apply roundTrips_setToList static staticWide lossless.wellFormed
          intro item member
          exact ih static.ofSet staticWide.ofList (lossless.elements rfl typed item member)
  | @map element other inner ih =>
      apply roundTrips_of_present (.map inner) static staticWide lossless
      intro differs present
      cases lossless.typed with
      | null | unknown => cases present
      | map typed =>
          apply roundTrips_map static staticWide differs lossless.wellFormed
          intro entry member
          have found := lookup_of_mem (lossless.wellFormed.mapping? rfl).1 member
          exact ih static.ofMap staticWide.ofMap (lossless.entry rfl found (typed entry member))
  | @tupleToList elements other inner ih =>
      apply roundTrips_of_present (.tupleToList inner) static staticWide lossless
      intro differs present
      cases lossless.typed with
      | null | unknown => cases present
      | @tuple _ items length each =>
          apply roundTrips_tupleToList staticWide lossless.wellFormed
          apply Outcome.forall₂_of_mem (lossless.positions length each)
          exact fun element member item given =>
            ih element member (static.ofTuple member) staticWide.ofList given
  | @objectToMap attributes other inner ih =>
      apply roundTrips_of_present (.objectToMap inner) static staticWide lossless
      intro differs present
      cases lossless.typed with
      | null | unknown => cases present
      | object keys each =>
          apply roundTrips_objectToMap static staticWide lossless.wellFormed keys
          intro want member
          obtain ⟨item, found, given⟩ := lossless.field static.sorted member
          exact ⟨item, found, ih want member (static.ofObject member) staticWide.ofMap given⟩
  | @tuple elements others sameLength inner ih =>
      apply roundTrips_of_present (.tuple sameLength inner) static staticWide lossless
      intro differs present
      have isType := lossless.typed.type_eq static.wellFormed
      cases lossless.typed with
      | null | unknown => cases present
      | @tuple _ items length each =>
          apply roundTrips_tuple staticWide differs sameLength lossless.wellFormed isType
          have wides : List.Forall₂ (fun _ _ => True) others items :=
            List.forall₂_iff_zip.mpr ⟨(length.trans sameLength).symm, fun _ => trivial⟩
          have given := Outcome.forall₂_zip (lossless.positions length each) wides
          apply Outcome.forall₂_of_mem given
          intro pair member item both
          obtain ⟨left, right⟩ := List.of_mem_zip member
          exact ih pair member (static.ofTuple left) (staticWide.ofTuple right) both.1
  | @object attributes others names inner ih =>
      apply roundTrips_of_present (.object names inner) static staticWide lossless
      intro differs present
      have isType := lossless.typed.type_eq static.wellFormed
      cases lossless.typed with
      | null | unknown => cases present
      | object keys each =>
          apply roundTrips_object static staticWide differs names lossless.wellFormed keys isType
          intro pair member
          obtain ⟨left, right⟩ := List.of_mem_zip member
          obtain ⟨item, found, given⟩ := lossless.field static.sorted left
          exact ⟨item, found, ih pair member (static.ofObject left) (staticWide.ofObject right) given⟩

/-- A well-formed value of a type without dynamic parts, of which every number is finite, within the
    precision and the limits of the exponent and not too long to be written, converts to a wider type, and is
    the same after a conversion back. -/
theorem convert_widened {ty wide : Ty} (widens : ty.Widens wide) (static : ty.Static)
    (staticWide : wide.Static) {value : Value} (wellFormed : value.WellFormed) (isType : value.type = ty)
    (written : ∀ path amount, value.follow? path = some (.number amount) → amount.Precise ∧ amount.IsShort) :
    ∃ widened, value.convert wide = .ok widened ∧ widened.type = wide ∧
      ∃ back, widened.convert ty = .ok back ∧ back.exactlyEqual value = true := by
  have typed : HasType value ty := isType ▸ wellFormed.hasType (isType ▸ static.hasNone)
  obtain ⟨widened, converted, restores⟩ :=
    roundTrips_of_widens widens static staticWide ⟨typed, wellFormed, written⟩
  have wideTyped := convertTo_hasType staticWide.wellFormed staticWide.hasNone wellFormed converted
  exact ⟨widened, converted, wideTyped.type_eq staticWide.wellFormed, restores⟩

private def threeHalves : Decimal := .finite 15 (-1) (by decide)

private def minusTwenty : Decimal := .finite (-2) 1 (by decide)

/-- A set of numbers comes back from a list of texts. -/
theorem convert_widened_twoNumbers :
    ∃ widened, (twoNumbers threeHalves minusTwenty).convert (.list .string) = .ok widened ∧
      widened.type = .list .string ∧
      ∃ back, widened.convert (.set .number) = .ok back ∧
        back.exactlyEqual (twoNumbers threeHalves minusTwenty) = true := by
  have halves : threeHalves.Precise ∧ threeHalves.IsShort :=
    ⟨⟨by decide +kernel, by decide, by decide +kernel⟩, by decide +kernel⟩
  have twenty : minusTwenty.Precise ∧ minusTwenty.IsShort :=
    ⟨⟨by decide +kernel, by decide, by decide +kernel⟩, by decide +kernel⟩
  refine convert_widened (.setToList .numberToString) ⟨.set .number, rfl⟩ ⟨.list .string, rfl⟩
    (twoNumbers_wellFormed (by decide)) rfl fun path amount isNumber => ?_
  cases path with
  | nil => cases isNumber
  | cons step path =>
      rcases follow?_twoNumbers isNumber with same | same
      · cases same
        exact halves
      · cases same
        exact twenty

end Crosswalk.Value
