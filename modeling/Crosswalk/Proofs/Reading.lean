/-
Module: Crosswalk.Proofs.Reading
Purpose: Reading host values is sound. Whatever a host value holds, the type that it implies is well-formed,
  and a value that it converts to is well-formed and has the wanted type throughout, provided that the
  structural values inside it are well-formed. The readings of the entries of a table are put together in
  several ways; each has a lemma that says what it yields, and soundness follows by induction on the tree.
Main exports: Tree.All, Reading.byText_eq_ok, Reading.toObject_eq_ok, Reading.Sound, Tree.read_sound,
  Tree.convert_absent
-/
import Crosswalk.Proofs.Value.Typing
import Crosswalk.Tree.Reading

namespace Crosswalk

/-! ### Trees -/

namespace Tree

/-- Induction on trees, with an assumption for every key and value of a table. -/
@[elab_as_elim]
theorem induct {motive : Tree → Prop} (nil : motive .nil) (boolean : ∀ flag, motive (.boolean flag))
    (number : ∀ x, motive (.number x)) (string : ∀ text, motive (.string text))
    (table : ∀ entries : List (Tree × Tree),
      (∀ entry ∈ entries, motive entry.1 ∧ motive entry.2) → motive (.table entries))
    (function : motive .function) (wrapped : ∀ value, motive (.wrapped value))
    (foreign : motive .foreign) (endless : motive .endless) (tree : Tree) : motive tree :=
  @Tree.rec motive (fun entries => ∀ entry ∈ entries, motive entry.1 ∧ motive entry.2)
    (fun entry => motive entry.1 ∧ motive entry.2)
    nil boolean number string table function wrapped foreign endless
    (List.forall_mem_nil _) (fun _ _ first rest => List.forall_mem_cons.mpr ⟨first, rest⟩)
    (fun _ _ key value => ⟨key, value⟩) tree

/-- Every structural value in a tree has a property. -/
inductive All (Holds : Value → Prop) : Tree → Prop
  | nil : All Holds .nil
  | boolean (flag : Bool) : All Holds (.boolean flag)
  | number (x : Binary64) : All Holds (.number x)
  | string (text : String) : All Holds (.string text)
  | table {entries : List (Tree × Tree)} (keys : ∀ entry ∈ entries, All Holds entry.1)
      (values : ∀ entry ∈ entries, All Holds entry.2) : All Holds (.table entries)
  | function : All Holds .function
  | wrapped {value : Value} (holds : Holds value) : All Holds (.wrapped value)
  | foreign : All Holds .foreign
  | endless : All Holds .endless

theorem readEntries_eq_map (entries : List (Tree × Tree)) :
    readEntries entries = entries.map fun entry =>
      ⟨entry.1.position?, entry.1.keyText entry.1.read, entry.2.read⟩ := by
  induction entries with
  | nil => rfl
  | cons entry rest ih => simp [readEntries, ih]

/-- The text of a key that is not a string is read from what it converts to. -/
theorem keyText_of_kind {key : Tree} (notString : key.kind ≠ .string) (reading : Reading) :
    key.keyText reading = reading.keyText := by
  cases key with
  | string => exact absurd rfl notString
  | _ => rfl

end Tree

namespace Reading

/-! ### Tables read by key text -/

private theorem byText_go_eq_ok {entries : List Entry} {found named : List (String × Reading)}
    (read : byText.go found entries = .ok named) (nodup : (found.map Prod.fst).Nodup) :
    ∃ later, named = found ++ later ∧ (named.map Prod.fst).Nodup ∧
      List.Forall₂ (fun entry other => entry.text = .ok other.1 ∧ other.2 = entry.reading)
        entries later := by
  induction entries generalizing found with
  | nil =>
      cases read
      exact ⟨[], (List.append_nil _).symm, nodup, .nil⟩
  | cons entry rest ih =>
      obtain ⟨text, textOf, read⟩ := Outcome.bind_eq_ok.mp read
      split at read
      · cases read
      next fresh =>
          have absent : text ∉ found.map Prod.fst := by
            intro member
            obtain ⟨other, earlier, rfl⟩ := List.mem_map.mp member
            exact fresh (List.any_eq_true.mpr ⟨other, earlier, decide_eq_true rfl⟩)
          have nodupNext : ((found ++ [(text, entry.reading)]).map Prod.fst).Nodup := by
            rw [List.map_append, List.nodup_append]
            refine ⟨nodup, List.nodup_singleton text, fun key member last isLast same => absent ?_⟩
            obtain rfl : last = text := List.mem_singleton.mp isLast
            exact same ▸ member
          obtain ⟨later, rfl, nodupAll, pairs⟩ := ih read nodupNext
          exact ⟨(text, entry.reading) :: later, List.append_assoc _ _ _, nodupAll,
            .cons ⟨textOf, rfl⟩ pairs⟩

/-- Entries read by key text have different texts, and the readings that they had before. -/
theorem byText_eq_ok {entries : List Entry} {named : List (String × Reading)}
    (read : byText entries = .ok named) :
    (named.map Prod.fst).Nodup ∧
      List.Forall₂ (fun entry other => entry.text = .ok other.1 ∧ other.2 = entry.reading)
        entries named := by
  obtain ⟨later, rfl, nodup, pairs⟩ := byText_go_eq_ok read List.nodup_nil
  exact ⟨nodup, pairs⟩

private theorem byText_go_of_forall₂ {entries : List Entry} {found later : List (String × Reading)}
    (pairs : List.Forall₂ (fun entry other => entry.text = .ok other.1 ∧ other.2 = entry.reading)
      entries later)
    (nodup : ((found ++ later).map Prod.fst).Nodup) :
    byText.go found entries = .ok (found ++ later) := by
  induction pairs generalizing found with
  | nil => rw [byText.go, List.append_nil]
  | @cons entry other _ later pair _ ih =>
      have fresh : (found.any fun earlier => earlier.1 = other.1) = false := by
        rw [List.any_eq_false]
        intro earlier member same
        rw [List.map_append, List.nodup_append] at nodup
        exact nodup.2.2 _ (List.mem_map_of_mem member) _ (List.mem_map_of_mem List.mem_cons_self)
          (of_decide_eq_true same)
      have joined : found ++ [(other.1, entry.reading)] ++ later = found ++ other :: later := by
        rw [← pair.2, List.append_assoc, List.singleton_append]
      refine Outcome.bind_eq_ok.mpr ⟨other.1, pair.1, ?_⟩
      rw [fresh, ← joined]
      exact ih (joined ▸ nodup)

/-- Entries with different texts are read under these. -/
theorem byText_of_forall₂ {entries : List Entry} {named : List (String × Reading)}
    (pairs : List.Forall₂ (fun entry other => entry.text = .ok other.1 ∧ other.2 = entry.reading)
      entries named)
    (nodup : (named.map Prod.fst).Nodup) : byText entries = .ok named :=
  byText_go_of_forall₂ pairs nodup

theorem mem_of_byText {entries : List Entry} {named : List (String × Reading)}
    (read : byText entries = .ok named) {other : String × Reading} (member : other ∈ named) :
    ∃ entry ∈ entries, entry.text = .ok other.1 ∧ other.2 = entry.reading :=
  Outcome.exists_of_forall₂ (byText_eq_ok read).2 member

/-! ### Elements of one type -/

theorem convertAtType_eq_ok {want fixed : Ty} {located : List (Step × Reading)} {items : List Value}
    (converted : convertAtType want fixed located = .ok items) :
    List.Forall₂ (fun before item => before.2.convert want = .ok item) located items := by
  induction located generalizing items with
  | nil =>
      cases converted
      exact .nil
  | cons first rest ih =>
      obtain ⟨item, one, converted⟩ := Outcome.bind_eq_ok.mp converted
      split at converted
      · cases converted
      · obtain ⟨others, later, done⟩ := Outcome.bind_eq_ok.mp converted
        cases done
        exact .cons (Outcome.under_eq_ok.mp one) (ih later)

/-- Each reading is converted to the wanted type, and the common type is the wanted one or, where that has
    dynamic parts, that of an element. -/
theorem convertElements_eq_ok {want element : Ty} {located : List (Step × Reading)}
    {items : List Value} (converted : convertElements want located = .ok (items, element)) :
    List.Forall₂ (fun before item => before.2.convert want = .ok item) located items ∧
      (element = want ∨ (want.hasDynamic = true ∧ ∃ item ∈ items, element = item.type)) := by
  unfold convertElements at converted
  split at converted
  next static =>
      obtain ⟨_, each, same⟩ := Outcome.map_eq_ok.mp converted
      obtain ⟨rfl, rfl⟩ := Prod.mk.inj same
      refine ⟨(Outcome.mapM_eq_ok.mp each).imp fun _ _ one => ?_, .inl rfl⟩
      exact Outcome.under_eq_ok.mp one
  next dynamic =>
      split at converted
      next =>
          obtain ⟨rfl, rfl⟩ := Prod.mk.inj (Except.ok.inj converted)
          exact ⟨.nil, .inl rfl⟩
      next =>
          obtain ⟨first, one, converted⟩ := Outcome.bind_eq_ok.mp converted
          obtain ⟨others, later, done⟩ := Outcome.bind_eq_ok.mp converted
          obtain ⟨rfl, rfl⟩ := Prod.mk.inj (Except.ok.inj done)
          refine ⟨.cons (Outcome.under_eq_ok.mp one) (convertAtType_eq_ok later), .inr ⟨?_, ?_⟩⟩
          · simpa using dynamic
          · exact ⟨first, List.mem_cons_self, rfl⟩

/-- The reading at a position is that of an entry, or that of nil. -/
theorem atPosition_cases (entries : List Entry) (position : Nat) :
    atPosition entries position = nil ∨
      ∃ entry ∈ entries, atPosition entries position = entry.reading := by
  unfold atPosition
  split
  next entry found => exact .inr ⟨entry, List.mem_of_find?_eq_some found, rfl⟩
  next => exact .inl rfl

/-! ### Collections and structures -/

/-- The keys of a sequence are positions below the number of its entries. -/
theorem checkSequenceKeys_eq_ok {entries : List Entry} :
    checkSequenceKeys entries = .ok () ↔
      ∀ entry ∈ entries, ∃ position : Int, entry.position = some position ∧ 0 ≤ position ∧
        position < entries.length := by
  rw [checkSequenceKeys, Outcome.forM_eq_ok]
  apply forall₂_congr
  intro entry _
  cases entry.position with
  | none => cases entry.text <;> simp [bind, Except.bind]
  | some position =>
      simp only [Option.some.injEq, exists_eq_left']
      split
      · simp only [reduceCtorEq, false_iff]; omega
      · split
        · split <;> simp only [reduceCtorEq, false_iff] <;> omega
        · simp only [true_iff]; omega

/-- The keys of a tuple are positions below its length. -/
theorem checkTupleKeys_eq_ok {count : Nat} {entries : List Entry} :
    checkTupleKeys count entries = .ok () ↔
      ∀ entry ∈ entries, ∃ position : Int, entry.position = some position ∧ 0 ≤ position ∧
        position < count := by
  rw [checkTupleKeys, Outcome.forM_eq_ok]
  apply forall₂_congr
  intro entry _
  cases entry.position with
  | none => cases entry.text <;> simp [bind, Except.bind]
  | some position =>
      simp only [Option.some.injEq, exists_eq_left']
      split <;> simp only [reduceCtorEq, false_iff, true_iff] <;> omega

theorem toSequence_eq_ok {want element : Ty} {entries : List Entry} {items : List Value}
    (read : toSequence want entries = .ok (items, element)) :
    checkSequenceKeys entries = .ok () ∧
      convertElements want ((List.range entries.length).map fun (i : Nat) =>
        (Step.position i, atPosition entries i)) = .ok (items, element) := by
  obtain ⟨_, checked, converted⟩ := Outcome.bind_eq_ok.mp read
  exact ⟨checked, converted⟩

theorem toTuple_eq_ok {wants : List Ty} {entries : List Entry} {result : Value}
    (read : toTuple wants entries = .ok result) :
    ∃ items, result = .tuple items ∧ checkTupleKeys wants.length entries = .ok () ∧
      List.Forall₂ (fun want item => (atPosition entries want.2).convert want.1 = .ok item)
        wants.zipIdx items := by
  obtain ⟨items, each, read⟩ := Outcome.bind_eq_ok.mp read
  obtain ⟨_, checked, done⟩ := Outcome.bind_eq_ok.mp read
  refine ⟨items, (Except.ok.inj done).symm, checked, ?_⟩
  exact (Outcome.mapM_eq_ok.mp each).imp fun _ _ one => Outcome.under_eq_ok.mp one

theorem toMap_eq_ok {want : Ty} {entries : List Entry} {result : Value}
    (read : toMap want entries = .ok result) :
    ∃ named items element, byText entries = .ok named ∧
      convertElements want (named.map fun entry => (Step.key entry.1, entry.2)) =
        .ok (items, element) ∧
      Value.mapOf ((named.map Prod.fst).zip items) (some element) = .ok result := by
  obtain ⟨named, byKey, read⟩ := Outcome.bind_eq_ok.mp read
  obtain ⟨⟨items, element⟩, converted, built⟩ := Outcome.bind_eq_ok.mp read
  exact ⟨named, items, element, byKey, converted, built⟩

/-- A table becomes a map if each of its values becomes an element of the wanted type. -/
theorem exists_toMap {want : Ty} (static : want.hasDynamic = false) {entries : List Entry}
    {named : List (String × Reading)} (byKey : byText entries = .ok named)
    (each : ∀ other ∈ named, ∃ value, other.2.convert want = .ok value ∧ value.type = want) :
    ∃ result, toMap want entries = .ok result := by
  let located := named.map fun entry => (Step.key entry.1, entry.2)
  have converts : ∀ before ∈ located, ∃ value,
      Outcome.under before.1 (before.2.convert want) = .ok value := by
    refine List.forall_mem_map.mpr fun other member => ?_
    obtain ⟨value, converted, -⟩ := each other member
    exact ⟨value, Outcome.under_eq_ok.mpr converted⟩
  obtain ⟨values, all⟩ := Outcome.exists_mapM_eq_ok converts
  have fits : ∀ value ∈ values, Value.Fits want value := by
    intro value member
    obtain ⟨before, inLocated, converted⟩ :=
      Outcome.exists_of_forall₂ (Outcome.mapM_eq_ok.mp all) member
    obtain ⟨other, inNamed, rfl⟩ := List.mem_map.mp inLocated
    obtain ⟨result, converts, typed⟩ := each other inNamed
    have same := (Outcome.under_eq_ok.mp converted).symm.trans converts
    exact .inr (Except.ok.inj same ▸ typed)
  have elements : convertElements want located = .ok (values, want) := by
    unfold convertElements
    rw [static]
    exact Outcome.map_eq_ok.mpr ⟨values, all, rfl⟩
  refine ⟨.map want (entriesOf ((named.map Prod.fst).zip values)), Outcome.bind_eq_ok.mpr
    ⟨named, byKey, Outcome.bind_eq_ok.mpr ⟨(values, want), elements, ?_⟩⟩⟩
  refine Outcome.map_eq_ok.mpr ⟨want, Value.elementType_check_eq_ok.mpr ⟨rfl, ?_⟩, rfl⟩
  refine List.forall_mem_map.mpr fun pair member => ?_
  exact fits pair.2 (List.of_mem_zip (mem_of_mem_entriesOf member)).2

theorem toObject_eq_ok {wants : List (String × Ty)} {entries : List Entry} {result : Value}
    (read : toObject wants entries = .ok result) :
    ∃ named attributes, result = .object attributes ∧ byText entries = .ok named ∧
      (∀ entry ∈ named, (wants.lookup entry.1).isSome) ∧
      List.Forall₂ (fun want attr => attr.1 = want.1 ∧
        ((named.lookup want.1).getD nil).convert want.2 = .ok attr.2) wants attributes := by
  obtain ⟨named, byKey, read⟩ := Outcome.bind_eq_ok.mp read
  obtain ⟨attributes, each, read⟩ := Outcome.bind_eq_ok.mp read
  split at read
  next => cases read
  next none =>
      refine ⟨named, attributes, (Except.ok.inj read).symm, byKey, ?_, ?_⟩
      · intro entry member
        simpa using List.find?_eq_none.mp none entry member
      · apply (Outcome.mapM_eq_ok.mp each).imp
        intro want attr one
        obtain ⟨item, inner, rfl⟩ := Outcome.map_eq_ok.mp one
        exact ⟨rfl, Outcome.under_eq_ok.mp inner⟩

/-- An empty table becomes an object of nulls. -/
theorem toObject_nil (wants : List (String × Ty)) :
    toObject wants [] = .ok (.object (wants.map fun want => (want.1, .null want.2))) := by
  refine Outcome.bind_eq_ok.mpr ⟨[], rfl, Outcome.bind_eq_ok.mpr ⟨_, ?_, rfl⟩⟩
  rw [Outcome.mapM_eq_ok, List.forall₂_map_right_iff, List.forall₂_same]
  exact fun _ _ => rfl

/-! ### Soundness -/

/-- What a reading yields obeys the rules of types, whatever type is wanted. -/
structure Sound (reading : Reading) : Prop where
  implied : ∀ ty, reading.implied = .ok ty → ty.WellFormed
  wellFormed : ∀ want result, want.WellFormed → reading.convert want = .ok result →
    result.WellFormed
  typed : ∀ want result, want.WellFormed → want.hasDynamic = false →
    reading.convert want = .ok result → result.HasType want

theorem nil_sound : nil.Sound where
  implied _ read := Except.ok.inj read ▸ .dynamic
  wellFormed _ _ outer read := Except.ok.inj read ▸ .null outer
  typed want _ _ _ read := Except.ok.inj read ▸ .null want

theorem unsupported_sound (kind : HostKind) : (unsupported kind).Sound where
  implied := nofun
  wellFormed := nofun
  typed := nofun

theorem endless_sound : endless.Sound where
  implied := nofun
  wellFormed want _ _ read := by
    cases want with
    | bool => exact Except.ok.inj read ▸ .bool true
    | _ => cases read
  typed want _ _ _ read := by
    cases want with
    | bool => exact Except.ok.inj read ▸ .bool true
    | _ => cases read

theorem wrapped_sound {value : Value} (inner : value.WellFormed) : (wrapped value).Sound where
  implied _ read := Except.ok.inj read ▸ inner.type
  wellFormed want result outer read := by
    refine Value.convertTo_wellFormed ?_ inner read
    split
    · exact inner.type
    · exact outer
  typed want result outer static read := by
    apply Value.convertTo_hasType outer static inner
    simpa [wrapped, Value.convert, Ty.isDynamic_eq_false static] using read

/-- A value of a primitive type, or a failure to have one. -/
def OwnForm (ownType : Ty) (own : Outcome Value) : Prop :=
  ∀ value, own = .ok value → Value.PrimitiveOf ownType value

theorem scalar_sound {kind : HostKind} {truthy : Bool} {ownType : Ty} {own : Outcome Value}
    (primitive : ownType.WellFormed ∧ ownType.hasDynamic = false) (form : OwnForm ownType own) :
    (scalar kind truthy ownType own).Sound where
  implied _ read := Except.ok.inj read ▸ primitive.1
  wellFormed want result outer read := by
    simp only [scalar] at read
    split at read
    · exact (form result read).wellFormed
    · split at read
      · exact Except.ok.inj read ▸ .bool truthy
      · obtain ⟨value, isOwn, converted⟩ := Outcome.bind_eq_ok.mp read
        exact Value.convertTo_wellFormed outer (form value isOwn).wellFormed converted
      · obtain ⟨value, isOwn, converted⟩ := Outcome.bind_eq_ok.mp read
        exact Value.convertTo_wellFormed outer (form value isOwn).wellFormed converted
      · cases read
  typed want result outer static read := by
    simp only [scalar, Ty.isDynamic_eq_false static, Bool.false_or, decide_eq_true_eq] at read
    split at read
    next same => exact same ▸ (form result read).hasType primitive.2
    · split at read
      · exact Except.ok.inj read ▸ .bool truthy
      · obtain ⟨value, isOwn, converted⟩ := Outcome.bind_eq_ok.mp read
        exact Value.convertTo_hasType outer static (form value isOwn).wellFormed converted
      · obtain ⟨value, isOwn, converted⟩ := Outcome.bind_eq_ok.mp read
        exact Value.convertTo_hasType outer static (form value isOwn).wellFormed converted
      · cases read

theorem atPosition_sound {entries : List Entry} (inner : ∀ entry ∈ entries, entry.reading.Sound)
    (position : Nat) : (atPosition entries position).Sound := by
  rcases atPosition_cases entries position with isNil | ⟨entry, member, same⟩
  · exact isNil ▸ nil_sound
  · exact same ▸ inner entry member

theorem byText_sound {entries : List Entry} (inner : ∀ entry ∈ entries, entry.reading.Sound)
    {named : List (String × Reading)} (read : byText entries = .ok named) :
    ∀ other ∈ named, other.2.Sound := by
  intro other member
  obtain ⟨entry, inEntries, -, same⟩ := mem_of_byText read member
  exact same ▸ inner entry inEntries

/-- The reading under a name, or that of nil. -/
theorem lookup_sound {named : List (String × Reading)} (inner : ∀ other ∈ named, other.2.Sound)
    (name : String) : ((named.lookup name).getD nil).Sound := by
  cases found : named.lookup name with
  | none => exact nil_sound
  | some reading => exact inner _ (mem_of_lookup found)

/-- Converted elements are well-formed and have the wanted type, and so is their common type. -/
theorem convertElements_sound {want element : Ty} {located : List (Step × Reading)}
    {items : List Value} (outer : want.WellFormed) (inner : ∀ before ∈ located, before.2.Sound)
    (converted : convertElements want located = .ok (items, element)) :
    element.WellFormed ∧ (∀ item ∈ items, item.WellFormed) ∧
      (want.hasDynamic = false → element = want ∧ ∀ item ∈ items, item.HasType want) := by
  obtain ⟨each, common⟩ := convertElements_eq_ok converted
  have items : ∀ item ∈ items, item.WellFormed := by
    intro item member
    obtain ⟨before, inLocated, one⟩ := Outcome.exists_of_forall₂ each member
    exact (inner before inLocated).wellFormed want item outer one
  refine ⟨?_, items, ?_⟩
  · rcases common with rfl | ⟨-, item, member, rfl⟩
    · exact outer
    · exact (items item member).type
  · intro static
    constructor
    · exact common.resolve_right fun dynamic => by simp [static] at dynamic
    · intro item member
      obtain ⟨before, inLocated, one⟩ := Outcome.exists_of_forall₂ each member
      exact (inner before inLocated).typed want item outer static one

section Tables

variable {entries : List Entry} (inner : ∀ entry ∈ entries, entry.reading.Sound)
include inner

theorem toSequence_sound {want element : Ty} {items : List Value} (outer : want.WellFormed)
    (read : toSequence want entries = .ok (items, element)) :
    element.WellFormed ∧ (∀ item ∈ items, item.WellFormed) ∧
      (want.hasDynamic = false → element = want ∧ ∀ item ∈ items, item.HasType want) := by
  refine convertElements_sound outer ?_ (toSequence_eq_ok read).2
  exact List.forall_mem_map.mpr fun position _ => atPosition_sound inner position

theorem impliedObject_wellFormed {ty : Ty} (read : impliedObject entries = .ok ty) :
    ty.WellFormed := by
  obtain ⟨named, byKey, read⟩ := Outcome.bind_eq_ok.mp read
  obtain ⟨attributes, each, done⟩ := Outcome.bind_eq_ok.mp read
  cases done
  have pairs := (Outcome.mapM_eq_ok.mp each).imp fun _ _ one => Outcome.map_eq_ok.mp one
  have keys : attributes.map Prod.fst = named.map Prod.fst := by
    refine Outcome.keys_eq_of_forall₂ (pairs.imp ?_)
    rintro other attr ⟨ty, -, rfl⟩
    rfl
  apply Ty.objectOf_wellFormed (keys ▸ (byText_eq_ok byKey).1)
  intro attr member
  obtain ⟨other, inNamed, ty, one, rfl⟩ := Outcome.exists_of_forall₂ pairs member
  exact (byText_sound inner byKey other inNamed).implied ty (Outcome.under_eq_ok.mp one)

theorem toTuple_sound {wants : List Ty} {result : Value} (outer : (Ty.tuple wants).WellFormed)
    (read : toTuple wants entries = .ok result) :
    result.WellFormed ∧ ((Ty.tuple wants).hasDynamic = false → result.HasType (.tuple wants)) := by
  obtain ⟨items, rfl, -, each⟩ := toTuple_eq_ok read
  cases outer with
  | tuple parts =>
      constructor
      · apply Value.WellFormed.ofItems
        intro item member
        obtain ⟨want, inWants, one⟩ := Outcome.exists_of_forall₂ each member
        exact (atPosition_sound inner want.2).wellFormed want.1 item
          (parts _ (List.fst_mem_of_mem_zipIdx inWants)) one
      · intro static
        have wantsOf : wants.zipIdx.map Prod.fst = wants := List.zipIdx_map_fst 0 wants
        have pairs := Outcome.forall₂_of_mem each fun want member item one =>
          (atPosition_sound inner want.2).typed want.1 item
            (parts _ (List.fst_mem_of_mem_zipIdx member))
            (Ty.hasDynamic_element static (List.fst_mem_of_mem_zipIdx member)) one
        exact .ofForall₂ (wantsOf ▸ List.forall₂_map_right_iff.mpr pairs.flip)

theorem toMap_sound {want : Ty} {result : Value} (outer : want.WellFormed)
    (read : toMap want entries = .ok result) :
    result.WellFormed ∧ (want.hasDynamic = false → result.HasType (.map want)) := by
  obtain ⟨named, items, element, byKey, converted, built⟩ := toMap_eq_ok read
  obtain ⟨common, values, typed⟩ := convertElements_sound outer
    (List.forall_mem_map.mpr (byText_sound inner byKey)) converted
  constructor
  · apply Value.mapOf_wellFormed (fun ty asked => Option.some.inj asked ▸ common) _ built
    intro pair member
    exact values _ (List.of_mem_zip member).2
  · intro static
    obtain ⟨rfl, typed⟩ := typed static
    obtain ⟨ty, found, rfl⟩ := Value.mapOf_eq_ok built
    obtain ⟨rfl, -⟩ := Value.elementType_check_eq_ok.mp found
    apply Value.HasType.map
    intro entry member
    exact typed _ (List.of_mem_zip (mem_of_mem_entriesOf member)).2

theorem toObject_sound {wants : List (String × Ty)} {result : Value}
    (outer : (Ty.object wants).WellFormed) (read : toObject wants entries = .ok result) :
    result.WellFormed ∧
      ((Ty.object wants).hasDynamic = false → result.HasType (.object wants)) := by
  obtain ⟨named, attributes, rfl, byKey, -, each⟩ := toObject_eq_ok read
  have sound := byText_sound inner byKey
  have keys : attributes.map Prod.fst = wants.map Prod.fst :=
    Outcome.keys_eq_of_forall₂ (each.imp fun _ _ one => one.1)
  cases outer with
  | object sorted parts =>
      constructor
      · apply Value.WellFormed.ofEntries (keys ▸ sorted.nodup)
        intro attr member
        obtain ⟨want, inWants, -, one⟩ := Outcome.exists_of_forall₂ each member
        exact (lookup_sound sound want.1).wellFormed want.2 attr.2 (parts want inWants) one
      · intro static
        apply Value.HasType.ofNames sorted keys
        intro attr member
        obtain ⟨want, inWants, same, one⟩ := Outcome.exists_of_forall₂ each member
        exact ⟨want, inWants, same, (lookup_sound sound want.1).typed want.2 attr.2
          (parts want inWants) (Ty.hasDynamic_attribute static inWants) one⟩

/-- The object whose type a table implies. -/
theorem toImplied_eq_ok {result : Value} (read : toImplied entries = .ok result) :
    ∃ wants, (Ty.object wants).WellFormed ∧ toObject wants entries = .ok result := by
  obtain ⟨ty, implied, read⟩ := Outcome.bind_eq_ok.mp read
  have outer := impliedObject_wellFormed inner implied
  split at read
  next wants => exact ⟨wants, outer, read⟩
  next => cases read

theorem toImplied_wellFormed {result : Value} (read : toImplied entries = .ok result) :
    result.WellFormed := by
  obtain ⟨wants, outer, read⟩ := toImplied_eq_ok inner read
  exact (toObject_sound inner outer read).1

theorem table_sound : (table entries).Sound where
  implied _ := impliedObject_wellFormed inner
  wellFormed want result outer read := by
    cases outer with
    | dynamic => exact toImplied_wellFormed inner read
    | bool => exact Except.ok.inj read ▸ .bool true
    | number =>
        obtain ⟨value, implied, converted⟩ := Outcome.bind_eq_ok.mp read
        exact Value.convertTo_wellFormed .number (toImplied_wellFormed inner implied) converted
    | string =>
        obtain ⟨value, implied, converted⟩ := Outcome.bind_eq_ok.mp read
        exact Value.convertTo_wellFormed .string (toImplied_wellFormed inner implied) converted
    | list outer =>
        obtain ⟨⟨items, element⟩, sequence, built⟩ := Outcome.bind_eq_ok.mp read
        obtain ⟨common, values, -⟩ := toSequence_sound inner outer sequence
        exact Value.listOf_wellFormed (fun ty asked => Option.some.inj asked ▸ common) values built
    | set outer =>
        obtain ⟨⟨items, element⟩, sequence, built⟩ := Outcome.bind_eq_ok.mp read
        obtain ⟨common, values, -⟩ := toSequence_sound inner outer sequence
        exact Value.setOf_wellFormed (fun ty asked => Option.some.inj asked ▸ common) values built
    | map outer => exact (toMap_sound inner outer read).1
    | object sorted parts => exact (toObject_sound inner (.object sorted parts) read).1
    | tuple parts => exact (toTuple_sound inner (.tuple parts) read).1
  typed want result outer static read := by
    cases outer with
    | dynamic => cases static
    | bool => exact Except.ok.inj read ▸ .bool true
    | number =>
        obtain ⟨value, implied, converted⟩ := Outcome.bind_eq_ok.mp read
        exact Value.convertTo_hasType .number static (toImplied_wellFormed inner implied) converted
    | string =>
        obtain ⟨value, implied, converted⟩ := Outcome.bind_eq_ok.mp read
        exact Value.convertTo_hasType .string static (toImplied_wellFormed inner implied) converted
    | list outer =>
        obtain ⟨⟨items, element⟩, sequence, built⟩ := Outcome.bind_eq_ok.mp read
        obtain ⟨rfl, typed⟩ := (toSequence_sound inner outer sequence).2.2 static
        obtain ⟨ty, found, rfl⟩ := Value.listOf_eq_ok built
        obtain ⟨rfl, -⟩ := Value.elementType_check_eq_ok.mp found
        exact .list typed
    | set outer =>
        obtain ⟨⟨items, element⟩, sequence, built⟩ := Outcome.bind_eq_ok.mp read
        obtain ⟨rfl, typed⟩ := (toSequence_sound inner outer sequence).2.2 static
        obtain ⟨ty, found, rfl⟩ := Value.setOf_eq_ok built
        obtain ⟨rfl, -⟩ := Value.elementType_check_eq_ok.mp found
        exact .set fun item member => typed item (Value.mem_of_mem_withoutRepeats member)
    | map outer => exact (toMap_sound inner outer read).2 static
    | object sorted parts => exact (toObject_sound inner (.object sorted parts) read).2 static
    | tuple parts => exact (toTuple_sound inner (.tuple parts) read).2 static

end Tables

end Reading

namespace Tree

theorem boolean_form (flag : Bool) : Reading.OwnForm .bool (.ok (.bool flag)) :=
  fun _ read => Except.ok.inj read ▸ ⟨.bool flag, rfl, rfl⟩

theorem string_form (text : String) : Reading.OwnForm .string (.ok (Value.ofText text)) :=
  fun _ read => Except.ok.inj read ▸ ⟨Value.ofText_wellFormed text, rfl, rfl⟩

theorem ofNumber_form (x : Binary64) : Reading.OwnForm .number (Reading.ofNumber x) := by
  intro value read
  unfold Reading.ofNumber at read
  split at read
  · exact Except.ok.inj read ▸ ⟨.number _, rfl, rfl⟩
  · cases read

/-- Every reading of a tree whose structural values are well-formed is sound. -/
theorem read_sound {tree : Tree} (payloads : tree.All Value.WellFormed) : tree.read.Sound := by
  induction payloads with
  | nil => exact Reading.nil_sound
  | boolean flag => exact Reading.scalar_sound ⟨.bool, rfl⟩ (boolean_form flag)
  | number x => exact Reading.scalar_sound ⟨.number, rfl⟩ (ofNumber_form x)
  | string text => exact Reading.scalar_sound ⟨.string, rfl⟩ (string_form text)
  | table _ _ _ ih =>
      apply Reading.table_sound
      intro entry member
      rw [readEntries_eq_map] at member
      obtain ⟨original, inEntries, rfl⟩ := List.mem_map.mp member
      exact ih original inEntries
  | function => exact Reading.unsupported_sound .function
  | wrapped inner => exact Reading.wrapped_sound inner
  | foreign => exact Reading.unsupported_sound .userdata
  | endless => exact Reading.endless_sound

end Tree

/-! ### Nulls and unknowns

Only nil and wrapped values without data are read as values without data. -/

namespace Reading

theorem scalar_present {kind : HostKind} {truthy : Bool} {ownType want : Ty} {own : Outcome Value}
    {result : Value} (form : OwnForm ownType own)
    (read : (scalar kind truthy ownType own).convert want = .ok result) :
    result.isAbsent = false := by
  simp only [scalar] at read
  split at read
  · exact (form result read).present
  · split at read
    · exact Except.ok.inj read ▸ rfl
    · obtain ⟨value, isOwn, converted⟩ := Outcome.bind_eq_ok.mp read
      exact Value.convertTo_present (form value isOwn).present converted
    · obtain ⟨value, isOwn, converted⟩ := Outcome.bind_eq_ok.mp read
      exact Value.convertTo_present (form value isOwn).present converted
    · cases read

theorem toObject_present {wants : List (String × Ty)} {entries : List Entry} {result : Value}
    (read : toObject wants entries = .ok result) : result.isAbsent = false := by
  obtain ⟨_, _, rfl, -⟩ := toObject_eq_ok read
  rfl

theorem toImplied_present {entries : List Entry} {result : Value}
    (read : toImplied entries = .ok result) : result.isAbsent = false := by
  obtain ⟨ty, -, read⟩ := Outcome.bind_eq_ok.mp read
  split at read
  · exact toObject_present read
  · cases read

theorem table_present {entries : List Entry} {want : Ty} {result : Value}
    (read : (table entries).convert want = .ok result) : result.isAbsent = false := by
  cases want with
  | dynamic => exact toImplied_present read
  | bool => exact Except.ok.inj read ▸ rfl
  | number | string =>
      obtain ⟨value, implied, converted⟩ := Outcome.bind_eq_ok.mp read
      exact Value.convertTo_present (toImplied_present implied) converted
  | list =>
      obtain ⟨_, -, built⟩ := Outcome.bind_eq_ok.mp read
      obtain ⟨_, -, rfl⟩ := Value.listOf_eq_ok built
      rfl
  | set =>
      obtain ⟨_, -, built⟩ := Outcome.bind_eq_ok.mp read
      obtain ⟨_, -, rfl⟩ := Value.setOf_eq_ok built
      rfl
  | map =>
      obtain ⟨_, _, _, -, -, built⟩ := toMap_eq_ok read
      obtain ⟨_, -, rfl⟩ := Value.mapOf_eq_ok built
      rfl
  | object => exact toObject_present read
  | tuple =>
      obtain ⟨_, rfl, -⟩ := toTuple_eq_ok read
      rfl

end Reading

namespace Tree

/-- What a tree converts to has data, unless the tree is nil or a wrapped value without data. -/
theorem convert_absent {tree : Tree} {want : Ty} {result : Value}
    (read : tree.convert want = .ok result) :
    (result.isNull = true ↔ tree = .nil ∨ ∃ ty, tree = .wrapped (.null ty)) ∧
      (result.isKnown = false ↔ ∃ ty, tree = .wrapped (.unknown ty)) := by
  cases tree with
  | nil => cases read; simp [Value.isNull, Value.isKnown]
  | wrapped value =>
      obtain ⟨sameNull, sameKnown⟩ := Value.convertTo_absent read
      rw [sameNull, sameKnown]
      cases value <;> simp [Value.isNull, Value.isKnown]
  | boolean flag =>
      obtain ⟨notNull, known⟩ :=
        Value.isAbsent_eq_false.mp (Reading.scalar_present (boolean_form flag) read)
      simp [notNull, known]
  | number x =>
      obtain ⟨notNull, known⟩ :=
        Value.isAbsent_eq_false.mp (Reading.scalar_present (ofNumber_form x) read)
      simp [notNull, known]
  | string text =>
      obtain ⟨notNull, known⟩ :=
        Value.isAbsent_eq_false.mp (Reading.scalar_present (string_form text) read)
      simp [notNull, known]
  | table entries =>
      obtain ⟨notNull, known⟩ := Value.isAbsent_eq_false.mp (Reading.table_present read)
      simp [notNull, known]
  | endless =>
      cases want with
      | bool => cases read; simp [Value.isNull, Value.isKnown]
      | _ => cases read
  | function | foreign => cases read

end Tree

end Crosswalk
