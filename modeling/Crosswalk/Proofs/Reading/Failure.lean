/-
Module: Crosswalk.Proofs.Reading.Failure
Purpose: How the conversion of a host value fails. `Tree.Fails` says it once for every kind of host value and
  every wanted type: the value itself does not convert, a key of a table has no text, a part does not convert
  to the type wanted for it, or a structural value fails in one of its ways. Building the converted elements
  into a collection never fails.
Main exports: Reading.TableFails, Reading.tableFails_of_convert, Tree.Fails, Tree.fails_of_convert
-/
import Crosswalk.Proofs.Decimal.Rendering
import Crosswalk.Proofs.Inference
import Crosswalk.Proofs.Reading.Positions
import Crosswalk.Proofs.Value.Failure

namespace Crosswalk

/-- A step names an entry: by its position, or by its text. -/
def Entry.isAt (entry : Entry) : Step → Bool
  | .position index => entry.position = some index
  | .attr name => entry.text.toOption = some name
  | .key name => entry.text.toOption = some name

namespace Reading

/-! ### Entries that steps name -/

/-- The reading of the first entry that a step names. -/
def at? (entries : List Entry) (step : Step) : Option Reading :=
  (entries.find? fun entry => entry.isAt step).map Entry.reading

theorem at?_cons (entry : Entry) (rest : List Entry) (step : Step) :
    at? (entry :: rest) step = if entry.isAt step then some entry.reading else at? rest step := by
  rw [at?, List.find?_cons]
  cases entry.isAt step <;> rfl

/-- Entries read by key text are the entries that their texts name. -/
theorem at?_of_byText {entries : List Entry} {named : List (String × Reading)}
    (byKey : byText entries = .ok named) (name : String) :
    at? entries (.attr name) = named.lookup name ∧ at? entries (.key name) = named.lookup name := by
  have pairs := (byText_eq_ok byKey).2
  clear byKey
  induction pairs with
  | nil => exact ⟨rfl, rfl⟩
  | @cons entry other _ _ pair _ ih =>
      obtain ⟨text, reading⟩ := other
      obtain ⟨isText, rfl⟩ := pair
      have found : decide (entry.text.toOption = some name) = (name == text) := by
        rw [isText, beq_eq_decide]
        simp [Except.toOption, eq_comm]
      rw [at?_cons, at?_cons, Entry.isAt, Entry.isAt, found, List.lookup_cons, ih.1, ih.2]
      cases name == text <;> exact ⟨rfl, rfl⟩

/-- What stands at a position is what the position names, and nothing else is nil. -/
theorem at?_of_atPosition {entries : List Entry} {position : Nat} {want : Ty} {fault : Fault}
    (failed : (atPosition entries position).convert want = .error fault) :
    at? entries (.position position) = some (atPosition entries position) := by
  unfold atPosition at failed ⊢
  split at failed
  next entry found =>
      rw [at?]
      simp only [Entry.isAt, found]
      rfl
  next => cases failed

/-! ### How the parts of a conversion fail -/

theorem convertAtType_types {want fixed : Ty} {located : List (Step × Reading)} {items : List Value}
    (converted : convertAtType want fixed located = .ok items) : ∀ item ∈ items, item.type = fixed := by
  induction located generalizing items with
  | nil =>
      cases converted
      exact List.forall_mem_nil _
  | cons first rest ih =>
      obtain ⟨item, -, converted⟩ := Outcome.bind_eq_ok.mp converted
      split at converted
      · cases converted
      next same =>
          obtain ⟨others, later, done⟩ := Outcome.bind_eq_ok.mp converted
          cases done
          exact List.forall_mem_cons.mpr ⟨not_not.mp same, ih later⟩

/-- Converted elements fit their common type. -/
theorem convertElements_fits {want element : Ty} {located : List (Step × Reading)}
    {items : List Value} (outer : want.WellFormed) (inner : ∀ before ∈ located, before.2.Sound)
    (converted : convertElements want located = .ok (items, element)) :
    ∀ item ∈ items, Value.Fits element item := by
  cases static : want.hasDynamic with
  | false =>
      obtain ⟨rfl, typed⟩ := (convertElements_sound outer inner converted).2.2 static
      exact fun item member => .inr ((typed item member).type_eq outer)
  | true =>
      unfold convertElements at converted
      rw [static] at converted
      cases located with
      | nil =>
          cases converted
          exact List.forall_mem_nil _
      | cons first rest =>
          obtain ⟨item, -, converted⟩ := Outcome.bind_eq_ok.mp converted
          obtain ⟨others, later, done⟩ := Outcome.bind_eq_ok.mp converted
          cases done
          exact List.forall_mem_cons.mpr
            ⟨.inr rfl, fun other member => .inr (convertAtType_types later other member)⟩

/-- An element fails, or differs in type from the first one. -/
def ElementFails (want : Ty) (located : List (Step × Reading)) (fault : Fault) : Prop :=
  fault = .conversion [] .inconsistentTypes ∨
    ∃ before ∈ located, ∃ inner, before.2.convert want = .error inner ∧ inner.under before.1 = fault

theorem convertAtType_eq_error {want fixed : Ty} {located : List (Step × Reading)} {fault : Fault}
    (failed : convertAtType want fixed located = .error fault) : ElementFails want located fault := by
  induction located with
  | nil => cases failed
  | cons first rest ih =>
      rcases Outcome.bind_eq_error.mp failed with failed | ⟨item, -, failed⟩
      · exact .inr ⟨first, List.mem_cons_self, Outcome.under_eq_error.mp failed⟩
      · split at failed
        · exact .inl (Except.error.inj failed).symm
        · rcases Outcome.bind_eq_error.mp failed with failed | ⟨_, -, done⟩
          · rcases ih failed with different | ⟨before, member, found⟩
            · exact .inl different
            · exact .inr ⟨before, List.mem_cons_of_mem _ member, found⟩
          · cases done

theorem convertElements_eq_error {want : Ty} {located : List (Step × Reading)} {fault : Fault}
    (failed : convertElements want located = .error fault) : ElementFails want located fault := by
  unfold convertElements at failed
  split at failed
  · obtain ⟨before, member, one⟩ :=
      Outcome.exists_of_mapM_eq_error (Outcome.map_eq_error.mp failed)
    exact .inr ⟨before, member, Outcome.under_eq_error.mp one⟩
  · split at failed
    · cases failed
    next first rest =>
        rcases Outcome.bind_eq_error.mp failed with failed | ⟨item, -, failed⟩
        · exact .inr ⟨_, List.mem_cons_self, Outcome.under_eq_error.mp failed⟩
        · rcases Outcome.bind_eq_error.mp failed with failed | ⟨_, -, done⟩
          · rcases convertAtType_eq_error failed with different | ⟨before, member, found⟩
            · exact .inl different
            · exact .inr ⟨before, List.mem_cons_of_mem _ member, found⟩
          · cases done

/-! ### How a table fails -/

/-- The ways in which a table does not convert. Failures of its values appear as the outcomes that they
    have. -/
inductive TableFails (entries : List Entry) (want : Ty) : Fault → Prop
  /-- The table itself does not convert. -/
  | own (cause : ConversionCause) : TableFails entries want (.conversion [] cause)
  /-- A key has no text. -/
  | key {entry : Entry} {fault : Fault} (member : entry ∈ entries)
      (failed : entry.text = .error fault) : TableFails entries want fault
  /-- A value does not convert to the type wanted for it. -/
  | part {step : Step} {reading : Reading} {asked : Ty} {fault : Fault}
      (leads : at? entries step = some reading) (wanted : want.part? step = some asked)
      (failed : reading.convert asked = .error fault) : TableFails entries want (fault.under step)

private theorem byText_go_fails {entries : List Entry} {found : List (String × Reading)} {fault : Fault}
    (failed : byText.go found entries = .error fault) :
    (∃ cause, fault = .conversion [] cause) ∨ ∃ entry ∈ entries, entry.text = .error fault := by
  induction entries generalizing found with
  | nil => cases failed
  | cons entry rest ih =>
      rcases Outcome.bind_eq_error.mp failed with failed | ⟨text, -, failed⟩
      · exact .inr ⟨entry, List.mem_cons_self, failed⟩
      · split at failed
        · exact .inl ⟨_, (Except.error.inj failed).symm⟩
        · rcases ih failed with own | ⟨other, member, noText⟩
          · exact .inl own
          · exact .inr ⟨other, List.mem_cons_of_mem _ member, noText⟩

section Tables

variable {entries : List Entry} {fault : Fault}

theorem byText_fails {want : Ty} (failed : byText entries = .error fault) :
    TableFails entries want fault := by
  rcases byText_go_fails failed with ⟨cause, rfl⟩ | ⟨entry, member, noText⟩
  · exact .own cause
  · exact .key member noText

/-- A key that is no position is reported by its text, which it may not have. -/
theorem unexpectedKey_fails {want : Ty} {entry : Entry} (member : entry ∈ entries)
    (failed : (do .error (.conversion [] (.unexpectedKey (← entry.text))) : Outcome Unit) =
      .error fault) : TableFails entries want fault := by
  rcases Outcome.bind_eq_error.mp failed with noText | ⟨text, -, reported⟩
  · exact .key member noText
  · exact Except.error.inj reported ▸ .own _

theorem checkSequenceKeys_fails {want : Ty} (failed : checkSequenceKeys entries = .error fault) :
    TableFails entries want fault := by
  obtain ⟨entry, member, failed⟩ := Outcome.exists_of_forM_eq_error failed
  split at failed
  next => exact unexpectedKey_fails member failed
  next position denoted =>
      split at failed
      · exact Except.error.inj failed ▸ .own _
      · split at failed
        next beyond =>
            obtain ⟨gap, found⟩ := exists_firstGap? member denoted beyond
            rw [found] at failed
            exact Except.error.inj failed ▸ .own _
        next => cases failed

theorem checkTupleKeys_fails {want : Ty} {count : Nat}
    (failed : checkTupleKeys count entries = .error fault) : TableFails entries want fault := by
  obtain ⟨entry, member, failed⟩ := Outcome.exists_of_forM_eq_error failed
  split at failed
  next => exact unexpectedKey_fails member failed
  next =>
      split at failed
      · exact Except.error.inj failed ▸ .own _
      · cases failed

theorem toSequence_fails {want element : Ty} (asked : ∀ index, want.part? (.position index) = some element)
    (failed : toSequence element entries = .error fault) : TableFails entries want fault := by
  rcases Outcome.bind_eq_error.mp failed with failed | ⟨_, -, failed⟩
  · exact checkSequenceKeys_fails failed
  · rcases convertElements_eq_error failed with rfl | ⟨before, member, inner, one, rfl⟩
    · exact .own _
    · obtain ⟨position, -, rfl⟩ := List.mem_map.mp member
      exact .part (at?_of_atPosition one) (asked position) one

theorem toTuple_fails {wants : List Ty} (failed : toTuple wants entries = .error fault) :
    TableFails entries (.tuple wants) fault := by
  rcases Outcome.bind_eq_error.mp failed with failed | ⟨items, -, failed⟩
  · obtain ⟨⟨want, position⟩, member, failed⟩ := Outcome.exists_of_mapM_eq_error failed
    obtain ⟨inner, one, rfl⟩ := Outcome.under_eq_error.mp failed
    refine .part (at?_of_atPosition one) ((itemAt?_natCast wants position).trans ?_) one
    exact List.mem_zipIdx_iff_getElem?.mp member
  · rcases Outcome.bind_eq_error.mp failed with failed | ⟨_, -, done⟩
    · exact checkTupleKeys_fails failed
    · cases done

theorem toObject_fails {want : Ty} {wants : List (String × Ty)}
    (asked : ∀ name ty reading, (name, ty) ∈ wants → at? entries (.attr name) = some reading →
      ∃ other, want.part? (.attr name) = some other ∧ reading.convert other = reading.convert ty)
    (failed : toObject wants entries = .error fault) : TableFails entries want fault := by
  rcases Outcome.bind_eq_error.mp failed with failed | ⟨named, byKey, failed⟩
  · exact byText_fails failed
  · rcases Outcome.bind_eq_error.mp failed with failed | ⟨attributes, -, failed⟩
    · obtain ⟨⟨name, ty⟩, member, failed⟩ := Outcome.exists_of_mapM_eq_error failed
      obtain ⟨inner, one, rfl⟩ := Outcome.under_eq_error.mp (Outcome.map_eq_error.mp failed)
      cases found : named.lookup name with
      | none =>
          rw [found] at one
          cases one
      | some reading =>
          rw [found] at one
          have leads := (at?_of_byText byKey name).1.trans found
          obtain ⟨other, wanted, same⟩ := asked name ty reading member leads
          exact .part leads wanted (same.trans one)
    · split at failed
      · exact Except.error.inj failed ▸ .own _
      · cases failed

theorem toImplied_object {result : Value} (read : toImplied entries = .ok result) :
    ∃ attributes, result = .object attributes := by
  obtain ⟨ty, -, read⟩ := Outcome.bind_eq_ok.mp read
  split at read
  next =>
      obtain ⟨_, attributes, isObject, -⟩ := toObject_eq_ok read
      exact ⟨attributes, isObject⟩
  next => cases read

/-- Readings whose conversion to the dynamic type is that to the implied type. -/
def Coherent (reading : Reading) : Prop :=
  reading.convert .dynamic = reading.implied >>= reading.convert

section Sound

variable (inner : ∀ entry ∈ entries, entry.reading.Sound)
include inner

theorem toSequence_fits {want element : Ty} {items : List Value} (outer : want.WellFormed)
    (converted : toSequence want entries = .ok (items, element)) :
    ∀ item ∈ items, Value.Fits element item := by
  refine convertElements_fits outer ?_ (toSequence_eq_ok converted).2
  exact List.forall_mem_map.mpr fun position _ => atPosition_sound inner position

theorem toMap_fails {element : Ty} (outer : element.WellFormed)
    (failed : toMap element entries = .error fault) : TableFails entries (.map element) fault := by
  rcases Outcome.bind_eq_error.mp failed with failed | ⟨named, byKey, failed⟩
  · exact byText_fails failed
  · rcases Outcome.bind_eq_error.mp failed with failed | ⟨⟨items, common⟩, converted, failed⟩
    · rcases convertElements_eq_error failed with rfl | ⟨before, member, inside, one, rfl⟩
      · exact .own _
      · obtain ⟨⟨text, reading⟩, inNamed, rfl⟩ := List.mem_map.mp member
        refine .part ((at?_of_byText byKey text).2.trans ?_) rfl one
        exact lookup_of_mem (byText_eq_ok byKey).1 inNamed
    · have sound := byText_sound inner byKey
      have fits := convertElements_fits outer (List.forall_mem_map.mpr sound) converted
      exact absurd fits (Value.mapOf_refused failed).2

end Sound

variable (coherent : ∀ entry ∈ entries, entry.reading.Coherent)
include coherent

/-- A table whose type is left open fails as its values do where their types are left open. -/
theorem toImplied_fails {want : Ty} (asked : ∀ step, want.part? step = some .dynamic)
    (failed : toImplied entries = .error fault) : TableFails entries want fault := by
  rw [toImplied_eq] at failed
  rcases Outcome.bind_eq_error.mp failed with failed | ⟨ty, implied, failed⟩
  · rcases Outcome.bind_eq_error.mp failed with failed | ⟨named, byKey, failed⟩
    · exact byText_fails failed
    · rcases Outcome.bind_eq_error.mp failed with failed | ⟨_, -, done⟩
      · obtain ⟨⟨text, reading⟩, member, failed⟩ := Outcome.exists_of_mapM_eq_error failed
        obtain ⟨inner, one, rfl⟩ := Outcome.under_eq_error.mp (Outcome.map_eq_error.mp failed)
        obtain ⟨entry, inEntries, -, rfl⟩ := mem_of_byText byKey member
        have leads := (at?_of_byText byKey text).1.trans
          (lookup_of_mem (byText_eq_ok byKey).1 member)
        refine .part leads (asked _) ?_
        rw [coherent entry inEntries]
        exact Outcome.bind_eq_error.mpr (.inl one)
      · cases done
  · obtain ⟨named, attributes, byKey, rfl, each⟩ := impliedObject_eq_ok.mp implied
    refine toObject_fails (fun name ty reading member leads => ⟨.dynamic, asked _, ?_⟩) failed
    obtain ⟨entry, inEntries, found, implied⟩ := lookup_of_implied byKey each member
    rw [(at?_of_byText byKey name).1, found] at leads
    cases leads
    rw [coherent entry inEntries, implied]
    rfl

variable (inner : ∀ entry ∈ entries, entry.reading.Sound)
include inner

/-- Every failure of a table is one of these. -/
theorem tableFails_of_convert {want : Ty} (outer : want.WellFormed)
    (failed : (table entries).convert want = .error fault) : TableFails entries want fault := by
  cases outer with
  | dynamic => exact toImplied_fails coherent (fun _ => rfl) failed
  | bool => cases failed
  | number | string =>
      rcases Outcome.bind_eq_error.mp failed with failed | ⟨value, isObject, failed⟩
      · exact toImplied_fails coherent (fun _ => rfl) failed
      · obtain ⟨_, rfl⟩ := toImplied_object isObject
        rcases Value.convertTo_primitive_eq_error rfl failed with rfl | ⟨_, isNumber, -⟩
        · exact .own _
        · cases isNumber
  | @list element outer =>
      rcases Outcome.bind_eq_error.mp failed with failed | ⟨⟨items, common⟩, converted, failed⟩
      · exact toSequence_fails (fun _ => rfl) failed
      · exact absurd (toSequence_fits inner outer converted) (Value.listOf_refused failed).2
  | @set element outer =>
      rcases Outcome.bind_eq_error.mp failed with failed | ⟨⟨items, common⟩, converted, failed⟩
      · exact toSequence_fails (fun _ => rfl) failed
      · exact absurd (toSequence_fits inner outer converted) (Value.setOf_refused failed).2
  | map outer => exact toMap_fails inner outer failed
  | object sorted parts =>
      refine toObject_fails (fun name ty reading member leads => ⟨ty, ?_, rfl⟩) failed
      exact lookup_of_mem sorted.nodup member
  | tuple parts => exact toTuple_fails failed

end Tables

/-- A value of a primitive kind fails as a whole, if its own form does and is no number that cannot be
    written. -/
theorem scalar_fails {kind : HostKind} {truthy : Bool} {ownType want : Ty} {own : Outcome Value}
    {fault : Fault} (reported : ∀ inner, own = .error inner → ∃ cause, inner = .conversion [] cause)
    (written : ∀ amount, own = .ok (.number amount) → ∀ failure, ¬ amount.Unwritable failure)
    (failed : (scalar kind truthy ownType own).convert want = .error fault) :
    ∃ cause, fault = .conversion [] cause := by
  have further {want : Ty} (primitive : want.isPrimitive = true)
      (failed : (own >>= fun value => value.convert want) = .error fault) :
      ∃ cause, fault = .conversion [] cause := by
    rcases Outcome.bind_eq_error.mp failed with failed | ⟨value, isOwn, failed⟩
    · exact reported fault failed
    · rcases Value.convertTo_primitive_eq_error primitive failed with rfl | ⟨amount, rfl, unwritable⟩
      · exact ⟨_, rfl⟩
      · exact absurd unwritable (written amount isOwn fault)
  simp only [scalar] at failed
  split at failed
  · exact reported fault failed
  · split at failed
    · cases failed
    · exact further rfl failed
    · exact further rfl failed
    · exact ⟨_, (Except.error.inj failed).symm⟩

end Reading

namespace Tree

/-- The ways in which the conversion of a tree can fail. Failures of keys and parts appear as the outcomes
    that they have. -/
inductive Fails (want : Ty) (tree : Tree) : Fault → Prop
  /-- The value itself does not convert. -/
  | own (cause : ConversionCause) : Fails want tree (.conversion [] cause)
  /-- A key of a table has no text. -/
  | key {entries : List (Tree × Tree)} {entry : Tree × Tree} {fault : Fault}
      (isTable : tree = .table entries) (member : entry ∈ entries)
      (failed : entry.1.keyText entry.1.read = .error fault) : Fails want tree fault
  /-- A part does not convert to the type wanted for it. -/
  | part {step : Step} {part : Tree} {asked : Ty} {fault : Fault}
      (leads : tree.part? step = some part) (wanted : want.part? step = some asked)
      (failed : part.convert asked = .error fault) : Fails want tree (fault.under step)
  /-- The value is a wrapped number that cannot be written. -/
  | unwritable {amount : Decimal} {fault : Fault} (isNumber : tree = .wrapped (.number amount))
      (unwritable : amount.Unwritable fault) : Fails want tree fault
  /-- Wrapped elements whose type is not determined cannot be put together. -/
  | undetermined {fault : Fault} (dynamic : want.hasDynamic = true) (partly : want ≠ .dynamic)
      (other : ¬ fault.IsConversion) : Fails want tree fault
  /-- The value is a table that is not seen, because it lies inside itself. -/
  | endless (isEndless : tree = .endless) : Fails want tree .endless

theorem at?_readEntries (entries : List (Tree × Tree)) (step : Step) :
    Reading.at? (readEntries entries) step = ((Tree.table entries).part? step).map read := by
  have same (entry : Tree × Tree) :
      Entry.isAt ⟨entry.1.position?, entry.1.keyText entry.1.read, entry.2.read⟩ step =
        entry.1.isAt step := by
    cases step <;> rfl
  rw [Reading.at?, readEntries_eq_map, List.find?_map, part?, Option.map_map, Option.map_map]
  simp only [Function.comp_def, same]

/-- A wrapped value converts as the structural value does. -/
theorem convert_wrapped (value : Value) (want : Ty) :
    (wrapped value).convert want = value.convert want := by
  change value.convert (if want.isDynamic then value.type else want) = _
  split
  next dynamic =>
      rw [Ty.isDynamic_iff.mp dynamic, Value.convert_dynamic]
      exact Value.convertTo_type value
  next => rfl

theorem ofNumber_eq_error {x : Binary64} (fault : Fault) (failed : Reading.ofNumber x = .error fault) :
    ∃ cause, fault = .conversion [] cause := by
  unfold Reading.ofNumber at failed
  split at failed
  · cases failed
  · exact ⟨_, (Except.error.inj failed).symm⟩

/-- Host numbers can all be written. -/
theorem ofNumber_written {x : Binary64} (amount : Decimal)
    (isOwn : Reading.ofNumber x = .ok (.number amount)) (fault : Fault) : ¬ amount.Unwritable fault := by
  unfold Reading.ofNumber at isOwn
  split at isOwn
  next found =>
      cases isOwn
      exact Decimal.not_unwritable (Decimal.render_of_toDecimal? found) fault
  next => cases isOwn

/-- Every failed conversion of a tree is one of these. -/
theorem fails_of_convert {tree : Tree} (payloads : tree.All Value.WellFormed) {want : Ty}
    (outer : want.WellFormed) {fault : Fault} (failed : tree.convert want = .error fault) :
    tree.Fails want fault := by
  cases payloads with
  | nil => cases failed
  | boolean flag =>
      change (Reading.scalar .boolean flag .bool (.ok (.bool flag))).convert want = _ at failed
      obtain ⟨cause, rfl⟩ := Reading.scalar_fails (by rintro _ ⟨⟩) (by rintro _ ⟨⟩) failed
      exact .own cause
  | string text =>
      change (Reading.scalar .string true .string (.ok (Value.ofText text))).convert want = _ at failed
      obtain ⟨cause, rfl⟩ := Reading.scalar_fails (by rintro _ ⟨⟩) (by rintro _ ⟨⟩) failed
      exact .own cause
  | number x =>
      change (Reading.scalar .number true .number (Reading.ofNumber x)).convert want = _ at failed
      obtain ⟨cause, rfl⟩ := Reading.scalar_fails ofNumber_eq_error ofNumber_written failed
      exact .own cause
  | function | foreign =>
      cases failed
      exact .own _
  | endless =>
      cases want with
      | bool => cases failed
      | _ =>
          cases failed
          exact .endless rfl
  | @wrapped value holds =>
      by_cases dynamic : want = .dynamic
      · rw [convert_wrapped, dynamic, Value.convert_dynamic] at failed
        cases failed
      · rw [convert_wrapped] at failed
        cases Value.fails_of_convertTo outer holds failed with
        | own cause => exact .own cause
        | unwritable isNumber unwritable => exact .unwritable (congrArg wrapped isNumber) unwritable
        | @part step part asked inner leads wanted partFailed =>
            refine .part (Option.map_eq_some_iff.mpr ⟨part, leads, rfl⟩) wanted ?_
            exact (convert_wrapped part asked).trans partFailed
        | undetermined dynamicPart other => exact .undetermined dynamicPart dynamic other
  | @table entries keys values =>
      have regular : ∀ entry ∈ readEntries entries, entry.reading.Coherent ∧ entry.reading.Sound := by
        rw [readEntries_eq_map]
        refine List.forall_mem_map.mpr fun entry member => ⟨convert_dynamic entry.2, ?_⟩
        exact read_sound (values entry member)
      cases Reading.tableFails_of_convert (fun entry member => (regular entry member).1)
        (fun entry member => (regular entry member).2) outer failed with
      | own cause => exact .own cause
      | key member noText =>
          rw [readEntries_eq_map] at member
          obtain ⟨entry, inTable, rfl⟩ := List.mem_map.mp member
          exact .key rfl inTable noText
      | part leads wanted partFailed =>
          rw [at?_readEntries] at leads
          obtain ⟨part, found, rfl⟩ := Option.map_eq_some_iff.mp leads
          exact .part found wanted partFailed

/-! ### Texts of keys -/

/-- A key that converts to a string without having a text: nil, or a wrapped value without data. -/
def LacksText : Tree → Prop
  | .nil => True
  | .wrapped payload => payload.isAbsent = true ∧ payload.type.canConvert .string = true
  | _ => False

theorem lacksText_of_convert {key : Tree} {ty : Ty} (absent : Value)
    (isAbsent : absent = .null ty ∨ absent = .unknown ty)
    (converted : key.convert .string = .ok absent) : key.LacksText := by
  have accepted {payload : Value} (isKey : key = .wrapped payload) (noData : payload.isAbsent = true) :
      key.LacksText := by
    subst isKey
    refine ⟨noData, ?_⟩
    rw [convert_wrapped, Value.convert, Value.convertTo.eq_def] at converted
    split at converted
    next same =>
        rw [show payload.type = .string by simpa [Ty.isDynamic] using same]
        rfl
    next =>
        rw [Value.convertAbsent] at converted
        split at converted
        next => cases converted
        next accepted => simpa using accepted
  obtain ⟨isNull, isUnknown⟩ := convert_absent converted
  rcases isAbsent with rfl | rfl
  · rcases isNull.mp rfl with rfl | ⟨ty, isKey⟩
    · trivial
    · exact accepted isKey rfl
  · obtain ⟨ty, isKey⟩ := isUnknown.mp rfl
    exact accepted isKey rfl

/-- Such a key is taken for senseless. -/
theorem keyText_of_lacksText {key : Tree} (textless : key.LacksText) :
    key.keyText key.read = .error (.invalid .notAKnownString) := by
  cases key with
  | nil => rfl
  | wrapped payload =>
      obtain ⟨absent, accepted⟩ := textless
      have converted : ∃ result : Value, (wrapped payload).read.convert .string = .ok result ∧
          result.text = .error (.invalid .notAKnownString) := by
        change ∃ result, (wrapped payload).convert .string = .ok result ∧ _
        rw [convert_wrapped, Value.convert, Value.convertTo.eq_def]
        split
        · cases payload with
          | null | unknown => exact ⟨_, rfl, rfl⟩
          | _ => cases absent
        · rw [Value.convertAbsent, accepted]
          cases payload with
          | null | unknown => exact ⟨_, rfl, rfl⟩
          | _ => cases absent
      obtain ⟨result, converted, noText⟩ := converted
      rw [keyText_of_kind (by simp [kind]), Reading.keyText, converted]
      exact noText
  | _ => cases textless

/-- A key has no text because it does not convert to a string, because it converts to one without a text,
    or because its conversion fails otherwise. -/
theorem keyText_eq_error {key : Tree} (payloads : key.All Value.WellFormed) {fault : Fault}
    (failed : key.keyText key.read = .error fault) :
    fault = .conversion [] .keysMustBeStrings ∨
      (fault = .invalid .notAKnownString ∧ key.LacksText) ∨
      (¬ fault.IsConversion ∧ key.convert .string = .error fault) := by
  by_cases isString : key.kind = .string
  · cases key with
    | string => cases failed
    | _ => cases isString
  · rw [keyText_of_kind isString, Reading.keyText] at failed
    split at failed
    next value converted =>
        right; left
        cases (read_sound payloads).typed .string value .string rfl converted with
        | null => exact ⟨(Except.error.inj failed).symm, lacksText_of_convert _ (.inl rfl) converted⟩
        | unknown => exact ⟨(Except.error.inj failed).symm, lacksText_of_convert _ (.inr rfl) converted⟩
        | string => cases failed
    next => exact .inl (Except.error.inj failed).symm
    next other notConversion converted =>
        cases failed
        refine .inr (.inr ⟨?_, converted⟩)
        rintro ⟨path, cause, rfl⟩
        exact notConversion path cause rfl

/-! ### Where a failure lies -/

/-- A conversion failure that is located below a step is that of the part there, at the type wanted for
    it. -/
theorem exists_part_of_error {tree : Tree} (payloads : tree.All Value.WellFormed) {want : Ty}
    (outer : want.WellFormed) {step : Step} {path : Path} {cause : ConversionCause}
    (failed : tree.convert want = .error (.conversion (step :: path) cause)) :
    ∃ part asked, tree.part? step = some part ∧ want.part? step = some asked ∧
      part.convert asked = .error (.conversion path cause) := by
  generalize same : Fault.conversion (step :: path) cause = fault at failed
  cases fails_of_convert payloads outer failed with
  | own => cases same
  | @key entries entry _ isTable member noText =>
      subst isTable
      cases payloads with
      | table keys _ =>
          rcases keyText_eq_error (keys entry member) noText with rfl | ⟨rfl, -⟩ | ⟨other, -⟩
          · cases same
          · cases same
          · exact absurd ⟨_, _, same.symm⟩ other
  | part leads wanted partFailed =>
      obtain ⟨inner, located, rfl⟩ := Fault.under_eq_conversion.mp same.symm
      cases located
      exact ⟨_, _, leads, wanted, partFailed⟩
  | unwritable _ unwritable => exact absurd ⟨_, _, same.symm⟩ unwritable.not_isConversion
  | undetermined _ _ other => exact absurd ⟨_, _, same.symm⟩ other
  | endless => cases same

/-- The path of a conversion failure leads to a part that does not convert itself. -/
theorem exists_follow_of_error {tree : Tree} (payloads : tree.All Value.WellFormed) {want : Ty}
    (outer : want.WellFormed) {path : Path} {cause : ConversionCause}
    (failed : tree.convert want = .error (.conversion path cause)) :
    ∃ part asked, tree.follow? path = some part ∧ want.follow? path = some asked ∧
      part.convert asked = .error (.conversion [] cause) := by
  induction path generalizing tree want with
  | nil => exact ⟨tree, want, rfl, rfl, failed⟩
  | cons step path ih =>
      obtain ⟨part, asked, leads, wanted, partFailed⟩ := exists_part_of_error payloads outer failed
      obtain ⟨last, final, follows, reaches, lastFailed⟩ :=
        ih (payloads.part? leads) (Ty.part?_wellFormed outer wanted) partFailed
      refine ⟨last, final, ?_, ?_, lastFailed⟩
      · rw [follow?, List.foldlM_cons, leads]
        exact follows
      · rw [Ty.follow?, List.foldlM_cons, wanted]
        exact reaches

end Tree

end Crosswalk
