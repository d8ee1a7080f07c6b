/-
Module: Crosswalk.Proofs.Wrapped.Handler
Purpose: Equality and indexing of wrapped values on every operand. Equality always gives a truth value.
  Indexing gives the element that the key denotes, or nil for whatever has none, unless the key overwhelms
  it: an infinite number is no position, a number whose exponent overflows is no text, and the type of a table
  that contains itself may not be found in the end.
Main exports: Wrapped.Overwhelms, Wrapped.overwhelms_iff, Wrapped.eq_index_return
-/
import Crosswalk.Proofs.Host.Failure

namespace Crosswalk

/-! ### Infinite numbers

Texts are never read as infinite numbers, so only infinite numbers convert to them. -/

namespace Decimal

theorem ofParts_ne_infinity {coefficient exponent : Int} {negative : Bool} :
    ofParts coefficient exponent ≠ .infinity negative := by
  simp [ofParts]

theorem round_ne_infinity {sign : Bool} {num den : Nat} {exponent : Int} {negative : Bool} :
    round sign num den exponent ≠ .ok (.infinity negative) := by
  intro rounded
  unfold round at rounded
  split at rounded
  · cases rounded
  · simp only at rounded
    split at rounded
    · cases rounded
    · split at rounded
      · cases rounded
      · split at rounded
        · cases rounded
        · exact ofParts_ne_infinity (Except.ok.inj rounded)

theorem parse_ne_infinity {text : String} {negative : Bool} : parse text ≠ .ok (.infinity negative) := by
  intro parsed
  unfold parse at parsed
  split at parsed
  · exact round_ne_infinity (Outcome.mapError_eq_ok.mp parsed)
  · split at parsed <;> cases parsed

end Decimal

theorem Binary64.eq_of_toDecimal?_infinity {x : Binary64} {negative : Bool}
    (found : x.toDecimal? = some (.infinity negative)) : x = .infinity negative := by
  cases x with
  | finite =>
      rw [toDecimal?] at found
      split at found
      · exact absurd (Option.some.inj found) Decimal.ofParts_ne_infinity
      · exact absurd (Option.some.inj found) Decimal.ofParts_ne_infinity
  | infinity => cases found; rfl
  | nan => cases found

/-- Only an infinite number converts to one. -/
theorem Value.eq_of_convert_infinity {value : Value} {negative : Bool}
    (converted : value.convert .number = .ok (.number (.infinity negative))) :
    value = .number (.infinity negative) := by
  cases converts_of_convertTo converted with
  | whole whole =>
      cases whole with
      | same => rfl
      | absent _ converted =>
          rcases convertAbsent_eq_ok converted with ⟨-, rfl⟩ | ⟨-, same⟩
          · rfl
          · split at same <;> cases same
      | primitive _ converted =>
          cases value with
          | string text =>
              rw [convertPrimitive] at converted
              split at converted
              next parsed =>
                  cases converted
                  exact absurd parsed Decimal.parse_ne_infinity
              next => cases converted
          | _ => cases converted

/-- A host value converts to an infinite number if it is one, or wraps one. -/
theorem Host.convert_eq_infinity {host : Host} {key : HostValue} {negative : Bool} :
    host.convert key .number = .ok (.number (.infinity negative)) ↔
      key = .number (.infinity negative) ∨
        host.unwrap key = some (.number (.infinity negative)) := by
  have further (own : Outcome Value)
      (converted : (own >>= fun value => value.convert .number) = .ok (.number (.infinity negative))) :
      own = .ok (.number (.infinity negative)) := by
    obtain ⟨value, isOwn, converted⟩ := Outcome.bind_eq_ok.mp converted
    rw [isOwn, Value.eq_of_convert_infinity converted]
  constructor
  · intro converted
    cases key with
    | number x =>
        left
        change Reading.ofNumber x = _ at converted
        unfold Reading.ofNumber at converted
        split at converted
        next found =>
            cases converted
            rw [Binary64.eq_of_toDecimal?_infinity found]
        next => cases converted
    | userdata ref =>
        right
        change (host.tree (.userdata ref)).convert .number = _ at converted
        rw [tree, treeTo] at converted
        split at converted
        next payload wraps =>
            rw [Tree.convert_wrapped] at converted
            rw [wraps, Value.eq_of_convert_infinity converted]
        next => cases converted
    | boolean flag => cases further (.ok (.bool flag)) converted
    | string text => cases further (.ok (Value.ofText text)) converted
    | table ref =>
        obtain ⟨_, isObject⟩ := Reading.toImplied_object (further (Reading.toImplied _) converted)
        cases isObject
    | nil | function => cases converted
  · rintro (rfl | wraps)
    · rfl
    · change (host.tree key).convert .number = _
      rw [tree_eq_wrapped.mpr wraps, Tree.convert_wrapped]
      rfl

namespace Wrapped

/-! ### The indexing handler -/

/-- The type that keys are converted to for indexing values of a type. -/
def keyType? : Ty → Option Ty
  | .object _ => some .string
  | .map _ => some .string
  | .list _ => some .number
  | .tuple _ => some .number
  | _ => none

theorem keyType?_plain {ty want : Ty} (asked : keyType? ty = some want) :
    want.WellFormed ∧ want.hasDynamic = false := by
  cases ty <;> cases asked <;> exact ⟨by constructor, rfl⟩

/-- A key that indexing a value does not survive. -/
inductive Overwhelms (host : Host) (value : Value) (key : HostValue) : Prop
  /-- An infinite number, where a position is asked for. -/
  | infinite {negative : Bool} (notNull : value.isNull = false)
      (asked : keyType? value.type = some .number)
      (infinite : key = .number (.infinity negative) ∨
        host.unwrap key = some (.number (.infinity negative))) : Overwhelms host value key
  /-- A key that holds a number too large to write, where that has to be written. -/
  | unwritable {want : Ty} (notNull : value.isNull = false) (asked : keyType? value.type = some want)
      (failed : host.convert key want = .error .exponentOverflow) : Overwhelms host value key
  /-- A table that contains itself, where inferring its type never ends. -/
  | endless {want : Ty} (notNull : value.isNull = false) (asked : keyType? value.type = some want)
      (endless : host.implied key = .error .endless) : Overwhelms host value key

/-- The element of a value that a converted key denotes. -/
def lookUp (value key : Value) : Outcome Value :=
  match value.type with
  | .object _ => key.text >>= value.getAttribute
  | _ => value.index key

theorem element_eq (host : Host) (value : Value) (key : HostValue) :
    element host value key =
      match keyType? value.type with
      | some want => host.convert key want >>= fun converted => some <$> lookUp value converted
      | none => .ok none := by
  rw [element]
  split
  next attributes isObject =>
      rw [isObject]
      refine bind_congr fun name => ?_
      rw [lookUp, isObject]
      cases name.text <;> rfl
  next isMap => simp only [isMap, lookUp, keyType?]
  next isList => simp only [isList, lookUp, keyType?]
  next isTuple => simp only [isTuple, lookUp, keyType?]
  next noObject noMap noList noTuple =>
      cases isType : value.type with
      | object => exact absurd isType (noObject _)
      | map => exact absurd isType (noMap _)
      | list => exact absurd isType (noList _)
      | tuple => exact absurd isType (noTuple _)
      | _ => rfl

/-- A fault that the indexing handler takes for the absence of an element. -/
def Forgiven (fault : Fault) : Prop :=
  (isConversion fault || isOperation fault || isInvalid fault) = true

theorem position_eq_error {key : Value} {fault : Fault} (failed : key.position = .error fault) :
    Forgiven fault ∨ (fault = .tooLarge ∧ ∃ negative, key = .number (.infinity negative)) := by
  unfold Value.position at failed
  split at failed
  next amount =>
      split at failed
      next negative => exact .inr ⟨(Except.error.inj failed).symm, negative, rfl⟩
      next =>
          split at failed
          · cases failed
          · exact .inl (Except.error.inj failed ▸ rfl)
  next => exact .inl (Except.error.inj failed ▸ rfl)

theorem elementAt_eq_error {α : Type} {items : List α} {position : Int} {fault : Fault}
    (failed : Value.elementAt items position = .error fault) : Forgiven fault := by
  unfold Value.elementAt at failed
  split at failed
  · exact Except.error.inj failed ▸ rfl
  · split at failed
    · cases failed
    · exact Except.error.inj failed ▸ rfl

theorem index_eq_error {value key : Value} {fault : Fault} (failed : value.index key = .error fault) :
    Forgiven fault ∨ (fault = .tooLarge ∧ ∃ negative, key = .number (.infinity negative)) := by
  have placed {α : Type} {items : List α}
      (failed : (key.position >>= Value.elementAt items) = .error fault) :
      Forgiven fault ∨ (fault = .tooLarge ∧ ∃ negative, key = .number (.infinity negative)) := by
    rcases Outcome.bind_eq_error.mp failed with failed | ⟨position, -, failed⟩
    · exact position_eq_error failed
    · exact .inl (elementAt_eq_error failed)
  unfold Value.index at failed
  split at failed
  next => exact placed failed
  next => exact placed failed
  next =>
      left
      split at failed
      · split at failed
        · cases failed
        · exact Except.error.inj failed ▸ rfl
      · exact Except.error.inj failed ▸ rfl
  next => exact .inl (Except.error.inj failed ▸ rfl)
  next => exact position_eq_error (Outcome.map_eq_error.mp failed)
  next => exact placed (Outcome.map_eq_error.mp failed)
  next =>
      left
      split at failed
      · cases failed
      · exact Except.error.inj failed ▸ rfl
  next => exact .inl (Except.error.inj failed ▸ rfl)

theorem getAttribute_eq_error {value : Value} {name : String} {fault : Fault}
    (failed : value.getAttribute name = .error fault) : Forgiven fault := by
  unfold Value.getAttribute at failed
  split at failed
  next =>
      split at failed
      · exact Except.error.inj failed ▸ rfl
      · split at failed
        · split at failed
          · cases failed
          · exact Except.error.inj failed ▸ rfl
        · cases failed
        · exact Except.error.inj failed ▸ rfl
  next => exact Except.error.inj failed ▸ rfl

/-- Looking up a key of the right type fails for want of an element, or because the key is infinite. -/
theorem lookUp_eq_error {value key : Value} (typed : keyType? value.type = some key.type) {fault : Fault}
    (failed : lookUp value key = .error fault) :
    Forgiven fault ∨ key.type = .number ∧ ∃ negative, key = .number (.infinity negative) := by
  unfold lookUp at failed
  split at failed
  next isObject =>
      left
      have isText : key.type = .string := by
        rw [isObject] at typed
        exact (Option.some.inj typed).symm
      rcases Outcome.bind_eq_error.mp failed with failed | ⟨name, -, failed⟩
      · cases key with
        | null | unknown => exact Except.error.inj failed ▸ rfl
        | string => cases failed
        | _ => cases isText
      · exact getAttribute_eq_error failed
  next =>
      rcases index_eq_error failed with forgiven | ⟨-, negative, rfl⟩
      · exact .inl forgiven
      · exact .inr ⟨rfl, negative, rfl⟩

/-- An infinite number has no position in a list or tuple with elements. -/
theorem lookUp_infinity {value : Value} (notNull : value.isNull = false)
    (asked : keyType? value.type = some .number) (negative : Bool) :
    lookUp value (.number (.infinity negative)) = .error .tooLarge := by
  cases value with
  | null => cases notNull
  | unknown ty => cases ty <;> first | rfl | cases asked
  | list | tuple => rfl
  | _ => cases asked

/-- A null has no elements. -/
theorem element_ne_of_isNull {host : Host} {value : Value} (isNull : value.isNull = true) (key : HostValue)
    (found : Value) : element host value key ≠ .ok (some found) := by
  intro looked
  cases value with
  | null ty =>
      rw [element_eq] at looked
      cases ty with
      | object attributes =>
          obtain ⟨converted, -, looked⟩ := Outcome.bind_eq_ok.mp looked
          obtain ⟨_, looked, -⟩ := Outcome.map_eq_ok.mp looked
          obtain ⟨name, -, looked⟩ := Outcome.bind_eq_ok.mp looked
          unfold Value.getAttribute at looked
          simp only [Value.type] at looked
          split at looked <;> cases looked
      | list | map | tuple =>
          obtain ⟨converted, -, looked⟩ := Outcome.bind_eq_ok.mp looked
          cases looked
      | _ => cases looked
  | _ => cases isNull

/-! ### The handler and its outcomes -/

section Outcomes

variable {host : Host} {a : HostValue} {value : Value} (wraps : host.unwrap a = some value)
include wraps

theorem handle_index_of_isNull (isNull : value.isNull = true) {key : HostValue} :
    handle .index [a, key] host = .ok (.nil, host) := by
  change index a key host = _
  simp only [index, Machine.get_bind_apply, wraps, isNull]
  rfl

variable (notNull : value.isNull = false) {key : HostValue}
include notNull

theorem handle_index_of_ok {found : Option Value} (looked : element host value key = .ok found) :
    handle .index [a, key] host = .ok (host.present found) := by
  change index a key host = _
  simp only [index, Machine.get_bind_apply, wraps, notNull, looked]
  cases found with
  | none => rfl
  | some found =>
      simp only [Bool.false_eq_true, if_false, Host.present]
      split <;> rfl

theorem handle_index_of_forgiven {fault : Fault} (looked : element host value key = .error fault)
    (forgiven : Forgiven fault) : handle .index [a, key] host = .ok (.nil, host) := by
  change index a key host = _
  simp only [index, Machine.get_bind_apply, wraps, notNull, looked, Bool.false_eq_true, if_false]
  rw [if_pos (show (_ : Bool) = true from forgiven)]
  rfl

theorem handle_index_of_unforgiven {fault : Fault} (looked : element host value key = .error fault)
    (unforgiven : ¬ Forgiven fault) : handle .index [a, key] host = .error (.fault fault) := by
  change index a key host = _
  simp only [index, Machine.get_bind_apply, wraps, notNull, looked, Bool.false_eq_true, if_false]
  rw [if_neg (show ¬ (_ : Bool) = true from unforgiven)]
  rfl

end Outcomes

/-! ### Every operand -/

section Handlers

variable {host : Host} (payloads : host.Carries Value.WellFormed)
include payloads

theorem convertKey_eq_error {key : HostValue} {ty want : Ty} (asked : keyType? ty = some want)
    {fault : Fault} (failed : host.convert key want = .error fault) :
    Forgiven fault ∨ fault = .exponentOverflow ∨ fault = .endless := by
  have outer := keyType?_plain asked
  rcases Host.fault_of_convert payloads outer.1 outer.2 failed with ⟨_, _, rfl⟩ | escapes
  · exact .inl rfl
  · cases escapes with
    | textless => exact .inl rfl
    | unwritable _ _ _ unwritable =>
        rcases unwritable.fault_cases with rfl | ⟨cause, rfl⟩
        · exact .inr (.inl rfl)
        · exact .inl rfl
    | endless => exact .inr (.inr rfl)

/-- Converting a key is endless exactly if inferring its type is. -/
theorem convertKey_eq_endless {key : HostValue} {ty want : Ty} (asked : keyType? ty = some want) :
    host.convert key want = .error .endless ↔ host.implied key = .error .endless := by
  have flat : want.nesting = 0 ∧ want ≠ .bool := by cases ty <;> cases asked <;> exact ⟨rfl, nofun⟩
  exact Host.convert_eq_endless payloads flat.1 flat.2

/-- Looking for an element fails with a fault that is not taken for its absence exactly if the key
    overwhelms the value. -/
theorem overwhelms_iff {value : Value} (notNull : value.isNull = false) {key : HostValue} :
    Overwhelms host value key ↔
      ∃ fault, element host value key = .error fault ∧ ¬ Forgiven fault := by
  rw [element_eq]
  constructor
  · rintro (⟨notNull, asked, infinite⟩ | ⟨-, asked, failed⟩ | ⟨-, asked, endless⟩)
    · refine ⟨.tooLarge, ?_, nofun⟩
      rw [asked]
      change (host.convert key .number >>= _) = _
      rw [Host.convert_eq_infinity.mpr infinite]
      change some <$> lookUp value _ = _
      rw [lookUp_infinity notNull asked]
      rfl
    · refine ⟨.exponentOverflow, ?_, nofun⟩
      rw [asked]
      change (host.convert key _ >>= _) = _
      rw [failed]
      rfl
    · refine ⟨.endless, ?_, nofun⟩
      rw [asked]
      change (host.convert key _ >>= _) = _
      rw [(convertKey_eq_endless payloads asked).mpr endless]
      rfl
  · rintro ⟨fault, failed, unforgiven⟩
    cases asked : keyType? value.type with
    | none => simp [asked] at failed
    | some want =>
        rw [asked] at failed
        rcases Outcome.bind_eq_error.mp failed with failed | ⟨converted, isKey, failed⟩
        · rcases convertKey_eq_error payloads asked failed with forgiven | rfl | rfl
          · exact absurd forgiven unforgiven
          · exact .unwritable notNull asked failed
          · exact .endless notNull asked ((convertKey_eq_endless payloads asked).mp failed)
        · have outer := keyType?_plain asked
          have typed := (Host.convert_hasType payloads outer.1 outer.2 isKey).1
          rcases lookUp_eq_error (asked.trans (congrArg some typed.symm))
            (Outcome.map_eq_error.mp failed) with forgiven | ⟨isNumber, negative, rfl⟩
          · exact absurd forgiven unforgiven
          · rw [← typed, isNumber] at asked isKey
            exact .infinite notNull asked (Host.convert_eq_infinity.mp isKey)

/-- Equality and indexing of a wrapped value on every operand. Equality gives a truth value, on either side,
    which is true only for wrapped values that are known to be the same. Indexing gives the element at the
    key, or nil if there is none, unless the key overwhelms the value; then it ends with a failure that
    scripts do not see. -/
theorem eq_index_return {a : HostValue} {value : Value} (wraps : host.unwrap a = some value)
    (other : HostValue) :
    (∃ flag, handle .eq [a, other] host = .ok (.boolean flag, host) ∧
      (flag = true ↔ ∃ held, host.unwrap other = some held ∧ value.sameAs held = some true)) ∧
    (∃ flag, handle .eq [other, a] host = .ok (.boolean flag, host) ∧
      (flag = true ↔ ∃ held, host.unwrap other = some held ∧ held.sameAs value = some true)) ∧
    (¬ Overwhelms host value other →
      handle .index [a, other] host = .ok (host.present (element host value other).toOption.join)) ∧
    (Overwhelms host value other →
      ∃ fault, handle .index [a, other] host = .error (.fault fault)) := by
  refine ⟨⟨equality host a other, rfl, ?_⟩, ⟨equality host other a, rfl, ?_⟩, ?_, ?_⟩
  · cases held : host.unwrap other <;> simp [equality, wraps, held]
  · cases held : host.unwrap other <;> simp [equality, wraps, held]
  · intro survives
    cases isNull : value.isNull with
    | true =>
        rw [handle_index_of_isNull wraps isNull]
        cases looked : element host value other with
        | error => rfl
        | ok found =>
            cases found with
            | none => rfl
            | some found => exact absurd looked (element_ne_of_isNull isNull other found)
    | false =>
        cases looked : element host value other with
        | ok found => exact handle_index_of_ok wraps isNull looked
        | error fault =>
            refine handle_index_of_forgiven wraps isNull looked ?_
            by_contra unforgiven
            exact survives ((overwhelms_iff payloads isNull).mpr ⟨fault, looked, unforgiven⟩)
  · intro overwhelms
    have notNull : value.isNull = false := by cases overwhelms <;> assumption
    obtain ⟨fault, looked, unforgiven⟩ := (overwhelms_iff payloads notNull).mp overwhelms
    exact ⟨fault, handle_index_of_unforgiven wraps notNull looked unforgiven⟩

end Handlers

/-- A host that wraps a list of one number. -/
def singleton : Host :=
  ((Host.start {}).wrap (.list .number [.ofNat 1])).2

theorem singleton_carries : singleton.Carries Value.WellFormed := by
  refine (Host.carries_of_sole rfl).mono ?_
  rintro _ rfl
  exact .list .number (List.forall_mem_singleton.mpr (.inr rfl)) (List.forall_mem_singleton.mpr (.number _))

/-- The list is not equal to a truth value, which is no position of it either. An infinite number is no
    position, and indexing the list with it ends with a failure. -/
theorem eq_index_return_singleton :
    handle .eq [.userdata ⟨0⟩, .boolean true] singleton = .ok (.boolean false, singleton) ∧
      handle .index [.userdata ⟨0⟩, .boolean true] singleton = .ok (.nil, singleton) ∧
      ∃ fault, handle .index [.userdata ⟨0⟩, .number (.infinity true)] singleton =
        .error (.fault fault) := by
  have wraps : singleton.unwrap (.userdata ⟨0⟩) = some (.list .number [.ofNat 1]) := rfl
  obtain ⟨⟨flag, answer, same⟩, -, yields, -⟩ :=
    eq_index_return singleton_carries wraps (.boolean true)
  obtain ⟨-, -, -, fails⟩ :=
    eq_index_return singleton_carries wraps (.number (.infinity true))
  refine ⟨?_, yields ?_, fails (.infinite rfl rfl (.inl rfl))⟩
  · have different : flag = false := by
      rw [← Bool.not_eq_true, same]
      rintro ⟨held, isHeld, -⟩
      cases isHeld
    rw [answer, different]
  · intro overwhelms
    cases overwhelms with
    | infinite _ _ infinite => rcases infinite with isNumber | isWrapped <;> contradiction
    | unwritable _ asked failed =>
        cases asked
        cases failed
    | endless _ _ endless => cases endless

/-- Indexing the list with an infinite number ends with a failure that scripts do not see. -/
theorem index_infinity :
    handle .index [.userdata ⟨0⟩, .number (.infinity false)] singleton = .error (.fault .tooLarge) :=
  rfl

-- a table that holds itself has no type that could be named
example :
    let (ref, host) := singleton.newTable { entries := [(.string "self", .table ⟨singleton.tables.size⟩)] }
    handle .index [.userdata ⟨0⟩, .table ref] host = .error (.fault .endless) :=
  rfl

end Wrapped

end Crosswalk
