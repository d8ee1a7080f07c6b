/-
Module: Crosswalk.Proofs.Host.Indexing
Purpose: Indexing a wrapped map or object with a string, a number or a truth value. The handler converts the
  key to a string, which normalizes its text, and looks for that text among the entries. What it
  finds is given back wrapped, and everything else is nil.
Main exports: HostValue.keyText?, Host.Equipped, Host.IndexYields, Host.indexYields_map,
  Host.indexYields_object
-/
import Crosswalk.Proofs.Host.Depth
import Crosswalk.Proofs.Operation
import Crosswalk.Proofs.Decimal.Rendering
import Crosswalk.Proofs.Text.Spelling
import Crosswalk.Host.Evaluate

namespace Crosswalk

/-! ### Computations of a host -/

namespace Machine

variable {α β : Type} (host : Host)

theorem bind_apply (first : Machine α) (next : α → Machine β) :
    (first >>= next) host = first host >>= fun result => next result.1 result.2 :=
  rfl

theorem get_bind_apply (next : Host → Machine α) :
    ((get : Machine Host) >>= next) host = next host host :=
  rfl

end Machine

/-! ### Texts of keys -/

/-- The text that a string, a number or a truth value has as a key of a table. -/
def HostValue.keyText? : HostValue → Option String
  | .string text => some text
  | .number x => x.toDecimal?.map Decimal.format
  | .boolean flag => some (if flag then "true" else "false")
  | _ => none

/-- The text of a key that is not a string has no other spelling: it is that of a number or a truth value. -/
theorem HostValue.keyText?_onlySpelling {key : HostValue} {text : String} (named : key.keyText? = some text)
    (notString : key.kind ≠ .string) : Text.OnlySpelling text := by
  cases key with
  | string own => exact absurd rfl notString
  | number x =>
      obtain ⟨amount, -, rfl⟩ := Option.map_eq_some_iff.mp named
      exact Decimal.format_onlySpelling amount
  | boolean flag =>
      cases named
      exact Text.truth_onlySpelling flag
  | _ => cases named

namespace Host

/-- Conversion to string normalizes the text of a key. -/
theorem convert_of_keyText? (host : Host) {key : HostValue} {text : String}
    (named : key.keyText? = some text) :
    host.convert key .string = .ok (.string (Text.normalize text)) := by
  cases key with
  | string own => cases named; rfl
  | number x =>
      obtain ⟨amount, found, rfl⟩ := Option.map_eq_some_iff.mp named
      have form : Reading.ofNumber x = .ok (.number amount) := by rw [Reading.ofNumber, found]
      change (Reading.ofNumber x >>= fun value => value.convert .string) = _
      rw [form]
      change ((amount.render.mapError Fault.ofWriting).map Value.ofText) = _
      rw [Decimal.render_of_toDecimal? found]
      rfl
  | boolean flag => cases named; rfl
  | _ => cases named

/-- Reading a table by key text takes the text of a key as it is. -/
theorem keyTextTo_of_keyText? (host : Host) (depth : Nat) {key : HostValue} {text : String}
    (named : key.keyText? = some text) : host.keyTextTo depth key = .ok text := by
  have leaf : ∀ ref, key ≠ .table ref := by
    rintro ref rfl
    cases named
  have converted : (host.treeTo (host.tables.size + 1) key).read.convert .string =
      .ok (.string (Text.normalize text)) := convert_of_keyText? host named
  rw [keyTextTo, treeTo_of_leaf host leaf depth (host.tables.size + 1)]
  cases key with
  | string own =>
      cases named
      rfl
  | number | boolean =>
      have normal := (HostValue.keyText?_onlySpelling named (by simp [HostValue.kind])).isNormal
      rw [Tree.keyText_of_kind (by simp [treeTo, Tree.kind]), Reading.keyText, converted, normal]
      rfl
  | _ => cases named

/-! ### The handler for indexing -/

/-- Wrapped values of the host have the handler for indexing. -/
def Equipped (host : Host) : Prop :=
  ∃ ref function, (host.tableAt wrappedMetatable).getField Event.index.key = .function ref ∧
    host.functions[ref.id]? = some function ∧ function.procedure = .handler .index

theorem start_equipped (settings : Settings) : (start settings).Equipped :=
  ⟨⟨9⟩, ⟨Event.index.key, .handler .index⟩, rfl, rfl, rfl⟩

theorem Equipped.wrap {host : Host} (equipped : host.Equipped) (value : Value) :
    (host.wrap value).2.Equipped :=
  equipped

theorem Equipped.newTable {host : Host} (equipped : host.Equipped) (table : HostTable) :
    (host.newTable table).2.Equipped := by
  obtain ⟨ref, function, handler, found, procedure⟩ := equipped
  refine ⟨ref, function, ?_, found, procedure⟩
  have inBounds : wrappedMetatable.id < host.tables.size := by
    by_contra missing
    have none : host.tables[wrappedMetatable.id]? = none := by simpa using missing
    rw [tableAt, none] at handler
    cases handler
  have kept : (host.newTable table).2.tableAt wrappedMetatable = host.tableAt wrappedMetatable := by
    rw [tableAt, tableAt, Host.newTable, Array.getElem?_push_lt inBounds,
      Array.getElem?_eq_getElem inBounds]
  rw [kept, handler]

theorem unwrap_wrap (host : Host) (value : Value) :
    (host.wrap value).2.unwrap (host.wrap value).1 = some value := by
  simp [wrap, newUserdata, unwrap]

theorem metafield_wrap (host : Host) (value : Value) (key : String) :
    (host.wrap value).2.metafield (host.wrap value).1 key =
      (host.tableAt wrappedMetatable).getField key := by
  simp [wrap, newUserdata, metafield, metatable?, tableAt]

/-- Userdata has no entries of its own, so indexing it calls its handler. -/
theorem indexVia_userdata {host : Host} {object : UserdataRef} {handler : FunctionRef}
    (found : host.metafield (.userdata object) Event.index.key = .function handler)
    (links : Nat) (key : HostValue) :
    indexVia links (.userdata object) key host =
      callFirst (.function handler) [.userdata object, key] host := by
  unfold indexVia
  simp only [Machine.get_bind_apply, found]

theorem call_function {host : Host} {ref : FunctionRef} {function : HostFunction}
    (found : host.functions[ref.id]? = some function) (arguments : List HostValue) :
    call (.function ref) arguments host = run function arguments host := by
  unfold call
  rw [Machine.get_bind_apply]
  unfold callVia
  simp only [Machine.get_bind_apply, found]

/-- Calling the handler of an event gives the result that the event has. -/
theorem callFirst_handler {host : Host} {ref : FunctionRef} {function : HostFunction}
    (found : host.functions[ref.id]? = some function) {event : Event}
    (procedure : function.procedure = .handler event) (arguments : List HostValue) :
    callFirst (.function ref) arguments host = Wrapped.handle event arguments host := by
  have handled : (run function arguments >>= fun results => pure (results.head?.getD .nil)) =
      Wrapped.handle event arguments := by
    simp [run, procedure]
  rw [callFirst, Machine.bind_apply, call_function found]
  exact congrFun handled host

/-- Indexing a wrapped value calls the handler. -/
theorem index_wrap {host : Host} (equipped : host.Equipped) (value : Value) (key : HostValue) :
    index (host.wrap value).1 key (host.wrap value).2 =
      Wrapped.index (host.wrap value).1 key (host.wrap value).2 := by
  obtain ⟨ref, function, handler, found, procedure⟩ := equipped.wrap value
  have installed := (metafield_wrap host value Event.index.key).trans handler
  calc index (host.wrap value).1 key (host.wrap value).2
      = callFirst (.function ref) [(host.wrap value).1, key] (host.wrap value).2 :=
        indexVia_userdata installed _ key
    _ = Wrapped.index (host.wrap value).1 key (host.wrap value).2 :=
        callFirst_handler found procedure [(host.wrap value).1, key]

/-! ### Results of indexing -/

/-- An element is given back wrapped; nil stands for no element, and for a null one if the settings say
    so. -/
def present (host : Host) : Option Value → HostValue × Host
  | none => (.nil, host)
  | some found =>
    if found.isNull && host.settings.nullIndex = .nil then (.nil, host) else host.wrap found

/-- Indexing a wrapped value with a key gives an element of it, or nil if it has none. -/
def IndexYields (host : Host) (value : Value) (key : HostValue) (element : Option Value) : Prop :=
  index (host.wrap value).1 key (host.wrap value).2 = .ok ((host.wrap value).2.present element)

/-- What is given back holds the element, unless it is nil instead. -/
theorem unwrap_present (host : Host) (element : Option Value) :
    (host.present element).2.unwrap (host.present element).1 =
      element.filter fun found => !(found.isNull && host.settings.nullIndex = .nil) := by
  cases element with
  | none => rfl
  | some found =>
      rw [present, Option.filter_some]
      cases hidden : found.isNull && decide (host.settings.nullIndex = .nil) with
      | true => rfl
      | false => exact unwrap_wrap host found

/-- Indexing has one result. -/
theorem IndexYields.unique {host : Host} {value : Value} {key : HostValue} {first second : Option Value}
    (one : host.IndexYields value key first) (other : host.IndexYields value key second) :
    (host.wrap value).2.present first = (host.wrap value).2.present second :=
  Except.ok.inj (one.symm.trans other)

section Yields

variable {host : Host} (equipped : host.Equipped) {value : Value} (notNull : value.isNull = false)
include equipped notNull

theorem indexYields_some {key : HostValue} {found : Value}
    (looked : Wrapped.element (host.wrap value).2 value key = .ok (some found)) :
    host.IndexYields value key (some found) := by
  rw [IndexYields, index_wrap equipped, Wrapped.index, Machine.get_bind_apply]
  simp only [unwrap_wrap, notNull, Bool.false_eq_true, if_false, looked, present]
  split <;> rfl

theorem indexYields_none {key : HostValue} {path : Path} {cause : OperationCause}
    (looked : Wrapped.element (host.wrap value).2 value key = .error (.operation path cause)) :
    host.IndexYields value key none := by
  rw [IndexYields, index_wrap equipped, Wrapped.index, Machine.get_bind_apply]
  simp only [unwrap_wrap, notNull, Bool.false_eq_true, if_false, looked, present]
  rfl

end Yields

/-- Indexing a map looks for the normalized text of the key. -/
theorem indexYields_map {host : Host} (equipped : host.Equipped) (element : Ty)
    (entries : List (String × Value)) {key : HostValue} {text : String}
    (named : key.keyText? = some text) :
    host.IndexYields (.map element entries) key (entries.lookup (Text.normalize text)) := by
  have converted := convert_of_keyText? (host.wrap (.map element entries)).2 named
  cases found : entries.lookup (Text.normalize text) with
  | some item =>
      apply indexYields_some equipped rfl
      simp [Wrapped.element, Value.type, converted, Value.index, found, bind, Except.bind]
  | none =>
      have looked : Wrapped.element (host.wrap (.map element entries)).2 (.map element entries) key =
          .error (.operation [] .noSuchKey) := by
        simp [Wrapped.element, Value.type, converted, Value.index, found, bind, Except.bind]
      exact indexYields_none equipped rfl looked

/-- Indexing an object looks for the normalized text of the key. -/
theorem indexYields_object {host : Host} (equipped : host.Equipped)
    {entries : List (String × Value)} (nodup : (entries.map Prod.fst).Nodup) {key : HostValue}
    {text : String} (named : key.keyText? = some text) :
    host.IndexYields (.object entries) key (entries.lookup (Text.normalize text)) := by
  have converted := convert_of_keyText? (host.wrap (.object entries)).2 named
  have attr := Value.getAttribute_object nodup (Text.normalize text)
  have type : (Value.object entries).type = .objectOf (Value.entryTypes entries) := rfl
  cases found : entries.lookup (Text.normalize text) with
  | some item =>
      rw [found] at attr
      apply indexYields_some equipped rfl
      simp [Wrapped.element, type, Ty.objectOf, converted, Value.text, attr, bind, Except.bind]
  | none =>
      rw [found] at attr
      have looked : Wrapped.element (host.wrap (.object entries)).2 (.object entries) key =
          .error (.operation [] (.unsupportedAttribute (Text.normalize text))) := by
        simp [Wrapped.element, type, Ty.objectOf, converted, Value.text, attr, bind, Except.bind]
      exact indexYields_none equipped rfl looked

end Host

end Crosswalk
