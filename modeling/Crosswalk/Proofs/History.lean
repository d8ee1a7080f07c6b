/-
Module: Crosswalk.Proofs.History
Purpose: Well-formedness is an invariant of the structural system. A history is a sequence of calls, each of
  which may use values that earlier calls have returned, by themselves or held by a host. Each call keeps
  the values well-formed, so every value that is ever returned is.
Main exports: NumberSource, Call, Call.run, Call.Admits, Call.run_wellFormed, History, History.forall_wellFormed
-/
import Crosswalk.Proofs.Function
import Crosswalk.Proofs.Host.Conversion
import Crosswalk.Value.Equality

namespace Crosswalk

/-! ### Calls -/

/-- What a number value may be made from. Truth values, and decimals that are not numbers, are refused. -/
inductive NumberSource where
  | truth (flag : Bool)
  | whole (n : Int)
  | decimal (amount : Option Decimal)
  | binary (x : Binary64)
  | numeral (text : String)

/-- A number value. -/
def Value.ofSource : NumberSource → Outcome Value
  | .truth _ => .error (.invalid .boolIsNoNumber)
  | .whole n => .ok (.number (Decimal.ofInt n))
  | .decimal (some amount) => .ok (.number amount)
  | .decimal none => .error (.invalid .notANumber)
  | .binary x => Value.ofBinary64 x
  | .numeral text => Value.ofNumeralText text

/-- A call of the structural system with its operands. -/
inductive Call where
  | null (ty : Ty)
  | unknown (ty : Ty)
  | bool (flag : Bool)
  | number (source : NumberSource)
  | string (text : String)
  | list (items : List Value) (asked : Option Ty)
  | set (items : List Value) (asked : Option Ty)
  | map (pairs : List (String × Value)) (asked : Option Ty)
  | object (pairs : List (String × Value))
  | tuple (items : List Value)
  | convert (value : Value) (want : Ty)
  | convertHost (host : Host) (value : HostValue) (want : Ty)
  | equals (a b : Value)
  | index (value key : Value)
  | getAttribute (value : Value) (name : String)
  | length (value : Value)
  | operate (operation : Operation) (operands : List Value)
  | apply (function : Function) (builtin : function ∈ Function.builtins) (arguments : List Value)

namespace Call

/-- The outcome of a call. -/
def run : Call → Outcome Value
  | .null ty => .ok (.null ty)
  | .unknown ty => .ok (.unknown ty)
  | .bool flag => .ok (.bool flag)
  | .number source => Value.ofSource source
  | .string text => .ok (Value.ofText text)
  | .list items asked => Value.listOf items asked
  | .set items asked => Value.setOf items asked
  | .map pairs asked => Value.mapOf pairs asked
  | .object pairs => .ok (Value.objectOf pairs)
  | .tuple items => .ok (Value.tupleOf items)
  | .convert value want => value.convert want
  | .convertHost host value want => host.convert value want
  | .equals a b => .ok (a.equals b)
  | .index value key => value.index key
  | .getAttribute value name => value.getAttribute name
  | .length value => value.length
  | .operate operation operands => operation.apply operands
  | .apply function _ arguments => function.call arguments

/-- The values that a call uses are available, and its types are well-formed. -/
def Admits (Available : Value → Prop) : Call → Prop
  | .null ty | .unknown ty => ty.WellFormed
  | .bool _ | .number _ | .string _ => True
  | .list items asked | .set items asked =>
    (∀ item ∈ items, Available item) ∧ ∀ ty ∈ asked, ty.WellFormed
  | .map pairs asked => (∀ pair ∈ pairs, Available pair.2) ∧ ∀ ty ∈ asked, ty.WellFormed
  | .object pairs => ∀ pair ∈ pairs, Available pair.2
  | .tuple items => ∀ item ∈ items, Available item
  | .convert value want => Available value ∧ want.WellFormed
  | .convertHost host _ want => host.Carries Available ∧ want.WellFormed
  | .equals a b => Available a ∧ Available b
  | .index value key => Available value ∧ Available key
  | .getAttribute value _ | .length value => Available value
  | .operate _ operands => ∀ operand ∈ operands, Available operand
  | .apply _ _ arguments => ∀ argument ∈ arguments, Available argument

theorem Admits.imp {Available Wider : Value → Prop} {call : Call} (admits : call.Admits Available)
    (wider : ∀ value, Available value → Wider value) : call.Admits Wider := by
  cases call with
  | null | unknown | bool | number | string => exact admits
  | list | set | map => exact ⟨fun item member => wider _ (admits.1 item member), admits.2⟩
  | object | tuple | operate | apply => exact fun item member => wider _ (admits item member)
  | convert => exact ⟨wider _ admits.1, admits.2⟩
  | convertHost =>
      exact ⟨fun object value held => wider value (admits.1 object value held), admits.2⟩
  | equals | index => exact ⟨wider _ admits.1, wider _ admits.2⟩
  | getAttribute | length => exact wider _ admits

theorem ofSource_wellFormed {source : NumberSource} {result : Value}
    (built : Value.ofSource source = .ok result) : result.WellFormed := by
  cases source with
  | truth => cases built
  | whole n => exact Except.ok.inj built ▸ .number _
  | decimal amount =>
      cases amount with
      | none => cases built
      | some amount => exact Except.ok.inj built ▸ .number amount
  | binary x => exact Value.ofBinary64_wellFormed built
  | numeral text => exact Value.ofNumeralText_wellFormed built

theorem equals_wellFormed (a b : Value) : (a.equals b).WellFormed := by
  unfold Value.equals
  cases a.sameAs b with
  | none => exact .unknown .bool
  | some flag => exact .bool flag

/-- A call on well-formed values returns a well-formed value, if it returns one. -/
theorem run_wellFormed {call : Call} (admits : call.Admits Value.WellFormed) {result : Value}
    (returned : call.run = .ok result) : result.WellFormed := by
  cases call with
  | null => exact Except.ok.inj returned ▸ .null admits
  | unknown => exact Except.ok.inj returned ▸ .unknown admits
  | bool flag => exact Except.ok.inj returned ▸ .bool flag
  | number => exact ofSource_wellFormed returned
  | string text => exact Except.ok.inj returned ▸ Value.ofText_wellFormed text
  | list => exact Value.listOf_wellFormed admits.2 admits.1 returned
  | set => exact Value.setOf_wellFormed admits.2 admits.1 returned
  | map => exact Value.mapOf_wellFormed admits.2 admits.1 returned
  | object => exact Except.ok.inj returned ▸ Value.objectOf_wellFormed admits
  | tuple => exact Except.ok.inj returned ▸ .ofItems admits
  | convert => exact Value.convertTo_wellFormed admits.2 admits.1 returned
  | convertHost => exact Host.convert_wellFormed admits.1 admits.2 returned
  | equals a b => exact Except.ok.inj returned ▸ equals_wellFormed a b
  | index => exact Value.index_wellFormed admits.1 returned
  | getAttribute => exact Value.getAttribute_wellFormed admits returned
  | length => exact Value.length_wellFormed returned
  | operate => exact Operation.apply_wellFormed returned
  | apply _ builtin => exact Function.call_wellFormed (Function.builtins_sound _ builtin) admits returned

/-- The value that a call returns, if it returns one. -/
def returned (call : Call) : List Value :=
  match call.run with
  | .ok result => [result]
  | .error _ => []

theorem run_of_mem_returned {call : Call} {result : Value} (member : result ∈ call.returned) :
    call.run = .ok result := by
  unfold returned at member
  split at member
  next value isValue => exact List.mem_singleton.mp member ▸ isValue
  next => cases member

end Call

/-! ### Histories -/

/-- A sequence of calls, the latest first, with the values that they have returned. A call may use whatever
    earlier calls have returned; one that fails returns nothing. -/
inductive History : List Call → List Value → Prop
  | start : History [] []
  | next {calls : List Call} {values : List Value} {call : Call} (earlier : History calls values)
      (admits : call.Admits (· ∈ values)) : History (call :: calls) (call.returned ++ values)

/-- Every value that the calls of a history return is well-formed. -/
theorem History.forall_wellFormed {calls : List Call} {values : List Value}
    (history : History calls values) : ∀ value ∈ values, value.WellFormed := by
  induction history with
  | start => exact List.forall_mem_nil _
  | next _ admits ih =>
      intro value member
      rcases List.mem_append.mp member with latest | before
      · exact Call.run_wellFormed (admits.imp ih) (Call.run_of_mem_returned latest)
      · exact ih value before

/-- A truth value, a tuple that repeats it, and the set that the tuple converts to. -/
theorem History.forall_wellFormed_set :
    (Value.set .bool [.bool true]).WellFormed := by
  have one : History [.bool true] [.bool true] := .next .start trivial
  have two : History [.tuple [.bool true, .bool true], .bool true]
      [.tuple [.bool true, .bool true], .bool true] := .next one (by simp [Call.Admits])
  have three : History
      [.convert (.tuple [.bool true, .bool true]) (.set .bool), .tuple [.bool true, .bool true],
        .bool true]
      [.set .bool [.bool true], .tuple [.bool true, .bool true], .bool true] :=
    .next two ⟨List.mem_cons_self, .set .bool⟩
  exact History.forall_wellFormed three _ List.mem_cons_self

end Crosswalk
