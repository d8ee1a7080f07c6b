/-
Module: Crosswalk.Wrapped.Handler
Purpose: What the operators of the host do with wrapped values. A handler converts its operands, which may be
  any host values, applies the structural operation, and wraps the result. Failures are errors of the
  host, except for equality, which is false then, and indexing, which gives nil.
Main exports: Wrapped.handle
-/
import Crosswalk.Host.Error
import Crosswalk.Operation
import Crosswalk.Value.Equality

namespace Crosswalk.Wrapped

/-- A fault that a conversion reports. -/
def isConversion : Fault → Bool
  | .conversion .. => true
  | _ => false

/-- A fault that an operation reports about its operands. -/
def isOperation : Fault → Bool
  | .operation .. | .argument .. => true
  | _ => false

/-- A fault that says that a call makes no sense. -/
def isInvalid : Fault → Bool
  | .invalid _ => true
  | _ => false

/-- The result of a structural operation; faults of some sorts become errors that scripts see. -/
def raising {α : Type} (shown : Fault → Bool) (error : Fault → HostError) :
    Outcome α → Machine α
  | .ok result => pure result
  | .error fault => if shown fault then Machine.raise (error fault) else throw (.fault fault)

/-- An operand converted to a type. -/
def operand (value : HostValue) (want : Ty) : Machine Value := do
  raising isConversion .failed ((← get).convert value want)

/-- The result of a structural operation, with failures as errors. -/
def result {α : Type} (outcome : Outcome α) : Machine α :=
  raising isOperation .failed outcome

/-- The argument at an index; missing ones are nil. -/
def argument (arguments : List HostValue) (index : Nat) : HostValue :=
  arguments[index]?.getD .nil

/-- A binary operation on operands converted to a type. -/
def binary (operation : Value → Value → Outcome Value) (want : Ty) (a b : HostValue) :
    Machine HostValue := do
  let left ← operand a want
  let right ← operand b want
  Machine.wrap (← result (operation left right))

/-- Negation. -/
def negation (a : HostValue) : Machine HostValue := do
  let value ← operand a .number
  Machine.wrap (← result value.negate)

/-- Equality of two wrapped values, which nothing else is equal to. An open answer counts as false. -/
def equality (host : Host) (a b : HostValue) : Bool :=
  match host.unwrap a, host.unwrap b with
  | some left, some right => left.sameAs right = some true
  | _, _ => false

/-- Host texts and wrapped strings. -/
def isString (host : Host) (value : HostValue) : Bool :=
  match value with
  | .string _ => true
  | _ =>
    match host.unwrap value with
    | some payload => payload.type = .string
    | none => false

/-- An ordering. Two strings are compared as such if the settings say so, all else as numbers. -/
def ordering (operation : Value → Value → Outcome Value) (a b : HostValue) : Machine HostValue := do
  let host ← get
  let want : Ty :=
    if host.settings.stringOrdering && isString host a && isString host b then .string else .number
  let left ← operand a want
  let right ← operand b want
  match ← result (operation left right) with
  | .unknown _ => Machine.raise .compareUnknown
  | answer => do
    let flag ← Machine.ofOutcome answer.truth
    pure (.boolean flag)

/-- The types whose values have a length. -/
def hasLength : Ty → Bool
  | .string | .list _ | .set _ | .map _ | .tuple _ => true
  | _ => false

/-- The length of a wrapped value. The length of a string counts what the settings say. -/
def lengthOf (settings : Settings) (value : Value) : Outcome Value :=
  match value with
  | .string text =>
    match settings.stringLength with
    | .bytes => .ok (Value.ofNat text.utf8ByteSize)
    | .codePoints => value.length
  | _ => value.length

/-- The length handler. -/
def length (a : HostValue) : Machine HostValue := do
  let host ← get
  match host.unwrap a with
  | none => Machine.raise (.lengthOfNoun a.kindName)
  | some value =>
    if hasLength value.type then
      Machine.wrap (← result (lengthOf host.settings value))
    else Machine.raise (.lengthOfNoun value.type.name)

/-- The element of a wrapped value that a host key denotes; `none` for a value without elements. -/
def element (host : Host) (value : Value) (key : HostValue) : Outcome (Option Value) :=
  match value.type with
  | .object _ => do
    let name ← host.convert key .string
    some <$> value.getAttribute (← name.text)
  | .map _ => do
    some <$> value.index (← host.convert key .string)
  | .list _ | .tuple _ => do
    some <$> value.index (← host.convert key .number)
  | _ => .ok none

/-- The indexing handler: nil for whatever has no element at the key. -/
def index (a key : HostValue) : Machine HostValue := do
  let host ← get
  match host.unwrap a with
  | none => pure .nil
  | some value =>
    if value.isNull then pure .nil
    else
      match element host value key with
      | .ok none => pure .nil
      | .ok (some found) =>
        if found.isNull && host.settings.nullIndex = .nil then pure .nil else Machine.wrap found
      | .error fault =>
        if isConversion fault || isOperation fault || isInvalid fault then pure .nil
        else throw (.fault fault)

/-- The handler of an event, applied to the arguments of a call. -/
def handle (event : Event) (arguments : List HostValue) : Machine HostValue :=
  let a := argument arguments 0
  let b := argument arguments 1
  match event with
  | .eq => do pure (.boolean (equality (← get) a b))
  | .add => binary Value.add .number a b
  | .sub => binary Value.subtract .number a b
  | .mul => binary Value.multiply .number a b
  | .div => binary Value.divide .number a b
  | .mod => binary Value.modulo .number a b
  | .unm => negation a
  | .concat => binary Value.join .string a b
  | .len => length a
  | .index => index a b
  | .lt => ordering Value.lessThan a b
  | .le => ordering Value.lessThanOrEqual a b
  | .call | .tostring => pure .nil

end Crosswalk.Wrapped
