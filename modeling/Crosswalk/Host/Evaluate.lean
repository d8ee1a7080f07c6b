/-
Module: Crosswalk.Host.Evaluate
Purpose: Calls and operators of the host. Operands of native kinds are handled natively; otherwise the
  metatable of an operand, the left one first, is asked for a handler of the event.
Main exports: Host.call, Host.arithmetic, Host.unaryMinus, Host.concat, Host.length, Host.equals,
  Host.lessThan, Host.lessEqual, Host.index, Host.tostring
-/
import Crosswalk.Wrapped.Exposed
import Crosswalk.Binary64.Numeral

namespace Crosswalk

/-- The arithmetic operators of the host. -/
inductive Arithmetic where
  | add
  | sub
  | mul
  | div
  | mod
deriving DecidableEq, Repr

namespace Arithmetic

/-- The event of an operator. -/
def event : Arithmetic → Event
  | .add => .add
  | .sub => .sub
  | .mul => .mul
  | .div => .div
  | .mod => .mod

/-- The operators. -/
def all : List Arithmetic :=
  [.add, .sub, .mul, .div, .mod]

/-- The operator with an event key. -/
def ofKey? (key : String) : Option Arithmetic :=
  all.find? fun operator => operator.event.key = key

/-- The remainder of two host numbers: the dividend less the divisor times the floor of the quotient. The
    floor must be finite. -/
def modulo (fresh : Nat) (a b : Binary64) : Outcome Binary64 :=
  if b.isZero then .ok Binary64.standardNaN
  else
    match Binary64.divide fresh a b with
    | .nan .. => .error (.invalid .floorOfNaN)
    | .infinity _ => .error .tooLarge
    | quotient =>
      let floor := Binary64.ofInt (quotient.floor?.getD 0)
      .ok (Binary64.subtract fresh a (Binary64.multiply fresh floor b))

/-- The operator on host numbers. -/
def compute (operator : Arithmetic) (fresh : Nat) (a b : Binary64) : Outcome Binary64 :=
  match operator with
  | .add => .ok (Binary64.add fresh a b)
  | .sub => .ok (Binary64.subtract fresh a b)
  | .mul => .ok (Binary64.multiply fresh a b)
  | .div => .ok (Binary64.divide fresh a b)
  | .mod => modulo fresh a b

end Arithmetic

namespace Host

/-! ### Calls -/

/-- Runs a function of the host. -/
def run (function : HostFunction) (arguments : List HostValue) : Machine (List HostValue) :=
  match function.procedure with
  | .native .echo => pure arguments
  | .native .count => pure [HostValue.ofNat arguments.length]
  | .native .silent => pure []
  | .native (.constant values) => pure values
  | .native (.failing message) => Machine.raise (.raised message)
  | .handler event => do pure [← Wrapped.handle event arguments]
  | .exposed structural => do
    pure [← Wrapped.callExposed function.name structural arguments]

/-- Calls a value: a function, or a value whose call handler is called with the value before the arguments.
    At most `links` handlers are followed. -/
def callVia : Nat → HostValue → List HostValue → Machine (List HostValue)
  | links, callee, arguments => do
    let host ← get
    match callee with
    | .function ref =>
      match host.functions[ref.id]? with
      | some function => run function arguments
      | none => Machine.raise (.call .function)
    | _ =>
      match host.metafield callee Event.call.key with
      | .nil => Machine.raise (.call callee.kind)
      | handler =>
        match links with
        | 0 => Machine.raise (.call callee.kind)
        | links + 1 => callVia links handler (callee :: arguments)

/-- An upper bound for the number of objects with a metatable. -/
def objectCount (host : Host) : Nat :=
  host.tables.size + host.userdata.size

/-- Calls a value with arguments; the results of the call. -/
def call (callee : HostValue) (arguments : List HostValue) : Machine (List HostValue) := do
  callVia (← get).objectCount callee arguments

/-- Calls a value with arguments; the first result of the call, or nil. -/
def callFirst (callee : HostValue) (arguments : List HostValue) : Machine HostValue := do
  pure ((← call callee arguments).head?.getD .nil)

/-! ### Operators -/

/-- The handler of an event: that of the left operand, or else that of the right one. -/
def handlerOf (event : Event) (a b : HostValue) : Machine HostValue := do
  let host ← get
  match host.metafield a event.key with
  | .nil => pure (host.metafield b event.key)
  | handler => pure handler

/-- The number that an operand of arithmetic is: a number, or a text that reads as one. -/
def toNumber : HostValue → Outcome (Option Binary64)
  | .number x => .ok (some x)
  | .string text => (Binary64.parse text).mapError fun _ => .tooLarge
  | _ => .ok none

/-- The value of an arithmetic operator. -/
def arithmetic (operator : Arithmetic) (a b : HostValue) : Machine HostValue := do
  let x ← Machine.ofOutcome (toNumber a)
  let y ← Machine.ofOutcome (toNumber b)
  match x, y with
  | some x, some y =>
    let payload := (← get).payloads + 1
    let number ← Machine.ofOutcome (operator.compute payload x y)
    Machine.fresh fun _ => number
  | _, _ =>
    match ← handlerOf operator.event a b with
    | .nil => Machine.raise (.arithmeticOn (if x.isSome then b.kind else a.kind))
    | handler => callFirst handler [a, b]

/-- The value of the arithmetic operator with an event key. -/
def arithmeticByKey (key : String) (a b : HostValue) : Machine HostValue :=
  match Arithmetic.ofKey? key with
  | some operator => arithmetic operator a b
  | none => Machine.ofOutcome (.error (.invalid (.unknownEvent key)))

/-- The value of the unary minus. -/
def unaryMinus (a : HostValue) : Machine HostValue := do
  match ← Machine.ofOutcome (toNumber a) with
  | some x => Machine.fresh fun payload => Binary64.negate payload x
  | none =>
    match (← get).metafield a Event.unm.key with
    | .nil => Machine.raise (.arithmeticOn a.kind)
    | handler => callFirst handler [a, a]

/-- The text of a value of a kind that concatenation takes natively. -/
def textOf? : HostValue → Option String
  | .string text => some text
  | .number x => some x.format
  | _ => none

/-- The value of the concatenation operator. -/
def concat (a b : HostValue) : Machine HostValue := do
  match textOf? a, textOf? b with
  | some s, some t => pure (.string (s ++ t))
  | left, _ =>
    match ← handlerOf .concat a b with
    | .nil => Machine.raise (.concatenate (if left.isSome then b.kind else a.kind))
    | handler => callFirst handler [a, b]

/-- The value of the length operator. A text has the length of its bytes. -/
def length (a : HostValue) : Machine HostValue := do
  match a with
  | .string text => pure (HostValue.ofNat text.utf8ByteSize)
  | _ =>
    let host ← get
    match host.metafield a Event.len.key, a with
    | .nil, .table ref => pure (HostValue.ofNat (host.tableAt ref).length)
    | .nil, _ => Machine.raise (.lengthOf a.kind)
    | handler, _ => callFirst handler [a]

/-- Operands for which equality asks a handler: two tables or two userdata. -/
def mayBeEqual : HostValue → HostValue → Bool
  | .table _, .table _ => true
  | .userdata _, .userdata _ => true
  | _, _ => false

/-- Equality of two values. -/
def equals (a b : HostValue) : Machine Bool := do
  if a.same b then pure true
  else if !mayBeEqual a b then pure false
  else
    match ← handlerOf .eq a b with
    | .nil => pure false
    | handler => do pure (← callFirst handler [a, b]).isTruthy

/-- An ordering of two values: natively for two numbers and two texts. -/
def compare (event : Event) (numbers : Binary64 → Binary64 → Bool) (texts : String → String → Bool)
    (a b : HostValue) : Machine Bool := do
  match a, b with
  | .number x, .number y => pure (numbers x y)
  | .string s, .string t => pure (texts s t)
  | _, _ =>
    match ← handlerOf event a b with
    | .nil =>
      if a.kind = b.kind then Machine.raise (.compareTwo a.kind)
      else Machine.raise (.compareWith a.kind b.kind)
    | handler => do pure (← callFirst handler [a, b]).isTruthy

/-- Whether the first value is the lesser. -/
def lessThan : HostValue → HostValue → Machine Bool :=
  compare .lt Binary64.less fun s t => s < t

/-- Whether the first value is not the greater. -/
def lessEqual : HostValue → HostValue → Machine Bool :=
  compare .le Binary64.lessOrEqual fun s t => s ≤ t

/-- Whether the first value is the greater. -/
def greaterThan (a b : HostValue) : Machine Bool :=
  lessThan b a

/-- Whether the first value is not the lesser. -/
def greaterEqual (a b : HostValue) : Machine Bool :=
  lessEqual b a

/-- The value of an object at a key: that of a table, or what the handler for indexing gives, which may be
    a function or a further object. At most `links` objects are followed. -/
def indexVia : Nat → HostValue → HostValue → Machine HostValue
  | links, object, key => do
    let host ← get
    let own : HostValue := match object with
      | .table ref => (host.tableAt ref).get key
      | _ => .nil
    match own with
    | .nil =>
      match host.metafield object Event.index.key with
      | .nil =>
        match object with
        | .table _ => pure .nil
        | _ => Machine.raise (.index object.kind)
      | .function ref => callFirst (.function ref) [object, key]
      | next =>
        match links with
        | 0 => Machine.raise (.index next.kind)
        | links + 1 => indexVia links next key
    | found => pure found

/-- The value of an object at a key. -/
def index (object key : HostValue) : Machine HostValue := do
  indexVia (← get).objectCount object key

/-- The value of an object at a name. -/
def getField (object : HostValue) (name : String) : Machine HostValue :=
  index object (.string name)

/-- The text of a value that has no text of its own: its kind. Its address is not part of the model. -/
def objectText (value : HostValue) : String :=
  value.kindName ++ ": 0x?"

/-- The text of a value. -/
def tostring (value : HostValue) : Machine String := do
  match value with
  | .string text => pure text
  | .number x => pure x.format
  | .boolean flag => pure (if flag then "true" else "false")
  | .nil => pure "nil"
  | _ =>
    match (← get).metafield value Event.tostring.key with
    | .nil => pure (objectText value)
    | handler =>
      match ← callFirst handler [value] with
      | .string text => pure text
      | _ => Machine.raise .tostringResult

end Host

end Crosswalk
