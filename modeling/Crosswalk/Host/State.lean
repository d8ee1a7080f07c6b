/-
Module: Crosswalk.Host.State
Purpose: The state of a host: its tables, functions and userdata, and the settings under which structural
  values are wrapped. Objects are created and changed, never removed, so a reference keeps its meaning.
Main exports: Event, Native, Procedure, HostFunction, Payload, Userdata, Host, Host.start, Host.tree,
  Host.convert, Host.implied
-/
import Crosswalk.Host.Table
import Crosswalk.Tree.Reading
import Crosswalk.Function.Basic
import Crosswalk.Settings.Basic

namespace Crosswalk

/-- The events that a metatable can have handlers for. -/
inductive Event where
  | eq
  | add
  | sub
  | mul
  | div
  | mod
  | unm
  | concat
  | len
  | index
  | lt
  | le
  | call
  | tostring
deriving DecidableEq, Repr

/-- The key of a handler in a metatable. -/
def Event.key : Event → String
  | .eq => "__eq"
  | .add => "__add"
  | .sub => "__sub"
  | .mul => "__mul"
  | .div => "__div"
  | .mod => "__mod"
  | .unm => "__unm"
  | .concat => "__concat"
  | .len => "__len"
  | .index => "__index"
  | .lt => "__lt"
  | .le => "__le"
  | .call => "__call"
  | .tostring => "__tostring"

/-- The events that wrapped values have handlers for. -/
def Event.handled : List Event :=
  [.eq, .add, .sub, .mul, .div, .mod, .unm, .concat, .len, .index, .lt, .le]

/-- Functions of the host's own. -/
inductive Native where
  /-- Returns its arguments. -/
  | echo
  /-- Returns the number of its arguments. -/
  | count
  /-- Returns nothing. -/
  | silent
  /-- Returns the same values every time. -/
  | constant (values : List HostValue)
  /-- Raises an error. -/
  | failing (message : String)

/-- What a function of the host does. -/
inductive Procedure where
  | native (native : Native)
  /-- The handler of an event for wrapped values. -/
  | handler (event : Event)
  /-- A structural function on converted arguments. -/
  | exposed (function : Function)

/-- A function of the host with the name that it shows. -/
structure HostFunction where
  name : String
  procedure : Procedure

/-- What userdata holds. -/
inductive Payload where
  | structural (value : Value)
  | foreign (label : String)

/-- Userdata with its metatable. -/
structure Userdata where
  payload : Payload
  metatable : Option TableRef := none

/-- The state of a host. -/
structure Host where
  settings : Settings
  tables : Array HostTable
  functions : Array HostFunction
  userdata : Array Userdata
  /-- The number of payloads given to results that are not numbers. -/
  payloads : Nat

namespace Host

/-- The table of global variables. -/
def globals : TableRef := ⟨0⟩

/-- The metatable that all wrapped values share. -/
def wrappedMetatable : TableRef := ⟨1⟩

/-- The entries of the metatable of wrapped values: a function for each event, numbered in order. -/
def wrappedEntries : List (HostValue × HostValue) :=
  Event.handled.zipIdx.map fun (event, i) => (.string event.key, .function ⟨i⟩)

/-- A host without any objects but the globals, the metatable of wrapped values, and its handlers. -/
def start (settings : Settings) : Host where
  settings := settings
  tables := #[{}, { entries := wrappedEntries }]
  functions := (Event.handled.map fun event => ⟨event.key, .handler event⟩).toArray
  userdata := #[]
  payloads := 0

/-- The table behind a reference. -/
def tableAt (host : Host) (ref : TableRef) : HostTable :=
  (host.tables[ref.id]?).getD {}

/-- Changes the table behind a reference. -/
def setTable (host : Host) (ref : TableRef) (table : HostTable) : Host :=
  { host with tables := host.tables.setIfInBounds ref.id table }

/-- Changes the userdata behind a reference. -/
def setUserdata (host : Host) (ref : UserdataRef) (userdata : Userdata) : Host :=
  { host with userdata := host.userdata.setIfInBounds ref.id userdata }

/-- Adds a table. -/
def newTable (host : Host) (table : HostTable) : TableRef × Host :=
  (⟨host.tables.size⟩, { host with tables := host.tables.push table })

/-- Adds a function. -/
def newFunction (host : Host) (function : HostFunction) : FunctionRef × Host :=
  (⟨host.functions.size⟩, { host with functions := host.functions.push function })

/-- Adds userdata. -/
def newUserdata (host : Host) (userdata : Userdata) : UserdataRef × Host :=
  (⟨host.userdata.size⟩, { host with userdata := host.userdata.push userdata })

/-- Wraps a structural value: userdata with the metatable of wrapped values. -/
def wrap (host : Host) (value : Value) : HostValue × Host :=
  let (ref, host) := host.newUserdata ⟨.structural value, some wrappedMetatable⟩
  (.userdata ref, host)

/-- The structural value that userdata holds, with or without the metatable of wrapped values. -/
def unwrap (host : Host) : HostValue → Option Value
  | .userdata ref =>
    match host.userdata[ref.id]? with
    | some ⟨.structural value, _⟩ => some value
    | _ => none
  | _ => none

/-- The metatable of a value. Only tables and userdata have one. -/
def metatable? (host : Host) : HostValue → Option TableRef
  | .table ref => (host.tableAt ref).metatable
  | .userdata ref => (host.userdata[ref.id]?).bind Userdata.metatable
  | _ => none

/-- The handler of a value for an event key, or nil. -/
def metafield (host : Host) (value : HostValue) (key : String) : HostValue :=
  match host.metatable? value with
  | some ref => (host.tableAt ref).getField key
  | none => .nil

/-- The tree of a host value, with as many levels of tables as the depth says. -/
def treeTo (host : Host) : Nat → HostValue → Tree
  | _, .nil => .nil
  | _, .boolean flag => .boolean flag
  | _, .number x => .number x
  | _, .string text => .string text
  | _, .function _ => .function
  | _, .userdata ref =>
    match host.unwrap (.userdata ref) with
    | some value => .wrapped value
    | none => .foreign
  | 0, .table _ => .endless
  | depth + 1, .table ref =>
    .table ((host.tableAt ref).items.map fun (key, value) =>
      (host.treeTo depth key, host.treeTo depth value))

/-- The tree of a host value. A table lies deeper than there are tables only if one on the way to it contains
    itself. -/
def tree (host : Host) (value : HostValue) : Tree :=
  host.treeTo (host.tables.size + 1) value

/-- A host value converted to a structural value. The tables that the wanted type asks for by its nesting are
    read even where they are the same ones again. -/
def convert (host : Host) (value : HostValue) (want : Ty) : Outcome Value :=
  (host.treeTo (host.tables.size + 1 + want.nesting) value).convert want

/-- The type that a host value implies. -/
def implied (host : Host) (value : HostValue) : Outcome Ty :=
  (host.tree value).implied

end Host

end Crosswalk
