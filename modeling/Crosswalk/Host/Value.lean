/-
Module: Crosswalk.Host.Value
Purpose: The values of the scripting host. Nil, truth values, numbers and texts are compared by content;
  tables, functions and userdata are references to objects of the host, compared by identity.
Main exports: HostValue, HostValue.kindName, HostValue.isTruthy, HostValue.same
-/
import Crosswalk.Binary64.Arithmetic

namespace Crosswalk

/-- A reference to a table of the host. -/
structure TableRef where
  id : Nat
deriving DecidableEq, Repr

/-- A reference to a function of the host. -/
structure FunctionRef where
  id : Nat
deriving DecidableEq, Repr

/-- A reference to a userdata object of the host. -/
structure UserdataRef where
  id : Nat
deriving DecidableEq, Repr

/-- A value of the host. -/
inductive HostValue where
  | nil
  | boolean (flag : Bool)
  | number (x : Binary64)
  | string (text : String)
  | table (ref : TableRef)
  | function (ref : FunctionRef)
  | userdata (ref : UserdataRef)
deriving DecidableEq

/-- The kinds of host values. -/
inductive HostKind where
  | nil
  | boolean
  | number
  | string
  | table
  | function
  | userdata
deriving DecidableEq, Repr

/-- The name of a kind as scripts see it. -/
def HostKind.name : HostKind → String
  | .nil => "nil"
  | .boolean => "boolean"
  | .number => "number"
  | .string => "string"
  | .table => "table"
  | .function => "function"
  | .userdata => "userdata"

namespace HostValue

/-- The kind of a value. -/
def kind : HostValue → HostKind
  | .nil => .nil
  | .boolean _ => .boolean
  | .number _ => .number
  | .string _ => .string
  | .table _ => .table
  | .function _ => .function
  | .userdata _ => .userdata

/-- The name of a value's kind. -/
def kindName (value : HostValue) : String :=
  value.kind.name

/-- Everything is true except nil and false. -/
def isTruthy : HostValue → Bool
  | .nil => false
  | .boolean flag => flag
  | _ => true

/-- The value nil. -/
def isNil : HostValue → Bool
  | .nil => true
  | _ => false

/-- Equality without handlers, which is also the equality of table keys. The two zeros are the same
    number, and a datum that is not a number is the same only as itself. -/
def same : HostValue → HostValue → Bool
  | .number x, .number y => x = y || x.numericallyEqual y
  | a, b => a = b

/-- A natural number as a host number. -/
def ofNat (n : Nat) : HostValue :=
  .number (Binary64.ofInt n)

end HostValue

end Crosswalk
