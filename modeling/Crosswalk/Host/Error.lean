/-
Module: Crosswalk.Host.Error
Purpose: Errors that scripts see, as causes with their wording, and the computations of a host: they may
  change its state, raise an error, or fail in a way that scripts do not see.
Main exports: HostError, HostError.message, Escape, Machine, Machine.raise, Machine.ofOutcome
-/
import Crosswalk.Host.State

namespace Crosswalk

/-- An error that scripts see. -/
inductive HostError where
  | arithmeticOn (kind : HostKind)
  | concatenate (kind : HostKind)
  | lengthOf (kind : HostKind)
  /-- A wrapped value, or what stands in its place, has no length. -/
  | lengthOfNoun (noun : String)
  | compareTwo (kind : HostKind)
  | compareWith (left right : HostKind)
  | compareUnknown
  | index (kind : HostKind)
  | call (kind : HostKind)
  | tostringResult
  /-- An operation on wrapped values failed. -/
  | failed (fault : Fault)
  /-- An exposed function was called with too many arguments. -/
  | tooManyArguments (function : String) (allowed : Nat)
  /-- An exposed function refused the argument at an index, counted from zero. -/
  | badArgument (function : String) (index : Nat) (fault : Fault)
  /-- An exposed function failed. -/
  | functionFailed (function : String) (fault : Fault)
  /-- An error raised by a function of the host's own. -/
  | raised (message : String)
deriving DecidableEq

namespace HostError

/-- The text of a fault inside a message. -/
def faultText (fault : Fault) : String :=
  fault.message?.getD ""

/-- The place of an argument in a message, counted from one. -/
def badArgumentText (function : String) (index : Nat) (reason : String) : String :=
  "bad argument #" ++ toString (index + 1) ++ " to '" ++ function ++ "' (" ++ reason ++ ")"

/-- The wording of an error. -/
def message : HostError → String
  | .arithmeticOn kind => "attempt to perform arithmetic on a " ++ kind.name ++ " value"
  | .concatenate kind => "attempt to concatenate a " ++ kind.name ++ " value"
  | .lengthOf kind => "attempt to get length of a " ++ kind.name ++ " value"
  | .lengthOfNoun noun =>
    "attempt to get length of " ++ Ty.article noun ++ " " ++ noun ++ " value"
  | .compareTwo kind => "attempt to compare two " ++ kind.name ++ " values"
  | .compareWith left right => "attempt to compare " ++ left.name ++ " with " ++ right.name
  | .compareUnknown => "cannot compare unknown values"
  | .index kind => "attempt to index a " ++ kind.name ++ " value"
  | .call kind => "attempt to call a " ++ kind.name ++ " value"
  | .tostringResult => "'__tostring' must return a string"
  | .failed fault => faultText fault
  | .tooManyArguments function allowed =>
    badArgumentText function allowed (ArgumentCause.tooMany allowed).message
  | .badArgument function position fault => badArgumentText function position (faultText fault)
  | .functionFailed function fault => function ++ ": " ++ faultText fault
  | .raised message => message

end HostError

/-- How a computation of the host ends without a result. -/
inductive Escape where
  /-- An error that scripts see. -/
  | raised (error : HostError)
  /-- A failure of the structural system that scripts do not see as an error. -/
  | fault (fault : Fault)
deriving DecidableEq

/-- A computation of a host. A computation without a result leaves the state as it was. -/
abbrev Machine (α : Type) := StateT Host (Except Escape) α

namespace Machine

/-- Ends with an error that scripts see. -/
def raise {α : Type} (error : HostError) : Machine α :=
  throw (.raised error)

/-- The result of a structural operation, whose failures scripts do not see. -/
def ofOutcome {α : Type} : Outcome α → Machine α
  | .ok result => pure result
  | .error fault => throw (.fault fault)

/-- Wraps a structural value. -/
def wrap (value : Value) : Machine HostValue :=
  fun host => .ok (host.wrap value)

/-- The result of a computation with numbers that is given a payload of its own for a result that is not a
    number. -/
def fresh (compute : Nat → Binary64) : Machine HostValue :=
  fun host =>
    .ok (.number (compute (host.payloads + 1)), { host with payloads := host.payloads + 1 })

end Machine

end Crosswalk
