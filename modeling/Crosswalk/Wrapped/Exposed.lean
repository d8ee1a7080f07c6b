/-
Module: Crosswalk.Wrapped.Exposed
Purpose: Structural functions as functions of the host. Arguments are converted to the types of the
  parameters, missing ones being nil, and the result comes back wrapped.
Main exports: Wrapped.callExposed
-/
import Crosswalk.Wrapped.Handler

namespace Crosswalk.Wrapped

/-- The arguments with nil for each parameter that has none. -/
def padded (function : Function) (arguments : List HostValue) : List HostValue :=
  arguments ++ List.replicate (function.parameters.length - arguments.length) .nil

/-- The arguments from an index on, converted to the types of their parameters. -/
def convertArguments (name : String) (function : Function) (index : Nat) :
    List HostValue → Machine (List Value)
  | [] => pure []
  | argument :: rest =>
    match function.parameterAt? index with
    | none => Machine.raise (.tooManyArguments name function.parameters.length)
    | some parameter => do
      let value ← raising isConversion (.badArgument name index)
        ((← get).convert argument parameter.type)
      let others ← convertArguments name function (index + 1) rest
      pure (value :: others)

/-- The error for a fault of a called function. -/
def callError (name : String) (fault : Fault) : HostError :=
  match fault with
  | .argument index .. => .badArgument name index fault
  | _ => .functionFailed name fault

/-- Calls a structural function under a name with host arguments. -/
def callExposed (name : String) (function : Function) (arguments : List HostValue) :
    Machine HostValue := do
  let arguments := padded function arguments
  if function.parameters.length < arguments.length && function.variadic.isNone then
    Machine.raise (.tooManyArguments name function.parameters.length)
  else
    let values ← convertArguments name function 0 arguments
    let result ← raising (fun fault => isConversion fault || isOperation fault) (callError name)
      (function.call values)
    Machine.wrap result

end Crosswalk.Wrapped
