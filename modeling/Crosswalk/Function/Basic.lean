/-
Module: Crosswalk.Function.Basic
Purpose: Functions on structural values: typed parameters with a policy for nulls and unknowns, perhaps a
  parameter for all further arguments, a result type that may depend on the arguments, and an
  implementation on converted arguments.
Main exports: Parameter, ResultType, Function, Function.call
-/
import Crosswalk.Value.Convert

namespace Crosswalk

/-- A parameter with its policy. -/
structure Parameter where
  name : String
  type : Ty
  allowNull : Bool := false
  allowUnknown : Bool := false

/-- The type of a result: always the same, or computed from the converted arguments. -/
inductive ResultType where
  | fixed (type : Ty)
  | computed (type : List Value → Ty)

/-- The type that a result has for given arguments. -/
def ResultType.resolve : ResultType → List Value → Ty
  | .fixed type, _ => type
  | .computed type, arguments => type arguments

/-- A function on structural values. The implementation receives the converted arguments and the type of
    the result. -/
structure Function where
  name : String
  parameters : List Parameter
  /-- The parameter of all arguments after those of `parameters`. -/
  variadic : Option Parameter := none
  result : ResultType
  implementation : List Value → Ty → Outcome Value
  doc : String := ""

namespace Function

/-- The parameter of the argument at an index. -/
def parameterAt? (function : Function) (index : Nat) : Option Parameter :=
  if index < function.parameters.length then function.parameters[index]? else function.variadic

/-- There must be an argument for each parameter, and more only for a variadic one. -/
def checkCount (function : Function) (count : Nat) : Outcome Unit :=
  match function.parameters[count]? with
  | some parameter => .error (.argument count [] (.missing parameter.name))
  | none =>
    if function.parameters.length < count && function.variadic.isNone then
      .error (.argument function.parameters.length [] (.tooMany function.parameters.length))
    else .ok ()

/-- Conversion of the argument at an index to the type of its parameter, and the null policy. -/
def accept (parameter : Parameter) (index : Nat) (argument : Value) : Outcome Value :=
  match argument.convert parameter.type with
  | .error (.conversion path cause) => .error (.argument index path (.conversion cause))
  | .error other => .error other
  | .ok converted =>
    if converted.isNull && !parameter.allowNull then .error (.argument index [] .null)
    else .ok converted

/-- Accepts the arguments from an index on, in order. The flag says whether one of them is unknown where its
    parameter does not allow that. -/
def acceptFrom (function : Function) (index : Nat) : List Value → Outcome (List Value × Bool)
  | [] => .ok ([], false)
  | argument :: rest =>
    match function.parameterAt? index with
    | none => .error (.argument index [] (.tooMany function.parameters.length))
    | some parameter => do
      let converted ← accept parameter index argument
      let (others, stopped) ← acceptFrom function (index + 1) rest
      .ok (converted :: others, (!converted.isKnown && !parameter.allowUnknown) || stopped)

/-- Calls a function. Arguments are converted to the types of their parameters first. If one of them is
    unknown where that is not allowed the result is unknown, and the implementation does not run. -/
def call (function : Function) (arguments : List Value) : Outcome Value := do
  checkCount function arguments.length
  let (converted, stopped) ← acceptFrom function 0 arguments
  let type := function.result.resolve converted
  if stopped then .ok (.unknown type)
  else
    let result ← function.implementation converted type
    if !type.isDynamic && result.type ≠ type then result.convert type else .ok result

end Function

end Crosswalk
