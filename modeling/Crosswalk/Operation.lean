/-
Module: Crosswalk.Operation
Purpose: Arithmetic, comparison and joining of structural values. Operands must have the right type and
  must not be null; an unknown operand makes the result unknown.
Main exports: Operation, Operation.apply, Value.add, Value.subtract, Value.multiply, Value.divide,
  Value.modulo, Value.negate, Value.lessThan, Value.lessThanOrEqual, Value.join
-/
import Crosswalk.Value.Build
import Crosswalk.Decimal.Arithmetic

namespace Crosswalk

namespace Value

/-- An operand, counted from zero, must have a type and must not be null. -/
def checkOperand (value : Value) (want : Ty) (index : Nat) : Outcome Unit :=
  if value.type ≠ want then .error (.argument index [] (.typeRequired want))
  else if value.isNull then .error (.argument index [] .null)
  else .ok ()

/-- An arithmetic operation on two amounts. -/
def arithmetic (compute : Decimal → Decimal → Except Signal Decimal) (a b : Value) :
    Outcome Value := do
  checkOperand a .number 0
  checkOperand b .number 1
  match a, b with
  | .number x, .number y =>
    ((compute x y).mapError fun signal => .operation [] (.arithmetic signal)).map .number
  | _, _ => .ok (.unknown .number)

/-- An arithmetic operation whose second operand must not be zero. -/
def dividing (compute : Decimal → Decimal → Except Signal Decimal) (a b : Value) :
    Outcome Value := do
  checkOperand a .number 0
  checkOperand b .number 1
  match a, b with
  | .number _, .number y =>
    if y = Decimal.zero then .error (.operation [] .divisionByZero) else arithmetic compute a b
  | _, _ => .ok (.unknown .number)

/-- The sum of two numbers. -/
def add : Value → Value → Outcome Value := arithmetic Decimal.add

/-- The difference of two numbers. -/
def subtract : Value → Value → Outcome Value := arithmetic Decimal.subtract

/-- The product of two numbers. -/
def multiply : Value → Value → Outcome Value := arithmetic Decimal.multiply

/-- The quotient of two numbers. -/
def divide : Value → Value → Outcome Value := dividing Decimal.divide

/-- The remainder of two numbers, with the sign of the dividend. -/
def modulo : Value → Value → Outcome Value := dividing Decimal.remainder

/-- The number with the opposite sign. -/
def negate (a : Value) : Outcome Value := do
  checkOperand a .number 0
  match a with
  | .number x => (x.negate.mapError fun _ => .exponentOverflow).map .number
  | _ => .ok (.unknown .number)

/-- A comparison of two numbers or of two strings; strings are compared by code point. The first operand
    decides which. -/
def comparison (amounts : Decimal → Decimal → Bool) (texts : String → String → Bool) (a b : Value) :
    Outcome Value := do
  if a.type ≠ .number && a.type ≠ .string then .error (.argument 0 [] .numberRequired)
  checkOperand a a.type 0
  checkOperand b a.type 1
  match a, b with
  | .number x, .number y => .ok (.bool (amounts x y))
  | .string s, .string t => .ok (.bool (texts s t))
  | _, _ => .ok (.unknown .bool)

/-- Whether the first operand is the lesser. -/
def lessThan : Value → Value → Outcome Value :=
  comparison Decimal.less fun s t => s < t

/-- Whether the first operand is not the greater. -/
def lessThanOrEqual : Value → Value → Outcome Value :=
  comparison Decimal.lessOrEqual fun s t => s ≤ t

/-- Two strings one after the other. -/
def join (a b : Value) : Outcome Value := do
  checkOperand a .string 0
  checkOperand b .string 1
  match a, b with
  | .string s, .string t => .ok (ofText (s ++ t))
  | _, _ => .ok (.unknown .string)

end Value

/-- The operations on structural values. -/
inductive Operation where
  | add
  | subtract
  | multiply
  | divide
  | modulo
  | negate
  | lessThan
  | lessThanOrEqual
  | joinStrings
deriving DecidableEq, Repr

namespace Operation

/-- The operation with a name. -/
def ofName? : String → Option Operation
  | "add" => some .add
  | "subtract" => some .subtract
  | "multiply" => some .multiply
  | "divide" => some .divide
  | "modulo" => some .modulo
  | "negate" => some .negate
  | "less_than" => some .lessThan
  | "less_than_or_equal" => some .lessThanOrEqual
  | "join_strings" => some .joinStrings
  | _ => none

/-- A binary operation; negation ignores its second operand. -/
def onPair : Operation → Value → Value → Outcome Value
  | .add => Value.add
  | .subtract => Value.subtract
  | .multiply => Value.multiply
  | .divide => Value.divide
  | .modulo => Value.modulo
  | .negate => fun a _ => Value.negate a
  | .lessThan => Value.lessThan
  | .lessThanOrEqual => Value.lessThanOrEqual
  | .joinStrings => Value.join

/-- Applies an operation to operands, of which there must be as many as it takes. -/
def apply (operation : Operation) (operands : List Value) : Outcome Value :=
  match operation, operands with
  | .negate, [a] => Value.negate a
  | .negate, _ => .error .mistyped
  | _, [a, b] => operation.onPair a b
  | _, _ => .error .mistyped

end Operation

end Crosswalk
