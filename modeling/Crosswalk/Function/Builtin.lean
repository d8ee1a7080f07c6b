/-
Module: Crosswalk.Function.Builtin
Purpose: The functions that every registry holds: case mapping and joining of strings, extrema and absolute
  value of numbers, and the length of a value.
Main exports: Function.builtins
-/
import Crosswalk.Function.Basic
import Crosswalk.Value.Access
import Crosswalk.Text.Case

namespace Crosswalk.Function

/-- A function of one string that maps its text. -/
def onText (name doc : String) (transform : List Char → List Char) : Function where
  name := name
  parameters := [{ name := "str", type := .string }]
  result := .fixed .string
  doc := doc
  implementation
    | [.string text], _ => .ok (Value.ofText (String.ofList (transform text.toList)))
    | _, _ => .error .mistyped

/-- Capital letters. -/
def upper : Function :=
  onText "upper" "Convert letters in a string to uppercase." Text.upper

/-- Small letters. -/
def lower : Function :=
  onText "lower" "Convert letters in a string to lowercase." Text.lower

/-- The texts of the elements of a list. Elements without text are refused, nulls before all others. -/
def texts (items : List Value) : Outcome (List String) :=
  match items.findIdx? Value.isNull with
  | some position => .error (.argument 1 [] (.nullElement position))
  | none => items.mapM fun item =>
      match item with
      | .string text => .ok text
      | _ => .error .mistyped

/-- The strings of a list with a separator between them. -/
def join : Function where
  name := "join"
  parameters :=
    [{ name := "separator", type := .string }, { name := "list", type := .list .string }]
  result := .fixed .string
  doc := "Concatenate a list of strings with a separator."
  implementation
    | [.string separator, .list _ items], _ =>
      (texts items).map fun parts => Value.ofText (separator.intercalate parts)
    | _, _ => .error .mistyped

/-- A function of any number of numbers that picks one of them; `better` says that the second of two is to
    be preferred. -/
def extremum (name doc : String) (better : Decimal → Decimal → Bool) : Function where
  name := name
  parameters := []
  variadic := some { name := "numbers", type := .number }
  result := .fixed .number
  doc := doc
  implementation arguments _ := do
    match ← arguments.mapM Value.amount with
    | [] => .error (.argument 0 [] .noNumbers)
    | first :: rest =>
      .ok (.number (rest.foldl (fun best next => if better best next then next else best) first))

/-- The greatest number. -/
def max : Function :=
  extremum "max" "Return the greatest of the given numbers." fun best next => best.less next

/-- The least number. -/
def min : Function :=
  extremum "min" "Return the smallest of the given numbers." fun best next => next.less best

/-- The absolute value. -/
def abs : Function where
  name := "abs"
  parameters := [{ name := "num", type := .number }]
  result := .fixed .number
  doc := "Return the absolute value of a number."
  implementation
    | [.number amount], _ => (amount.magnitude.mapError fun _ => .exponentOverflow).map .number
    | _, _ => .error .mistyped

/-- The number of elements or characters. -/
def length : Function where
  name := "length"
  parameters := [{ name := "value", type := .dynamic, allowUnknown := true }]
  result := .fixed .number
  doc := "Number of elements in a collection, or characters in a string."
  implementation
    | [value], _ => value.length
    | _, _ => .error .mistyped

/-- The built-in functions. -/
def builtins : List Function :=
  [upper, lower, join, max, min, abs, length]

end Crosswalk.Function
