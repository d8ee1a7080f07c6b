/-
Module: Crosswalk.Fault
Purpose: Why an operation on structural values fails. A conversion, an operation and the rejection of an
  argument are located by a path inside the value concerned; the other failures concern a call that
  makes no sense for its operands. Failures are causes, and their wording is a function of the cause.
Main exports: Category, ConversionCause, OperationCause, ArgumentCause, InvalidCause, Fault,
  Fault.ofWriting, Fault.message?, Fault.under
-/
import Crosswalk.Path
import Crosswalk.Ty.Basic
import Crosswalk.Decimal.Numeral

namespace Crosswalk

/-- Classes of located failures. -/
inductive Category where
  /-- A value cannot become the requested type. -/
  | typeMismatch
  /-- A table or collection does not have the shape that the type asks for. -/
  | shapeMismatch
  /-- Host values of the kind have no structural counterpart. -/
  | unsupportedKind
  /-- The operands were refused. -/
  | operationFailed
deriving DecidableEq, Repr

/-- The name of a category in reports. -/
def Category.name : Category → String
  | .typeMismatch => "type-mismatch"
  | .shapeMismatch => "shape-mismatch"
  | .unsupportedKind => "unsupported-kind"
  | .operationFailed => "operation-failed"

/-- Why a value does not convert, or why its type cannot be inferred. -/
inductive ConversionCause where
  /-- Host values of this kind cannot be converted. -/
  | notAllowed (kindName : String)
  /-- A key of a table has no text. -/
  | keysMustBeStrings
  /-- A table has a key that the type does not provide for. -/
  | unexpectedKey (key : String)
  /-- A table has an element at a position that the type does not provide for. -/
  | positionOutOfRange (position : Int)
  /-- A table lacks an element at a position that a later one makes necessary. -/
  | missingElement (position : Nat)
  /-- Two keys of a table have one text. -/
  | duplicateKey (key : String)
  /-- The elements of a collection have no type in common. -/
  | inconsistentTypes
  /-- The value does not convert to the type. -/
  | required (ty : Ty)
  /-- An attribute of the type is absent. -/
  | attributeRequired (name : String)
  /-- A map has a key that is no attribute of the type. -/
  | unsupportedAttribute (name : String)
  /-- The number of elements is not that of the tuple type. -/
  | tupleLength (count : Nat)
  /-- The host number is not a number. -/
  | notANumber
  /-- A failure reported by other code, in its own words. -/
  | reported (message : String) (category : Category)
deriving DecidableEq, Repr

/-- The class of a cause. -/
def ConversionCause.category : ConversionCause → Category
  | .notAllowed _ => .unsupportedKind
  | .keysMustBeStrings | .unexpectedKey _ | .positionOutOfRange _ | .missingElement _
  | .duplicateKey _ | .inconsistentTypes | .unsupportedAttribute _ | .tupleLength _ => .shapeMismatch
  | .required _ | .attributeRequired _ | .notANumber => .typeMismatch
  | .reported _ category => category

/-- The wording of a cause. -/
def ConversionCause.message : ConversionCause → String
  | .notAllowed kindName => kindName ++ " values are not allowed"
  | .keysMustBeStrings => "all table keys must be strings"
  | .unexpectedKey key => "unexpected key " ++ Text.quoteKey key
  | .positionOutOfRange position => "index " ++ toString position ++ " out of range"
  | .missingElement position => "missing element at index " ++ toString position
  | .duplicateKey key => "duplicate key " ++ Text.quoteKey key
  | .inconsistentTypes => "all values must be of the same type"
  | .required ty => Ty.article ty.name ++ " " ++ ty.name ++ " is required"
  | .attributeRequired name => "attribute \"" ++ name ++ "\" is required"
  | .unsupportedAttribute name => "unsupported attribute \"" ++ name ++ "\""
  | .tupleLength count => "a tuple of " ++ toString count ++ " elements is required"
  | .notANumber => "NaN is not a valid number"
  | .reported message _ => message

/-- Why an operation refuses its operands. -/
inductive OperationCause where
  | noLength (ty : Ty)
  | nullLength
  | indexOfNull
  | numberRequired
  | wholeNumberRequired
  | outOfRange
  | stringRequired
  | noSuchKey
  | notIndexable (ty : Ty)
  | noAttributes (ty : Ty)
  | unsupportedAttribute (name : String)
  | attributeOfNull
  | divisionByZero
  | arithmetic (signal : Signal)
  /-- A failure reported by other code, in its own words. -/
  | reported (message : String) (category : Category)
deriving DecidableEq, Repr

/-- The class of a cause. -/
def OperationCause.category : OperationCause → Category
  | .reported _ category => category
  | _ => .operationFailed

/-- The wording of a cause. -/
def OperationCause.message : OperationCause → String
  | .noLength ty => "cannot take the length of a " ++ ty.name ++ " value"
  | .nullLength => "argument must not be null"
  | .indexOfNull => "cannot index a null value"
  | .numberRequired => "a number is required"
  | .wholeNumberRequired => "key must be a whole number"
  | .outOfRange => "index out of range"
  | .stringRequired => "a string is required"
  | .noSuchKey => "key does not exist"
  | .notIndexable ty => "cannot index a " ++ ty.name ++ " value"
  | .noAttributes ty => "cannot access attributes of a " ++ ty.name ++ " value"
  | .unsupportedAttribute name => "unsupported attribute \"" ++ name ++ "\""
  | .attributeOfNull => "cannot access attributes of a null value"
  | .divisionByZero => "can't divide by zero"
  | .arithmetic signal => "arithmetic error: " ++ signal.name
  | .reported message _ => message

/-- Why a function rejects one of its arguments. -/
inductive ArgumentCause where
  | missing (parameter : String)
  | tooMany (allowed : Nat)
  | null
  | typeRequired (ty : Ty)
  | numberRequired
  | nullElement (position : Nat)
  | noNumbers
  /-- The argument does not convert to the type of its parameter. -/
  | conversion (cause : ConversionCause)
  /-- A failure reported by other code, in its own words. -/
  | reported (message : String)
deriving DecidableEq, Repr

/-- The wording of a cause. -/
def ArgumentCause.message : ArgumentCause → String
  | .missing parameter => "missing argument \"" ++ parameter ++ "\""
  | .tooMany allowed => "too many arguments; only " ++ toString allowed ++ " allowed"
  | .null => "argument must not be null"
  | .typeRequired ty => Ty.article ty.name ++ " " ++ ty.name ++ " is required"
  | .numberRequired => "a number is required"
  | .nullElement position => "element " ++ toString position ++ " is null"
  | .noNumbers => "must pass at least one number"
  | .conversion cause => cause.message
  | .reported message => message

/-- What makes a call senseless for its operands, so that no path locates the failure. -/
inductive InvalidCause where
  | notAKnownBool
  | notAKnownString
  | notAKnownNumber
  | unknownValue
  | elementTypeRequired (collection : String)
  | elementMismatch (collection : String) (given expected : Ty)
  | boolIsNoNumber
  | notANumber
  | numeral (error : Decimal.NumeralError) (text : String)
  | nilKey
  | nanKey
  | notTableData
  | unknownEvent (event : String)
  /-- A quotient that is not a number has no integer part. -/
  | floorOfNaN
  /-- A whole number has more digits than are written. -/
  | tooManyDigits
deriving DecidableEq, Repr

/-- The wording of a cause, where it has one. -/
def InvalidCause.message? : InvalidCause → Option String
  | .notAKnownBool | .notAKnownString | .notAKnownNumber | .floorOfNaN | .tooManyDigits =>
    none
  | .unknownValue => some "unknown values have no Python equivalent"
  | .elementTypeRequired collection =>
    some ("an empty " ++ collection ++ " requires an explicit element type")
  | .elementMismatch collection given expected =>
    some (collection ++ " element of type " ++ given.name ++ " does not match " ++ expected.name)
  | .boolIsNoNumber => some "bool is not a number"
  | .notANumber => some "NaN is not a valid number"
  | .numeral .notANumeral text => some (Text.quoteValue text ++ " is not a number")
  | .numeral .outOfRange text => some (Text.quoteValue text ++ " is out of range")
  | .nilKey => some "table index is nil"
  | .nanKey => some "table index is NaN"
  | .notTableData => some "table data must be a list, tuple or dict"
  | .unknownEvent event => some ("unknown arithmetic event " ++ Text.quoteValue event)

/-- A failure of an operation on structural values. -/
inductive Fault where
  /-- A value does not convert; the path leads to the part that does not. -/
  | conversion (path : Path) (cause : ConversionCause)
  /-- An operation refused its operands. -/
  | operation (path : Path) (cause : OperationCause)
  /-- A function refused the argument at an index, counted from zero. -/
  | argument (index : Nat) (path : Path) (cause : ArgumentCause)
  /-- The call makes no sense for its operands. -/
  | invalid (cause : InvalidCause)
  /-- A number is too large, or has no integer part because it is infinite. -/
  | tooLarge
  /-- A number was rounded, to change its sign or to write it, and lies beyond the greatest exponent. -/
  | exponentOverflow
  /-- An operand is of a sort that the operation does not know. -/
  | mistyped
  /-- A table contains itself, and reading it never ends. -/
  | endless
  /-- A search ended without finding what must be there. -/
  | exhausted
deriving DecidableEq, Repr

namespace Fault

/-- The failure to write a number. -/
def ofWriting : Decimal.WritingError → Fault
  | .tooLong => .invalid .tooManyDigits
  | .overflow => .exponentOverflow

/-- A message with the path before it, if there is one. -/
def located (path : Path) (message : String) : String :=
  if path.isEmpty then message else path.render ++ ": " ++ message

/-- The class of a located failure. -/
def category? : Fault → Option Category
  | .conversion _ cause => some cause.category
  | .operation _ cause => some cause.category
  | .argument .. => some .operationFailed
  | _ => none

/-- The path of a located failure. -/
def path? : Fault → Option Path
  | .conversion path _ => some path
  | .operation path _ => some path
  | .argument _ path _ => some path
  | _ => none

/-- The full text of a located failure. -/
def message? : Fault → Option String
  | .conversion path cause => some (located path cause.message)
  | .operation path cause => some (located path cause.message)
  | .argument _ path cause => some (located path cause.message)
  | .invalid cause => cause.message?
  | _ => none

/-- The same failure seen from outside: its path continues the given one. -/
def underPath (outer : Path) : Fault → Fault
  | .conversion path cause => .conversion (outer ++ path) cause
  | .operation path cause => .operation (outer ++ path) cause
  | .argument index path cause => .argument index (outer ++ path) cause
  | other => other

/-- The same failure seen from one step further out. -/
def under (step : Step) : Fault → Fault :=
  underPath [step]

end Fault

/-- The outcome of an operation on structural values. -/
abbrev Outcome (α : Type) := Except Fault α

/-- An outcome seen from one step further out. -/
def Outcome.under {α : Type} (step : Step) (outcome : Outcome α) : Outcome α :=
  outcome.mapError (Fault.under step)

end Crosswalk
