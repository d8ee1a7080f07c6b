/-
Module: Crosswalk.Document.Defect
Purpose: Why a text cannot be read as a document: it does not have the form of one, or it has, but one of its
  parts denotes nothing.
Main exports: Defect
-/

namespace Crosswalk

/-- Why a text cannot be read as a document. -/
inductive Defect where
  /-- The text is not a document of the format. -/
  | malformed
  /-- A scalar or an escape has the form of a number, a date or a character, but there is none for it. -/
  | undefined
  /-- The code of a character does not fit into a machine word. -/
  | tooLarge
  /-- A scalar that has to be a truth value is none of the words for one. -/
  | unknownWord
  /-- A scalar that has to be an integer has no digits. -/
  | noDigits
  /-- A scalar that has to be a point in time does not have the form of one. -/
  | notATimestamp
deriving DecidableEq, Repr

end Crosswalk
