/-
Module: Crosswalk.Document.Yaml.Cursor
Purpose: Places in a text, with the line and column that indentation depends on, and readings that go on from
  one place to another.
Main exports: Cursor, Cursor.forward, Scan, Scan.skip, Scan.takeWhile, Scan.takeBreak
-/
import Crosswalk.Document.Defect
import Crosswalk.Document.Yaml.Character

namespace Crosswalk.Document.Yaml

/-- A place in a text: what follows it, and how many characters, lines and columns precede it. -/
structure Cursor where
  rest : List Char
  index : Nat := 0
  line : Nat := 0
  column : Nat := 0

namespace Cursor

/-- The place after the next character. A byte order mark takes no column. -/
def next (cursor : Cursor) : Cursor :=
  match cursor.rest with
  | [] => cursor
  | c :: rest =>
    if isBreak c then ⟨rest, cursor.index + 1, cursor.line + 1, 0⟩
    else if c = byteOrderMark then ⟨rest, cursor.index + 1, cursor.line, cursor.column⟩
    else ⟨rest, cursor.index + 1, cursor.line, cursor.column + 1⟩

/-- The place after a number of characters. -/
def forward (cursor : Cursor) : Nat → Cursor
  | 0 => cursor
  | count + 1 => forward cursor.next count

end Cursor

/-- A reading from one place to another. -/
abbrev Scan (α : Type) := StateT Cursor (Except Defect) α

namespace Scan

/-- The text is not what it has to be here. -/
def fail {α : Type} : Scan α :=
  throw .malformed

/-- What follows. -/
def rest : Scan (List Char) := do
  pure (← get).rest

/-- The column here. -/
def column : Scan Nat := do
  pure (← get).column

/-- A bound for the number of further steps, each of which takes a character. -/
def bound : Scan Nat := do
  pure ((← rest).length + 1)

/-- Goes over a number of characters. -/
def skip (count : Nat) : Scan Unit :=
  modify (·.forward count)

/-- The characters that follow as long as they belong to a class. -/
def takeWhile (belongs : Char → Bool) : Scan (List Char) := do
  let taken := (← rest).takeWhile belongs
  skip taken.length
  pure taken

/-- Goes over spaces. -/
def skipSpaces : Scan Unit := do
  let _ ← takeWhile (· = ' ')

/-- Goes over spaces and a comment after them. -/
def skipComment : Scan Unit := do
  skipSpaces
  if (← rest).head? = some '#' then
    let _ ← takeWhile fun c => !isBreak c

/-- The end of a line, if the line ends here: a line feed or one of the separators of Unicode. -/
def takeBreak : Scan (Option Char) := do
  match ← rest with
  | [] => pure none
  | c :: _ =>
    if isBreak c then
      skip 1
      pure (some (if c = '\u0085' then '\n' else c))
    else pure none

/-- Goes over the end of a line before which only spaces and a comment may stand. -/
def endLine : Scan Unit := do
  skipComment
  if endsLine (← rest) then
    let _ ← takeBreak
  else fail

end Scan

end Crosswalk.Document.Yaml
