/-
Module: Crosswalk.Document.Yaml.Scalar
Purpose: The texts of scalars. Plain and quoted scalars may go over several lines, which are folded: a single
  line end becomes a space, and of several the first is dropped. A block scalar is a literal or folded
  text that is indented as a whole.
Main exports: Scan.plain, Scan.quoted, Scan.block
-/
import Crosswalk.Document.Yaml.Cursor
import Crosswalk.Text.Digit

namespace Crosswalk.Document.Yaml.Scan

/-- What line ends between words become: the first line end, and the others after it. -/
def fold (first : Char) (others : List Char) : List Char :=
  if first ≠ '\n' then first :: others
  else if others.isEmpty then [' ']
  else others

/-! ### Plain scalars -/

/-- A colon before this text ends a plain scalar. -/
def endsKey (inFlow : Bool) (text : List Char) : Bool :=
  endsWord text || (inFlow && text.head?.any isFlowMark)

/-- The number of characters up to the end of a word of a plain scalar. -/
def plainLength (inFlow : Bool) : List Char → Nat
  | [] => 0
  | c :: rest =>
    if isGap c || isBreak c || (c = ':' && endsKey inFlow rest)
        || (inFlow && (c = '?' || isFlowMark c)) then 0
    else plainLength inFlow rest + 1

/-- Further line ends after one, and the spaces between them, up to the next word. Where a line separates
    documents there is no next word. -/
def plainBreaks : Nat → List Char → Scan (Option (List Char))
  | 0, _ => pure none
  | bound + 1, read => do
    if atMarker (← rest) then pure none
    else
      skipSpaces
      match ← takeBreak with
      | some c => plainBreaks bound (read ++ [c])
      | none => pure (some read)

/-- What stands between two words of a plain scalar, and whether a line ends in it. Nothing means that the
    scalar ends. -/
def plainGap : Scan (List Char × Bool) := do
  let spaces ← takeWhile (· = ' ')
  match ← takeBreak with
  | none => pure (spaces, false)
  | some first =>
    match ← plainBreaks (← bound) [] with
    | none => pure ([], true)
    | some others => pure (fold first others, true)

/-- The words of a plain scalar after those in `read`; `gap` stands before the next one, and `ended` tells
    whether a line ends in it. -/
def plainWords (inFlow : Bool) (indent : Nat) :
    Nat → List Char → List Char → Bool → Scan (String × Bool)
  | 0, read, _, ended => pure (String.ofList read, ended)
  | bound + 1, read, gap, ended => do
    let text ← rest
    let length := plainLength inFlow text
    if text.head? = some '#' || length = 0 then pure (String.ofList read, ended)
    else
      skip length
      let read := read ++ gap ++ text.take length
      let (gap, ended) ← plainGap
      if gap.isEmpty || (← rest).head? = some '#' || (!inFlow && (← column) < indent) then
        pure (String.ofList read, ended)
      else plainWords inFlow indent bound read gap ended

/-- A plain scalar, and whether the last line of it ends. Outside of flow collections its lines must be
    indented as far as `indent` says. -/
def plain (inFlow : Bool) (indent : Nat) : Scan (String × Bool) := do
  plainWords inFlow indent (← bound) [] [] false

/-! ### Quoted scalars -/

/-- The character of an escape without a code. -/
def escaped? : Char → Option Char
  | '0' => some '\x00'
  | 'a' => some '\x07'
  | 'b' => some '\x08'
  | 't' => some '\t'
  | '\t' => some '\t'
  | 'n' => some '\n'
  | 'v' => some '\x0b'
  | 'f' => some '\x0c'
  | 'r' => some '\r'
  | 'e' => some '\x1b'
  | ' ' => some ' '
  | '\x22' => some '\x22'
  | '\\' => some '\\'
  | '/' => some '/'
  | 'N' => some '\u0085'
  | '_' => some '\u00a0'
  | 'L' => some '\u2028'
  | 'P' => some '\u2029'
  | _ => none

/-- The number of digits of an escape with a code. -/
def codeLength? : Char → Option Nat
  | 'x' => some 2
  | 'u' => some 4
  | 'U' => some 8
  | _ => none

/-- The number that a count of hexadecimal digits denotes. -/
def hexadecimal (count : Nat) : Scan Nat := do
  let digits := (← rest).take count
  skip count
  match digits.mapM Text.hexadecimalValue? with
  | some values =>
    if values.length = count then pure (values.foldl (fun high low => 16 * high + low) 0) else fail
  | none => fail

/-- The character of a code. -/
def character (code : Nat) : Scan Char :=
  if code < 0x110000 then pure (Char.ofNat code)
  else if code < 0x80000000 then throw .undefined
  else throw .tooLarge

/-- Line ends inside a quoted scalar, and the gaps around them. No line may separate documents. -/
def quotedBreaks : Nat → List Char → Scan (List Char)
  | 0, read => pure read
  | bound + 1, read => do
    if atMarker (← rest) then fail
    else
      let _ ← takeWhile isGap
      match ← takeBreak with
      | some c => quotedBreaks bound (read ++ [c])
      | none => pure read

/-- What an escape stands for, from the character after the backslash on. -/
def escape : Scan (List Char) := do
  match ← rest with
  | [] => fail
  | c :: _ =>
    match escaped? c, codeLength? c with
    | some plain, _ => skip 1; pure [plain]
    | none, some count => skip 1; pure [← character (← hexadecimal count)]
    | none, none =>
      match ← takeBreak with
      | some _ => quotedBreaks (← bound) []
      | none => fail

/-- A character that stands for itself in every quoted scalar. -/
def isQuotable (c : Char) : Bool :=
  !(c = '\x27' || c = '\x22' || c = '\\' || isGap c || isBreak c)

/-- The characters of a quoted scalar up to the next gap or its end. -/
def quotedWord (double : Bool) : Nat → List Char → Scan (List Char)
  | 0, read => pure read
  | bound + 1, read => do
    let read := read ++ (← takeWhile isQuotable)
    match double, ← rest with
    | false, '\x27' :: '\x27' :: _ => skip 2; quotedWord double bound (read ++ ['\x27'])
    | false, '\x22' :: _ => skip 1; quotedWord double bound (read ++ ['\x22'])
    | false, '\\' :: _ => skip 1; quotedWord double bound (read ++ ['\\'])
    | true, '\x27' :: _ => skip 1; quotedWord double bound (read ++ ['\x27'])
    | true, '\\' :: _ => skip 1; quotedWord double bound (read ++ (← escape))
    | _, _ => pure read

/-- What stands between two words of a quoted scalar. -/
def quotedGap : Scan (List Char) := do
  let gaps ← takeWhile isGap
  match ← takeBreak with
  | some first => pure (fold first (← quotedBreaks (← bound) []))
  | none => if (← rest).isEmpty then fail else pure gaps

/-- The words of a quoted scalar after those in `read`, up to its end. -/
def quotedWords (double : Bool) : Nat → List Char → Scan String
  | 0, _ => fail
  | bound + 1, read => do
    let read := read ++ (← quotedWord double (← Scan.bound) [])
    if (← rest).head? = some (if double then '\x22' else '\x27') then
      skip 1
      pure (String.ofList read)
    else quotedWords double bound (read ++ (← quotedGap))

/-- A scalar between quotes, single ones or double ones. -/
def quoted (double : Bool) : Scan String := do
  skip 1
  quotedWords double (← bound) []

/-! ### Block scalars -/

/-- What becomes of the line ends after a block scalar. -/
inductive Tail where
  /-- One of them is kept. -/
  | clip
  /-- All of them are kept. -/
  | keep
  /-- None of them is kept. -/
  | strip
deriving DecidableEq, Repr

/-- The sign for what becomes of the line ends, if there is one. -/
def tailSign : Scan (Option Tail) := do
  match (← rest).head? with
  | some '+' => skip 1; pure (some .keep)
  | some '-' => skip 1; pure (some .strip)
  | _ => pure none

/-- The digit for the indentation, if there is one. It is not zero. -/
def indentDigit : Scan (Option Nat) := do
  match (← rest).head? with
  | some c =>
    if '0' ≤ c ∧ c ≤ '9' then
      skip 1
      if c = '0' then fail else pure (some (c.toNat - '0'.toNat))
    else pure none
  | none => pure none

/-- The header of a block scalar: sign and digit in either order. -/
def blockHeader : Scan (Tail × Option Nat) := do
  let header ← match ← tailSign with
    | some tail => pure (tail, ← indentDigit)
    | none => do
      let digit ← indentDigit
      let tail ← if digit.isSome then tailSign else pure none
      pure (tail.getD .clip, digit)
  if endsField (← rest) then
    endLine
    pure header
  else fail

/-- The line ends before a block scalar whose indentation is not given, and the greatest column that spaces
    reach. -/
def blockStart : Nat → List Char → Nat → Scan (List Char × Nat)
  | 0, read, reached => pure (read, reached)
  | bound + 1, read, reached => do
    let spaces ← takeWhile (· = ' ')
    let here ← column
    let reached := if spaces.isEmpty then reached else max reached here
    match ← takeBreak with
    | some c => blockStart bound (read ++ [c]) reached
    | none => pure (read, reached)

/-- Goes over spaces up to a column. -/
def skipIndent (indent : Nat) : Scan Unit := do
  let spaces := (← rest).takeWhile (· = ' ')
  skip (min spaces.length (indent - (← column)))

/-- Line ends inside a block scalar, with no more spaces between them than the indentation. -/
def blockBreaks (indent : Nat) : Nat → List Char → Scan (List Char)
  | 0, read => pure read
  | bound + 1, read => do
    skipIndent indent
    match ← takeBreak with
    | some c => blockBreaks indent bound (read ++ [c])
    | none => pure read

/-- The lines of a block scalar from the place on; `breaks` are the line ends before it. Folding joins two
    lines of which neither is indented further. -/
def blockLines (folded : Bool) (tail : Tail) (indent : Nat) :
    Nat → List Char → List Char → Scan (List Char)
  | 0, read, _ => pure read
  | bound + 1, read, breaks => do
    let text ← rest
    let line ← takeWhile fun c => !isBreak c
    let read := read ++ breaks ++ line
    let lineEnd := (← takeBreak).toList
    let breaks ← blockBreaks indent (← Scan.bound) []
    let next ← rest
    if (← column) = indent && !next.isEmpty then
      let joined := folded && lineEnd = ['\n'] && !text.head?.any isGap && !next.head?.any isGap
      let between := if joined then (if breaks.isEmpty then [' '] else []) else lineEnd
      blockLines folded tail indent bound (read ++ between) breaks
    else
      pure <| match tail with
        | .strip => read
        | .clip => read ++ lineEnd
        | .keep => read ++ lineEnd ++ breaks

/-- A block scalar, literal or folded, inside a collection whose content has a least indentation. -/
def block (folded : Bool) (least : Nat) : Scan String := do
  skip 1
  let (tail, digit) ← blockHeader
  let least := max 1 least
  let (breaks, indent) ← match digit with
    | some digit => do
      let indent := least + digit - 1
      pure (← blockBreaks indent (← bound) [], indent)
    | none => do
      let (breaks, reached) ← blockStart (← bound) [] 0
      pure (breaks, max least reached)
  if (← column) = indent && !(← rest).isEmpty then
    pure (String.ofList (← blockLines folded tail indent (← bound) [] breaks))
  else
    pure (String.ofList (if tail = .keep then breaks else []))

end Crosswalk.Document.Yaml.Scan
