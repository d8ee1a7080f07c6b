/-
Module: Crosswalk.Document.Yaml.Token
Purpose: The tokens of a YAML text. Indentation shows in the tokens that start and end block collections, so
  that the grammar of nodes does not speak of columns. A word may turn out to be the key of a mapping only at
  the colon after it, and the tokens for the key are then put before it; a key must not be longer than a line
  or a thousand characters.
Main exports: Token, Tokens, Tokens.ofText
-/
import Crosswalk.Document.Yaml.Scalar

namespace Crosswalk.Document.Yaml

/-- A directive before a document. -/
inductive Directive where
  | version (major : Nat)
  | handle (name start : String)
  | other
deriving DecidableEq, Repr

/-- A token. -/
inductive Token where
  | streamEnd
  | directive (directive : Directive)
  | documentStart
  | documentEnd
  | blockSequence
  | blockMapping
  | blockEnd
  | flowSequence
  | flowSequenceEnd
  | flowMapping
  | flowMappingEnd
  | blockEntry
  | flowEntry
  | key
  | value
  | anchor (name : String)
  /-- The node of an anchor once more. -/
  | again (name : String)
  | tag (handle : Option String) (suffix : String)
  | scalar (text : String) (plain : Bool)
deriving DecidableEq, Repr

/-- The tokens of a text, and why there are no more of them if that is not the end of the text. -/
structure Tokens where
  read : List Token
  defect : Defect

/-! ### Names, tags and directives -/

namespace Scan

/-- The name of an anchor, after the sign for it. -/
def anchorName : Scan String := do
  skip 1
  let name ← takeWhile isNameChar
  let text ← rest
  let mayFollow (c : Char) : Bool :=
    ['?', ':', ',', ']', '\x7d', '%', '@', '\x60'].contains c
  if !name.isEmpty && (endsWord text || text.head?.any mayFollow) then pure (String.ofList name)
  else fail

/-- The bytes that escapes in a tag denote. -/
def tagEscapes : Nat → List UInt8 → Scan (List UInt8)
  | 0, read => pure read
  | bound + 1, read => do
    if (← rest).head? = some '%' then
      skip 1
      let byte ← hexadecimal 2
      tagEscapes bound (read ++ [UInt8.ofNat byte])
    else pure read

/-- The characters of a tag after those in `read`. -/
def tagText : Nat → List Char → Scan String
  | 0, read => pure (String.ofList read)
  | bound + 1, read => do
    let read := read ++ (← takeWhile fun c => c ≠ '%' && isTagChar c)
    if (← rest).head? = some '%' then
      let bytes ← tagEscapes (← Scan.bound) []
      match String.fromUTF8? (ByteArray.mk bytes.toArray) with
      | some text => tagText bound (read ++ text.toList)
      | none => fail
    else if read.isEmpty then fail
    else pure (String.ofList read)

/-- The handle of a tag: an exclamation mark, or a name between two of them. -/
def tagHandle : Scan String := do
  if (← rest).head? ≠ some '!' then fail
  skip 1
  if (← rest).head? = some ' ' then pure "!"
  else
    let name ← takeWhile isNameChar
    if (← rest).head? ≠ some '!' then fail
    skip 1
    pure (String.ofList ('!' :: name ++ ['!']))

/-- A tag: as a whole between angle brackets, or a handle and a suffix, or a mark without either. -/
def tag : Scan Token := do
  let text ← rest
  let token ← match text.drop 1 with
    | '<' :: _ => do
      skip 2
      let suffix ← tagText (← bound) []
      if (← rest).head? ≠ some '>' then fail
      skip 1
      pure (.tag none suffix)
    | others =>
      if endsWord others then do
        skip 1
        pure (.tag none "!")
      else if (others.takeWhile fun c => !(c = ' ' || isBreak c)).contains '!' then do
        let handle ← tagHandle
        pure (.tag (some handle) (← tagText (← bound) []))
      else do
        skip 1
        pure (.tag (some "!") (← tagText (← bound) []))
  if endsField (← rest) then pure token else fail

/-- Decimal digits, of which there must be one. -/
def number : Scan Nat := do
  let digits ← takeWhile Char.isDigit
  if digits.isEmpty then fail else pure (Text.digitsValue digits)

/-- The content of a directive with a name. -/
def directiveOf (name : List Char) : Scan Directive := do
  if name = "YAML".toList then
    skipSpaces
    let major ← number
    if (← rest).head? ≠ some '.' then fail
    skip 1
    let _ ← number
    if endsField (← rest) then pure (.version major) else fail
  else if name = "TAG".toList then
    skipSpaces
    let handle ← tagHandle
    if (← rest).head? ≠ some ' ' then fail
    skipSpaces
    let start ← tagText (← bound) []
    if endsField (← rest) then pure (.handle handle start) else fail
  else
    let _ ← takeWhile fun c => !isBreak c
    pure .other

/-- A directive and its line. -/
def directive : Scan Directive := do
  skip 1
  let name ← takeWhile isNameChar
  if name.isEmpty || !endsField (← rest) then fail
  let content ← directiveOf name
  endLine
  pure content

end Scan

/-! ### Keys and indentation -/

/-- A place at which a key may have started, on one level of flow collections. -/
structure PossibleKey where
  level : Nat
  /-- The number of tokens before the key. -/
  number : Nat
  place : Cursor
  /-- Nothing but a key can stand here. -/
  required : Bool

/-- The tokens so far, and what decides on the next ones. -/
structure Lexer where
  cursor : Cursor
  tokens : Array Token := #[]
  /-- The number of flow collections around the place. -/
  level : Nat := 0
  /-- The column of the block collection around the place. -/
  indent : Int := -1
  /-- The columns of the block collections further out. -/
  outer : List Int := []
  /-- A key may start at the place. -/
  allowKey : Bool := true
  keys : List PossibleKey := []

/-- A step that adds tokens. -/
abbrev Lex (α : Type) := StateT Lexer (Except Defect) α

namespace Lex

/-- A key is at most this many characters long. -/
def longestKey : Nat := 1024

/-- The text is not what it has to be here. -/
def fail {α : Type} : Lex α :=
  throw .malformed

/-- A reading at the place. -/
def scan {α : Type} (reading : Scan α) : Lex α := do
  let lexer ← get
  let (found, cursor) ← reading.run lexer.cursor
  set { lexer with cursor := cursor }
  pure found

/-- Adds a token. -/
def push (token : Token) : Lex Unit :=
  modify fun lexer => { lexer with tokens := lexer.tokens.push token }

/-- Puts tokens before the one with a number. -/
def insertAt (number : Nat) (tokens : Array Token) : Lex Unit :=
  modify fun lexer => { lexer with
    tokens := lexer.tokens.extract 0 number ++ tokens
      ++ lexer.tokens.extract number lexer.tokens.size }

/-- Says whether a key may start next. -/
def allowKeyNext (allowed : Bool) : Lex Unit :=
  modify ({ · with allowKey := allowed })

/-- Inside of a flow collection. -/
def inFlow : Lex Bool := do
  pure (0 < (← get).level)

/-- Gives up possible keys; one that is required cannot be given up. -/
def giveUp (isGivenUp : PossibleKey → Bool) : Lex Unit := do
  let lexer ← get
  if lexer.keys.any fun key => isGivenUp key && key.required then fail
  else set { lexer with keys := lexer.keys.filter fun key => !isGivenUp key }

/-- Gives up the keys that would be too long, or longer than a line. -/
def giveUpLong : Lex Unit := do
  let place := (← get).cursor
  giveUp fun key => key.place.line ≠ place.line || longestKey < place.index - key.place.index

/-- Gives up the key on the present level. -/
def giveUpHere : Lex Unit := do
  let level := (← get).level
  giveUp fun key => key.level = level

/-- The next token may be a key, or the start of one. -/
def startKey : Lex Unit := do
  if (← get).allowKey then
    giveUpHere
    modify fun lexer =>
      let required := lexer.level = 0 && lexer.indent = lexer.cursor.column
      { lexer with keys := ⟨lexer.level, lexer.tokens.size, lexer.cursor, required⟩ :: lexer.keys }

/-- Ends the block collections that are indented further than a column. Inside of flow collections
    indentation has no meaning. -/
def unindent (column : Int) : Lex Unit :=
  modify fun lexer =>
    if lexer.level = 0 then go lexer.outer lexer else lexer
where
  /-- Ends one collection for each of the columns further out, as long as it has to be. -/
  go : List Int → Lexer → Lexer
    | [], lexer => lexer
    | indent :: outer, lexer =>
      if column < lexer.indent then
        go outer { lexer with
          tokens := lexer.tokens.push .blockEnd, indent := indent, outer := outer }
      else lexer

/-- Starts a block collection at a column, if it is indented further than the one around it. -/
def indentTo (column : Nat) : Lex Bool := do
  let lexer ← get
  if lexer.indent < column then
    set { lexer with indent := column, outer := lexer.indent :: lexer.outer }
    pure true
  else pure false

/-! ### Tokens -/

/-- Goes over blanks, comments and line ends. After a line end outside of flow collections a key may
    start. -/
def skipBlanks : Nat → Lex Unit
  | 0 => pure ()
  | bound + 1 => do
    scan Scan.skipComment
    match ← scan Scan.takeBreak with
    | some _ =>
      if !(← inFlow) then allowKeyNext true
      skipBlanks bound
    | none => pure ()

/-- Ends all block collections and gives up keys, before what stands outside of documents. -/
def leaveDocument : Lex Unit := do
  unindent (-1)
  giveUpHere
  allowKeyNext false

/-- A token of a number of characters that separates documents. -/
def marker (token : Token) : Lex Unit := do
  leaveDocument
  scan (Scan.skip 3)
  push token

/-- A token of one character. -/
def sign (token : Token) : Lex Unit := do
  scan (Scan.skip 1)
  push token

/-- The start of a flow collection. -/
def openFlow (token : Token) : Lex Unit := do
  startKey
  modify fun lexer => { lexer with level := lexer.level + 1, allowKey := true }
  sign token

/-- The end of a flow collection, of which there must be one. -/
def closeFlow (token : Token) : Lex Unit := do
  giveUpHere
  if !(← inFlow) then fail
  modify fun lexer => { lexer with level := lexer.level - 1, allowKey := false }
  sign token

/-- The sign of an entry or key in a block collection, which starts the collection if it is the first
    one. -/
def startBlock (collection : Token) : Lex Unit := do
  if !(← inFlow) then
    if !(← get).allowKey then fail
    if ← indentTo (← get).cursor.column then push collection

/-- The sign of an entry of a block sequence. -/
def blockEntry : Lex Unit := do
  startBlock .blockSequence
  allowKeyNext true
  giveUpHere
  sign .blockEntry

/-- The sign of a key. -/
def key : Lex Unit := do
  startBlock .blockMapping
  allowKeyNext (!(← inFlow))
  giveUpHere
  sign .key

/-- The sign of a value. If a key may have started on the present level, it did. -/
def value : Lex Unit := do
  let lexer ← get
  match lexer.keys.find? fun key => key.level = lexer.level with
  | some key =>
    set { lexer with keys := lexer.keys.filter fun other => other.level ≠ lexer.level }
    let starts ← if ← inFlow then pure false else indentTo key.place.column
    insertAt key.number (if starts then #[.blockMapping, .key] else #[.key])
    allowKeyNext false
  | none =>
    startBlock .blockMapping
    allowKeyNext (!(← inFlow))
    giveUpHere
  sign .value

/-- A token that may be a key. -/
def keyLike (token : Scan Token) : Lex Unit := do
  startKey
  allowKeyNext false
  push (← scan token)

/-- A plain scalar. After a line end a key may start. -/
def plain : Lex Unit := do
  startKey
  let lexer ← get
  let (text, ended) ← scan (Scan.plain (← inFlow) (lexer.indent + 1).toNat)
  allowKeyNext ended
  push (.scalar text true)

/-- A block scalar. -/
def block (folded : Bool) : Lex Unit := do
  allowKeyNext true
  giveUpHere
  let text ← scan (Scan.block folded ((← get).indent + 1).toNat)
  push (.scalar text false)

/-- The end of the text. -/
def finish : Lex Unit := do
  leaveDocument
  push .streamEnd

/-- A plain scalar may start here. -/
def startsPlain (flow : Bool) : List Char → Bool
  | [] => false
  | c :: rest =>
    !(isGap c || isBreak c || isIndicator c)
      || (!endsWord rest && (c = '-' || (!flow && (c = '?' || c = ':'))))

/-- The next token, or some of them; whether that was the end. -/
def step : Lex Bool := do
  if (← get).cursor.index = 0 && (← get).cursor.rest.head? = some byteOrderMark then
    scan (Scan.skip 1)
  skipBlanks (← scan Scan.bound)
  giveUpLong
  let place := (← get).cursor
  unindent place.column
  let flow ← inFlow
  match place.rest with
  | [] => do
    finish
    pure true
  | c :: rest => do
    let text := c :: rest
    let atStart := place.column = 0
    if c = '%' && atStart then
      leaveDocument
      push (.directive (← scan Scan.directive))
    else if atStart && atMarkerOf '-' text then marker .documentStart
    else if atStart && atMarkerOf '.' text then marker .documentEnd
    else if c = '[' then openFlow .flowSequence
    else if c = '\x7b' then openFlow .flowMapping
    else if c = ']' then closeFlow .flowSequenceEnd
    else if c = '\x7d' then closeFlow .flowMappingEnd
    else if c = ',' then
      allowKeyNext true
      giveUpHere
      sign .flowEntry
    else if c = '-' && endsWord rest then blockEntry
    else if c = '?' && (flow || endsWord rest) then key
    else if c = ':' && (flow || endsWord rest) then value
    else if c = '*' then keyLike do pure (.again (← Scan.anchorName))
    else if c = '&' then keyLike do pure (.anchor (← Scan.anchorName))
    else if c = '!' then keyLike Scan.tag
    else if c = '|' && !flow then block false
    else if c = '>' && !flow then block true
    else if c = '\x27' then keyLike do pure (.scalar (← Scan.quoted false) false)
    else if c = '\x22' then keyLike do pure (.scalar (← Scan.quoted true) false)
    else if startsPlain flow text then plain
    else fail
    pure false

end Lex

namespace Tokens

/-- The tokens before the first one that may turn out to be a key, and so may still get others before it. -/
def settled (lexer : Lexer) : List Token :=
  lexer.tokens.toList.take
    (lexer.keys.foldl (fun number key => min number key.number) lexer.tokens.size)

/-- The tokens that follow those of a state. -/
def from? : Nat → Lexer → Tokens
  | 0, lexer => ⟨lexer.tokens.toList, .malformed⟩
  | bound + 1, lexer =>
    match Lex.giveUpLong.run lexer with
    | .error defect => ⟨settled lexer, defect⟩
    | .ok (_, lexer) =>
      match Lex.step.run lexer with
      | .error defect => ⟨settled lexer, defect⟩
      | .ok (true, lexer) => ⟨lexer.tokens.toList, .malformed⟩
      | .ok (false, lexer) => from? bound lexer

/-- The tokens of a text. -/
def ofText (text : List Char) : Tokens :=
  from? (text.length + 1) { cursor := { rest := text } }

example : (ofText "a: 1".toList).read
    = [.blockMapping, .key, .scalar "a" true, .value, .scalar "1" true, .blockEnd, .streamEnd] := by
  decide +kernel

end Tokens

end Crosswalk.Document.Yaml
