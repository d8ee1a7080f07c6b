/-
Module: Crosswalk.Document.Yaml.Node
Purpose: The nodes of a YAML document, read from its tokens. Every node has a tag, which is stated, or
  follows from the kind of the node and from the text of a plain scalar. A node with an anchor can be used
  again further on, and entries can be merged into a mapping from other mappings.
Main exports: Node, Node.ofTokens
-/
import Crosswalk.Document.Yaml.Tag
import Crosswalk.Document.Yaml.Timestamp
import Crosswalk.Document.Yaml.Token

namespace Crosswalk.Document.Yaml

/-- A node of a document. -/
inductive Node where
  | scalar (tag : Tag) (text : String)
  | sequence (tag : Tag) (items : List Node)
  | mapping (tag : Tag) (entries : List (Node × Node))

namespace Node

/-- The tag of a node. -/
def tag : Node → Tag
  | .scalar tag _ => tag
  | .sequence tag _ => tag
  | .mapping tag _ => tag

/-- A scalar whose tag follows from its text. -/
def plain (text : String) : Node :=
  .scalar (Tag.ofPlain text.toList Timestamp.isPlain) text

/-- The node that stands where nothing is written. -/
def absent : Node :=
  plain ""

/-- The entries that a merged node contributes: those of a mapping, or of several mappings, of which the
    first ones have precedence. -/
def mergedEntries : Node → Except Defect (List (Node × Node))
  | .mapping _ entries => .ok entries
  | .sequence _ items => do
    let parts ← items.mapM fun item =>
      match item with
      | .mapping _ entries => .ok entries
      | _ => .error .malformed
    .ok parts.reverse.flatten
  | .scalar .. => .error .malformed

/-- A mapping with the entries of merged nodes before its own, which have precedence. A key that would stand
    for the whole mapping is a string here. -/
def merge (entries : List (Node × Node)) : Except Defect (List (Node × Node)) := do
  let merged ← (entries.filter fun entry => entry.1.tag = .merge).mapM fun entry =>
    mergedEntries entry.2
  let own := (entries.filter fun entry => entry.1.tag ≠ .merge).map fun (key, value) =>
    match key with
    | .scalar .value text => (.scalar .string text, value)
    | _ => (key, value)
  .ok (merged.flatten ++ own)

/-! ### Reading -/

/-- The state of a reading. -/
structure Source where
  tokens : List Token
  /-- Why there are no tokens after these. -/
  defect : Defect
  /-- What the handles of tags stand for. -/
  handles : List (String × String) := []
  /-- The nodes of anchors; a node that is not complete is not there yet. -/
  anchors : List (String × Option Node) := []

/-- A reading of tokens. -/
abbrev Reader (α : Type) := StateT Source (Except Defect) α

namespace Reader

/-- The tokens are not what they have to be here. -/
def fail {α : Type} : Reader α :=
  throw .malformed

/-- The next token. -/
def peek : Reader Token := do
  let source ← get
  match source.tokens with
  | token :: _ => pure token
  | [] => throw source.defect

/-- Goes over a token. -/
def skip : Reader Unit :=
  modify fun source => { source with tokens := source.tokens.drop 1 }

/-- The next token is one of some. -/
def atOne (tokens : List Token) : Reader Bool := do
  pure (tokens.contains (← peek))

/-! ### Anchors and tags -/

/-- The anchor and the tag before a node. -/
structure Properties where
  anchor : Option String
  tag : Option (Option String × String)

/-- An anchor, if there is one. -/
def anchor? : Reader (Option String) := do
  match ← peek with
  | .anchor name => skip; pure (some name)
  | _ => pure none

/-- A tag, if there is one. -/
def tag? : Reader (Option (Option String × String)) := do
  match ← peek with
  | .tag handle suffix => skip; pure (some (handle, suffix))
  | _ => pure none

/-- The anchor and the tag before a node, in either order. -/
def properties : Reader Properties := do
  match ← anchor? with
  | some name => pure ⟨some name, ← tag?⟩
  | none =>
    let tag ← tag?
    let anchor ← if tag.isSome then anchor? else pure none
    pure ⟨anchor, tag⟩

/-- The tag that is stated. An exclamation mark alone is none, although it says that the text of a scalar
    decides. -/
def statedTag? (properties : Properties) : Reader (Option Tag) := do
  match properties.tag with
  | none => pure none
  | some (none, name) => pure (if name = "!" then none else some (Tag.ofName name))
  | some (some handle, suffix) =>
    match (← get).handles.lookup handle with
    | some start =>
      pure (if start ++ suffix = "!" then none else some (Tag.ofName (start ++ suffix)))
    | none => fail

/-- Remembers the node of an anchor. -/
def remember (anchor : Option String) (node : Option Node) : Reader Unit :=
  match anchor with
  | some name => modify fun source => { source with anchors := (name, node) :: source.anchors }
  | none => pure ()

/-- Starts a node with an anchor, whose name must be new. -/
def introduce (anchor : Option String) : Reader Unit := do
  let anchors := (← get).anchors
  if anchor.any fun name => (anchors.lookup name).isSome then fail
  else remember anchor none

/-- The complete node of an anchor. -/
def nodeOfAnchor (name : String) : Reader Node := do
  match (← get).anchors.lookup name with
  | some (some node) => pure node
  | _ => fail

/-! ### Nodes -/

/-- Where a node stands, which decides what it may be. -/
inductive Place where
  /-- In a flow collection. -/
  | flow
  /-- In a block sequence, or a document of its own. -/
  | block
  /-- In a block mapping, where a block sequence need not be indented. -/
  | entry
deriving DecidableEq, Repr

/-- The tokens after which an entry of a block mapping has nothing in it. -/
def endsEntry : List Token := [.key, .value, .blockEnd]

/-- The tokens after which an entry of a flow mapping has nothing in it. -/
def endsFlowEntry : List Token := [.flowEntry, .flowMappingEnd]

/-- The tokens after which a pair in a flow sequence has nothing in it. -/
def endsFlowPair : List Token := [.flowEntry, .flowSequenceEnd]

/-- A mapping with its entries, merged if it is one for its tag too. -/
def mapping (tag : Tag) (entries : List (Node × Node)) : Reader Node := do
  if tag = .mapping ∨ tag = .set then
    match Node.merge entries with
    | .ok entries => pure (.mapping tag entries)
    | .error defect => throw defect
  else pure (.mapping tag entries)

/-- A node of which only an anchor or a tag is written, one of which there must be. -/
def empty (properties : Properties) (stated : Option Tag) : Reader Node :=
  if properties.anchor.isNone && properties.tag.isNone then fail
  else pure (match stated with
    | some tag => .scalar tag ""
    | none => Node.absent)

mutual

/-- A node. The fuel bounds the number of tokens in it. -/
def node : Nat → Place → Reader Node
  | 0, _ => fail
  | fuel + 1, place => do
    match ← peek with
    | .again name => skip; nodeOfAnchor name
    | _ =>
      let properties ← properties
      let stated ← statedTag? properties
      introduce properties.anchor
      let found ← match ← peek with
        | .scalar text plain => do
          skip
          match stated with
          | some tag => pure (Node.scalar tag text)
          | none =>
            pure (if plain || properties.tag.isSome then Node.plain text else .scalar .string text)
        | .flowSequence => do
          skip
          pure (Node.sequence (stated.getD .sequence) (← flowItems fuel true []))
        | .flowMapping => do
          skip
          mapping (stated.getD .mapping) (← flowEntries fuel true [])
        | .blockSequence => do
          if place = .flow then fail
          skip
          pure (Node.sequence (stated.getD .sequence) (← blockItems fuel []))
        | .blockMapping => do
          if place = .flow then fail
          skip
          mapping (stated.getD .mapping) (← blockEntries fuel [])
        | .blockEntry => do
          if place = .entry then
            pure (Node.sequence (stated.getD .sequence) (← freeItems fuel []))
          else empty properties stated
        | _ => empty properties stated
      remember properties.anchor (some found)
      pure found

/-- A node, or nothing before one of some tokens. -/
def nodeBefore : Nat → Place → List Token → Reader Node
  | 0, _, _ => fail
  | fuel + 1, place, ends => do
    if ← atOne ends then pure Node.absent else node fuel place

/-- A value after its sign, or nothing if there is no sign. -/
def valueBefore : Nat → Place → List Token → Reader Node
  | 0, _, _ => fail
  | fuel + 1, place, ends => do
    if (← peek) = .value then
      skip
      nodeBefore fuel place ends
    else pure Node.absent

/-- The items of a block sequence up to its end, after those in `read`. -/
def blockItems : Nat → List Node → Reader (List Node)
  | 0, _ => fail
  | fuel + 1, read => do
    match ← peek with
    | .blockEntry => do
      skip
      let item ← nodeBefore fuel .block [.blockEntry, .blockEnd]
      blockItems fuel (read ++ [item])
    | .blockEnd => skip; pure read
    | _ => fail

/-- The items of a block sequence that is not indented, after those in `read`. -/
def freeItems : Nat → List Node → Reader (List Node)
  | 0, _ => fail
  | fuel + 1, read => do
    match ← peek with
    | .blockEntry => do
      skip
      let item ← nodeBefore fuel .block (.blockEntry :: endsEntry)
      freeItems fuel (read ++ [item])
    | _ => pure read

/-- The entries of a block mapping up to its end, after those in `read`. -/
def blockEntries : Nat → List (Node × Node) → Reader (List (Node × Node))
  | 0, _ => fail
  | fuel + 1, read => do
    match ← peek with
    | .key => do
      skip
      let key ← nodeBefore fuel .entry endsEntry
      let value ← valueBefore fuel .entry endsEntry
      blockEntries fuel (read ++ [(key, value)])
    | .blockEnd => skip; pure read
    | _ => fail

/-- The items of a flow sequence up to its end, after those in `read`. -/
def flowItems : Nat → Bool → List Node → Reader (List Node)
  | 0, _, _ => fail
  | fuel + 1, first, read => do
    if (← peek) = .flowSequenceEnd then
      skip
      pure read
    else
      if !first then
        if (← peek) = .flowEntry then skip else fail
      match ← peek with
      | .flowSequenceEnd => skip; pure read
      | .key => do
        skip
        let key ← nodeBefore fuel .flow (.value :: endsFlowPair)
        let value ← valueBefore fuel .flow endsFlowPair
        flowItems fuel false (read ++ [← mapping .mapping [(key, value)]])
      | _ => do
        let item ← node fuel .flow
        flowItems fuel false (read ++ [item])

/-- The entries of a flow mapping up to its end, after those in `read`. A node alone is a key. -/
def flowEntries : Nat → Bool → List (Node × Node) → Reader (List (Node × Node))
  | 0, _, _ => fail
  | fuel + 1, first, read => do
    if (← peek) = .flowMappingEnd then
      skip
      pure read
    else
      if !first then
        if (← peek) = .flowEntry then skip else fail
      match ← peek with
      | .flowMappingEnd => skip; pure read
      | .key => do
        skip
        let key ← nodeBefore fuel .flow (.value :: endsFlowEntry)
        let value ← valueBefore fuel .flow endsFlowEntry
        flowEntries fuel false (read ++ [(key, value)])
      | _ => do
        let key ← node fuel .flow
        flowEntries fuel false (read ++ [(key, Node.absent)])

end

/-! ### Documents -/

/-- The handles that every document knows. -/
def commonHandles : List (String × String) :=
  [("!", "!"), ("!!", Tag.commonStart)]

/-- The directives before a document: at most one version, which must be 1, and handles with different
    names. The result holds the handles. -/
def directives : Nat → Bool → List (String × String) → Reader (List (String × String))
  | 0, _, handles => pure handles
  | bound + 1, versioned, handles => do
    match ← peek with
    | .directive (.version major) =>
      if versioned || major ≠ 1 then fail
      skip
      directives bound true handles
    | .directive (.handle name start) =>
      if (handles.lookup name).isSome then fail
      skip
      directives bound versioned ((name, start) :: handles)
    | .directive .other => skip; directives bound versioned handles
    | _ => pure handles

/-- Goes over the marks for the end of a document, after which nothing else may follow. -/
def onlyEnds : Nat → Reader Unit
  | 0 => pure ()
  | bound + 1 => do
    match ← peek with
    | .documentEnd => skip; onlyEnds bound
    | .streamEnd => pure ()
    | _ => fail

/-- The node of the only document, if there is one. -/
def document (fuel : Nat) : Reader (Option Node) := do
  let node ← match ← peek with
    | .streamEnd => pure none
    | .directive _ | .documentStart => do
      let handles ← directives fuel false []
      modify ({ · with handles := handles ++ commonHandles })
      if (← peek) ≠ .documentStart then fail
      skip
      match ← peek with
      | .directive _ | .documentStart | .documentEnd | .streamEnd => pure (some Node.absent)
      | _ => some <$> node fuel .block
    | _ => do
      modify ({ · with handles := commonHandles })
      some <$> node fuel .block
  onlyEnds fuel
  pure node

end Reader

/-- The node of the only document in a text, if there is one. -/
def ofTokens (tokens : Tokens) : Except Defect (Option Node) :=
  (Reader.document (4 * tokens.read.length + 4)).run' { tokens := tokens.read, defect := tokens.defect }

end Node

end Crosswalk.Document.Yaml
