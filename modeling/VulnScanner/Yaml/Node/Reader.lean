import VulnScanner.Platform
import VulnScanner.Yaml.Node
import VulnScanner.Yaml.Token.Lexer

/-!
# Building nodes from tokens

The grammar of block and flow collections. Every function takes a bound on its steps first;
`Document.read` supplies one that is large enough. A text holds at most one document.
-/

namespace VulnScanner.Yaml

/-- What is left of the tokens, and what is known of the document. -/
structure Builder where
  tokens : List Token
  /-- The error behind the last token. -/
  ending : Option Error
  handles : List (String × String)
  /-- The anchors met so far; a name stands here before its node is complete. -/
  names : List String
  anchors : List (String × Node)
  /-- How many more collections may be open. -/
  room : Nat

/-- A step of building. -/
abbrev BuildM := StateT Builder (Except Error)

namespace Build

/-- The next token. -/
def peek : BuildM Token := do
  let b ← get
  match b.tokens with
  | token :: _ => return token
  | [] => throw (b.ending.getD .malformed)

/-- Consumes the next token. -/
def advance : BuildM Unit := modify fun b ↦ { b with tokens := b.tokens.tail }

/-- Consumes the next token if it is the given one. -/
def accept (token : Token) : BuildM Bool := do
  if (← peek) = token then
    advance
    return true
  else return false

/-- Requires a token. -/
def expect (token : Token) : BuildM Unit := do
  if !(← accept token) then throw .malformed

/-- Whether the next token is one of some. -/
def nextIs (tokens : List Token) : BuildM Bool := return tokens.contains (← peek)

/-- The handles that every document has. -/
def standardHandles : List (String × String) := [("!", "!"), ("!!", Tag.standardSpace)]

/-- An empty plain scalar. -/
def empty : Node := .scalar none .null ""

/-- Reads an anchor and a tag in either order. -/
def readProperties : BuildM (Option String × Option (Option String × String)) := do
  match ← peek with
  | .anchor name =>
    advance
    match ← peek with
    | .tag handle text =>
      advance
      return (some name, some (handle, text))
    | _ => return (some name, none)
  | .tag handle text =>
    advance
    match ← peek with
    | .anchor name =>
      advance
      return (some name, some (handle, text))
    | _ => return (none, some (handle, text))
  | _ => return (none, none)

/-- The full name of a tag. A lone exclamation mark asks for the tag that the text suggests. -/
def resolveTag : Option (Option String × String) → BuildM (Option String)
  | none => return none
  | some (none, text) => return some text
  | some (some handle, text) => do
    match (← get).handles.lookup handle with
    | some start => return some (start ++ text)
    | none => throw .malformed

/-- Notes an anchor, which must be new. -/
def declare : Option String → BuildM Unit
  | none => return
  | some name => do
    if (← get).names.contains name then throw .malformed
    modify fun b ↦ { b with names := name :: b.names }

/-- Notes the complete node of an anchor. -/
def record (node : Node) : BuildM Node := do
  if let some name := node.anchor? then
    modify fun b ↦ { b with anchors := b.anchors ++ [(name, node)] }
  return node

/-- Runs a step one level of collections further in. -/
def inside {α : Type} (step : BuildM α) : BuildM α := do
  let room := (← get).room
  if room = 0 then throw .tooDeep
  modify fun b ↦ { b with room := room - 1 }
  let result ← step
  modify fun b ↦ { b with room := room }
  return result

/-- The tag of a node, given the one it has if none is written. -/
def tagOr (tag : Option String) (default : Tag) : Tag :=
  match tag with
  | none => default
  | some "!" => default
  | some name => .ofName name

mutual

/-- Reads a node. A block collection may begin only where `isBlock` holds, and a sequence without
an indentation of its own only where `indentless` holds. -/
def readNode : Nat → Bool → Bool → BuildM Node
  | 0, _, _ => throw .malformed
  | steps + 1, isBlock, indentless => do
    if let .reference name ← peek then
      advance
      if !(← get).names.contains name then throw .malformed
      return .reference name
    let (anchor, written) ← readProperties
    let tag ← resolveTag written
    let next ← peek
    if indentless && next = .blockEntry then
      declare anchor
      record (.sequence anchor (tagOr tag .sequence) (← inside (readIndentless steps)))
    else
      match next with
      | .scalar text isPlain =>
        advance
        declare anchor
        let suggested := if isPlain || tag = some "!" then Tag.ofPlain text else .text
        record (.scalar anchor (tagOr tag suggested) text)
      | .flowSequence =>
        advance
        declare anchor
        record (.sequence anchor (tagOr tag .sequence) (← inside (readFlowItems steps true)))
      | .flowMapping =>
        advance
        declare anchor
        record (.mapping anchor (tagOr tag .mapping) (← inside (readFlowEntries steps true)))
      | .blockSequence =>
        if isBlock then
          advance
          declare anchor
          record (.sequence anchor (tagOr tag .sequence) (← inside (readBlockItems steps)))
        else emptyNode anchor tag
      | .blockMapping =>
        if isBlock then
          advance
          declare anchor
          record (.mapping anchor (tagOr tag .mapping) (← inside (readBlockEntries steps)))
        else emptyNode anchor tag
      | _ => emptyNode anchor tag

/-- A node without content, which needs an anchor or a tag. -/
def emptyNode (anchor tag : Option String) : BuildM Node := do
  if anchor.isNone && tag.isNone then throw .malformed
  declare anchor
  record (.scalar anchor (tagOr tag .null) "")

/-- Reads the items of a block sequence. -/
def readBlockItems : Nat → BuildM (List Node)
  | 0 => throw .malformed
  | steps + 1 => do
    if ← accept .blockEntry then
      let item ← if ← nextIs [.blockEntry, .blockEnd] then pure empty
        else readNode steps true false
      return item :: (← readBlockItems steps)
    else
      expect .blockEnd
      return []

/-- Reads the items of a sequence without an indentation of its own. -/
def readIndentless : Nat → BuildM (List Node)
  | 0 => throw .malformed
  | steps + 1 => do
    if ← accept .blockEntry then
      let item ← if ← nextIs [.blockEntry, .key, .value, .blockEnd] then pure empty
        else readNode steps true false
      return item :: (← readIndentless steps)
    else return []

/-- Reads the entries of a block mapping. -/
def readBlockEntries : Nat → BuildM (List (Node × Node))
  | 0 => throw .malformed
  | steps + 1 => do
    if ← accept .blockEnd then return []
    let key ← if ← accept .key then
        if ← nextIs [.key, .value, .blockEnd] then pure empty else readNode steps true true
      else throw .malformed
    let value ← if ← accept .value then
        if ← nextIs [.key, .value, .blockEnd] then pure empty else readNode steps true true
      else pure empty
    return (key, value) :: (← readBlockEntries steps)

/-- Reads the items of a sequence in brackets. A pair of key and value is a mapping of its own. -/
def readFlowItems : Nat → Bool → BuildM (List Node)
  | 0, _ => throw .malformed
  | steps + 1, isFirst => do
    if ← accept .flowSequenceEnd then return []
    if !isFirst then expect .flowEntry
    if ← accept .key then
      let pair ← inside do
        let key ← if ← nextIs [.value, .flowEntry, .flowSequenceEnd] then pure empty
          else readNode steps false false
        let value ← if ← accept .value then
            if ← nextIs [.flowEntry, .flowSequenceEnd] then pure empty
            else readNode steps false false
          else pure empty
        return (key, value)
      return .mapping none .mapping [pair] :: (← readFlowItems steps false)
    else if ← accept .flowSequenceEnd then return []
    else
      let item ← readNode steps false false
      return item :: (← readFlowItems steps false)

/-- Reads the entries of a mapping in braces. -/
def readFlowEntries : Nat → Bool → BuildM (List (Node × Node))
  | 0, _ => throw .malformed
  | steps + 1, isFirst => do
    if ← accept .flowMappingEnd then return []
    if !isFirst then expect .flowEntry
    if ← accept .key then
      let key ← if ← nextIs [.value, .flowEntry, .flowMappingEnd] then pure empty
        else readNode steps false false
      let value ← if ← accept .value then
          if ← nextIs [.flowEntry, .flowMappingEnd] then pure empty
          else readNode steps false false
        else pure empty
      return (key, value) :: (← readFlowEntries steps false)
    else if ← accept .flowMappingEnd then return []
    else
      let key ← readNode steps false false
      return (key, empty) :: (← readFlowEntries steps false)

end

/-- What the directives of a document have said so far. -/
structure Preamble where
  hasVersion : Bool := false
  handles : List (String × String) := []

/-- Reads directives. -/
def readDirectives : Nat → Preamble → BuildM Preamble
  | 0, preamble => return preamble
  | steps + 1, preamble => do
    match ← peek with
    | .directive d =>
      advance
      match d with
      | .version major _ =>
        if preamble.hasVersion || major ≠ 1 then throw .malformed
        readDirectives steps { preamble with hasVersion := true }
      | .tag handle text =>
        if (preamble.handles.lookup handle).isSome then throw .malformed
        readDirectives steps { preamble with handles := preamble.handles ++ [(handle, text)] }
      | .other => readDirectives steps preamble
    | _ => return preamble

/-- Skips marks of the end of a document. -/
def skipEnds : Nat → BuildM Unit
  | 0 => return
  | steps + 1 => do
    if ← accept .documentEnd then skipEnds steps

/-- Whether the content of a document is missing. -/
def contentIsMissing : BuildM Bool := do
  match ← peek with
  | .directive _ => return true
  | .documentStart => return true
  | .documentEnd => return true
  | .streamEnd => return true
  | _ => return false

/-- Reads the content of a document behind its start, and requires that nothing follows. -/
def readContent (steps : Nat) : BuildM Document := do
  let root ← if ← contentIsMissing then pure empty else readNode steps true false
  skipEnds steps
  expect .streamEnd
  return ⟨root, (← get).anchors⟩

/-- Reads the one document of a text, if there is any. -/
def readDocument (steps : Nat) : BuildM (Option Document) := do
  let isExplicit ← match ← peek with
    | .directive _ => pure true
    | .documentStart => pure true
    | .streamEnd => return none
    | _ => pure false
  if isExplicit then
    let preamble ← readDirectives steps {}
    expect .documentStart
    modify fun b ↦ { b with handles := preamble.handles ++ standardHandles }
    return some (← readContent steps)
  else
    let root ← readNode steps true false
    skipEnds steps
    expect .streamEnd
    return some ⟨root, (← get).anchors⟩

end Build

/-- The document of a text, if it holds one. -/
def Document.read [Platform] (text : List Char) : Except Error (Option Document) := do
  if !text.all isAllowed then throw .malformed
  let (tokens, ending) := Token.scan text
  let start : Builder :=
    { tokens := tokens
      ending := ending
      handles := Build.standardHandles
      names := []
      anchors := []
      room := Platform.documentLevels text }
  let (document, _) ← (Build.readDocument (2 * tokens.length + 4)).run start
  return document

end VulnScanner.Yaml
