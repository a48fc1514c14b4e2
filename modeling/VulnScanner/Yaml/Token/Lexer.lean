import VulnScanner.Yaml.Token.Scalar

/-!
# Cutting a YAML text into tokens

`Token.scan` gives the tokens of a text up to the first place where it breaks the rules, together
with the error found there, if any.
-/

namespace VulnScanner.Yaml

namespace Scan

/-- Moves over blanks, comments and line breaks. Outside of brackets a key may begin on a new line.
-/
def skipToToken : Nat → ScanM Unit
  | 0 => return
  | steps + 1 => do
    skipSpaces
    skipComment
    if (← peek).any isBreak then
      let _ ← takeBreak
      if (← get).level = 0 then allowKey true
      skipToToken steps

/-- Closes everything that is open, before a mark in the first column. -/
def closeAll : ScanM Unit := do
  unwind (-1)
  dropPending
  allowKey false

/-- Opens a collection in brackets. -/
def openFlow (token : Token) : ScanM Unit := do
  savePending
  modify fun s ↦ { s with level := s.level + 1, keyAllowed := true }
  forward 1
  emit token

/-- Closes a collection in brackets. -/
def closeFlow (token : Token) : ScanM Unit := do
  dropPending
  modify fun s ↦ { s with level := s.level - 1, keyAllowed := false }
  forward 1
  emit token

/-- Outside of brackets: requires that a key may begin here and opens a block collection if one
begins here. -/
def beginBlock (token : Token) : ScanM Unit := do
  let s ← get
  if s.level = 0 then
    require s.keyAllowed
    if ← openBlock s.column then emit token

/-- Reads the dash of an item. -/
def takeBlockEntry : ScanM Unit := do
  beginBlock .blockSequence
  allowKey true
  dropPending
  forward 1
  emit .blockEntry

/-- Reads the question mark of a key. -/
def takeKey : ScanM Unit := do
  beginBlock .blockMapping
  allowKey ((← get).level = 0)
  dropPending
  forward 1
  emit .key

/-- Reads the colon of a value. A pending key becomes a key. -/
def takeValue : ScanM Unit := do
  let s ← get
  match s.pending.find? (·.level == s.level) with
  | some key =>
    set { s with pending := s.pending.filter (·.level != s.level) }
    insertToken key.token .key
    if s.level = 0 then
      if ← openBlock key.column then insertToken key.token .blockMapping
    allowKey false
  | none =>
    beginBlock .blockMapping
    allowKey (s.level = 0)
    dropPending
  forward 1
  emit .value

/-- Reads a token that may be a key. -/
def takeNode (read : ScanM Token) : ScanM Unit := do
  savePending
  allowKey false
  emit (← read)

/-- Whether a plain scalar may begin with `c` in front of `next`. -/
def startsPlain (inFlow : Bool) (c : Char) (next : Option Char) : Bool :=
  (!endsItem (some c) && !"-?:,[]\x7b\x7d#&*!|>\x27\x22%@\x60".toList.contains c) ||
    (!endsItem next && (c = '-' || (!inFlow && (c = '?' || c = ':'))))

/-- Reads the next token. The result tells whether there are more. -/
def takeToken : ScanM Bool := do
  let s ← get
  if s.index = 0 && s.rest.head? = some '\ufeff' then forward 1
  skipToToken (← enoughSteps)
  dropStale
  unwind (← get).column
  let s ← get
  let inFlow := s.level ≠ 0
  let next := s.rest[1]?
  match s.rest with
  | [] =>
    closeAll
    modify fun s ↦ { s with pending := [] }
    emit .streamEnd
    return false
  | c :: _ =>
    if c = '%' && s.column = 0 then
      closeAll
      emit (.directive (← takeDirective))
    else if (c = '-' || c = '.') && s.column = 0 && (← atSeparator) then
      closeAll
      forward 3
      emit (if c = '-' then .documentStart else .documentEnd)
    else if c = '[' then openFlow .flowSequence
    else if c = '\x7b' then openFlow .flowMapping
    else if c = ']' then closeFlow .flowSequenceEnd
    else if c = '\x7d' then closeFlow .flowMappingEnd
    else if c = ',' then
      allowKey true
      dropPending
      forward 1
      emit .flowEntry
    else if c = '-' && endsItem next then takeBlockEntry
    else if c = '?' && (inFlow || endsItem next) then takeKey
    else if c = ':' && (inFlow || endsItem next) then takeValue
    else if c = '*' then takeNode (return .reference (← takeName))
    else if c = '&' then takeNode (return .anchor (← takeName))
    else if c = '!' then takeNode takeTag
    else if (c = '|' || c = '>') && !inFlow then
      allowKey true
      dropPending
      emit (← takeBlockScalar (c = '>'))
    else if c = '\x27' || c = '\x22' then takeNode (takeQuoted (c = '\x22'))
    else if startsPlain inFlow c next then takeNode takePlain
    else malformed
    return true

/-- Reads tokens up to the end or the first error, which stands beside the tokens before it. -/
def takeTokens : Nat → Cursor → List Token × Option Error
  | 0, s => (s.tokens, some .malformed)
  | steps + 1, s =>
    match takeToken.run s with
    | .error e => (s.tokens, some e)
    | .ok (true, s) => takeTokens steps s
    | .ok (false, s) => (s.tokens, none)

end Scan

/-- The tokens of a text up to the first error, and that error. -/
def Token.scan (text : List Char) : List Token × Option Error :=
  Scan.takeTokens (text.length + 2) { rest := text }

end VulnScanner.Yaml
