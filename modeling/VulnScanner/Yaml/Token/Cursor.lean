import VulnScanner.Yaml.Token

/-!
# A place in a YAML text

The cursor knows the text before it only by its index, line and column, and the structure that is
open around it by indentation and nesting. A mapping key without a mark of its own is known to be
one only when the colon behind it is met; until then its place is kept among the pending keys.
-/

namespace VulnScanner.Yaml

/-- A token that will turn out to be a key if a colon follows it. -/
structure PendingKey where
  /-- The nesting of brackets at the token. -/
  level : Nat
  /-- The number of the token. -/
  token : Nat
  /-- The token has to be a key, since nothing else may begin in its column. -/
  isRequired : Bool
  index : Nat
  line : Nat
  column : Nat
  deriving Repr

/-- A place in a text, and what is known there. -/
structure Cursor where
  rest : List Char
  index : Nat := 0
  line : Nat := 0
  column : Nat := 0
  /-- The nesting of brackets. -/
  level : Nat := 0
  /-- The column of the innermost block collection. -/
  indent : Int := -1
  /-- The columns of the block collections around it, innermost first. -/
  outerIndents : List Int := []
  /-- Whether a key may begin here. -/
  keyAllowed : Bool := true
  pending : List PendingKey := []
  /-- The tokens so far, latest last. -/
  tokens : List Token := []

/-- A step through the text. -/
abbrev ScanM := StateT Cursor (Except Error)

namespace Scan

/-- Gives up. -/
def malformed {α : Type} : ScanM α := throw .malformed

/-- Goes on only if the condition holds. -/
def require (condition : Bool) : ScanM Unit := if condition then return else malformed

/-- The next character. -/
def peek : ScanM (Option Char) := return (← get).rest.head?

/-- The character `n` places ahead. -/
def peekAt (n : Nat) : ScanM (Option Char) := return (← get).rest[n]?

/-- Moves over one character. -/
def Cursor.step (s : Cursor) : Cursor :=
  match s.rest with
  | [] => s
  | c :: rest =>
    if c = '\r' && rest.head? = some '\n' then
      { s with rest := rest, index := s.index + 1, column := s.column + 1 }
    else if isBreak c then
      { s with rest := rest, index := s.index + 1, line := s.line + 1, column := 0 }
    else if c = '\ufeff' then { s with rest := rest, index := s.index + 1 }
    else { s with rest := rest, index := s.index + 1, column := s.column + 1 }

/-- Moves over some characters. -/
def Cursor.stepBy (s : Cursor) : Nat → Cursor
  | 0 => s
  | n + 1 => Cursor.stepBy (Cursor.step s) n

/-- Moves over some characters. -/
def forward (n : Nat) : ScanM Unit := modify fun s ↦ Cursor.stepBy s n

/-- Takes the characters up to the first one without a property. -/
def takeWhile (p : Char → Bool) : ScanM (List Char) := do
  let word := (← get).rest.takeWhile p
  forward word.length
  return word

/-- Moves over spaces. -/
def skipSpaces : ScanM Unit := do
  let _ ← takeWhile (· = ' ')

/-- Moves to the end of the line if a comment begins here. -/
def skipComment : ScanM Unit := do
  if (← peek) = some '#' then
    let _ ← takeWhile (!isBreak ·)

/-- Moves over a line break, if there is one, and returns what it stands for. -/
def takeBreak : ScanM (List Char) := do
  match (← get).rest with
  | '\r' :: '\n' :: _ =>
    forward 2
    return ['\n']
  | c :: _ =>
    if c = '\u2028' || c = '\u2029' then
      forward 1
      return [c]
    else if isBreak c then
      forward 1
      return ['\n']
    else return []
  | [] => return []

/-- Requires that nothing but a comment follows on the line, and moves to the next one. -/
def finishLine : ScanM Unit := do
  skipSpaces
  skipComment
  require (endsLine (← peek))
  let _ ← takeBreak

/-- Whether a mark of three characters that separates documents stands here. -/
def atSeparator : ScanM Bool := do
  let rest := (← get).rest
  let mark := rest.take 3
  return (mark = ['-', '-', '-'] || mark = ['.', '.', '.']) && endsItem rest[3]?

/-- Appends a token. -/
def emit (token : Token) : ScanM Unit :=
  modify fun s ↦ { s with tokens := s.tokens ++ [token] }

/-- Closes the block collections that are indented more than a column. -/
def closeBlocks (column : Int) : List Int → Cursor → Cursor
  | [], s => s
  | outer :: more, s =>
    if column < s.indent then
      closeBlocks column more
        { s with indent := outer, outerIndents := more, tokens := s.tokens ++ [.blockEnd] }
    else s

/-- Closes the block collections that end before a column. Brackets know no indentation. -/
def unwind (column : Int) : ScanM Unit := do
  let s ← get
  if s.level = 0 then set (closeBlocks column s.outerIndents s)

/-- Opens a block collection at a column if it is indented more than the one around it. -/
def openBlock (column : Nat) : ScanM Bool := do
  let s ← get
  if s.indent < column then
    set { s with indent := column, outerIndents := s.indent :: s.outerIndents }
    return true
  else return false

/-- Whether a pending key can no longer become a key: a key stands on one line and is not too
long. -/
def PendingKey.isStale (s : Cursor) (key : PendingKey) : Bool :=
  key.line ≠ s.line || 1024 < s.index - key.index

/-- Gives up the pending keys that are stale. -/
def dropStale : ScanM Unit := do
  let s ← get
  let (stale, pending) := s.pending.partition (PendingKey.isStale s)
  require (!stale.any (·.isRequired))
  set { s with pending := pending }

/-- Gives up the pending key on the current level. -/
def dropPending : ScanM Unit := do
  let s ← get
  let (dropped, pending) := s.pending.partition (·.level == s.level)
  require (!dropped.any (·.isRequired))
  set { s with pending := pending }

/-- Notes that the next token may be a key. -/
def savePending : ScanM Unit := do
  if (← get).keyAllowed then
    dropPending
    modify fun s ↦
      let key : PendingKey :=
        { level := s.level
          token := s.tokens.length
          isRequired := s.level = 0 && s.indent = s.column
          index := s.index
          line := s.line
          column := s.column }
      { s with pending := s.pending ++ [key] }

/-- Says whether a key may begin behind the next token. -/
def allowKey (allowed : Bool) : ScanM Unit := modify fun s ↦ { s with keyAllowed := allowed }

/-- Puts a token in front of the token with a number. -/
def insertToken (number : Nat) (token : Token) : ScanM Unit :=
  modify fun s ↦ { s with tokens := s.tokens.take number ++ token :: s.tokens.drop number }

end Scan
end VulnScanner.Yaml
