import VulnScanner.Octets.Utf8
import VulnScanner.Text.Hex
import VulnScanner.Yaml.Token.Cursor

/-!
# Scalars, names and tags in a YAML text

Block scalars keep or fold their lines, quoted scalars fold them, and plain scalars end where
something else begins. Loops take a bound on their steps first.
-/

namespace VulnScanner.Yaml.Scan

/-- A bound that is enough for every loop over the rest of the text. -/
def enoughSteps : ScanM Nat := return (← get).rest.length + 2

/-- Reads the name of an anchor or alias, behind its mark. -/
def takeName : ScanM String := do
  forward 1
  let name ← takeWhile isNameChar
  require (!name.isEmpty)
  let next ← peek
  require (endsItem next || next.any fun c ↦ "?:,]\x7d%@\x60".toList.contains c)
  return String.ofList name

/-- Reads octets that are written with percent signs. -/
def takeOctets : Nat → ScanM (List UInt8)
  | 0 => return []
  | steps + 1 => do
    match (← get).rest with
    | '%' :: a :: b :: _ =>
      match Text.hexValue? a, Text.hexValue? b with
      | some high, some low =>
        forward 3
        return UInt8.ofNat (16 * high + low) :: (← takeOctets steps)
      | _, _ => malformed
    | '%' :: _ => malformed
    | _ => return []

/-- Reads the text of a tag. -/
def takeTagText : Nat → ScanM (List Char)
  | 0 => return []
  | steps + 1 => do
    let word ← takeWhile fun c ↦ isTagChar c && c ≠ '%'
    if (← peek) = some '%' then
      let octets ← takeOctets steps
      match Octets.decode octets with
      | .ok s => return word ++ s.toList ++ (← takeTagText steps)
      | .error _ => malformed
    else return word

/-- Reads the text of a tag, which is not empty. -/
def takeTagTail : ScanM String := do
  let text ← takeTagText (← enoughSteps)
  require (!text.isEmpty)
  return String.ofList text

/-- Reads the handle of a tag. -/
def takeTagHandle : ScanM String := do
  require ((← peek) = some '!')
  forward 1
  if (← peek) = some ' ' then return "!"
  let name ← takeWhile isNameChar
  require ((← peek) = some '!')
  forward 1
  return String.ofList ('!' :: name ++ ['!'])

/-- Reads a tag. -/
def takeTag : ScanM Token := do
  let next ← peekAt 1
  let token ←
    if next = some '<' then
      forward 2
      let text ← takeTagTail
      require ((← peek) = some '>')
      forward 1
      pure (Token.tag none text)
    else if endsItem next then
      forward 1
      pure (Token.tag none "!")
    else
      let word := ((← get).rest.drop 1).takeWhile fun c ↦ !endsWord (some c)
      if word.contains '!' then
        let handle ← takeTagHandle
        pure (Token.tag (some handle) (← takeTagTail))
      else
        forward 1
        pure (Token.tag (some "!") (← takeTagTail))
  require (endsWord (← peek))
  return token

/-- Reads a number of a directive. -/
def takeVersionPart : ScanM Nat := do
  let digits ← takeWhile fun c ↦ '0' ≤ c && c ≤ '9'
  require (!digits.isEmpty)
  if Number.digitLimit < digits.length then throw (.integer (.tooLong digits.length))
  return digits.foldl (fun n c ↦ 10 * n + (c.toNat - 48)) 0

/-- Reads a directive. -/
def takeDirective : ScanM Directive := do
  forward 1
  let name ← takeWhile isNameChar
  require (!name.isEmpty && endsWord (← peek))
  let directive ←
    if name = ['Y', 'A', 'M', 'L'] then
      skipSpaces
      let major ← takeVersionPart
      require ((← peek) = some '.')
      forward 1
      let minor ← takeVersionPart
      require (endsWord (← peek))
      pure (Directive.version major minor)
    else if name = ['T', 'A', 'G'] then
      skipSpaces
      let handle ← takeTagHandle
      require ((← peek) = some ' ')
      skipSpaces
      let text ← takeTagTail
      require (endsWord (← peek))
      pure (Directive.tag handle text)
    else
      let _ ← takeWhile (!isBreak ·)
      pure Directive.other
  finishLine
  return directive

/-! ## Block scalars -/

/-- What becomes of the line breaks at the end of a block scalar. -/
inductive Chomping where
  | strip
  | clip
  | keep
  deriving DecidableEq

/-- Reads how to treat final line breaks, if it is said. -/
def takeChomping? : ScanM (Option Chomping) := do
  match ← peek with
  | some '+' =>
    forward 1
    return some .keep
  | some '-' =>
    forward 1
    return some .strip
  | _ => return none

/-- Reads the additional indentation, if it is given. -/
def takeIncrement? : ScanM (Option Nat) := do
  match ← peek with
  | some c =>
    if '0' ≤ c && c ≤ '9' then
      require (c ≠ '0')
      forward 1
      return some (c.toNat - 48)
    else return none
  | none => return none

/-- Reads the header of a block scalar. -/
def takeHeader : ScanM (Chomping × Option Nat) := do
  forward 1
  let first ← takeChomping?
  let increment ← takeIncrement?
  let second ← if first.isNone && increment.isSome then takeChomping? else pure none
  require (endsWord (← peek))
  finishLine
  return ((first <|> second).getD .clip, increment)

/-- Moves over empty lines at the start of a block scalar; returns their breaks and the largest
indentation met, given those so far. -/
def takeIndentation : Nat → List Char → Nat → ScanM (List Char × Nat)
  | 0, breaks, deepest => return (breaks, deepest)
  | steps + 1, breaks, deepest => do
    match ← peek with
    | some c =>
      if c = ' ' then
        forward 1
        takeIndentation steps breaks (max deepest (← get).column)
      else if isBreak c then takeIndentation steps (breaks ++ (← takeBreak)) deepest
      else return (breaks, deepest)
    | none => return (breaks, deepest)

/-- Moves over spaces up to a column. -/
def skipIndent (column : Nat) : ScanM Unit := do
  let s ← get
  forward (min (column - s.column) (s.rest.takeWhile (· = ' ')).length)

/-- Moves over empty lines inside of a block scalar and returns their breaks. -/
def takeBreaks (column : Nat) : Nat → ScanM (List Char)
  | 0 => return []
  | steps + 1 => do
    skipIndent column
    if (← peek).any isBreak then
      let b ← takeBreak
      return b ++ (← takeBreaks column steps)
    else return []

/-- What ends a block scalar: its last line break and the breaks of the empty lines behind it. -/
structure BlockTail where
  text : List Char
  lastBreak : List Char
  breaks : List Char

/-- Reads the lines of a block scalar that are indented up to `column`. -/
def takeLines (isFolded : Bool) (column : Nat) : Nat → BlockTail → ScanM BlockTail
  | 0, tail => return tail
  | steps + 1, tail => do
    let s ← get
    if s.column ≠ column || s.rest.isEmpty then return tail
    let startsFlush := !((← peek).any fun c ↦ c = ' ' || c = '\t')
    let line ← takeWhile (!isBreak ·)
    let text := tail.text ++ tail.breaks ++ line
    let lastBreak ← takeBreak
    let breaks ← takeBreaks column (steps + 1)
    let s ← get
    if s.column = column && !s.rest.isEmpty then
      let nextFlush := !((← peek).any fun c ↦ c = ' ' || c = '\t')
      let joint :=
        if isFolded && lastBreak = ['\n'] && startsFlush && nextFlush then
          (if breaks.isEmpty then [' '] else [])
        else lastBreak
      takeLines isFolded column steps ⟨text ++ joint, lastBreak, breaks⟩
    else return ⟨text, lastBreak, breaks⟩

/-- Reads a block scalar. -/
def takeBlockScalar (isFolded : Bool) : ScanM Token := do
  let (chomping, increment) ← takeHeader
  let least := ((← get).indent + 1).toNat
  let least := max least 1
  let steps ← enoughSteps
  let (column, breaks) ← match increment with
    | none =>
      let (breaks, deepest) ← takeIndentation steps [] 0
      pure (max least deepest, breaks)
    | some n =>
      let column := least + n - 1
      let breaks ← takeBreaks column steps
      pure (column, breaks)
  let tail ← takeLines isFolded column steps ⟨[], [], breaks⟩
  let ending := match chomping with
    | .strip => []
    | .clip => tail.lastBreak
    | .keep => tail.lastBreak ++ tail.breaks
  return .scalar (String.ofList (tail.text ++ ending)) false

/-! ## Quoted scalars -/

/-- Letters that stand for one character behind a backslash. -/
def escapes : List (Char × Char) :=
  [('0', '\x00'), ('a', '\x07'), ('b', '\x08'), ('t', '\t'), ('\t', '\t'), ('n', '\n'),
   ('v', '\x0b'), ('f', '\x0c'), ('r', '\r'), ('e', '\x1b'), (' ', ' '), ('\x22', '\x22'),
   ('\\', '\\'), ('/', '/'), ('N', '\u0085'), ('_', '\u00a0'), ('L', '\u2028'), ('P', '\u2029')]

/-- The number of digits behind letters that announce a code point. -/
def escapeWidth? : Char → Option Nat
  | 'x' => some 2
  | 'u' => some 4
  | 'U' => some 8
  | _ => none

/-- Code points that are no characters by themselves. -/
def isSurrogate (n : Nat) : Bool := 0xd800 ≤ n && n ≤ 0xdfff

/-- Moves over blanks and line breaks inside of a quoted scalar and returns the breaks. -/
def takeQuotedBreaks : Nat → ScanM (List Char)
  | 0 => return []
  | steps + 1 => do
    require (!(← atSeparator))
    let _ ← takeWhile fun c ↦ c = ' ' || c = '\t'
    if (← peek).any isBreak then
      let b ← takeBreak
      return b ++ (← takeQuotedBreaks steps)
    else return []

/-- Reads an escape behind its backslash. No text can hold a surrogate, so that an escape for one is
refused. -/
def takeEscape (steps : Nat) : ScanM (List Char) := do
  match ← peek with
  | none => malformed
  | some c =>
    match escapes.lookup c, escapeWidth? c with
    | some d, _ =>
      forward 1
      return [d]
    | none, some width =>
      forward 1
      match Text.hexNumber? ((← get).rest.take width) with
      | some n =>
        require (width ≤ (← get).rest.length)
        if 0x10ffff < n then throw (.codePoint n)
        require (!isSurrogate n)
        forward width
        return [Char.ofNat n]
      | none => malformed
    | none, none =>
      require (isBreak c)
      let _ ← takeBreak
      takeQuotedBreaks steps

/-- Reads the part of a quoted scalar up to its end or the next blank. -/
def takeQuotedWord (isDouble : Bool) : Nat → ScanM (List Char)
  | 0 => return []
  | steps + 1 => do
    match (← get).rest with
    | [] => return []
    | c :: rest =>
      if isBreak c || c = ' ' || c = '\t' then return []
      else if c = '\x27' then
        if isDouble then
          forward 1
          return c :: (← takeQuotedWord isDouble steps)
        else if rest.head? = some '\x27' then
          forward 2
          return c :: (← takeQuotedWord isDouble steps)
        else return []
      else if isDouble && c = '\x22' then return []
      else if isDouble && c = '\\' then
        forward 1
        let word ← takeEscape steps
        return word ++ (← takeQuotedWord isDouble steps)
      else
        forward 1
        return c :: (← takeQuotedWord isDouble steps)

/-- Reads the blanks between two words of a quoted scalar: a single line break becomes a space. -/
def takeQuotedGap (steps : Nat) : ScanM (List Char) := do
  let blanks ← takeWhile fun c ↦ c = ' ' || c = '\t'
  match ← peek with
  | none => malformed
  | some c =>
    if isBreak c then
      let b ← takeBreak
      let breaks ← takeQuotedBreaks steps
      return (if b ≠ ['\n'] then b else if breaks.isEmpty then [' '] else []) ++ breaks
    else return blanks

/-- Reads the rest of a quoted scalar, up to and with its closing quote. -/
def takeQuotedRest (isDouble : Bool) : Nat → List Char → ScanM (List Char)
  | 0, text => return text
  | steps + 1, text => do
    let word ← takeQuotedWord isDouble (steps + 1)
    if (← peek) = some (if isDouble then '\x22' else '\x27') then
      forward 1
      return text ++ word
    else
      let gap ← takeQuotedGap (steps + 1)
      takeQuotedRest isDouble steps (text ++ word ++ gap)

/-- Reads a quoted scalar. -/
def takeQuoted (isDouble : Bool) : ScanM Token := do
  forward 1
  let text ← takeQuotedRest isDouble (← enoughSteps) []
  return .scalar (String.ofList text) false

/-! ## Plain scalars -/

/-- The length of the next word of a plain scalar. -/
def plainLength (inFlow : Bool) : List Char → Nat
  | [] => 0
  | c :: rest =>
    if endsItem (some c) then 0
    else if c = ':' && (endsItem rest.head? || (inFlow && rest.head?.any isFlowIndicator)) then 0
    else if inFlow && (isFlowIndicator c || c = '?') then 0
    else plainLength inFlow rest + 1

/-- Moves over the empty lines inside of a plain scalar. Nothing is returned when a mark that
separates documents stops it. -/
def takePlainBreaks : Nat → List Char → ScanM (Option (List Char))
  | 0, breaks => return some breaks
  | steps + 1, breaks => do
    match ← peek with
    | none => return some breaks
    | some c =>
      if c = ' ' then
        forward 1
        takePlainBreaks steps breaks
      else if isBreak c then
        let b ← takeBreak
        if ← atSeparator then return none else takePlainBreaks steps (breaks ++ b)
      else return some breaks

/-- Reads the gap behind a word of a plain scalar; it is empty when the scalar ends there. -/
def takePlainGap (steps : Nat) : ScanM (List Char) := do
  let blanks ← takeWhile (· = ' ')
  if (← peek).any isBreak then
    let b ← takeBreak
    allowKey true
    if ← atSeparator then return []
    match ← takePlainBreaks steps [] with
    | none => return []
    | some breaks =>
      return (if b ≠ ['\n'] then b else if breaks.isEmpty then [' '] else []) ++ breaks
  else return blanks

/-- Reads the words of a plain scalar behind `text` and the gap `gap`. -/
def takePlainWords (indent : Int) : Nat → List Char → List Char → ScanM (List Char)
  | 0, text, _ => return text
  | steps + 1, text, gap => do
    let s ← get
    let length := plainLength (s.level ≠ 0) s.rest
    if (← peek) = some '#' || length = 0 then return text
    allowKey false
    let word := s.rest.take length
    forward length
    let text := text ++ gap ++ word
    let gap ← takePlainGap (steps + 1)
    let s ← get
    if gap.isEmpty || s.rest.head? = some '#' || (s.level = 0 && s.column < indent) then
      return text
    else takePlainWords indent steps text gap

/-- Reads a plain scalar. -/
def takePlain : ScanM Token := do
  let text ← takePlainWords ((← get).indent + 1) (← enoughSteps) [] []
  return .scalar (String.ofList text) true

end VulnScanner.Yaml.Scan
