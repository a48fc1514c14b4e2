import VulnScanner.Data.Value
import VulnScanner.Number.Reader

/-!
# Reading JSON

`parse` reads one JSON document. Errors name what was expected and the position, which the wording
gives as line, column and character. The numbers `NaN`, `Infinity` and `-Infinity` are accepted; a
repeated name keeps its first place and its last value.
-/

namespace VulnScanner.Json

/-- What is wrong at a position of a document. -/
inductive Fault where
  | expectedValue
  | expectedName
  | expectedColon
  | expectedComma
  | unterminatedText
  | controlCharacter
  | invalidEscape
  | invalidUnicodeEscape
  | extraData
  | byteOrderMark
  deriving DecidableEq, Repr

/-- Why a text is no JSON document. -/
inductive Error where
  | malformed (fault : Fault) (position : Nat)
  /-- An integer has more digits than the limit. -/
  | numberTooLong (digits : Nat)
  deriving DecidableEq, Repr

/-- The wording of a fault. -/
def Fault.text : Fault → String
  | expectedValue => "Expecting value"
  | expectedName => "Expecting property name enclosed in double quotes"
  | expectedColon => "Expecting ':' delimiter"
  | expectedComma => "Expecting ',' delimiter"
  | unterminatedText => "Unterminated string starting at"
  | controlCharacter => "Invalid control character at"
  | invalidEscape => "Invalid \\escape"
  | invalidUnicodeEscape => "Invalid \\uXXXX escape"
  | extraData => "Extra data"
  | byteOrderMark => "Unexpected UTF-8 BOM (decode using utf-8-sig)"

/-- The wording of an error in the document `text`. -/
def Error.message (text : List Char) : Error → String
  | .malformed fault position =>
    let before := text.take position
    let line := before.count '\n' + 1
    let column := (before.reverse.takeWhile (· ≠ '\n')).length + 1
    s!"{fault.text}: line {line} column {column} (char {position})"
  | .numberTooLong digits => (Number.IntegerError.tooLong digits).message

/-- The rest of a document and the position where it begins. -/
structure Cursor where
  rest : List Char
  position : Nat
  deriving Repr

/-- The white space of JSON. -/
def isSpace (c : Char) : Bool := c == ' ' || c == '\t' || c == '\n' || c == '\r'

/-- Skips white space. -/
def skipSpaces (rest : List Char) (position : Nat) : Cursor :=
  match rest with
  | [] => ⟨[], position⟩
  | c :: tail => if isSpace c then skipSpaces tail (position + 1) else ⟨c :: tail, position⟩

/-- The value of four hexadecimal digits. -/
def fourDigits? (a b c d : Char) : Option Nat := Text.hexNumber? [a, b, c, d]

/-- Holds for the first halves of surrogate pairs. -/
def isHighSurrogate (n : Nat) : Bool := 0xd800 ≤ n && n < 0xdc00

/-- Holds for the second halves of surrogate pairs. -/
def isLowSurrogate (n : Nat) : Bool := 0xdc00 ≤ n && n < 0xe000

/-- The character of a code point; a lone surrogate has none and gives the replacement
character. -/
def charOf (n : Nat) : Char :=
  if 0xd800 ≤ n ∧ n < 0xe000 then '\ufffd' else Char.ofNat n

/-- The character that a one-letter escape stands for. -/
def simpleEscape? (c : Char) : Option Char :=
  if c = '\x22' ∨ c = '\\' ∨ c = '/' then some c
  else if c = 'b' then some '\x08'
  else if c = 'f' then some '\x0c'
  else if c = 'n' then some '\n'
  else if c = 'r' then some '\r'
  else if c = 't' then some '\t'
  else none

/-- The code point written by `\uXXXX` at `position`, where `rest` is what stands behind the `u`.
There must be something behind the digits. -/
def codeAt (position : Nat) (rest : List Char) : Except Error Nat :=
  match rest with
  | a :: b :: c :: d :: _ :: _ =>
    match fourDigits? a b c d with
    | some n => .ok n
    | none => .error (.malformed .invalidUnicodeEscape (position + 1))
  | _ => .error (.malformed .invalidUnicodeEscape (position + 1))

/-- The second half of a surrogate pair at `position`, if an escape with something behind it
stands there. -/
def secondHalf? (position : Nat) : List Char → Except Error (Option Nat)
  | '\\' :: 'u' :: a :: b :: c :: d :: _ :: _ =>
    match fourDigits? a b c d with
    | none => .error (.malformed .invalidUnicodeEscape (position + 1))
    | some m => .ok (if isLowSurrogate m then some m else none)
  | _ => .ok none

/-- The character that an escape at `position` stands for and the number of characters that it
takes up; `rest` is what stands behind the backslash. `start` is the position of the opening
quote. -/
def escapeAt (start position : Nat) : List Char → Except Error (Char × Nat)
  | [] => .error (.malformed .unterminatedText start)
  | 'u' :: rest => do
    let n ← codeAt position rest
    if !isHighSurrogate n then return (charOf n, 6)
    match ← secondHalf? (position + 6) (rest.drop 4) with
    | some m => return (Char.ofNat (0x10000 + (n - 0xd800) * 0x400 + (m - 0xdc00)), 12)
    | none => return (charOf n, 6)
  | c :: _ =>
    match simpleEscape? c with
    | some d => .ok (d, 2)
    | none => .error (.malformed .invalidEscape position)

/-- Reads the characters of a text up to its closing quote, leaving out the next `skip` ones.
`start` is the position of the opening quote and `position` that of the next character. -/
def readText (start : Nat) : Nat → Nat → List Char → Except Error (List Char × Cursor)
  | _, _, [] => .error (.malformed .unterminatedText start)
  | skip + 1, position, _ :: rest => readText start skip (position + 1) rest
  | 0, position, c :: rest =>
    if c = '\x22' then .ok ([], ⟨rest, position + 1⟩)
    else if c = '\\' then do
      let (d, width) ← escapeAt start position rest
      let (tail, cursor) ← readText start (width - 1) (position + 1) rest
      return (d :: tail, cursor)
    else if c.toNat < 0x20 then .error (.malformed .controlCharacter position)
    else do
      let (tail, cursor) ← readText start 0 (position + 1) rest
      return (c :: tail, cursor)

/-- The digits of a fraction with its point, and what follows; no digits, no fraction. -/
def splitFraction : List Char → List Char × List Char
  | '.' :: rest =>
    let (digits, tail) := Number.spanDigits rest
    if digits.isEmpty then ([], '.' :: rest) else (digits, tail)
  | rest => ([], rest)

/-- An exponent as its value, the number of its characters, and what follows. -/
def splitExponent? : List Char → Option (Int × Nat × List Char)
  | c :: rest =>
    if c = 'e' ∨ c = 'E' then
      let (negative, body) := Number.splitSign rest
      let (digits, tail) := Number.spanDigits body
      if digits.isEmpty then none
      else
        let n : Int := Number.digitsValue digits
        some (if negative then -n else n, 1 + (rest.length - body.length) + digits.length, tail)
    else none
  | [] => none

/-- The digits of the whole part of a number: a zero stands alone. -/
def splitWhole : List Char → List Char × List Char
  | '0' :: rest => (['0'], rest)
  | rest => Number.spanDigits rest

/-- Reads a number. -/
def readNumber (cursor : Cursor) : Except Error (Value × Cursor) :=
  let (negative, body) := match cursor.rest with
    | '-' :: rest => (true, rest)
    | rest => (false, rest)
  let (whole, rest) := splitWhole body
  if whole.isEmpty then .error (.malformed .expectedValue cursor.position)
  else
    let (fraction, rest) := splitFraction rest
    let exponent? := splitExponent? rest
    let rest := (exponent?.map (·.2.2)).getD rest
    let next : Cursor := ⟨rest, cursor.position + (cursor.rest.length - rest.length)⟩
    if fraction.isEmpty && exponent?.isNone then
      if Number.digitLimit < whole.length then .error (.numberTooLong whole.length)
      else
        let n : Int := Number.digitsValue whole
        .ok (.int (if negative then -n else n), next)
    else
      let exponent := (exponent?.map (·.1)).getD 0
      .ok (.float (.ofDecimal negative (Number.digitsValue (whole ++ fraction))
        (exponent - fraction.length)), next)

/-- Words that stand for a value. -/
def words : List (List Char × Value) :=
  [("null".toList, .null), ("true".toList, .bool true), ("false".toList, .bool false),
   ("NaN".toList, .float Binary64.nan), ("Infinity".toList, .float (.infinity false)),
   ("-Infinity".toList, .float (.infinity true))]

/-- Reads a word or a number. -/
def readScalar (cursor : Cursor) : Except Error (Value × Cursor) :=
  match words.find? fun w ↦ w.1.isPrefixOf cursor.rest with
  | some (word, value) =>
    .ok (value, ⟨cursor.rest.drop word.length, cursor.position + word.length⟩)
  | none => readNumber cursor

mutual

/-- Reads the value at the cursor. The first argument bounds the steps; the number of characters
is enough. -/
def readValue : Nat → Cursor → Except Error (Value × Cursor)
  | 0, cursor => .error (.malformed .expectedValue cursor.position)
  | steps + 1, cursor =>
    match cursor.rest with
    | '\x22' :: rest => do
      let (s, next) ← readText cursor.position 0 (cursor.position + 1) rest
      return (.text (String.ofList s), next)
    | '\x7b' :: rest =>
      let inner := skipSpaces rest (cursor.position + 1)
      match inner.rest with
      | '\x7d' :: rest => .ok (.mapping [], ⟨rest, inner.position + 1⟩)
      | _ => readEntries steps [] inner
    | '[' :: rest =>
      let inner := skipSpaces rest (cursor.position + 1)
      match inner.rest with
      | ']' :: rest => .ok (.list [], ⟨rest, inner.position + 1⟩)
      | _ => readItems steps [] inner
    | _ => readScalar cursor

/-- Reads the items of a list behind those already read, up to the closing bracket. -/
def readItems : Nat → List Value → Cursor → Except Error (Value × Cursor)
  | 0, _, cursor => .error (.malformed .expectedValue cursor.position)
  | steps + 1, items, cursor => do
    let (item, next) ← readValue steps cursor
    let items := items ++ [item]
    let next := skipSpaces next.rest next.position
    match next.rest with
    | ']' :: rest => return (.list items, ⟨rest, next.position + 1⟩)
    | ',' :: rest => readItems steps items (skipSpaces rest (next.position + 1))
    | _ => throw (.malformed .expectedComma next.position)

/-- Reads the entries of an object behind those already read, up to the closing brace. -/
def readEntries : Nat → List (Value × Value) → Cursor → Except Error (Value × Cursor)
  | 0, _, cursor => .error (.malformed .expectedName cursor.position)
  | steps + 1, entries, cursor => do
    match cursor.rest with
    | '\x22' :: rest =>
      let (name, next) ← readText cursor.position 0 (cursor.position + 1) rest
      let colon := skipSpaces next.rest next.position
      match colon.rest with
      | ':' :: rest =>
        let (value, next) ← readValue steps (skipSpaces rest (colon.position + 1))
        let entries := Value.putEntry entries (.text (String.ofList name)) value
        let next := skipSpaces next.rest next.position
        match next.rest with
        | '\x7d' :: rest => return (.mapping entries, ⟨rest, next.position + 1⟩)
        | ',' :: rest => readEntries steps entries (skipSpaces rest (next.position + 1))
        | _ => throw (.malformed .expectedComma next.position)
      | _ => throw (.malformed .expectedColon colon.position)
    | _ => throw (.malformed .expectedName cursor.position)

end

/-- Reads a JSON document. -/
def parse (text : List Char) : Except Error Value :=
  if text.head? = some '\ufeff' then .error (.malformed .byteOrderMark 0)
  else do
    let (value, next) ← readValue (2 * text.length + 2) (skipSpaces text 0)
    let next := skipSpaces next.rest next.position
    if next.rest.isEmpty then return value
    else throw (.malformed .extraData next.position)

end VulnScanner.Json
