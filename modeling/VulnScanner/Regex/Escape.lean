import VulnScanner.Number.Reader
import VulnScanner.Regex.Token
import VulnScanner.Text.Hex
import VulnScanner.Unicode.Letters

/-!
# Escapes and sets in regular expressions

What a backslash stands for, outside and inside of square brackets, and the enumeration of
characters between square brackets.
-/

namespace VulnScanner.Regex

/-- ASCII decimal digits. -/
def isDecimal (c : Char) : Bool := '0' ≤ c && c ≤ '9'

/-- ASCII octal digits. -/
def isOctal (c : Char) : Bool := '0' ≤ c && c ≤ '7'

/-- ASCII hexadecimal digits. -/
def isHex (c : Char) : Bool := (Text.hexValue? c).isSome

/-- ASCII letters. -/
def isAsciiLetter (c : Char) : Bool := ('a' ≤ c && c ≤ 'z') || ('A' ≤ c && c ≤ 'Z')

/-- The value of digits in a base up to sixteen. -/
def digitsIn (base : Nat) (digits : List Char) : Nat :=
  digits.foldl (fun n c ↦ base * n + (Text.hexValue? c).getD 0) 0

/-- Letters that stand for a control character behind a backslash, with its code point, and
the backslash itself. -/
def controlEscapes : List (Char × Nat) :=
  [('a', 7), ('b', 8), ('f', 12), ('n', 10), ('r', 13), ('t', 9), ('v', 11), ('\\', 92)]

/-- Letters that stand for a place behind a backslash. -/
def placeEscapes : List (Char × Anchor) :=
  [('A', .textStart), ('b', .boundary), ('B', .nonBoundary), ('Z', .textEnd)]

/-- Letters that stand for a class of characters behind a backslash. -/
def classEscapes : List (Char × Member) :=
  [('d', .named .digit false), ('D', .named .digit true), ('s', .named .space false),
   ('S', .named .space true), ('w', .named .word false), ('W', .named .word true)]

/-- An escape as it is written. -/
def escapeText (body : List Char) : String := String.ofList ('\\' :: body)

/-- The number of the last code point. -/
def lastCode : Nat := 0x10ffff

/-- Reads the digits of a numeric escape of a fixed width. -/
def readHexEscape (letter : Char) (width : Nat) : ReadM Nat := do
  let digits ← takeWhile isHex width
  let escape := letter :: digits
  if digits.length < width then failBack (.incompleteEscape (escapeText escape)) (escape.length + 1)
  let n := digitsIn 16 digits
  if lastCode < n then failBack (.badEscape (escapeText escape)) (escape.length + 1)
  return n

/-- Reads the name of a character between braces. -/
def readNamedEscape : ReadM Nat := do
  if !(← accept '\x7b') then failBack .missingBrace 0
  let name ← takeName '\x7d' "character name"
  match (← get).characterNamed? name with
  | some n => return n
  | none => failBack (.undefinedCharacter (String.ofList name)) (name.length + 4)

/-- Reads an escape that stands for one code point wherever it occurs, if it is one. -/
def readCodeEscape? (c : Char) : ReadM (Option Nat) := do
  if c = 'x' then return some (← readHexEscape c 2)
  else if c = 'u' then return some (← readHexEscape c 4)
  else if c = 'U' then return some (← readHexEscape c 8)
  else if c = 'N' then return some (← readNamedEscape)
  else return none

/-- An octal escape as its code point. -/
def octalCode (digits : List Char) : ReadM Nat := do
  let n := digitsIn 8 digits
  if 0o377 < n then failBack (.octalTooLarge (escapeText digits)) (digits.length + 1)
  return n

/-- Reads an escape inside of square brackets, behind its backslash and `c`. -/
def readSetEscape (c : Char) : ReadM Member := do
  if let some n := controlEscapes.lookup c then return .code n
  if let some member := classEscapes.lookup c then return member
  if let some n ← readCodeEscape? c then return .code n
  if isOctal c then return .code (← octalCode (c :: (← takeWhile isOctal 2)))
  if isDecimal c || isAsciiLetter c then failBack (.badEscape (escapeText [c])) 2
  return .code c.toNat

/-- Holds when a group is complete. -/
def Reader.isClosed (r : Reader) (number : Nat) : Bool := ((r.widths[number]?).getD none).isSome

/-- Within a look behind, a group may be referred to only if it stands outside and is complete. -/
def checkBehind (number : Nat) : ReadM Unit := do
  let r ← get
  if let some outside := r.behindGroups then
    if !r.isClosed number then failBack .openGroup 0
    if outside ≤ number then failBack .sameLookBehind 0

/-- Reads the digits of a reference: the digit `c` and one more if it follows. -/
def readReferenceDigits (c : Char) : ReadM (List Char) := do
  match ← peek with
  | [d] =>
    if isDecimal d then
      let _ ← take
      return [c, d]
    else return [c]
  | _ => return [c]

/-- A reference to the group whose number has been read. -/
def referTo (digits : List Char) : ReadM Node := do
  let number := digitsIn 10 digits
  let r ← get
  if number < r.widths.length then
    if !r.isClosed number then failBack .openGroup (digits.length + 1)
    checkBehind number
    return .backref number
  else failBack (.invalidGroup number) digits.length

/-- Reads a reference to a group or a three-digit octal escape, behind a backslash and the
digit `c`, which is not zero. -/
def readReference (c : Char) : ReadM Node := do
  let digits ← readReferenceDigits c
  if digits.length = 2 && digits.all isOctal then
    if let [e] ← peek then
      if isOctal e then
        let _ ← take
        return .code (← octalCode (digits ++ [e]))
  referTo digits

/-- Reads an escape outside of square brackets, behind its backslash and `c`. -/
def readEscape (c : Char) : ReadM Node := do
  if let some place := placeEscapes.lookup c then return .anchor place
  if let some member := classEscapes.lookup c then return .oneOf false [member]
  if let some n := controlEscapes.lookup c then return .code n
  if let some n ← readCodeEscape? c then return .code n
  if c = '0' then return .code (← octalCode ('0' :: (← takeWhile isOctal 2)))
  if isDecimal c then readReference c
  else if isAsciiLetter c then failBack (.badEscape (escapeText [c])) 2
  else return .code c.toNat

/-- The member that a token inside of square brackets stands for. -/
def readMember : List Char → ReadM Member
  | ['\\', c] => readSetEscape c
  | token => return .code ((token.head?.map Char.toNat).getD 0)

/-- Drops repeated members. -/
def distinctMembers : List Member → List Member
  | [] => []
  | m :: rest => m :: (distinctMembers rest).filter (· != m)

/-- Reads the members of a set that began at `start`, up to the closing bracket. A bracket right
at the start is a member. -/
def readMembers (start : Nat) : Nat → List Member → ReadM (List Member)
  | 0, members => return members
  | steps + 1, members => do
    let this ← take
    if this = [] then failAt .unterminatedSet start
    else if this = [']'] && !members.isEmpty then return members
    else
      let low ← readMember this
      if ← accept '-' then
        let that ← take
        if that = [] then failAt .unterminatedSet start
        else if that = [']'] then return members ++ [low, .code '-'.toNat]
        else
          let high ← readMember that
          let fault : Fault := .badRange (String.ofList this) (String.ofList that)
          let back := this.length + 1 + that.length
          match low, high with
          | .code low, .code high =>
            if high < low then failBack fault back
            else readMembers start steps (members ++ [.range low high])
          | _, _ => failBack fault back
      else readMembers start steps (members ++ [low])

/-- Reads a set of characters behind its opening bracket. -/
def readSet : ReadM Node := do
  let start := (← position) - 1
  let negated ← accept '^'
  let members := distinctMembers (← readMembers start ((← get).rest.length + 1) [])
  match members with
  | [.code n] => return if negated then .otherThan n else .code n
  | _ => return .oneOf negated members

end VulnScanner.Regex
