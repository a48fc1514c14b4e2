import VulnScanner.Yaml.Error

/-!
# Tokens of YAML

The tokens that a text is cut into, and the classes of characters that decide where to cut.
-/

namespace VulnScanner.Yaml

/-- What a line that begins with a percent sign says. -/
inductive Directive where
  | version (major minor : Nat)
  | tag (handle text : String)
  | other
  deriving DecidableEq, Repr

/-- A token. -/
inductive Token where
  | directive (d : Directive)
  | documentStart
  | documentEnd
  | streamEnd
  | blockSequence
  | blockMapping
  | blockEnd
  | flowSequence
  | flowSequenceEnd
  | flowMapping
  | flowMappingEnd
  | blockEntry
  | flowEntry
  | key
  | value
  | reference (name : String)
  | anchor (name : String)
  /-- A tag without a handle is meant as it stands. -/
  | tag (handle : Option String) (text : String)
  /-- A plain scalar has no quotes and no style. -/
  | scalar (text : String) (isPlain : Bool)
  deriving DecidableEq, Repr

/-- Line breaks. -/
def isBreak (c : Char) : Bool :=
  c = '\n' || c = '\r' || c = '\u0085' || c = '\u2028' || c = '\u2029'

/-- Holds at the end of the text and for line breaks. -/
def endsLine (c : Option Char) : Bool := c.all isBreak

/-- Holds at the end of the text, for line breaks and for the space. -/
def endsWord (c : Option Char) : Bool := c.all fun c ↦ isBreak c || c = ' '

/-- Holds at the end of the text, for line breaks, for the space and for the tabulator. -/
def endsItem (c : Option Char) : Bool := c.all fun c ↦ isBreak c || c = ' ' || c = '\t'

/-- Characters of names. -/
def isNameChar (c : Char) : Bool :=
  ('0' ≤ c && c ≤ '9') || ('A' ≤ c && c ≤ 'Z') || ('a' ≤ c && c ≤ 'z') || c = '-' || c = '_'

/-- Characters of tags. -/
def isTagChar (c : Char) : Bool :=
  isNameChar c || ";/?:@&=+$,.!~*\x27()[]%".toList.contains c

/-- Characters that a document may hold. -/
def isAllowed (c : Char) : Bool :=
  let n := c.toNat
  n = 0x9 || n = 0xa || n = 0xd || (0x20 ≤ n && n ≤ 0x7e) || n = 0x85 ||
    (0xa0 ≤ n && n ≤ 0xd7ff) || (0xe000 ≤ n && n ≤ 0xfffd) || 0x10000 ≤ n

/-- Characters that end a plain scalar inside of brackets. -/
def isFlowIndicator (c : Char) : Bool :=
  c = ',' || c = '[' || c = ']' || c = '\x7b' || c = '\x7d'

end VulnScanner.Yaml
