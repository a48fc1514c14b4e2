import VulnScanner.Regex.Match
import VulnScanner.Regex.Reader

/-!
# Regular expressions

`Pattern.compile` reads and checks an expression, `Pattern.occursIn` says whether it matches
somewhere in a text, and `escape` writes a text as an expression that matches exactly it.
-/

namespace VulnScanner.Regex

/-- An expression that is ready to be matched. -/
structure Pattern where
  /-- The expression as it was written. -/
  source : List Char
  nodes : List Node
  flags : Flags
  groups : List (Option Width)

namespace Pattern

/-- Reads an expression with the given settings in force and checks it. -/
def compile [Platform] (flags : Flags) (source : List Char) : Except Error Pattern := do
  let e ← readExpression flags source
  sequenceCheck e.groups e.flags e.nodes
  return ⟨source, e.nodes, e.flags, e.groups⟩

/-- Whether the expression matches a part of the text. -/
def occursIn (p : Pattern) (text : List Char) : Bool :=
  searchFrom p.groups p.flags p.nodes text.length (Spot.start text)

end Pattern

/-- The characters that mean something in an expression. -/
def specialChars : List Char :=
  ['(', ')', '[', ']', '\x7b', '\x7d', '?', '*', '+', '-', '|', '^', '$', '\\', '.', '&', '~',
   '#', ' ', '\t', '\n', '\r', '\x0b', '\x0c']

/-- A text with a backslash before every character that means something in an expression. -/
def escape (text : List Char) : List Char :=
  text.flatMap fun c ↦ if specialChars.contains c then ['\\', c] else [c]

end VulnScanner.Regex
