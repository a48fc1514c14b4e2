import VulnScanner.Data.Value
import VulnScanner.Unicode.Names

/-!
# Platforms

What the program finds where it runs: the names of characters, and the room that the stack has for
what nests. How much of it a level takes depends on what stands in it, so that the levels are given
for each text and each value; all calls of a program are taken to find the same room.
-/

namespace VulnScanner

/-- What the program finds where it runs. -/
class Platform where
  /-- The code point of a character by its name. -/
  characterNamed? : List Char → Option Nat
  /-- How deep groups may nest in the expressions with an outline. -/
  groupLevels : List Char → Nat
  /-- How deep collections may nest in the text of a document. -/
  documentLevels : List Char → Nat
  /-- How deep collections may nest in a value that is written out. -/
  displayLevels : Value → Nat

/-- A platform that knows the common names, with a stack of a thousand calls of which next to none
are taken when something is read or written. -/
instance Platform.common : Platform where
  characterNamed? := Unicode.characterNamed?
  groupLevels _ := 490
  documentLevels _ := 480
  displayLevels _ := 980

end VulnScanner
