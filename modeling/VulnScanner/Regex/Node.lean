/-!
# The structure of regular expressions

A regular expression is a list of nodes that have to match one after the other. Literals are
code points, so an expression may also name code points that no text holds.
-/

namespace VulnScanner.Regex

/-- Settings that change how an expression is read or matched. -/
structure Flags where
  ignoreCase : Bool := false
  multiLine : Bool := false
  dotAll : Bool := false
  verbose : Bool := false
  ascii : Bool := false
  unicode : Bool := false
  /-- Repetition is refused. -/
  template : Bool := false
  deriving DecidableEq, Repr, Inhabited

namespace Flags

/-- No setting. -/
def none : Flags := {}

/-- The settings of either side. -/
def union (f g : Flags) : Flags where
  ignoreCase := f.ignoreCase || g.ignoreCase
  multiLine := f.multiLine || g.multiLine
  dotAll := f.dotAll || g.dotAll
  verbose := f.verbose || g.verbose
  ascii := f.ascii || g.ascii
  unicode := f.unicode || g.unicode
  template := f.template || g.template

/-- The settings of the left side that the right side does not have. -/
def minus (f g : Flags) : Flags where
  ignoreCase := f.ignoreCase && !g.ignoreCase
  multiLine := f.multiLine && !g.multiLine
  dotAll := f.dotAll && !g.dotAll
  verbose := f.verbose && !g.verbose
  ascii := f.ascii && !g.ascii
  unicode := f.unicode && !g.unicode
  template := f.template && !g.template

/-- Holds when the two sides have a setting in common. -/
def overlaps (f g : Flags) : Bool :=
  (f.ignoreCase && g.ignoreCase) || (f.multiLine && g.multiLine) || (f.dotAll && g.dotAll) ||
    (f.verbose && g.verbose) || (f.ascii && g.ascii) || (f.unicode && g.unicode) ||
    (f.template && g.template)

/-- The settings inside a group that switches some on and some off. A new character repertoire
replaces the one in force. -/
def within (f on off : Flags) : Flags :=
  let base := if on.ascii || on.unicode then { f with ascii := false, unicode := false } else f
  (base.union on).minus off

end Flags

/-- The named classes of characters. -/
inductive CharClass where
  | digit
  | space
  | word
  deriving DecidableEq, Repr

/-- A member of a set of characters. -/
inductive Member where
  | code (n : Nat)
  | range (low high : Nat)
  | named (cls : CharClass) (negated : Bool)
  deriving DecidableEq, Repr

/-- Places in a text. -/
inductive Anchor where
  | lineStart
  | lineEnd
  | textStart
  | textEnd
  | boundary
  | nonBoundary
  deriving DecidableEq, Repr

/-- How a repetition chooses its count: as many as possible, as few as possible, or as many as
possible without a second thought. -/
inductive Style where
  | greedy
  | reluctant
  | possessive
  deriving DecidableEq, Repr

/-- A piece of a regular expression. -/
inductive Node where
  | code (n : Nat)
  | otherThan (n : Nat)
  | any
  | oneOf (negated : Bool) (members : List Member)
  | anchor (place : Anchor)
  /-- A group; a numbered one remembers what it matched. -/
  | group (number : Option Nat) (on off : Flags) (body : List Node)
  | repeated (style : Style) (least : Nat) (most : Option Nat) (body : List Node)
  | either (branches : List (List Node))
  /-- The text that a group has matched. -/
  | backref (number : Nat)
  /-- One body if a group has matched, and another if not. -/
  | conditional (number : Nat) (yes no : List Node)
  | look (behind negated : Bool) (body : List Node)
  | atomic (body : List Node)
  deriving Repr, Inhabited

namespace Node

/-- Equality of nodes without a body; nodes with a body are taken to differ. -/
def sameLeaf : Node → Node → Bool
  | code m, code n => m == n
  | otherThan m, otherThan n => m == n
  | any, any => true
  | oneOf b ms, oneOf c ns => b == c && ms == ns
  | anchor a, anchor b => a == b
  | backref m, backref n => m == n
  | _, _ => false

/-- A group that only brackets its body. -/
def plainBody? : Node → Option (List Node)
  | group .none on off body => if on = Flags.none ∧ off = Flags.none then some body else none
  | _ => none

/-- Holds for repetitions. -/
def isRepeated : Node → Bool
  | repeated .. => true
  | _ => false

/-- Holds for places. -/
def isAnchor : Node → Bool
  | anchor _ => true
  | _ => false

/-- The members of a node that matches one character out of an enumeration. -/
def members? : Node → Option (List Member)
  | code n => some [.code n]
  | oneOf false members => some members
  | _ => none

end Node
end VulnScanner.Regex
