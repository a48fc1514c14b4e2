import VulnScanner.Regex.Letter
import VulnScanner.Regex.Width

/-!
# Matching

A matcher runs a node at a spot of a text and hands every spot at which it can end to a
continuation, in order of preference, until the continuation succeeds. What groups have matched
is part of the spot, so that it is undone together with the choices made.
-/

namespace VulnScanner.Regex

/-- A place in a text, with the marks that groups have set so far. -/
structure Spot where
  /-- The characters before the place, nearest first. -/
  before : List Char
  after : List Char
  position : Nat
  /-- Where numbered groups begin, latest first. -/
  starts : List (Nat × Nat)
  /-- Where numbered groups end, latest first. -/
  ends : List (Nat × Nat)
  deriving Repr

namespace Spot

/-- The start of a text. -/
def start (text : List Char) : Spot := ⟨[], text, 0, [], []⟩

/-- The whole text. -/
def text (s : Spot) : List Char := s.before.reverse ++ s.after

/-- One character further. -/
def step? (s : Spot) : Option (Char × Spot) :=
  match s.after with
  | [] => none
  | c :: rest =>
    some (c, { s with before := c :: s.before, after := rest, position := s.position + 1 })

/-- The spot `count` characters back, if there are so many. -/
def back? : Nat → Spot → Option Spot
  | 0, s => some s
  | count + 1, s =>
    match s.before with
    | [] => none
    | c :: rest =>
      back? count { s with before := rest, after := c :: s.after, position := s.position - 1 }

/-- Marks the beginning of a group. -/
def mark (s : Spot) : Option Nat → Spot
  | none => s
  | some number => { s with starts := (number, s.position) :: s.starts }

/-- Marks the end of a group. -/
def close (s : Spot) : Option Nat → Spot
  | none => s
  | some number => { s with ends := (number, s.position) :: s.ends }

/-- What a group has matched, if it has matched at all. -/
def captured? (s : Spot) (number : Nat) : Option (List Char) := do
  let first ← s.starts.lookup number
  let last ← s.ends.lookup number
  if first ≤ last then some ((s.text.drop first).take (last - first)) else none

/-- Whether the character at the head of a list is a word character. -/
def wordAt (flags : Flags) (s : List Char) : Bool :=
  s.head?.any fun c ↦ CharClass.word.holds flags c.toNat

/-- Whether a place has the property of an anchor. The empty text has no boundaries of words
and no places between them. -/
def isAt (flags : Flags) (s : Spot) : Anchor → Bool
  | .lineStart => s.before.isEmpty || (flags.multiLine && s.before.head? == some '\n')
  | .lineEnd =>
    s.after.isEmpty || s.after == ['\n'] || (flags.multiLine && s.after.head? == some '\n')
  | .textStart => s.before.isEmpty
  | .textEnd => s.after.isEmpty
  | .boundary => wordAt flags s.before != wordAt flags s.after
  | .nonBoundary =>
    !(s.before.isEmpty && s.after.isEmpty) && wordAt flags s.before == wordAt flags s.after

/-- Equality of a character with one that a group has matched. -/
def sameAsCaptured (flags : Flags) (a b : Char) : Bool :=
  if flags.ignoreCase then flags.lowerCode a.toNat == flags.lowerCode b.toNat else a == b

/-- Goes over a word. -/
def over? (flags : Flags) : List Char → Spot → Option Spot
  | [], s => some s
  | w :: rest, s => do
    let (c, next) ← s.step?
    if sameAsCaptured flags w c then over? flags rest next else none

end Spot

/-- What is done with the spot at which a node ends. -/
abbrev Continuation := Spot → Option Spot

/-- A node that can be run. -/
abbrev Runner := Spot → Continuation → Option Spot

/-- One character that passes a test. -/
def runLetter (test : Char → Bool) : Runner := fun s k ↦
  match s.step? with
  | none => none
  | some (c, next) => if test c then k next else none

/-- Whether another turn is allowed after `count` turns, the last one having begun at `last`. A
turn may not begin where the turn before it began. -/
def mayTurn (most : Option Nat) (count : Nat) (last : Option Nat) (s : Spot) : Bool :=
  most.all (count < ·) && last != some s.position

/-- As many turns as possible, then fewer. -/
def runGreedy (body : Runner) (least : Nat) (most : Option Nat) :
    Nat → Nat → Option Nat → Runner
  | 0, _, _, _, _ => none
  | steps + 1, count, last, s, k =>
    if count < least then
      body s fun t ↦ runGreedy body least most steps (count + 1) last t k
    else if mayTurn most count last s then
      (body s fun t ↦ runGreedy body least most steps (count + 1) (some s.position) t k) <|> k s
    else k s

/-- As few turns as possible, then more. -/
def runReluctant (body : Runner) (least : Nat) (most : Option Nat) :
    Nat → Nat → Option Nat → Runner
  | 0, _, _, _, _ => none
  | steps + 1, count, last, s, k =>
    if count < least then
      body s fun t ↦ runReluctant body least most steps (count + 1) last t k
    else
      k s <|>
        if mayTurn most count last s then
          body s fun t ↦ runReluctant body least most steps (count + 1) (some s.position) t k
        else none

/-- As many turns as possible, each in its first way only. -/
def runPossessive (body : Runner) (least : Nat) (most : Option Nat) :
    Nat → Nat → Option Nat → Spot → Option Spot
  | 0, _, _, _ => none
  | steps + 1, count, last, s =>
    if count < least then
      (body s some).bind (runPossessive body least most steps (count + 1) last)
    else if mayTurn most count last s then
      match body s some with
      | some t => runPossessive body least most steps (count + 1) (some s.position) t
      | none => some s
    else some s

/-- Repeats a body. Beyond the least count every turn but the last consumes something, so that the
number of steps is bounded. -/
def runRepeated (style : Style) (least : Nat) (most : Option Nat) (body : Runner) : Runner :=
  fun s k ↦
    let steps := least + s.after.length + 2
    match style with
    | .greedy => runGreedy body least most steps 0 none s k
    | .reluctant => runReluctant body least most steps 0 none s k
    | .possessive => (runPossessive body least most steps 0 none s).bind k

mutual

/-- Runs a node. -/
def Node.run (groups : List (Option Width)) (flags : Flags) : Node → Runner
  | .code n => runLetter (literalHolds flags n)
  | .otherThan n => runLetter (!literalHolds flags n ·)
  | .any => runLetter fun c ↦ flags.dotAll || c != '\n'
  | .oneOf negated members => runLetter (setHolds flags negated members)
  | .anchor place => fun s k ↦ if s.isAt flags place then k s else none
  | .group number on off body => fun s k ↦
    runSequence groups (flags.within on off) body (s.mark number) fun t ↦ k (t.close number)
  | .repeated style least most body =>
    runRepeated style least most (runSequence groups flags body)
  | .either branches => runBranches groups flags branches
  | .backref number => fun s k ↦
    match s.captured? number with
    | none => none
    | some word => (s.over? flags word).bind k
  | .conditional number yes no => fun s k ↦
    if (s.captured? number).isSome then runSequence groups flags yes s k
    else runSequence groups flags no s k
  | .look behind negated body => fun s k ↦
    let origin? := if behind then s.back? (sequenceWidth groups body).low else some s
    let found? := origin?.bind fun origin ↦ runSequence groups flags body origin some
    match found? with
    | some found =>
      if negated then none else k { s with starts := found.starts, ends := found.ends }
    | none => if negated then k s else none
  | .atomic body => fun s k ↦ (runSequence groups flags body s some).bind k

/-- Runs nodes one after the other. -/
def runSequence (groups : List (Option Width)) (flags : Flags) : List Node → Runner
  | [] => fun s k ↦ k s
  | n :: rest => fun s k ↦ n.run groups flags s fun t ↦ runSequence groups flags rest t k

/-- Runs branches in order. -/
def runBranches (groups : List (Option Width)) (flags : Flags) : List (List Node) → Runner
  | [] => fun _ _ ↦ none
  | b :: rest => fun s k ↦ runSequence groups flags b s k <|> runBranches groups flags rest s k

end

/-- Looks for a spot from which the nodes match, over the next `steps` characters. -/
def searchFrom (groups : List (Option Width)) (flags : Flags) (nodes : List Node) :
    Nat → Spot → Bool
  | 0, s => (runSequence groups flags nodes s some).isSome
  | steps + 1, s =>
    (runSequence groups flags nodes s some).isSome ||
      match s.step? with
      | none => false
      | some (_, next) => searchFrom groups flags nodes steps next

end VulnScanner.Regex
