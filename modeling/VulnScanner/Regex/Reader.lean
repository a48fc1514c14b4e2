import VulnScanner.Platform
import VulnScanner.Regex.Escape
import VulnScanner.Unicode.Basic
import VulnScanner.Unicode.Identifier

/-!
# Reading regular expressions

The grammar of alternatives, sequences, repetitions and groups. Every function here takes a bound
on its steps first; `readExpression` supplies one that is large enough for its text.
-/

namespace VulnScanner.Regex

/-- Blanks that verbose expressions skip. -/
def isLayout (c : Char) : Bool :=
  c = ' ' || c = '\t' || c = '\n' || c = '\r' || c = '\x0b' || c = '\x0c'

/-- Characters behind which an item is repeated. -/
def isQuantifier (c : Char) : Bool := c = '*' || c = '+' || c = '?' || c = '\x7b'

/-- A character that stands for itself outside of brackets. -/
def isPlain (c : Char) : Bool :=
  !(['\\', '.', '^', '$', '*', '+', '?', '\x7b', '[', '(', ')', '|'].contains c)

/-- Characters that stand for themselves wherever an item may stand. -/
def isInert (c : Char) : Bool := isPlain c && !isLayout c && c != '#'

/-- Counts of repetitions from this one on are refused. -/
def countLimit : Nat := 4294967295

/-- The setting that a letter stands for. -/
def flagOf? : Char → Option Flags
  | 'i' => some { ignoreCase := true }
  | 'm' => some { multiLine := true }
  | 's' => some { dotAll := true }
  | 'x' => some { verbose := true }
  | 'a' => some { ascii := true }
  | 't' => some { template := true }
  | 'u' => some { unicode := true }
  | _ => none

/-- Holds for the letters of settings; one of them is always refused. -/
def isFlagLetter (c : Char) : Bool := (flagOf? c).isSome || c = 'L'

/-- Settings of the character repertoire. -/
def Flags.setsRepertoire (f : Flags) : Bool := f.ascii || f.unicode

/-- The fault of a token where the letter of a setting is expected. -/
def flagFault (token : List Char) (missing : Fault) : Fault :=
  match token with
  | [c] => if Unicode.isLetter c then .unknownFlag else missing
  | _ => missing

/-- Reads settings to switch on, beginning with the letter `c`. The terminator is the second
part of the result. -/
def readFlagsOn : Nat → Flags → Char → ReadM (Flags × Char)
  | 0, on, c => return (on, c)
  | steps + 1, on, c => do
    match flagOf? c with
    | none => failBack .localeFlag 0
    | some flag =>
      let on := on.union flag
      if flag.setsRepertoire && on.ascii && on.unicode then failBack .repertoireConflict 0
      match ← take with
      | [] => failBack .missingFlagEnd 0
      | [d] =>
        if d = ')' || d = '-' || d = ':' then return (on, d)
        else if isFlagLetter d then readFlagsOn steps on d
        else failBack (flagFault [d] .missingFlagEnd) 1
      | token => failBack .missingFlagEnd token.length

/-- Reads settings to switch off, beginning with the letter `c`, up to the colon. -/
def readFlagsOff : Nat → Flags → Char → ReadM Flags
  | 0, off, _ => return off
  | steps + 1, off, c => do
    match flagOf? c with
    | none => failBack .repertoireOff 0
    | some flag =>
      if flag.setsRepertoire then failBack .repertoireOff 0
      let off := off.union flag
      match ← take with
      | [] => failBack .missingColon 0
      | [d] =>
        if d = ':' then return off
        else if isFlagLetter d then readFlagsOff steps off d
        else failBack (flagFault [d] .missingColon) 1
      | token => failBack .missingColon token.length

/-- Reads settings to switch off, behind a minus sign. -/
def readFlagsBehindMinus : ReadM Flags := do
  match ← take with
  | [] => failBack .missingFlag 0
  | [d] =>
    if isFlagLetter d then readFlagsOff ((← get).rest.length + 1) .none d
    else failBack (flagFault [d] .missingFlag) 1
  | token => failBack .missingFlag token.length

/-- Reads inline settings that begin with the character `c`. Nothing is returned for settings of
the whole expression, which are put in force. -/
def readFlags (c : Char) : ReadM (Option (Flags × Flags)) := do
  let steps := (← get).rest.length + 1
  let (on, terminator) ← if c = '-' then pure (Flags.none, '-') else readFlagsOn steps .none c
  if terminator = ')' then
    modify fun r ↦ { r with flags := r.flags.union on }
    return none
  if on.template then failBack .globalFlagOn 1
  let off ← if terminator = '-' then readFlagsBehindMinus else pure .none
  if off.template then failBack .globalFlagOff 1
  if on.overlaps off then failBack .flagOnAndOff 1
  return some (on, off)

/-- Checks the spelling of a group name that has just been read. -/
def checkGroupName (name : List Char) : ReadM Unit := do
  if !Unicode.isIdentifier name then
    failBack (.badGroupName (String.ofList name)) (name.length + 1)

/-- The number of a group by its name. -/
def groupNamed (name : List Char) : ReadM Nat := do
  match (← get).names.lookup (String.ofList name) with
  | some number => return number
  | none => failBack (.unknownGroupName (String.ofList name)) (name.length + 1)

/-- Names a group that has been opened. -/
def nameGroup (number : Nat) (name : List Char) : ReadM Unit := do
  let text := String.ofList name
  if let some earlier := (← get).names.lookup text then
    failBack (.redefinedGroup text number earlier) (name.length + 1)
  modify fun r ↦ { r with names := (text, number) :: r.names }

/-- Opens a group and returns its number. -/
def openGroup (name : Option (List Char)) : ReadM Nat := do
  let r ← get
  let number := r.widths.length
  set { r with widths := r.widths ++ [none] }
  if let some name := name then nameGroup number name
  return number

/-- Closes a group whose content has been read. -/
def closeGroup (number : Nat) (body : List Node) : ReadM Unit :=
  modify fun r ↦ { r with widths := r.widths.set number (some (sequenceWidth r.widths body).cut) }

/-- The largest number of a group plus one. -/
def groupLimit : Nat := 1073741823

/-- The number of the group that a condition names. -/
def conditionNumber (name : List Char) : ReadM Nat := do
  let back := name.length + 1
  if Unicode.isIdentifier name then groupNamed name
  else
    match Number.readInteger 10 name with
    | .ok (.ofNat number) =>
      if number = 0 then failBack .badGroupNumber back
      if groupLimit ≤ number then failBack (.invalidGroup number) back
      let at? ← position
      modify fun r ↦
        if r.mentions.any (·.1 == number) then r
        else { r with mentions := r.mentions ++ [(number, at? - back)] }
      return number
    | _ => failBack (.badGroupName (String.ofList name)) back

/-- Reads the group that a condition depends on, up to the closing parenthesis. -/
def readCondition : ReadM Nat := do
  let number ← conditionNumber (← takeName ')' "group name")
  checkBehind number
  return number

/-- A count of repetitions as written; nothing stands for an open end. -/
def readCount (digits : List Char) : ReadM (Option Nat) := do
  if digits.isEmpty then return none
  if Number.digitLimit < digits.length then throw (.numeralTooLong digits.length)
  let n := digitsIn 10 digits
  if countLimit ≤ n then throw .countTooLarge
  return some n

/-- Reads the counts behind an opening brace. Nothing is returned, and nothing consumed, when the
brace stands for itself. -/
def readCounts : ReadM (Option (Nat × Option Nat)) := do
  let start ← get
  if (← peek) = ['\x7d'] then return none
  let low ← takeAll isDecimal
  let high ← if ← accept ',' then takeAll isDecimal else pure low
  if !(← accept '\x7d') then
    set start
    return none
  let least := (← readCount low).getD 0
  let most ← readCount high
  if let some most := most then
    if most < least then failAt .repeatBounds start.position
  return some (least, most)

/-- The counts that the quantifier character `c` stands for. -/
def readQuantifier (c : Char) : ReadM (Option (Nat × Option Nat)) :=
  if c = '?' then return some (0, some 1)
  else if c = '*' then return some (0, none)
  else if c = '+' then return some (1, none)
  else readCounts

/-- Reads how a repetition chooses its count. -/
def readStyle : ReadM Style := do
  if ← accept '?' then return .reluctant
  else if ← accept '+' then return .possessive
  else return .greedy

/-- Repeats the last of the items read so far, latest first, as often as the quantifier `c` that
stood at `start` says. -/
def readRepetition (c : Char) (start : Nat) (items : List Node) : ReadM (List Node) := do
  match ← readQuantifier c with
  | none => return .code c.toNat :: items
  | some (least, most) =>
    match items with
    | [] => failAt .nothingToRepeat start
    | item :: others =>
      if item.isAnchor then failAt .nothingToRepeat start
      if item.isRepeated then failAt .multipleRepeat start
      let body := item.plainBody?.getD [item]
      return .repeated (← readStyle) least most body :: others

/-- Skips a comment of a verbose expression, up to the end of the line. -/
def skipLine : Nat → ReadM Unit
  | 0 => return
  | steps + 1 => do
    let token ← take
    if token = [] || token = ['\n'] then return else skipLine steps

/-- Reads what a token at `start` begins if it is no group, behind the items read so far, latest
first. -/
def readItem (verbose : Bool) (token : List Char) (start : Nat) (items : List Node) :
    ReadM (List Node) := do
  match token with
  | [_, c] => return (← readEscape c) :: items
  | [c] =>
    if verbose && isLayout c then return items
    else if verbose && c = '#' then
      skipLine ((← get).rest.length + 1)
      return items
    else if c = '[' then return (← readSet) :: items
    else if c = '.' then return .any :: items
    else if c = '^' then return .anchor .lineStart :: items
    else if c = '$' then return .anchor .lineEnd :: items
    else if isQuantifier c then readRepetition c start items
    else return .code c.toNat :: items
  | _ => return items

/-- Skips a comment in parentheses, which began at `start`. -/
def skipComment (start : Nat) : Nat → ReadM Unit
  | 0 => return
  | steps + 1 => do
    if (← peek) = [] then failAt .unterminatedComment start
    if (← take) = [')'] then return else skipComment start steps

/-- Puts the content of groups that only bracket it into the sequence. -/
def spliceGroups (items : List Node) : List Node :=
  items.flatMap fun item ↦ item.plainBody?.getD [item]

/-- How many nodes all branches begin with in common. -/
def commonLead : List Node → List (List Node) → Nat
  | [], _ => 0
  | item :: rest, others =>
    if others.all fun branch ↦ branch.head?.any item.sameLeaf then
      commonLead rest (others.map List.tail) + 1
    else 0

/-- The members of a choice between characters. -/
def choiceMembers? (branches : List (List Node)) : Option (List Member) :=
  (branches.mapM fun (branch : List Node) ↦
    match branch with
    | [item] => item.members?
    | _ => none).map List.flatten

/-- A choice: what all branches begin with is taken out, and a choice between characters
becomes a set. -/
def choose (branches : List (List Node)) : List Node :=
  match branches with
  | [] => []
  | [branch] => branch
  | first :: others =>
    let shared := commonLead first others
    let branches := branches.map (·.drop shared)
    first.take shared ++
      match choiceMembers? branches with
      | some members => [.oneOf false (distinctMembers members)]
      | none => [.either branches]

/-- The result of reading what begins with a parenthesis: a node, or nothing but a decision
whether the rest is verbose. -/
inductive Parenthesized where
  | node (node : Node)
  | skipped (verbose : Bool)

/-- Requires the closing parenthesis of what began at `start`. -/
def closeParenthesis (start : Nat) : ReadM Unit := do
  if !(← accept ')') then failAt .unterminatedGroup start

/-- Runs a step inside of a look behind. -/
def inLookBehind {α : Type} (step : ReadM α) : ReadM α := do
  let outer := (← get).behindGroups
  if outer.isNone then modify fun r ↦ { r with behindGroups := some r.widths.length }
  let result ← step
  if outer.isNone then modify fun r ↦ { r with behindGroups := none }
  return result

/-- Runs a step one level of groups further in. -/
def inGroup {α : Type} (step : ReadM α) : ReadM α := do
  let room := (← get).room
  if room = 0 then throw .tooDeep
  modify fun r ↦ { r with room := room - 1 }
  let result ← step
  modify fun r ↦ { r with room := room }
  return result

mutual

/-- Reads alternatives. `isWhole` holds for the whole expression. -/
def readAlternatives : Nat → Bool → Bool → ReadM (List Node)
  | 0, _, _ => return []
  | steps + 1, isWhole, verbose => do
    return choose (← readBranches steps isWhole isWhole verbose)
termination_by structural steps => steps

/-- Reads branches separated by bars. Settings for the whole expression may stand only where
`isFirst` holds. -/
def readBranches : Nat → Bool → Bool → Bool → ReadM (List (List Node))
  | 0, _, _, _ => return []
  | steps + 1, isWhole, isFirst, verbose => do
    let branch ← readSequence steps isFirst verbose []
    if ← accept '|' then
      let whole := (← get).flags
      let verbose := if isWhole then whole.verbose else verbose
      return branch :: (← readBranches steps isWhole false verbose)
    else return [branch]
termination_by structural steps => steps

/-- Reads items up to a bar, a closing parenthesis or the end; `items` are those read so far,
latest first. -/
def readSequence : Nat → Bool → Bool → List Node → ReadM (List Node)
  | 0, _, _, _ => return []
  | steps + 1, isFirst, verbose, items => do
    let token ← peek
    if token = [] || token = ['|'] || token = [')'] then return spliceGroups items.reverse
    let start ← position
    let _ ← take
    if token = ['('] then
      match ← readParenthesized steps start (isFirst && items.isEmpty) verbose with
      | .node node => readSequence steps isFirst verbose (node :: items)
      | .skipped verbose => readSequence steps isFirst verbose items
    else readSequence steps isFirst verbose (← readItem verbose token start items)
termination_by structural steps => steps

/-- Reads what stands behind the parenthesis at `start`. -/
def readParenthesized : Nat → Nat → Bool → Bool → ReadM Parenthesized
  | 0, _, _, verbose => return .skipped verbose
  | steps + 1, start, flagsAllowed, verbose => do
    if !(← accept '?') then return .node (← readGroup steps start none verbose)
    match ← take with
    | [] => failBack .unexpectedEnd 0
    | ['P'] =>
      if ← accept '<' then
        let name ← takeName '>' "group name"
        checkGroupName name
        return .node (← readGroup steps start (some name) verbose)
      else if ← accept '=' then
        let name ← takeName ')' "group name"
        checkGroupName name
        let number ← groupNamed name
        if !(← get).isClosed number then failBack .openGroup (name.length + 1)
        checkBehind number
        return .node (.backref number)
      else
        match ← take with
        | [] => failBack .unexpectedEnd 0
        | token => failBack (.unknownExtension ("P" ++ String.ofList token)) (token.length + 2)
    | [':'] => return .node (← readBracketed steps start .none .none verbose)
    | ['#'] =>
      skipComment start ((← get).rest.length + 1)
      return .skipped verbose
    | ['='] => readLook steps start false false verbose
    | ['!'] => readLook steps start false true verbose
    | ['<'] =>
      match ← take with
      | [] => failBack .unexpectedEnd 0
      | ['='] => inLookBehind (readLook steps start true false verbose)
      | ['!'] => inLookBehind (readLook steps start true true verbose)
      | token => failBack (.unknownExtension ("<" ++ String.ofList token)) (token.length + 2)
    | ['('] => readConditional steps start verbose
    | ['>'] =>
      let body ← inGroup (readAlternatives steps false verbose)
      closeParenthesis start
      return .node (.atomic body)
    | token =>
      let flagLetter? : Option Char := match token with
        | [c] => if isFlagLetter c || c = '-' then some c else none
        | _ => none
      match flagLetter? with
      | none => failBack (.unknownExtension (String.ofList token)) (token.length + 1)
      | some c =>
        match ← readFlags c with
        | none =>
          if !flagsAllowed then failAt .flagsNotAtStart start
          return .skipped (← get).flags.verbose
        | some (on, off) =>
          let verbose := (verbose || on.verbose) && !off.verbose
          return .node (← readBracketed steps start on off verbose)
termination_by structural steps => steps

/-- Reads the content of a numbered group. -/
def readGroup : Nat → Nat → Option (List Char) → Bool → ReadM Node
  | 0, _, _, _ => return .any
  | steps + 1, start, name, verbose => do
    let number ← openGroup name
    let body ← inGroup (readAlternatives steps false verbose)
    closeParenthesis start
    closeGroup number body
    return .group (some number) .none .none body
termination_by structural steps => steps

/-- Reads the content of a group without a number. -/
def readBracketed : Nat → Nat → Flags → Flags → Bool → ReadM Node
  | 0, _, _, _, _ => return .any
  | steps + 1, start, on, off, verbose => do
    let body ← inGroup (readAlternatives steps false verbose)
    closeParenthesis start
    return .group none on off body
termination_by structural steps => steps

/-- Reads what is looked for ahead of or behind the current place. -/
def readLook : Nat → Nat → Bool → Bool → Bool → ReadM Parenthesized
  | 0, _, _, _, verbose => return .skipped verbose
  | steps + 1, start, behind, negated, verbose => do
    let body ← inGroup (readAlternatives steps false verbose)
    closeParenthesis start
    return .node (.look behind negated body)
termination_by structural steps => steps

/-- Reads a condition and its one or two bodies. -/
def readConditional : Nat → Nat → Bool → ReadM Parenthesized
  | 0, _, verbose => return .skipped verbose
  | steps + 1, start, verbose => do
    let number ← readCondition
    let yes ← inGroup (readSequence steps false verbose [])
    let no ← if ← accept '|' then
        let no ← inGroup (readSequence steps false verbose [])
        if (← peek) = ['|'] then failBack .tooManyBranches 0
        pure no
      else pure []
    closeParenthesis start
    return .node (.conditional number yes no)
termination_by structural steps => steps

end

/-- What reading an expression gives: its nodes, its settings and the widths of its groups. -/
structure Expression where
  nodes : List Node
  flags : Flags
  groups : List (Option Width)

/-- The first mention of a group that there is not. -/
def Reader.missing? (r : Reader) : Option (Nat × Nat) :=
  r.mentions.find? fun m ↦ r.widths.length ≤ m.1

/-- What has been read, if the whole text is used up and no group is missing. -/
def Reader.finish (r : Reader) (nodes : List Node) : Except Error Expression := do
  if r.flags.ascii && r.flags.unicode then throw .repertoiresConflict
  if !r.rest.isEmpty then throw (.malformed .unbalanced r.position)
  if let some (number, place) := r.missing? then
    throw (.malformed (.invalidGroup number) place)
  return ⟨nodes, { r.flags with unicode := !r.flags.ascii }, r.widths⟩

/-- An expression without the characters that stand for themselves, which do not matter for how
groups nest in it. -/
def outline (text : List Char) : List Char := text.filter fun c ↦ !isInert c

variable [Platform]

/-- The reader at the start of an expression, with the given settings in force. -/
def Reader.start (flags : Flags) (text : List Char) : Reader where
  rest := text
  position := 0
  flags := flags
  names := []
  widths := [none]
  behindGroups := none
  mentions := []
  room := Platform.groupLevels (outline text)
  characterNamed? := Platform.characterNamed?

/-- Reads a whole expression with the given settings in force. -/
def readExpression (flags : Flags) (text : List Char) : Except Error Expression := do
  refuseLoneEscape text 0
  let (nodes, r) ←
    (readAlternatives (6 * text.length + 6) true flags.verbose).run (Reader.start flags text)
  r.finish nodes

end VulnScanner.Regex
