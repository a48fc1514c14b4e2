import VulnScanner.Fault
import VulnScanner.Regex.Node
import VulnScanner.Text.Quoted

/-!
# Why a text is no regular expression

`Fault` holds the mistakes that have a position in the text; `Error` adds those that concern the
expression as a whole.
-/

namespace VulnScanner.Regex

/-- A mistake at some position. Names and escapes are kept as they are written. -/
inductive Fault where
  | endsInEscape
  | missingName (what : String)
  | unterminatedName (terminator : Char)
  | badGroupName (name : String)
  | unknownGroupName (name : String)
  | badGroupNumber
  | openGroup
  | sameLookBehind
  | invalidGroup (number : Nat)
  | redefinedGroup (name : String) (number earlier : Nat)
  | incompleteEscape (escape : String)
  | badEscape (escape : String)
  | octalTooLarge (escape : String)
  | missingBrace
  | undefinedCharacter (name : String)
  | unterminatedSet
  | badRange (low high : String)
  | repeatBounds
  | nothingToRepeat
  | multipleRepeat
  | unexpectedEnd
  | unknownExtension (text : String)
  | unterminatedComment
  | unterminatedGroup
  | tooManyBranches
  | flagsNotAtStart
  | localeFlag
  | repertoireConflict
  | missingFlagEnd
  | unknownFlag
  | globalFlagOn
  | globalFlagOff
  | missingFlag
  | repertoireOff
  | missingColon
  | flagOnAndOff
  | unbalanced
  deriving DecidableEq, Repr

/-- The wording of a fault. -/
def Fault.text : Fault → String
  | endsInEscape => "bad escape (end of pattern)"
  | missingName what => "missing " ++ what
  | unterminatedName terminator => s!"missing {terminator}, unterminated name"
  | badGroupName name => "bad character in group name " ++ Text.quoted name
  | unknownGroupName name => "unknown group name " ++ Text.quoted name
  | badGroupNumber => "bad group number"
  | openGroup => "cannot refer to an open group"
  | sameLookBehind => "cannot refer to group defined in the same lookbehind subpattern"
  | invalidGroup number => s!"invalid group reference {number}"
  | redefinedGroup name number earlier =>
    s!"redefinition of group name {Text.quoted name} as group {number}; was group {earlier}"
  | incompleteEscape escape => "incomplete escape " ++ escape
  | badEscape escape => "bad escape " ++ escape
  | octalTooLarge escape => s!"octal escape value {escape} outside of range 0-0o377"
  | missingBrace => "missing \x7b"
  | undefinedCharacter name => "undefined character name " ++ Text.quoted name
  | unterminatedSet => "unterminated character set"
  | badRange low high => s!"bad character range {low}-{high}"
  | repeatBounds => "min repeat greater than max repeat"
  | nothingToRepeat => "nothing to repeat"
  | multipleRepeat => "multiple repeat"
  | unexpectedEnd => "unexpected end of pattern"
  | unknownExtension text => "unknown extension ?" ++ text
  | unterminatedComment => "missing ), unterminated comment"
  | unterminatedGroup => "missing ), unterminated subpattern"
  | tooManyBranches => "conditional backref with more than two branches"
  | flagsNotAtStart => "global flags not at the start of the expression"
  | localeFlag => "bad inline flags: cannot use \x27L\x27 flag with a str pattern"
  | repertoireConflict =>
    "bad inline flags: flags \x27a\x27, \x27u\x27 and \x27L\x27 are incompatible"
  | missingFlagEnd => "missing -, : or )"
  | unknownFlag => "unknown flag"
  | globalFlagOn => "bad inline flags: cannot turn on global flag"
  | globalFlagOff => "bad inline flags: cannot turn off global flag"
  | missingFlag => "missing flag"
  | repertoireOff =>
    "bad inline flags: cannot turn off flags \x27a\x27, \x27u\x27 and \x27L\x27"
  | missingColon => "missing :"
  | flagOnAndOff => "bad inline flags: flag turned on and off"
  | unbalanced => "unbalanced parenthesis"

/-- Why a text does not give a matcher. -/
inductive Error where
  | malformed (fault : Fault) (position : Nat)
  /-- What is looked for behind the current place has no fixed length. -/
  | lookBehindWidth
  | lookBehindTooLong
  /-- Repetition is switched off. -/
  | repetitionRefused (style : Style)
  /-- A count of repetitions is beyond the largest one. -/
  | countTooLarge
  /-- A count or group number has too many digits to be read. -/
  | numeralTooLong (digits : Nat)
  /-- Groups nest too deep. -/
  | tooDeep
  | repertoiresConflict
  deriving DecidableEq, Repr

/-- The kind of an error. -/
def Error.kind : Error → FaultKind
  | countTooLarge => .overflow
  | numeralTooLong _ => .value
  | tooDeep => .runtime
  | repertoiresConflict => .value
  | _ => .expression

/-- Holds for the errors that are no mistake in the text but a limit that is met. -/
def Error.isLimit : Error → Bool
  | countTooLarge => true
  | tooDeep => true
  | _ => false

/-- The internal name of a repetition. -/
def Style.name : Style → String
  | greedy => "MAX_REPEAT"
  | reluctant => "MIN_REPEAT"
  | possessive => "POSSESSIVE_REPEAT"

/-- A position; in an expression of several lines also as line and column. -/
def describePosition (text : List Char) (position : Nat) : String :=
  let before := text.take position
  let line := before.count '\n' + 1
  let column := (before.reverse.takeWhile (· ≠ '\n')).length + 1
  s!" at position {position}" ++
    if text.contains '\n' then s!" (line {line}, column {column})" else ""

/-- The message for an error in the expression `text`. -/
def Error.message (text : List Char) : Error → String
  | malformed fault position => fault.text ++ describePosition text position
  | lookBehindWidth => "look-behind requires fixed-width pattern"
  | lookBehindTooLong => "looks too much behind"
  | repetitionRefused style => "internal: unsupported template operator " ++ style.name
  | countTooLarge => "the repetition number is too large"
  | numeralTooLong digits =>
    s!"Exceeds the limit (4300 digits) for integer string conversion: value has {digits} " ++
      "digits; use sys.set_int_max_str_digits() to increase the limit"
  | tooDeep => "maximum recursion depth exceeded"
  | repertoiresConflict => "ASCII and UNICODE flags are incompatible"

end VulnScanner.Regex
