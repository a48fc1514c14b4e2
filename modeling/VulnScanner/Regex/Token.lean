import VulnScanner.Regex.Width

/-!
# Tokens of regular expressions

The text of an expression is read token by token: a token is one character, or a backslash with
the character behind it. A backslash at the very end is refused as soon as it becomes the next
token.
-/

namespace VulnScanner.Regex

/-- The state of reading: what is left, where it begins, and what is known of the groups. -/
structure Reader where
  rest : List Char
  position : Nat
  /-- The settings of the whole expression. -/
  flags : Flags
  /-- Names of groups with their numbers, latest first. -/
  names : List (String × Nat)
  /-- The widths of the groups by number; an open group has none, nor has the whole. -/
  widths : List (Option Width)
  /-- Within a look behind: the number of groups outside of it. -/
  behindGroups : Option Nat
  /-- Group numbers that conditions mention, with the first position of each. -/
  mentions : List (Nat × Nat)
  /-- How many more groups may be open. -/
  room : Nat
  /-- The code points of characters by their names. -/
  characterNamed? : List Char → Option Nat

/-- A step of reading. -/
abbrev ReadM := StateT Reader (Except Error)

/-- The token at the head of a text; the empty list at its end. -/
def tokenOf : List Char → List Char
  | [] => []
  | '\\' :: c :: _ => ['\\', c]
  | c :: _ => [c]

/-- The next token, which is not consumed. -/
def peek : ReadM (List Char) := return tokenOf (← get).rest

/-- The position of the next token. -/
def position : ReadM Nat := return (← get).position

/-- A fault at a position. -/
def failAt {α : Type} (fault : Fault) (position : Nat) : ReadM α :=
  throw (.malformed fault position)

/-- A fault some characters before the next token. -/
def failBack {α : Type} (fault : Fault) (back : Nat) : ReadM α := do
  failAt fault ((← position) - back)

/-- Refuses a text that is a lone backslash. -/
def refuseLoneEscape (rest : List Char) (position : Nat) : Except Error Unit :=
  if rest = ['\\'] then .error (.malformed .endsInEscape position) else .ok ()

/-- Consumes the next token. -/
def take : ReadM (List Char) := do
  let r ← get
  let token := tokenOf r.rest
  let rest := r.rest.drop token.length
  let position := r.position + token.length
  refuseLoneEscape rest position
  set { r with rest := rest, position := position }
  return token

/-- Consumes the next token if it is the given character. -/
def accept (c : Char) : ReadM Bool := do
  if (← peek) = [c] then
    let _ ← take
    return true
  else return false

/-- Consumes up to `count` tokens that are characters of a class. -/
def takeWhile (isMember : Char → Bool) : Nat → ReadM (List Char)
  | 0 => return []
  | count + 1 => do
    match ← peek with
    | [c] =>
      if isMember c then
        let _ ← take
        return c :: (← takeWhile isMember count)
      else return []
    | _ => return []

/-- Consumes all tokens that are characters of a class. -/
def takeAll (isMember : Char → Bool) : ReadM (List Char) := do
  takeWhile isMember (← get).rest.length

/-- Reads up to a terminator, `steps` tokens at most; `read` is what has been read. -/
def takeUntil (terminator : Char) (what : String) : Nat → List Char → ReadM (List Char)
  | 0, read => return read
  | steps + 1, read => do
    match ← take with
    | [] =>
      if read.isEmpty then failBack (.missingName what) 0
      else failBack (.unterminatedName terminator) read.length
    | token =>
      if token = [terminator] then
        if read.isEmpty then failBack (.missingName what) 1 else return read
      else takeUntil terminator what steps (read ++ token)

/-- Reads a name up to its terminator, which is consumed. -/
def takeName (terminator : Char) (what : String) : ReadM (List Char) := do
  takeUntil terminator what ((← get).rest.length + 1) []

end VulnScanner.Regex
