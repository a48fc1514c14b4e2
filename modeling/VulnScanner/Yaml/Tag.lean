import VulnScanner.Yaml.Error

/-!
# Tags

A tag says what kind of value a node is. A plain scalar without a tag gets one from its text:
`Tag.ofPlain` recognises truth values, numbers, null, timestamps and a few marks, and takes
everything else for a text.
-/

namespace VulnScanner.Yaml

/-- The kind of a node. -/
inductive Tag where
  | bool
  | float
  | int
  | merge
  | null
  | timestamp
  | value
  | text
  | binary
  | sequence
  | mapping
  | set
  | orderedMapping
  | pairs
  | other (name : String)
  deriving DecidableEq, Repr

namespace Tag

/-- What the names of the standard tags begin with. -/
def standardSpace : String := "tag:yaml.org,2002:"

/-- The standard tags by their short names. -/
def standard : List (String × Tag) :=
  [("bool", bool), ("float", float), ("int", int), ("merge", merge), ("null", null),
   ("timestamp", timestamp), ("value", value), ("str", text), ("binary", binary),
   ("seq", sequence), ("map", mapping), ("set", set), ("omap", orderedMapping),
   ("pairs", pairs)]

/-- The tag with a full name. -/
def ofName (name : String) : Tag :=
  ((standard.find? fun e ↦ standardSpace ++ e.1 = name).map (·.2)).getD (other name)

end Tag

/-! ## Recognising plain scalars -/

namespace Plain

/-- Words for truth values. -/
def truthWords : List String :=
  ["yes", "Yes", "YES", "no", "No", "NO", "true", "True", "TRUE", "false", "False", "FALSE",
   "on", "On", "ON", "off", "Off", "OFF"]

/-- Words for null. -/
def nullWords : List String := ["~", "null", "Null", "NULL", ""]

/-- Decimal digits. -/
def isDigit (c : Char) : Bool := '0' ≤ c && c ≤ '9'

/-- Decimal digits and the underscore. -/
def isSpacedDigit (c : Char) : Bool := isDigit c || c = '_'

/-- Drops a sign. -/
def dropSign : List Char → List Char
  | '+' :: rest => rest
  | '-' :: rest => rest
  | s => s

/-- Whether all characters, of which there is at least one, have a property. -/
def allOf (p : Char → Bool) (s : List Char) : Bool := !s.isEmpty && s.all p

/-- Splits digits with underscores, which begin with a digit, from what follows. -/
def spanWhole? : List Char → Option (List Char)
  | c :: rest => if isDigit c then some (rest.dropWhile isSpacedDigit) else none
  | [] => none

/-- What follows the places in base sixty that the text begins with, of which each stands behind
a colon; the flag tells whether there is one. -/
def dropPlaces : List Char → Bool × List Char
  | ':' :: a :: b :: rest =>
    if '0' ≤ a && a ≤ '5' && isDigit b then (true, (dropPlaces rest).2)
    else if isDigit a then (true, (dropPlaces (b :: rest)).2)
    else (false, ':' :: a :: b :: rest)
  | [':', a] => if isDigit a then (true, []) else (false, [':', a])
  | s => (false, s)

/-- Integers. -/
def isInt (s : List Char) : Bool :=
  let body := dropSign s
  match body with
  | '0' :: 'b' :: rest => allOf (fun c ↦ c = '0' || c = '1' || c = '_') rest
  | '0' :: 'x' :: rest =>
    allOf (fun c ↦ isSpacedDigit c || ('a' ≤ c && c ≤ 'f') || ('A' ≤ c && c ≤ 'F')) rest
  | '0' :: rest => rest.all fun c ↦ ('0' ≤ c && c ≤ '7') || c = '_'
  | c :: rest =>
    isDigit c &&
      (let tail := rest.dropWhile isSpacedDigit
       tail.isEmpty || dropPlaces tail == (true, []))
  | [] => false

/-- Nothing, or an exponent with its sign. -/
def isExponent : List Char → Bool
  | [] => true
  | c :: sign :: digits =>
    (c = 'e' || c = 'E') && (sign = '+' || sign = '-') && allOf isDigit digits
  | _ => false

/-- Floating-point numbers. -/
def isFloat (s : List Char) : Bool :=
  let body := dropSign s
  let word (names : List String) (t : List Char) : Bool := names.contains (String.ofList t)
  let fixed := match spanWhole? body with
    | some ('.' :: rest) => isExponent (rest.dropWhile isSpacedDigit)
    | some rest =>
      match dropPlaces rest with
      | (true, '.' :: rest) => rest.all isSpacedDigit
      | _ => false
    | none => false
  let fraction := match s with
    | '.' :: c :: rest => isDigit c && isExponent (rest.dropWhile isSpacedDigit)
    | _ => false
  fixed || fraction || word [".inf", ".Inf", ".INF"] body || word [".nan", ".NaN", ".NAN"] s

end Plain

/-! ## Timestamps -/

/-- The parts of a timestamp as they are written. -/
structure Timestamp where
  year : Nat
  month : Nat
  day : Nat
  /-- Hour, minute, second and the digits of the fraction. -/
  time : Option (Nat × Nat × Nat × List Char)
  /-- The offset in seconds. -/
  offset : Option Int
  /-- A date has two digits for month and day. -/
  isPadded : Bool
  deriving Repr

namespace Timestamp

/-- The value of decimal digits. -/
def digitsValue (digits : List Char) : Nat :=
  digits.foldl (fun n c ↦ 10 * n + (c.toNat - 48)) 0

/-- Takes between `least` and `most` digits. -/
def takeDigits? (least most : Nat) (s : List Char) : Option (List Char × List Char) :=
  let digits := (s.take most).takeWhile Plain.isDigit
  if least ≤ digits.length then some (digits, s.drop digits.length) else none

/-- Takes one character. -/
def drop? (c : Char) : List Char → Option (List Char)
  | d :: rest => if c = d then some rest else none
  | [] => none

/-- Drops blanks. -/
def dropBlanks (s : List Char) : List Char := s.dropWhile fun c ↦ c = ' ' || c = '\t'

/-- The offset that ends a timestamp: nothing, a `Z`, or a signed time. -/
def readOffset? (s : List Char) : Option (Option Int) :=
  match dropBlanks s with
  | [] => if s.isEmpty then some none else none
  | ['Z'] => some (some 0)
  | c :: rest =>
    if c = '+' || c = '-' then do
      let (hours, rest) ← takeDigits? 1 2 rest
      let minutes ← match rest with
        | [] => some 0
        | rest => do
          let (minutes, rest) ← takeDigits? 2 2 (← drop? ':' rest)
          if rest.isEmpty then some (digitsValue minutes) else none
      let seconds : Int := 3600 * digitsValue hours + 60 * minutes
      return some (if c = '-' then -seconds else seconds)
    else none

/-- The time of day that follows a date, and the offset. -/
def readTime? (s : List Char) : Option ((Nat × Nat × Nat × List Char) × Option Int) := do
  let s ← match s with
    | 'T' :: rest => some rest
    | 't' :: rest => some rest
    | c :: rest => if c = ' ' || c = '\t' then some (dropBlanks rest) else none
    | [] => none
  let (hour, s) ← takeDigits? 1 2 s
  let (minute, s) ← takeDigits? 2 2 (← drop? ':' s)
  let (second, s) ← takeDigits? 2 2 (← drop? ':' s)
  let (fraction, s) := match s with
    | '.' :: rest => rest.span Plain.isDigit
    | s => ([], s)
  let offset ← readOffset? s
  return ((digitsValue hour, digitsValue minute, digitsValue second, fraction), offset)

/-- Reads a timestamp: a date, or a date with a time. -/
def read? (s : List Char) : Option Timestamp := do
  let (year, s) ← takeDigits? 4 4 s
  let (month, s) ← takeDigits? 1 2 (← drop? '-' s)
  let (day, s) ← takeDigits? 1 2 (← drop? '-' s)
  let isPadded := month.length = 2 && day.length = 2
  let date : Timestamp :=
    ⟨digitsValue year, digitsValue month, digitsValue day, none, none, isPadded⟩
  if s.isEmpty then return date
  let (time, offset) ← readTime? s
  return { date with time := some time, offset := offset }

end Timestamp

/-- A text without a final line feed, which recognition does not look at. -/
def withoutFinalBreak (s : List Char) : List Char :=
  if s.getLast? = some '\n' then s.dropLast else s

/-- The tag of a plain scalar. -/
def Tag.ofPlain (text : String) : Tag :=
  let s := withoutFinalBreak text.toList
  let word := String.ofList s
  if Plain.truthWords.contains word then .bool
  else if Plain.isFloat s then .float
  else if Plain.isInt s then .int
  else if word = "<<" then .merge
  else if Plain.nullWords.contains word && (s.isEmpty → text.isEmpty) then .null
  else if (Timestamp.read? s).any fun t ↦ t.time.isSome || t.isPadded then .timestamp
  else if word = "=" then .value
  else if word = "!" || word = "&" || word = "*" then .other (Tag.standardSpace ++ "yaml")
  else .text

end VulnScanner.Yaml
