import VulnScanner.Data.Value
import VulnScanner.Octets.Base64
import VulnScanner.Text.Split
import VulnScanner.Unicode.Case
import VulnScanner.Yaml.Tag

/-!
# Values of scalars

The value of a scalar under its tag. A tag that is written out need not fit the text, and then
reading the text fails.
-/

namespace VulnScanner.Yaml.Scalar

/-- Reads an integer of a base. -/
def readInteger (base : Nat) (s : List Char) : Except Error Int :=
  match Number.readInteger base s with
  | .ok n => .ok n
  | .error e => .error (.integer e)

/-- Reads a floating-point number. -/
def readDecimal (s : List Char) : Except Error Float :=
  match Number.readDecimal? s with
  | some x => .ok x.toFloat
  | none => .error (.decimal (String.ofList s))

/-- A truth value. -/
def truth (text : String) : Except Error Value :=
  let word := String.ofList (Unicode.lower text.toList)
  if word = "yes" ∨ word = "true" ∨ word = "on" then .ok (.bool true)
  else if word = "no" ∨ word = "false" ∨ word = "off" then .ok (.bool false)
  else .error (.truthWord word)

/-- An integer in decimal, binary, octal, hexadecimal or base sixty. -/
def integer (text : String) : Except Error Value := do
  let s := text.toList.filter (· ≠ '_')
  if s.isEmpty then throw .emptyNumber
  let negative := s.head? = some '-'
  let s := Plain.dropSign s
  let n ←
    if s = ['0'] then pure 0
    else match s with
      | '0' :: 'b' :: rest => readInteger 2 rest
      | '0' :: 'x' :: rest => readInteger 16 rest
      | '0' :: _ => readInteger 8 s
      | [] => throw .emptyNumber
      | _ =>
        if s.contains ':' then do
          let places ← (Text.splitAt ':' s).mapM (readInteger 10)
          pure (places.foldl (fun n place ↦ 60 * n + place) 0)
        else readInteger 10 s
  return .int (if negative then -n else n)

/-- Adds up places in base sixty, the last one first. What a place counts for has to be in the range
of floating-point numbers. -/
def addPlaces : List Float → Nat → Float → Except Error Float
  | [], _, sum => .ok sum
  | place :: rest, base, sum =>
    let factor := Binary64.ofInt base
    if factor.isInfinite then .error .placeTooLarge
    else addPlaces rest (base * 60) (sum + place * factor.toFloat)

/-- A floating-point number in decimal or base sixty. -/
def decimal (text : String) : Except Error Value := do
  let s := Unicode.lower (text.toList.filter (· ≠ '_'))
  if s.isEmpty then throw .emptyNumber
  let negative := s.head? = some '-'
  let s := Plain.dropSign s
  let signed (x : Float) : Value := .float (Binary64.ofFloat (if negative then -x else x))
  if s = ['.', 'i', 'n', 'f'] then return .float (Binary64.infinity negative)
  else if s = ['.', 'n', 'a', 'n'] then return .float Binary64.nan
  else if s.contains ':' then
    let places ← (Text.splitAt ':' s).mapM readDecimal
    return signed (← addPlaces places.reverse 1 0)
  else return signed (← readDecimal s)

/-- The microseconds that the digits of a fraction stand for; digits beyond the sixth are left
out. -/
def microseconds (fraction : List Char) : Nat :=
  let digits := fraction.take 6
  Timestamp.digitsValue (digits ++ List.replicate (6 - digits.length) '0')

/-- A date or a moment. -/
def timestamp (text : String) : Except Error Value :=
  match Timestamp.read? (withoutFinalBreak text.toList) with
  | none => .error .timestampForm
  | some t =>
    match t.time with
    | none =>
      match Calendar.Date.make t.year t.month t.day with
      | .ok d => .ok (.date d)
      | .error e => .error (.calendar e)
    | some (hour, minute, second, fraction) =>
      match Calendar.Moment.make t.year t.month t.day hour minute second
          (microseconds fraction) t.offset with
      | .ok m => .ok (.moment m)
      | .error e => .error (.calendar e)

/-- Octets in base 64. -/
def binary (text : String) : Except Error Value :=
  let s := text.toList
  if s.all fun c ↦ c.toNat < 128 then
    match Octets.Base64.decode? s with
    | some octets => .ok (.bytes octets)
    | none => .error .malformed
  else .error .malformed

/-- The value of a scalar under a tag. -/
def value (tag : Tag) (text : String) : Except Error Value :=
  match tag with
  | .null => .ok .null
  | .bool => truth text
  | .int => integer text
  | .float => decimal text
  | .timestamp => timestamp text
  | .binary => binary text
  | .text => .ok (.text text)
  | _ => .error .malformed

end VulnScanner.Yaml.Scalar
