import VulnScanner.Number.Binary64
import VulnScanner.Text.Quoted
import VulnScanner.Unicode.Basic

/-!
# Reading numbers from text

`readInteger` reads a signed numeral of a given base and `readDecimal?` a decimal floating-point
number. Both accept blanks around the number, the decimal digits of every script, and single
underscores between digits. Numerals of a base that is no power of two have at most
`digitLimit` digits.
-/

namespace VulnScanner.Number

/-- The most digits of a numeral whose base is no power of two. -/
def digitLimit : Nat := 4300

/-- Whether an integer is written out: one of too many decimal digits is not. -/
def hasDigits (n : Int) : Bool := n.natAbs < Binary64.tenTo digitLimit

/-- The wording for an integer that is not written out. -/
def unwrittenMessage : String :=
  s!"Exceeds the limit ({digitLimit} digits) for integer string conversion; " ++
    "use sys.set_int_max_str_digits() to increase the limit"

/-- Why a text is no integer. -/
inductive IntegerError where
  /-- The text is not a numeral of the base. -/
  | malformed (base : Nat) (text : String)
  /-- The numeral has more digits than the limit. -/
  | tooLong (digits : Nat)
  deriving DecidableEq, Repr

/-- The wording of an integer error; a long text is cut after 200 characters of its quoted
form. -/
def IntegerError.message : IntegerError → String
  | .malformed base text =>
    s!"invalid literal for int() with base {base}: " ++
      String.ofList ((Text.quoted text).toList.take 200)
  | .tooLong digits =>
    s!"Exceeds the limit ({digitLimit} digits) for integer string conversion: " ++
      s!"value has {digits} digits; use sys.set_int_max_str_digits() to increase the limit"

/-- Writes digits of other scripts as ASCII digits and strips blanks from the ends. -/
def normalizeNumeral (s : List Char) : List Char :=
  Unicode.strip <| s.map fun c ↦
    match Unicode.digitValue? c with
    | some d => Char.ofNat (48 + d)
    | none => c

/-- The value of an ASCII digit or letter as a digit of bases up to 36. -/
def digitOf? (base : Nat) (c : Char) : Option Nat :=
  let n := c.toNat
  let value? : Option Nat :=
    if 48 ≤ n ∧ n ≤ 57 then some (n - 48)
    else if 97 ≤ n ∧ n ≤ 122 then some (n - 87)
    else if 65 ≤ n ∧ n ≤ 90 then some (n - 55)
    else none
  value?.filter (· < base)

/-- Splits a sign from a text; the flag tells whether it is a minus. -/
def splitSign : List Char → Bool × List Char
  | '-' :: rest => (true, rest)
  | '+' :: rest => (false, rest)
  | s => (false, s)

/-- Removes single underscores that stand between two digits; any other underscore is refused. -/
def joinDigits? (isDigit : Char → Bool) : List Char → Option (List Char)
  | [] => some []
  | [c] => if c = '_' then none else some [c]
  | c :: '_' :: d :: rest =>
    if isDigit c && isDigit d then (joinDigits? isDigit (d :: rest)).map (c :: ·) else none
  | c :: rest => if c = '_' then none else (joinDigits? isDigit rest).map (c :: ·)

/-- Drops the marker that a numeral of base 2, 8 or 16 may begin with, and one underscore
behind it. -/
def dropBaseMarker (base : Nat) : List Char → List Char
  | '0' :: c :: rest =>
    let marked := (base = 2 ∧ (c = 'b' ∨ c = 'B')) ∨ (base = 8 ∧ (c = 'o' ∨ c = 'O')) ∨
      (base = 16 ∧ (c = 'x' ∨ c = 'X'))
    if marked then (match rest with | '_' :: rest => rest | _ => rest) else '0' :: c :: rest
  | s => s

/-- The digits of an unsigned numeral, most significant first. -/
def digitsOf? (base : Nat) (s : List Char) : Option (List Nat) := do
  let joined ← joinDigits? (fun c ↦ (digitOf? base c).isSome) s
  if joined.isEmpty then none else joined.mapM (digitOf? base)

/-- The value of digits in a base, most significant first. -/
def ofDigits (base : Nat) (digits : List Nat) : Nat := digits.foldl (fun n d ↦ base * n + d) 0

/-- Reads an integer written in the given base. -/
def readInteger (base : Nat) (s : List Char) : Except IntegerError Int :=
  let (negative, body) := splitSign (normalizeNumeral s)
  match digitsOf? base (dropBaseMarker base body) with
  | none => .error (.malformed base (String.ofList s))
  | some digits =>
    if base ∉ [2, 4, 8, 16, 32] ∧ digitLimit < digits.length then .error (.tooLong digits.length)
    else
      let n := ofDigits base digits
      .ok (if negative then -(n : Int) else n)

/-- Splits the leading ASCII digits from a text. -/
def spanDigits (s : List Char) : List Char × List Char := s.span Char.isDigit

/-- The value of a list of ASCII digits. -/
def digitsValue (digits : List Char) : Nat :=
  digits.foldl (fun n c ↦ 10 * n + (c.toNat - 48)) 0

/-- The exponent at the end of a decimal number; a missing one is zero. -/
def readExponent? : List Char → Option Int
  | [] => some 0
  | c :: rest =>
    if c = 'e' ∨ c = 'E' then
      let (negative, body) := splitSign rest
      if body.isEmpty || !body.all Char.isDigit then none
      else
        let n : Int := digitsValue body
        some (if negative then -n else n)
    else none

/-- The names of the numbers that are not finite. -/
def specialNumber? (negative : Bool) (s : List Char) : Option Binary64 :=
  let name := String.ofList (s.map Char.toLower)
  if name = "inf" ∨ name = "infinity" then some (Binary64.infinity negative)
  else if name = "nan" then some Binary64.nan
  else none

/-- Reads a decimal floating-point number. -/
def readDecimal? (s : List Char) : Option Binary64 := do
  let joined ← joinDigits? Char.isDigit (normalizeNumeral s)
  let (negative, body) := splitSign joined
  let (whole, rest) := spanDigits body
  let (fraction, rest) := match rest with
    | '.' :: rest => spanDigits rest
    | rest => ([], rest)
  if whole.isEmpty && fraction.isEmpty then specialNumber? negative body
  else
    let exponent ← readExponent? rest
    return Binary64.ofDecimal negative (digitsValue (whole ++ fraction))
      (exponent - fraction.length)

/-- The wording for a text that is no decimal number. -/
def decimalMessage (s : String) : String :=
  "could not convert string to float: " ++ Text.quoted s

end VulnScanner.Number
