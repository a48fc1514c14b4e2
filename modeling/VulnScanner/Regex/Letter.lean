import VulnScanner.Regex.Node
import VulnScanner.Unicode.Basic
import VulnScanner.Unicode.Case
import VulnScanner.Unicode.Letters

/-!
# Matching one character

Whether a character belongs to a set, with and without regard to case. Without regard to case
a character is brought to lower case first; a set then holds the lower case forms of its
members and their variants. Members beyond the basic plane are an exception: they are compared as
they stand, and their ranges also with the upper case form.
-/

namespace VulnScanner.Regex

/-- The first code point beyond the basic plane. -/
def basicLimit : Nat := 0x10000

/-- The lower case form of an ASCII letter. -/
def asciiLowerCode (n : Nat) : Nat := if 65 ≤ n ∧ n ≤ 90 then n + 32 else n

/-- The lower case form in the repertoire in force. -/
def Flags.lowerCode (flags : Flags) (n : Nat) : Nat :=
  if flags.unicode then Unicode.lowerCode n else asciiLowerCode n

/-- A lower case code point with those that are equal to it up to case. -/
def Flags.variants (flags : Flags) (n : Nat) : List Nat :=
  if flags.unicode then n :: Unicode.variantsOf n else [n]

/-- Equality of a literal and a character up to case. -/
def sameUpToCase (flags : Flags) (literal n : Nat) : Bool :=
  (flags.variants (flags.lowerCode literal)).contains (flags.lowerCode n)

/-- The ASCII characters of a class. -/
def CharClass.hasAscii : CharClass → Nat → Bool
  | digit, n => 48 ≤ n && n ≤ 57
  | space, n => n == 32 || (9 ≤ n && n ≤ 13)
  | word, n =>
    (48 ≤ n && n ≤ 57) || (65 ≤ n && n ≤ 90) || (97 ≤ n && n ≤ 122) || n == 95

/-- The characters of a class. -/
def CharClass.has : CharClass → Char → Bool
  | digit, c => Unicode.isDigit c
  | space, c => Unicode.isBlank c
  | word, c => Unicode.isWordChar c

/-- Membership in a class in the repertoire in force. -/
def CharClass.holds (flags : Flags) (cls : CharClass) (n : Nat) : Bool :=
  if flags.unicode then cls.has (Char.ofNat n) else cls.hasAscii n

/-- Holds when some code point from `low` to `high` has the lower case form `n`. -/
def rangeLowersTo (flags : Flags) (low high n : Nat) : Bool :=
  let inside (k : Nat) : Bool := low ≤ k && k ≤ high
  (flags.lowerCode n == n && inside n) ||
    (97 ≤ n && n ≤ 122 && inside (n - 32)) ||
    (flags.unicode && Unicode.lowerRuns.any fun run ↦
      let k := ((n : Int) - run.shift).toNat
      run.image? k == some n && inside k && 128 ≤ k)

/-- Membership of `n` as it stands. -/
def Member.holds (flags : Flags) (n : Nat) : Member → Bool
  | code k => n == k
  | range low high => low ≤ n && n ≤ high
  | named cls negated => cls.holds flags n != negated

/-- Membership up to case; `n` is in lower case. -/
def Member.holdsUpToCase (flags : Flags) (n : Nat) : Member → Bool
  | code k =>
    if k < basicLimit then sameUpToCase flags k n else n == k
  | range low high =>
    (low < basicLimit && (flags.variants n).any
      (rangeLowersTo flags low (min high (basicLimit - 1)))) ||
    (basicLimit ≤ high &&
      ((low ≤ n && n ≤ high) ||
        ((Unicode.upperCodes n).head?.any fun u ↦ low ≤ u && u ≤ high)))
  | named cls negated => cls.holds flags n != negated

/-- Membership of a character in a set. -/
def setHolds (flags : Flags) (negated : Bool) (members : List Member) (c : Char) : Bool :=
  let found :=
    if flags.ignoreCase then members.any (·.holdsUpToCase flags (flags.lowerCode c.toNat))
    else members.any (·.holds flags c.toNat)
  found != negated

/-- Whether a character is the literal `n`. -/
def literalHolds (flags : Flags) (n : Nat) (c : Char) : Bool :=
  if flags.ignoreCase then sameUpToCase flags n c.toNat else c.toNat == n

end VulnScanner.Regex
