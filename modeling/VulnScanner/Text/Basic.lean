/-!
# Comparing and replacing

Comparison of texts that ignores the case of ASCII letters, finding a word in a text, and replacing
every occurrence of it. Only the 26 ASCII letters have a case here; every other character is equal
to itself alone. Replacing goes over the text once from the left: after an occurrence the search
goes on behind it.
-/

namespace VulnScanner.Text

/-- The lower case form of an ASCII capital; every other character is kept. -/
def asciiLowerChar (c : Char) : Char :=
  if 'A' ≤ c ∧ c ≤ 'Z' then Char.ofNat (c.toNat + 32) else c

/-- Lower-cases the ASCII capitals of a text, character by character. -/
def asciiLower (s : String) : String := String.ofList (s.toList.map asciiLowerChar)

/-- Equality of texts up to the case of ASCII letters. Texts of different lengths differ. -/
def equalsIgnoringCase (a b : String) : Bool :=
  a.length == b.length && asciiLower a == asciiLower b

/-- Lower-casing works on the characters. -/
theorem toList_asciiLower (s : String) : (asciiLower s).toList = s.toList.map asciiLowerChar := by
  simp [asciiLower]

/-- Lower-casing keeps the length. -/
theorem length_asciiLower (s : String) : (asciiLower s).length = s.length := by
  simp [asciiLower, String.length_toList]

/-- Holds when `word` stands somewhere in the text. -/
def occursIn (word : List Char) : List Char → Bool
  | [] => word.isEmpty
  | c :: rest => word.isPrefixOf (c :: rest) || occursIn word rest

/-- One pass over the text that drops `skip` characters first and then replaces each
occurrence of `word`. -/
def replaceAfter (word replacement : List Char) : Nat → List Char → List Char
  | _, [] => []
  | skip + 1, _ :: rest => replaceAfter word replacement skip rest
  | 0, c :: rest =>
    if word.isPrefixOf (c :: rest) then
      replacement ++ replaceAfter word replacement (word.length - 1) rest
    else c :: replaceAfter word replacement 0 rest

/-- The text with every occurrence of the non-empty `word` replaced, from left to right. -/
def replaceAll (word replacement text : List Char) : List Char :=
  replaceAfter word replacement 0 text

/-- `replaceAll` on strings. -/
def replaceIn (word replacement text : String) : String :=
  String.ofList (replaceAll word.toList replacement.toList text.toList)

/-- Holds when the string `word` stands somewhere in `text`. -/
def contains (text word : String) : Bool := occursIn word.toList text.toList

end VulnScanner.Text
