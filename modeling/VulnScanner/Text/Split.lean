/-!
# Splitting a text

`splitAt c` cuts a text at every occurrence of a character, `splitFirst` at the first one and
`splitLast` at the last one.
-/

namespace VulnScanner.Text

/-- Cuts a text at every occurrence of a character. -/
def splitAt (c : Char) : List Char → List (List Char)
  | [] => [[]]
  | d :: rest =>
    if d = c then [] :: splitAt c rest
    else match splitAt c rest with
      | [] => [[d]]
      | piece :: pieces => (d :: piece) :: pieces

/-- Cuts a text at the last occurrence of a character, if there is one. -/
def splitLast (c : Char) : List Char → Option (List Char × List Char)
  | [] => none
  | d :: rest =>
    match splitLast c rest with
    | some (before, after) => some (d :: before, after)
    | none => if d = c then some ([], rest) else none

/-- A text is cut into at least one piece. -/
theorem splitAt_ne_nil (c : Char) (s : List Char) : splitAt c s ≠ [] := by
  induction s with
  | nil => simp [splitAt]
  | cons d rest ih =>
    by_cases h : d = c
    · simp [splitAt, h]
    · cases hs : splitAt c rest <;> simp [splitAt, h, hs]

/-- A text without the character is one piece. -/
theorem splitAt_of_not_mem {c : Char} {s : List Char} (h : c ∉ s) : splitAt c s = [s] := by
  induction s with
  | nil => rfl
  | cons d rest ih =>
    rw [List.mem_cons, not_or] at h
    rw [splitAt, if_neg (Ne.symm h.1), ih h.2]

/-- A text is cut at an occurrence of the character as its two parts are. -/
theorem splitAt_append_cons (c : Char) (s t : List Char) :
    splitAt c (s ++ c :: t) = splitAt c s ++ splitAt c t := by
  induction s with
  | nil => simp [splitAt]
  | cons d rest ih =>
    rw [List.cons_append, splitAt, splitAt, ih]
    split
    · rfl
    · cases hs : splitAt c rest with
      | nil => exact absurd hs (splitAt_ne_nil c rest)
      | cons piece pieces => rfl

/-- The two parts and the character between them are the whole text. -/
theorem append_of_splitLast {c : Char} {s before after : List Char}
    (h : splitLast c s = some (before, after)) : s = before ++ c :: after := by
  induction s generalizing before after with
  | nil => simp [splitLast] at h
  | cons d rest ih =>
    simp only [splitLast] at h
    split at h
    · next b a hb =>
      obtain ⟨rfl, rfl⟩ : d :: b = before ∧ a = after := by simpa using h
      simp [ih hb]
    · split at h
      · next hd =>
        obtain ⟨rfl, rfl⟩ : [] = before ∧ rest = after := by simpa using h
        simp [hd]
      · simp at h

/-- A text without the character is not cut. -/
theorem splitLast_of_not_mem {c : Char} {s : List Char} (h : c ∉ s) : splitLast c s = none := by
  induction s with
  | nil => rfl
  | cons d rest ih =>
    rw [List.mem_cons, not_or] at h
    rw [splitLast, ih h.2]
    exact if_neg (Ne.symm h.1)

/-- More without the character only adds to what is behind the cut. -/
theorem splitLast_append {c : Char} {t : List Char} (h : c ∉ t) (s : List Char) :
    splitLast c (s ++ t) = (splitLast c s).map fun parts ↦ (parts.1, parts.2 ++ t) := by
  induction s with
  | nil => exact splitLast_of_not_mem h
  | cons d rest ih =>
    rw [List.cons_append, splitLast, splitLast, ih]
    cases splitLast c rest with
    | some parts => rfl
    | none => by_cases hd : d = c <;> simp [hd]

/-- A text is cut behind a beginning without the character. -/
theorem splitLast_append_of_not_mem {c : Char} {s : List Char} (h : c ∉ s) (t : List Char) :
    splitLast c (s ++ t) = (splitLast c t).map fun parts ↦ (s ++ parts.1, parts.2) := by
  induction s with
  | nil => simp
  | cons d rest ih =>
    rw [List.mem_cons, not_or] at h
    rw [List.cons_append, splitLast, ih h.2]
    cases splitLast c t with
    | some parts => rfl
    | none => exact if_neg (Ne.symm h.1)

end VulnScanner.Text
