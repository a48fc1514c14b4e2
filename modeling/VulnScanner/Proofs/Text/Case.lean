import Mathlib.Data.List.Forall2
import VulnScanner.Text.Basic

/-!
# The same text in another case

Two texts are the same up to ASCII case if they are so character by character, and it is this that
comparison without case decides.
-/

namespace VulnScanner.Text

/-- The capital letters of ASCII. -/
def IsCapital (c : Char) : Prop := 'A' ≤ c ∧ c ≤ 'Z'

/-- Two characters are equal, or the two forms of one ASCII letter. -/
def SameLetter (c d : Char) : Prop :=
  c = d ∨ (IsCapital c ∧ d.toNat = c.toNat + 32) ∨ (IsCapital d ∧ c.toNat = d.toNat + 32)

/-- Two texts have the same letters at the same places. -/
def SameLetters (a b : String) : Prop := List.Forall₂ SameLetter a.toList b.toList

/-- The capital letters stand in one row. -/
theorem isCapital_iff {c : Char} : IsCapital c ↔ 65 ≤ c.toNat ∧ c.toNat ≤ 90 := by
  unfold IsCapital
  rw [Char.le_def, Char.le_def, UInt32.le_iff_toNat_le, UInt32.le_iff_toNat_le]
  rfl

/-- A valid code point is that of its character. -/
theorem toNat_ofNat_of_isValidChar {n : Nat} (h : n.isValidChar) : (Char.ofNat n).toNat = n := by
  rw [Char.ofNat, dif_pos h]
  rfl

/-- The small form of a capital stands 32 places behind it. -/
theorem toNat_asciiLowerChar (c : Char) :
    (asciiLowerChar c).toNat =
      if 65 ≤ c.toNat ∧ c.toNat ≤ 90 then c.toNat + 32 else c.toNat := by
  unfold asciiLowerChar
  by_cases h : IsCapital c
  · have hr := isCapital_iff.mp h
    have hv : (c.toNat + 32).isValidChar := by
      left
      omega
    rw [if_pos hr, if_pos (show 'A' ≤ c ∧ c ≤ 'Z' from h), toNat_ofNat_of_isValidChar hv]
  · rw [if_neg (isCapital_iff.not.mp h), if_neg (show ¬ ('A' ≤ c ∧ c ≤ 'Z') from h)]

/-- Two characters have one lower case form exactly if they are the same letter. -/
theorem asciiLowerChar_eq_iff {c d : Char} :
    asciiLowerChar c = asciiLowerChar d ↔ SameLetter c d := by
  have heq : ∀ c d : Char, c = d ↔ c.toNat = d.toNat := fun c d ↦ Char.toNat_inj.symm
  unfold SameLetter
  rw [heq, heq, isCapital_iff, isCapital_iff, toNat_asciiLowerChar, toNat_asciiLowerChar]
  split <;> split <;> omega

/-- Comparison without case holds exactly of texts with the same letters. -/
theorem equalsIgnoringCase_iff {a b : String} :
    equalsIgnoringCase a b = true ↔ SameLetters a b := by
  unfold equalsIgnoringCase SameLetters
  rw [Bool.and_eq_true, beq_iff_eq, beq_iff_eq, ← String.toList_inj, toList_asciiLower,
    toList_asciiLower, ← String.length_toList, ← String.length_toList]
  have hmap : ∀ s t : List Char,
      s.length = t.length ∧ s.map asciiLowerChar = t.map asciiLowerChar ↔
        List.Forall₂ SameLetter s t := by
    intro s
    induction s with
    | nil => intro t; cases t <;> simp
    | cons c rest ih =>
      intro t
      cases t with
      | nil => simp
      | cons d rest' =>
        rw [List.forall₂_cons, ← ih rest', ← asciiLowerChar_eq_iff]
        simp only [List.length_cons, Nat.add_right_cancel_iff, List.map_cons, List.cons.injEq]
        exact ⟨fun h ↦ ⟨h.2.1, h.1, h.2.2⟩, fun h ↦ ⟨h.2.1, h.1, h.2.2⟩⟩
  exact hmap _ _

instance (a b : String) : Decidable (SameLetters a b) := decidable_of_iff _ equalsIgnoringCase_iff

/-- Texts with the same letters are those with one lower case form. -/
theorem sameLetters_iff {a b : String} : SameLetters a b ↔ asciiLower a = asciiLower b := by
  rw [← equalsIgnoringCase_iff, equalsIgnoringCase, Bool.and_eq_true, beq_iff_eq, beq_iff_eq]
  refine and_iff_right_of_imp fun h ↦ ?_
  rw [← length_asciiLower a, h, length_asciiLower]

/-- A text has the letters that it has. -/
theorem SameLetters.refl (a : String) : SameLetters a a := sameLetters_iff.mpr rfl

/-- Texts with the same letters are of the same length. -/
theorem SameLetters.length_eq {a b : String} (h : SameLetters a b) : a.length = b.length := by
  rw [← length_asciiLower a, sameLetters_iff.mp h, length_asciiLower]

/-- Only the empty text is the empty text in another case. -/
theorem SameLetters.isEmpty_eq {a b : String} (h : SameLetters a b) : a.isEmpty = b.isEmpty := by
  rw [Bool.eq_iff_iff, String.isEmpty_iff, String.isEmpty_iff, ← String.length_eq_zero_iff,
    ← String.length_eq_zero_iff, h.length_eq]

section

variable {a a' b b' : String}

/-- Two texts have the same letters in every case of both. -/
theorem sameLetters_congr (ha : SameLetters a a') (hb : SameLetters b b') :
    SameLetters a b ↔ SameLetters a' b' := by
  rw [sameLetters_iff, sameLetters_iff, sameLetters_iff.mp ha, sameLetters_iff.mp hb]

/-- Comparison without case has the same answer in every case of both texts. -/
theorem equalsIgnoringCase_congr (ha : SameLetters a a') (hb : SameLetters b b') :
    equalsIgnoringCase a b = equalsIgnoringCase a' b' := by
  rw [Bool.eq_iff_iff, equalsIgnoringCase_iff, equalsIgnoringCase_iff]
  exact sameLetters_congr ha hb

end

end VulnScanner.Text
