import Mathlib.Data.List.Infix
import VulnScanner.Text.Basic

/-!
# Occurrences as infixes

A word occurs in a text exactly if it is an infix of it. A replacement leaves what stands before
the first character of the word as it is, and turns the word itself into its replacement.
-/

namespace VulnScanner.Text

/-- A word stands somewhere in a text exactly if it is an infix. -/
theorem occursIn_iff_infix (word text : List Char) :
    occursIn word text = true ↔ word <:+: text := by
  induction text with
  | nil => simp [occursIn]
  | cons c rest ih =>
    rw [occursIn, Bool.or_eq_true, List.isPrefixOf_iff_prefix, ih, List.infix_cons_iff]

/-- A string holds a word exactly if the characters of the word are an infix. -/
theorem contains_iff_infix (text word : String) :
    contains text word = true ↔ word.toList <:+: text.toList :=
  occursIn_iff_infix _ _

private theorem not_prefix_of_head_ne {c d : Char} (word rest : List Char) (h : d ≠ c) :
    (c :: word).isPrefixOf (d :: rest) = false := by
  simp [List.isPrefixOf, Ne.symm h]

/-- What holds no first character of the word is kept. -/
theorem replaceAll_append_of_not_mem {c : Char} {before : List Char} (word replacement : List Char)
    (after : List Char) (h : c ∉ before) :
    replaceAll (c :: word) replacement (before ++ after) =
      before ++ replaceAll (c :: word) replacement after := by
  induction before with
  | nil => rfl
  | cons d rest ih =>
    have hd : d ≠ c := fun e ↦ h (e ▸ List.mem_cons_self)
    have hr : c ∉ rest := fun m ↦ h (List.mem_cons_of_mem _ m)
    have hp := not_prefix_of_head_ne word (rest ++ after) hd
    have hi := ih hr
    unfold replaceAll at hi ⊢
    rw [List.cons_append, replaceAfter, hp]
    simp only [Bool.false_eq_true, if_false, hi, List.cons_append]

/-- A text without the first character of the word is kept. -/
theorem replaceAll_of_not_mem {c : Char} {text : List Char} (word replacement : List Char)
    (h : c ∉ text) : replaceAll (c :: word) replacement text = text := by
  have hr := replaceAll_append_of_not_mem word replacement [] h
  simpa [replaceAll, replaceAfter] using hr

private theorem replaceAfter_append (word replacement before after : List Char) :
    replaceAfter word replacement before.length (before ++ after) =
      replaceAfter word replacement 0 after := by
  induction before with
  | nil => rfl
  | cons d rest ih => rw [List.cons_append, List.length_cons, replaceAfter, ih]

/-- The word at the head of a text is replaced. -/
theorem replaceAll_word_append (c : Char) (word replacement after : List Char) :
    replaceAll (c :: word) replacement (c :: word ++ after) =
      replacement ++ replaceAll (c :: word) replacement after := by
  have hp : (c :: word).isPrefixOf (c :: (word ++ after)) = true := by
    rw [List.isPrefixOf_iff_prefix, ← List.cons_append]
    exact List.prefix_append _ _
  unfold replaceAll
  rw [List.cons_append, replaceAfter, hp]
  simp only [if_true, List.length_cons, Nat.add_sub_cancel]
  rw [replaceAfter_append]

/-- A character at which the word does not begin is kept. -/
theorem replaceAll_cons_of_not_begins {word : List Char} (replacement : List Char) {d : Char}
    {rest : List Char} (h : ¬ word <+: d :: rest) :
    replaceAll word replacement (d :: rest) = d :: replaceAll word replacement rest := by
  unfold replaceAll
  rw [replaceAfter, if_neg (by rwa [List.isPrefixOf_iff_prefix])]

/-- What a text begins with after a replacement it began with before, unless the replacement
begins with one of its characters. -/
theorem prefix_of_prefix_replaceAll {c d : Char} {word replacement lead text : List Char}
    (hd : d ∉ lead) (h : lead <+: replaceAll (c :: word) (d :: replacement) text) :
    lead <+: text := by
  induction lead generalizing text with
  | nil => exact List.nil_prefix
  | cons x lead ih =>
    rw [List.mem_cons, not_or] at hd
    cases text with
    | nil => exact h
    | cons y rest =>
      by_cases hp : c :: word <+: y :: rest
      · obtain ⟨tail, ht⟩ := hp
        rw [← ht, replaceAll_word_append, List.cons_append, List.cons_prefix_cons] at h
        exact absurd h.1.symm hd.1
      · rw [replaceAll_cons_of_not_begins _ hp, List.cons_prefix_cons] at h
        exact List.cons_prefix_cons.mpr ⟨h.1, ih hd.2 h.2⟩

private theorem prefix_of_prefix_append_cons {c : Char} {word before after : List Char}
    (hc : c ∉ word) (h : word <+: before ++ c :: after) : word <+: before := by
  obtain ⟨tail, htail⟩ := h
  rcases List.append_eq_append_iff.mp htail with ⟨rest, rfl, -⟩ | ⟨rest, rfl, hrest⟩
  · exact List.prefix_append _ _
  · cases rest with
    | nil => simp
    | cons d rest =>
      rw [List.cons_append, List.cons.injEq] at hrest
      exact absurd (List.mem_append_right before (hrest.1 ▸ List.mem_cons_self)) hc

/-- A replacement does not go on across the first character of its word, if that stands nowhere else
in the word. -/
theorem replaceAll_append_cons {c : Char} {word : List Char} (replacement : List Char)
    (hc : c ∉ word) (before after : List Char) :
    replaceAll (c :: word) replacement (before ++ c :: after) =
      replaceAll (c :: word) replacement before ++
        replaceAll (c :: word) replacement (c :: after) := by
  induction h : before.length using Nat.strong_induction_on generalizing before with
  | _ n ih =>
    cases before with
    | nil => rfl
    | cons d rest =>
      by_cases hbegins : c :: word <+: d :: rest
      · obtain ⟨tail, htail⟩ := hbegins
        have hlt : tail.length < n := by
          rw [← h, ← htail, List.length_append, List.length_cons]
          omega
        rw [← htail, List.append_assoc, replaceAll_word_append, replaceAll_word_append,
          ih tail.length hlt tail rfl, List.append_assoc]
      · have hnot : ¬ c :: word <+: d :: (rest ++ c :: after) := by
          intro hprefix
          refine hbegins ?_
          obtain ⟨rfl, hword⟩ := List.cons_prefix_cons.mp hprefix
          exact List.cons_prefix_cons.mpr ⟨rfl, prefix_of_prefix_append_cons hc hword⟩
        have hlt : rest.length < n := by
          rw [← h, List.length_cons]
          omega
        rw [List.cons_append, replaceAll_cons_of_not_begins replacement hnot,
          replaceAll_cons_of_not_begins replacement hbegins, ih rest.length hlt rest rfl,
          List.cons_append]

/-- Where the word occurs, its replacement does afterwards. -/
theorem infix_replaceAll {c : Char} {word : List Char} (replacement : List Char) {text : List Char}
    (hc : c ∉ word) (h : c :: word <:+: text) :
    replacement <:+: replaceAll (c :: word) replacement text := by
  obtain ⟨before, after, rfl⟩ := h
  rw [List.append_assoc, List.cons_append, replaceAll_append_cons replacement hc,
    ← List.cons_append, replaceAll_word_append]
  exact ⟨_, _, List.append_assoc ..⟩

/-- Another word that begins with the same character is still there after a replacement, if the
character stands nowhere else in the words and neither begins with the other. -/
theorem infix_replaceAll_of_differ {c : Char} {word other : List Char} (replacement : List Char)
    {text : List Char} (hc : c ∉ word) (hother : c ∉ other) (hdiffer : ¬ word <+: other)
    (hdiffer' : ¬ other <+: word) (h : c :: other <:+: text) :
    c :: other <:+: replaceAll (c :: word) replacement text := by
  obtain ⟨before, after, rfl⟩ := h
  have hnot : ¬ c :: word <+: c :: (other ++ after) := by
    rw [List.cons_prefix_cons]
    rintro ⟨-, hword⟩
    rcases List.prefix_or_prefix_of_prefix hword (List.prefix_append other after) with h | h
    · exact hdiffer h
    · exact hdiffer' h
  rw [List.append_assoc, List.cons_append, replaceAll_append_cons replacement hc,
    replaceAll_cons_of_not_begins replacement hnot,
    replaceAll_append_of_not_mem word replacement after hother]
  exact ⟨replaceAll (c :: word) replacement before, replaceAll (c :: word) replacement after,
    by simp⟩

/-! ### Counting occurrences -/

/-- The number of places of a text at which the word begins. -/
def occurrences (word : List Char) : List Char → Nat
  | [] => 0
  | c :: rest => occurrences word rest + if word.isPrefixOf (c :: rest) then 1 else 0

/-- A place at which the word does not begin does not count. -/
theorem occurrences_cons_of_not_begins {word : List Char} {d : Char} {rest : List Char}
    (h : ¬ word <+: d :: rest) : occurrences word (d :: rest) = occurrences word rest := by
  rw [occurrences, if_neg (by rwa [List.isPrefixOf_iff_prefix])]
  rfl

/-- What holds no first character of the word does not count. -/
theorem occurrences_append_of_not_mem {c : Char} {before : List Char} (word after : List Char)
    (h : c ∉ before) :
    occurrences (c :: word) (before ++ after) = occurrences (c :: word) after := by
  induction before with
  | nil => rfl
  | cons d rest ih =>
    rw [List.mem_cons, not_or] at h
    rw [List.cons_append, occurrences_cons_of_not_begins, ih h.2]
    rw [List.cons_prefix_cons]
    exact fun hprefix ↦ h.1 hprefix.1

/-- The word at the head of a text counts once, if its first character stands nowhere else in it. -/
theorem occurrences_word_append {c : Char} {word : List Char} (hc : c ∉ word)
    (after : List Char) :
    occurrences (c :: word) (c :: word ++ after) = occurrences (c :: word) after + 1 := by
  have hbegins : (c :: word).isPrefixOf (c :: (word ++ after)) = true := by
    rw [List.isPrefixOf_iff_prefix, ← List.cons_append]
    exact List.prefix_append _ _
  rw [List.cons_append, occurrences, if_pos hbegins, occurrences_append_of_not_mem word after hc]

/-- A word that is not empty stands nowhere in a text exactly if it does not begin at any place. -/
theorem occurrences_eq_zero_iff {c : Char} {word text : List Char} :
    occurrences (c :: word) text = 0 ↔ ¬ c :: word <:+: text := by
  induction text with
  | nil => simp [occurrences]
  | cons d rest ih =>
    rw [occurrences, List.infix_cons_iff, not_or, Nat.add_eq_zero_iff, ih,
      ← List.isPrefixOf_iff_prefix, and_comm]
    simp

end VulnScanner.Text
