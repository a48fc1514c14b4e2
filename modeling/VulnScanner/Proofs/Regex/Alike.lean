import VulnScanner.Proofs.Regex.Reading

/-!
# Texts that are read alike

A zero may give way to any other character that stands for itself, as long as nothing that takes
digits or names in stands before it: sets, counts, numeric and named escapes, and named groups.
-/

namespace VulnScanner.Regex

/-- Characters before which nothing is taken in. -/
def isCommon (c : Char) : Bool := !(['\\', '(', '[', '\x7b'].contains c)

/-- Characters that stand alone behind a backslash. -/
def isLoneEscape (c : Char) : Bool := !isDecimal c && !(['x', 'u', 'U', 'N'].contains c)

/-- What follows a parenthesis neither names a group nor looks behind. -/
def OpensUnnamed (rest : List Char) : Prop :=
  ¬ ['?', 'P'] <+: rest ∧ ¬ ['?', '('] <+: rest ∧ ¬ ['?', '<'] <+: rest

instance (rest : List Char) : Decidable (OpensUnnamed rest) :=
  inferInstanceAs (Decidable (_ ∧ _ ∧ _))

/-- The second text is the first with some zeros replaced. -/
inductive ReadAlike : List Char → List Char → Prop
  | nil : ReadAlike [] []
  | same {c : Char} {s t : List Char} (hc : isCommon c = true) (h : ReadAlike s t) :
      ReadAlike (c :: s) (c :: t)
  | escaped {c : Char} {s t : List Char} (hc : isLoneEscape c = true) (h : ReadAlike s t) :
      ReadAlike ('\\' :: c :: s) ('\\' :: c :: t)
  | opened {s t : List Char} (ho : OpensUnnamed s) (h : ReadAlike s t) :
      ReadAlike ('(' :: s) ('(' :: t)
  | zero {d : Char} {s t : List Char} (hd : isInert d = true) (h : ReadAlike s t) :
      ReadAlike ('0' :: s) (d :: t)

/-- Two tokens at the same place of texts that are read alike. -/
def TokenAlike (a b : List Char) : Prop := a = b ∨ a = ['0'] ∧ ∃ d, isInert d = true ∧ b = [d]

/-- Two tokens that begin no group, at the same place of texts that are read alike. -/
inductive ItemAlike : List Char → List Char → Prop
  | same {c : Char} (hc : isCommon c = true) : ItemAlike [c] [c]
  | escaped {c : Char} (hc : isLoneEscape c = true) : ItemAlike ['\\', c] ['\\', c]
  | zero {d : Char} (hd : isInert d = true) : ItemAlike ['0'] [d]

/-! ### Tokens -/

namespace ReadAlike

variable {s t : List Char}

/-- Texts that are read alike are equally long. -/
theorem length_eq (h : ReadAlike s t) : t.length = s.length := by
  induction h with
  | nil => rfl
  | same _ _ ih => rw [List.length_cons, List.length_cons, ih]
  | escaped _ _ ih => simp only [List.length_cons, ih]
  | opened _ _ ih => rw [List.length_cons, List.length_cons, ih]
  | zero _ _ ih => rw [List.length_cons, List.length_cons, ih]

/-- Texts that are read alike have the same outline. -/
theorem outline_eq (h : ReadAlike s t) : outline t = outline s := by
  have hzero : isInert '0' = true := by decide
  unfold outline
  induction h with
  | nil => rfl
  | same _ _ ih => rw [List.filter_cons, List.filter_cons, ih]
  | escaped _ _ ih => simp only [List.filter_cons, ih]
  | opened _ _ ih => rw [List.filter_cons, List.filter_cons, ih]
  | zero hd _ ih => simp [hd, hzero, ih]

/-- Of texts that are read alike, both are empty or neither is. -/
theorem isEmpty_eq (h : ReadAlike s t) : t.isEmpty = s.isEmpty := by
  cases h <;> rfl

private theorem ne_backslash_of_isCommon {c : Char} (hc : isCommon c = true) : c ≠ '\\' := by
  rintro rfl
  cases hc

private theorem ne_backslash_of_isInert {c : Char} (hc : isInert c = true) : c ≠ '\\' := by
  rintro rfl
  cases hc

/-- The tokens at the head of texts that are read alike. -/
theorem token (h : ReadAlike s t) : TokenAlike (tokenOf s) (tokenOf t) := by
  cases h with
  | nil => exact .inl rfl
  | same hc h =>
    have hb := ne_backslash_of_isCommon hc
    exact .inl (by rw [tokenOf_cons _ hb, tokenOf_cons _ hb])
  | escaped hc h => exact .inl rfl
  | opened ho h => exact .inl (by rw [tokenOf_cons _ (by decide), tokenOf_cons _ (by decide)])
  | zero hd h =>
    refine .inr ⟨tokenOf_cons _ (by decide), _, hd, tokenOf_cons _ (ne_backslash_of_isInert hd)⟩

/-- The same number of characters makes the first token. -/
theorem token_length (h : ReadAlike s t) : (tokenOf t).length = (tokenOf s).length := by
  rcases h.token with he | ⟨hs, d, -, ht⟩
  · rw [he]
  · rw [hs, ht]
    rfl

/-- Texts that are read alike are still so behind their first tokens. -/
theorem drop (h : ReadAlike s t) :
    ReadAlike (s.drop (tokenOf s).length) (t.drop (tokenOf s).length) := by
  cases h with
  | nil => exact .nil
  | same hc h => rwa [tokenOf_cons _ (ne_backslash_of_isCommon hc)]
  | escaped hc h => exact h
  | opened ho h => rwa [tokenOf_cons _ (by decide)]
  | zero hd h => rwa [tokenOf_cons _ (by decide)]

/-- Neither of two texts that are read alike is a lone backslash. -/
theorem ne_lone (h : ReadAlike s t) : s ≠ ['\\'] ∧ t ≠ ['\\'] := by
  cases h with
  | nil => exact ⟨by simp, by simp⟩
  | same hc h =>
    have hb := ne_backslash_of_isCommon hc
    exact ⟨fun he ↦ hb (List.cons.inj he).1, fun he ↦ hb (List.cons.inj he).1⟩
  | escaped hc h => exact ⟨by simp, by simp⟩
  | opened ho h => exact ⟨by simp, by simp⟩
  | zero hd h =>
    exact ⟨by simp, fun he ↦ ne_backslash_of_isInert hd (List.cons.inj he).1⟩

/-- The tokens at the head of texts that are read alike are at an end, open a group in both, or
begin none. -/
theorem token_cases (h : ReadAlike s t) :
    tokenOf s = [] ∨ tokenOf s = ['('] ∧ OpensUnnamed (s.drop 1) ∨
      tokenOf s ≠ ['('] ∧ ItemAlike (tokenOf s) (tokenOf t) := by
  cases h with
  | nil => exact .inl rfl
  | same hc h =>
    right
    right
    have hb := ne_backslash_of_isCommon hc
    rw [tokenOf_cons _ hb, tokenOf_cons _ hb]
    refine ⟨fun he ↦ ?_, .same hc⟩
    rw [(List.cons.inj he).1] at hc
    cases hc
  | escaped hc h => exact .inr (.inr ⟨by rintro ⟨⟩, .escaped hc⟩)
  | opened ho h => exact .inr (.inl ⟨tokenOf_cons _ (by decide), ho⟩)
  | zero hd h =>
    right
    right
    rw [tokenOf_cons _ (by decide), tokenOf_cons _ (ne_backslash_of_isInert hd)]
    exact ⟨by rintro ⟨⟩, .zero hd⟩

end ReadAlike

/-- A token of a character that is not inert, or of more or fewer characters, is at its place in
both texts or in neither. -/
theorem TokenAlike.eq_iff {a b : List Char} (h : TokenAlike a b) (token : List Char)
    (ht : ∀ d, isInert d = true → token ≠ [d]) : b = token ↔ a = token := by
  rcases h with rfl | ⟨rfl, d, hd, rfl⟩
  · exact Iff.rfl
  · exact iff_of_false (Ne.symm (ht d hd)) (Ne.symm (ht '0' (by decide)))

end VulnScanner.Regex
