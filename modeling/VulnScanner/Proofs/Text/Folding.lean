import VulnScanner.Proofs.Lists
import VulnScanner.Proofs.Text.Case
import VulnScanner.Unicode.Case

/-!
# Case in ASCII and case in Unicode

Comparison without case knows the 26 letters of ASCII. Every other character is equal to itself
alone, and so are the characters outside ASCII of which Unicode makes ASCII letters in lower case
or in capitals. A text that Unicode takes for an ASCII text in another case is taken for it here
exactly if none of these characters is in it.
-/

namespace VulnScanner

/-! ### The letters of ASCII -/

namespace Text

variable {a b : String} {c d : Char}

/-- The letters of ASCII, each in upper case and in lower case. -/
def asciiLetters : List (Char × Char) :=
  "ABCDEFGHIJKLMNOPQRSTUVWXYZ".toList.zip "abcdefghijklmnopqrstuvwxyz".toList

/-- Two characters are the upper case and the lower case form of one ASCII letter. -/
def AreForms (c d : Char) : Prop := (c, d) ∈ asciiLetters ∨ (d, c) ∈ asciiLetters

/-- The lower case form of a letter stands 32 places behind its upper case form. -/
theorem mem_asciiLetters_iff :
    (c, d) ∈ asciiLetters ↔ IsCapital c ∧ d.toNat = c.toNat + 32 := by
  rw [isCapital_iff]
  constructor
  · have hplaces : ∀ l ∈ asciiLetters,
        (65 ≤ l.1.toNat ∧ l.1.toNat ≤ 90) ∧ l.2.toNat = l.1.toNat + 32 := by decide +kernel
    exact hplaces (c, d)
  · rintro ⟨⟨hle, hge⟩, hd⟩
    have hletters : ∀ k < 26, (Char.ofNat (65 + k), Char.ofNat (65 + k + 32)) ∈ asciiLetters := by
      decide +kernel
    have hmem := hletters (c.toNat - 65) (by omega)
    rwa [Nat.add_sub_cancel' hle, ← hd, Char.ofNat_toNat, Char.ofNat_toNat] at hmem

/-- Two characters are the same letter if they are equal or the forms of one. -/
theorem sameLetter_iff : SameLetter c d ↔ c = d ∨ AreForms c d := by
  rw [SameLetter, AreForms, mem_asciiLetters_iff, mem_asciiLetters_iff]

/-- Texts with the same letters are of one length and have the same letter at each position. -/
theorem sameLetters_iff_getElem? : SameLetters a b ↔ a.length = b.length ∧
    ∀ (i : Nat) c d, a.toList[i]? = some c → b.toList[i]? = some d → c = d ∨ AreForms c d := by
  rw [SameLetters, forall₂_iff_getElem?, String.length_toList, String.length_toList]
  simp only [sameLetter_iff]

/-- What is in lower case stays as it is in lower case. -/
theorem asciiLowerChar_asciiLowerChar (c : Char) :
    asciiLowerChar (asciiLowerChar c) = asciiLowerChar c := by
  have hlower := toNat_asciiLowerChar c
  rw [← Char.toNat_inj, toNat_asciiLowerChar, if_neg]
  split at hlower <;> omega

/-- A text in lower case stays as it is in lower case. -/
theorem asciiLower_asciiLower (s : String) : asciiLower (asciiLower s) = asciiLower s := by
  rw [← String.toList_inj, toList_asciiLower, toList_asciiLower, List.map_map]
  exact List.map_congr_left fun c _ ↦ asciiLowerChar_asciiLowerChar c

/-- Having the same letters is an equivalence of texts. -/
theorem equivalence_sameLetters : Equivalence SameLetters where
  refl := .refl
  symm h := sameLetters_iff.mpr (sameLetters_iff.mp h).symm
  trans h h' := sameLetters_iff.mpr ((sameLetters_iff.mp h).trans (sameLetters_iff.mp h'))

/-- To look at the lengths first does not change what a comparison of lower case forms decides. -/
theorem equalsIgnoringCase_eq (a b : String) :
    equalsIgnoringCase a b = (asciiLower a == asciiLower b) := by
  rw [Bool.eq_iff_iff, equalsIgnoringCase_iff, sameLetters_iff, beq_iff_eq]

/-- The characters of ASCII are the first 128. -/
theorem isAscii_iff : c.isAscii = true ↔ c.toNat < 0x80 := by
  rw [Char.isAscii, decide_eq_true_iff]

/-- Characters that differ and are the same letter are in ASCII. -/
theorem SameLetter.eq_or_isAscii (h : SameLetter c d) : c = d ∨ c.isAscii ∧ d.isAscii := by
  unfold SameLetter at h
  rw [isCapital_iff, isCapital_iff] at h
  rw [isAscii_iff, isAscii_iff]
  exact h.imp_right fun hforms ↦ by omega

/-- Outside ASCII a character is the same as itself alone, wherever it stands in a text. -/
theorem SameLetters.eq_of_not_isAscii (h : SameLetters a b) {i : Nat} (hc : a.toList[i]? = some c)
    (hd : b.toList[i]? = some d) (hout : ¬ (c.isAscii ∧ d.isAscii)) : c = d :=
  ((forall₂_iff_getElem?.mp h).2 i c d hc hd).eq_or_isAscii.resolve_right hout

/-- A text of one character outside ASCII has its letters for itself. -/
theorem sameLetters_singleton_iff (hc : ¬ c.isAscii) :
    SameLetters (String.singleton c) a ↔ a = String.singleton c := by
  constructor
  · intro h
    unfold SameLetters at h
    rw [String.toList_singleton] at h
    generalize ha : a.toList = s at h
    obtain _ | ⟨hcd, _ | _⟩ := h
    obtain rfl := hcd.eq_or_isAscii.resolve_right fun hboth ↦ hc hboth.1
    rw [← String.toList_inj, ha, String.toList_singleton]
  · rintro rfl
    exact .refl _

end Text

/-! ### Characters outside ASCII with forms in it -/

namespace Unicode

variable {c d : Char} {s : List Char} {n m : Nat} {run : CaseRun} {runs : List CaseRun}

/-- All letters of a run move to characters outside ASCII. -/
def CaseRun.MovesOutside (run : CaseRun) : Prop :=
  0x80 ≤ run.first + run.shift ∧
    (run.last + run.shift < 0xd800 ∨
      0xdfff < run.first + run.shift ∧ run.last + run.shift < 0x110000)

instance (run : CaseRun) : Decidable run.MovesOutside :=
  inferInstanceAs (Decidable (_ ∧ (_ ∨ _ ∧ _)))

/-- A run maps the code points from its first to its last one, by its distance. -/
private theorem CaseRun.bounds_of_image? (h : run.image? n = some m) :
    run.first ≤ n ∧ n ≤ run.last ∧ m = Int.toNat (n + run.shift) := by
  unfold CaseRun.image? at h
  split at h
  next hn =>
    cases h
    exact ⟨hn.1, hn.2.1, rfl⟩
  next => cases h

/-- A run that moves its letters outside ASCII has no ASCII character among its images. -/
private theorem CaseRun.not_isAscii_of_image? (hrun : run.MovesOutside)
    (h : run.image? n = some m) : ¬ (Char.ofNat m).isAscii := by
  obtain ⟨hfirst, hlast, rfl⟩ := bounds_of_image? h
  unfold MovesOutside at hrun
  have hvalid : (Int.toNat (n + run.shift)).isValidChar := by
    unfold Nat.isValidChar
    omega
  rw [Text.isAscii_iff, Text.toNat_ofNat_of_isValidChar hvalid]
  omega

/-- A character outside ASCII of which Unicode makes ASCII characters alone, in lower case or in
capitals. -/
def FoldsOntoAscii (c : Char) : Prop :=
  ¬ c.isAscii ∧ ((lower [c]).all Char.isAscii ∨ (upper [c]).all Char.isAscii)

instance (c : Char) : Decidable (FoldsOntoAscii c) :=
  inferInstanceAs (Decidable (¬ _ ∧ (_ ∨ _)))

/-- The Kelvin sign, the dotless i, the long s, the sharp s, and the seven ligatures that begin with
an f or an s. -/
def foldingLetters : List Char :=
  ['\u212a', '\u0131', '\u017f', '\u00df', '\ufb00', '\ufb01', '\ufb02', '\ufb03', '\ufb04',
   '\ufb05', '\ufb06']

/-- Where all runs but those of single letters move outside ASCII, every other character outside
ASCII stays there. -/
private theorem not_isAscii_of_runs {letters : List Char}
    (hruns : ∀ run ∈ runs,
      run.MovesOutside ∨ run.first = run.last ∧ Char.ofNat run.first ∈ letters)
    (hout : ¬ c.isAscii) (hc : c ∉ letters) :
    ¬ (Char.ofNat ((applyRuns? runs c.toNat).getD c.toNat)).isAscii := by
  cases himage : applyRuns? runs c.toNat with
  | none =>
    rw [Option.getD_none, Char.ofNat_toNat]
    exact hout
  | some m =>
    obtain ⟨run, hrun, himage⟩ := List.exists_of_findSome?_eq_some himage
    rcases hruns run hrun with hmoves | ⟨hsingle, hmem⟩
    · exact CaseRun.not_isAscii_of_image? hmoves himage
    · obtain ⟨hfirst, hlast, -⟩ := CaseRun.bounds_of_image? himage
      rw [show run.first = c.toNat by omega, Char.ofNat_toNat] at hmem
      exact absurd hmem hc

-- The runs that lead into ASCII have one letter each, so a look through the tables finds them all.
private theorem exists_mem_lower (hout : ¬ c.isAscii) (hc : c ∉ foldingLetters) :
    ∃ d ∈ lower [c], ¬ d.isAscii := by
  have hruns : ∀ run ∈ lowerRuns, run.MovesOutside ∨
      run.first = run.last ∧ Char.ofNat run.first ∈ '\u0130' :: foldingLetters := by
    decide +kernel
  by_cases hdot : c = '\u0130'
  · -- the dot that this letter keeps is outside ASCII
    subst hdot
    exact ⟨'\u0307', by decide, by decide⟩
  · refine ⟨Char.ofNat (lowerCode c.toNat), by simp [lower, hdot], ?_⟩
    rw [lowerCode, if_neg (Text.isAscii_iff.not.mp hout)]
    exact not_isAscii_of_runs hruns hout (List.not_mem_cons_of_ne_of_not_mem hdot hc)

private theorem exists_mem_upper (hout : ¬ c.isAscii) (hc : c ∉ foldingLetters) :
    ∃ d ∈ upper [c], ¬ d.isAscii := by
  have hruns : ∀ run ∈ upperRuns, run.MovesOutside ∨
      run.first = run.last ∧ Char.ofNat run.first ∈ foldingLetters := by decide +kernel
  have hexpansions : ∀ e ∈ upperExpansions,
      (∃ n ∈ e.2, ¬ (Char.ofNat n).isAscii) ∨ Char.ofNat e.1 ∈ foldingLetters := by
    decide +kernel
  simp only [upper, List.flatMap_singleton, List.mem_map, exists_exists_and_eq_and]
  rw [upperCodes, if_neg (Text.isAscii_iff.not.mp hout)]
  cases hlookup : upperExpansions.lookup c.toNat with
  | none => exact ⟨_, List.mem_singleton_self _, not_isAscii_of_runs hruns hout hc⟩
  | some codes =>
    obtain ⟨before, after, heq, -⟩ := List.lookup_eq_some_iff.mp hlookup
    have hmem : (c.toNat, codes) ∈ upperExpansions := by
      rw [heq]
      exact List.mem_append_cons_self
    rcases hexpansions _ hmem with hcode | hletter
    · exact hcode
    · rw [Char.ofNat_toNat] at hletter
      exact absurd hletter hc

/-- The characters outside ASCII of which Unicode makes ASCII characters alone are these eleven. -/
theorem foldsOntoAscii_iff : FoldsOntoAscii c ↔ c ∈ foldingLetters := by
  constructor
  · rintro ⟨hout, hforms⟩
    by_contra hc
    rw [List.all_eq_true, List.all_eq_true] at hforms
    rcases hforms with hlower | hupper
    · obtain ⟨d, hd, hdout⟩ := exists_mem_lower hout hc
      exact hdout (hlower d hd)
    · obtain ⟨d, hd, hdout⟩ := exists_mem_upper hout hc
      exact hdout (hupper d hd)
  · intro hc
    have hletters : foldingLetters.all (FoldsOntoAscii ·) = true := by decide +kernel
    exact of_decide_eq_true (List.all_eq_true.mp hletters c hc)

/-! ### Case within ASCII -/

private theorem forall_ascii {p : Char → Prop} (h : ∀ n < 0x80, p (Char.ofNat n))
    (hc : c.isAscii) : p c :=
  Char.ofNat_toNat c ▸ h c.toNat (Text.isAscii_iff.mp hc)

/-- A text is put in lower case piece by piece. -/
theorem lower_append (s t : List Char) : lower (s ++ t) = lower s ++ lower t :=
  List.flatMap_append

/-- A text is put in capitals piece by piece. -/
theorem upper_append (s t : List Char) : upper (s ++ t) = upper s ++ upper t :=
  List.flatMap_append

/-- What is in the lower case form of a text is in that of one of its characters. -/
theorem mem_lower_iff : d ∈ lower s ↔ ∃ c ∈ s, d ∈ lower [c] := by
  simp [lower]

/-- What is in the capitals of a text is in those of one of its characters. -/
theorem mem_upper_iff : d ∈ upper s ↔ ∃ c ∈ s, d ∈ upper [c] := by
  simp [upper]

/-- The forms of an ASCII text are ASCII texts. -/
theorem isAscii_of_mem_forms (hs : ∀ c ∈ s, c.isAscii) (hd : d ∈ lower s ∨ d ∈ upper s) :
    d.isAscii := by
  have hforms : ∀ c : Char, c.isAscii → (lower [c] ++ upper [c]).all Char.isAscii = true :=
    fun c ↦ forall_ascii (p := fun c ↦ (lower [c] ++ upper [c]).all Char.isAscii = true)
      (by decide +kernel)
  rw [mem_lower_iff, mem_upper_iff] at hd
  rcases hd with ⟨c, hc, hd⟩ | ⟨c, hc, hd⟩
  · exact List.all_eq_true.mp (hforms c (hs c hc)) d (List.mem_append_left _ hd)
  · exact List.all_eq_true.mp (hforms c (hs c hc)) d (List.mem_append_right _ hd)

/-- What works piece by piece and puts ASCII characters in lower case does so with ASCII texts. -/
private theorem eq_map_of_isAscii {f : List Char → List Char} (hnil : f [] = [])
    (happend : ∀ s t, f (s ++ t) = f s ++ f t)
    (hletter : ∀ n < 0x80, f [Char.ofNat n] = [Text.asciiLowerChar (Char.ofNat n)])
    (hs : ∀ c ∈ s, c.isAscii) : f s = s.map Text.asciiLowerChar := by
  induction s with
  | nil => exact hnil
  | cons c rest ih =>
    rw [List.forall_mem_cons] at hs
    have hfirst : f [c] = [Text.asciiLowerChar c] :=
      forall_ascii (p := fun c ↦ f [c] = [Text.asciiLowerChar c]) hletter hs.1
    rw [← List.singleton_append, happend, hfirst, ih hs.2, List.map_append, List.map_singleton]

/-- In ASCII the lower case of Unicode is that of ASCII. -/
theorem lower_of_isAscii (hs : ∀ c ∈ s, c.isAscii) : lower s = s.map Text.asciiLowerChar :=
  eq_map_of_isAscii rfl lower_append (by decide +kernel) hs

/-- In ASCII capitals have the lower case forms of the letters that they stand for. -/
theorem lower_upper_of_isAscii (hs : ∀ c ∈ s, c.isAscii) :
    lower (upper s) = s.map Text.asciiLowerChar := by
  refine eq_map_of_isAscii (f := fun s ↦ lower (upper s)) rfl (fun s t ↦ ?_) (by decide +kernel) hs
  rw [upper_append, lower_append]

end Unicode

/-! ### What comparison without case knows -/

namespace Text

open Unicode (FoldsOntoAscii)

variable {a t : String}

/-- A text that Unicode takes for an ASCII text in another case is an ASCII text too if none of its
characters folds onto ASCII. -/
private theorem isAscii_of_unicode (ht : ∀ c ∈ t.toList, c.isAscii)
    (h : Unicode.lower a.toList = Unicode.lower t.toList ∨
      Unicode.upper a.toList = Unicode.upper t.toList)
    (hfree : ∀ c ∈ a.toList, ¬ FoldsOntoAscii c) : ∀ c ∈ a.toList, c.isAscii := by
  intro c hc
  by_contra hout
  refine hfree c hc ⟨hout, ?_⟩
  rw [List.all_eq_true, List.all_eq_true]
  refine h.imp (fun h d hd ↦ ?_) fun h d hd ↦ ?_
  · have hmem : d ∈ Unicode.lower a.toList := Unicode.mem_lower_iff.mpr ⟨c, hc, hd⟩
    exact Unicode.isAscii_of_mem_forms ht (.inl (h ▸ hmem))
  · have hmem : d ∈ Unicode.upper a.toList := Unicode.mem_upper_iff.mpr ⟨c, hc, hd⟩
    exact Unicode.isAscii_of_mem_forms ht (.inr (h ▸ hmem))

/-- A text that Unicode takes for an ASCII text in another case has the same letters exactly if
none of its characters folds onto ASCII. -/
theorem sameLetters_iff_of_unicode (ht : ∀ c ∈ t.toList, c.isAscii)
    (h : Unicode.lower a.toList = Unicode.lower t.toList ∨
      Unicode.upper a.toList = Unicode.upper t.toList) :
    SameLetters a t ↔ ∀ c ∈ a.toList, ¬ FoldsOntoAscii c := by
  constructor
  · rintro hsame c hc ⟨hout, -⟩
    obtain ⟨d, hd, hcd⟩ := exists_of_mem_of_forall₂ hsame hc
    rcases hcd.eq_or_isAscii with rfl | ⟨hin, -⟩
    · exact hout (ht c hd)
    · exact hout hin
  · intro hfree
    have ha := isAscii_of_unicode ht h hfree
    rw [sameLetters_iff, ← String.toList_inj, toList_asciiLower, toList_asciiLower]
    rcases h with hlower | hupper
    · rw [← Unicode.lower_of_isAscii ha, hlower, Unicode.lower_of_isAscii ht]
    · rw [← Unicode.lower_upper_of_isAscii ha, hupper, Unicode.lower_upper_of_isAscii ht]

/-- A comparison of texts by their lower case forms knows the case of ASCII letters and no other. -/
structure FoldsAsciiOnly (same : String → String → Bool) (lower : String → String) : Prop where
  /-- Texts are the same if they are of one length and have at each position the same character or
  the two forms of one ASCII letter. -/
  same_iff : ∀ a b, same a b = true ↔ a.length = b.length ∧
    ∀ (i : Nat) c d, a.toList[i]? = some c → b.toList[i]? = some d → c = d ∨ AreForms c d
  /-- To be the same is an equivalence. -/
  equivalence : Equivalence fun a b ↦ same a b = true
  /-- Texts are the same if their lower case forms are: to look at the lengths changes no answer. -/
  same_eq : ∀ a b, same a b = (lower a == lower b)
  /-- A text is as long in lower case as it is. -/
  length_lower : ∀ a, (lower a).length = a.length
  /-- What is in lower case stays as it is in lower case. -/
  lower_lower : ∀ a, lower (lower a) = lower a
  /-- In texts that are the same a character outside ASCII has itself as its counterpart. -/
  eq_of_not_isAscii : ∀ a b, same a b = true → ∀ (i : Nat) c d, a.toList[i]? = some c →
    b.toList[i]? = some d → ¬ (c.isAscii ∧ d.isAscii) → c = d
  /-- A character outside ASCII, taken as a text, is the same as itself alone. -/
  same_singleton_iff : ∀ c : Char, ¬ c.isAscii → ∀ a,
    same (String.singleton c) a = true ↔ a = String.singleton c
  /-- What Unicode takes for an ASCII text in another case is the same as that text exactly if no
  character in it is one that Unicode folds onto ASCII. -/
  same_iff_of_unicode : ∀ a t : String, t.toList.all Char.isAscii →
    Unicode.lower a.toList = Unicode.lower t.toList ∨
      Unicode.upper a.toList = Unicode.upper t.toList →
    (same a t = true ↔ ∀ c ∈ a.toList, ¬ FoldsOntoAscii c)

/-- Comparison without case is by lower case forms that know the case of ASCII letters alone. -/
theorem foldsAsciiOnly : FoldsAsciiOnly equalsIgnoringCase asciiLower where
  same_iff a b := equalsIgnoringCase_iff.trans sameLetters_iff_getElem?
  equivalence := by
    simp only [equalsIgnoringCase_iff]
    exact equivalence_sameLetters
  same_eq := equalsIgnoringCase_eq
  length_lower := length_asciiLower
  lower_lower := asciiLower_asciiLower
  eq_of_not_isAscii a b hsame i c d hc hd hout :=
    (equalsIgnoringCase_iff.mp hsame).eq_of_not_isAscii hc hd hout
  same_singleton_iff c hout a := equalsIgnoringCase_iff.trans (sameLetters_singleton_iff hout)
  same_iff_of_unicode a t ht h :=
    equalsIgnoringCase_iff.trans (sameLetters_iff_of_unicode (List.all_eq_true.mp ht) h)

/-- For Unicode the Kelvin sign is a k in lower case and the long s is an S in capitals; a name in
which one of them stands for the letter is another name here. -/
theorem foldsAsciiOnly_socks :
    (Unicode.lower "SOC\u212aS".toList = Unicode.lower "socks".toList ∧
        equalsIgnoringCase "SOC\u212aS" "socks" = false) ∧
      (Unicode.upper "\u017focks".toList = Unicode.upper "socks".toList ∧
        equalsIgnoringCase "\u017focks" "socks" = false) ∧
      equalsIgnoringCase "SOCKS" "socks" = true := by
  have hlower : Unicode.lower "SOC\u212aS".toList = Unicode.lower "socks".toList := by
    decide +kernel
  have hupper : Unicode.upper "\u017focks".toList = Unicode.upper "socks".toList := by
    decide +kernel
  have hcapitals : Unicode.lower "SOCKS".toList = Unicode.lower "socks".toList := by decide +kernel
  have hascii : "socks".toList.all Char.isAscii := by decide +kernel
  rw [Bool.eq_false_iff, Bool.eq_false_iff]
  refine ⟨⟨hlower, fun h ↦ ?_⟩, ⟨hupper, fun h ↦ ?_⟩, ?_⟩
  · have hfree := (foldsAsciiOnly.same_iff_of_unicode _ _ hascii (.inl hlower)).mp h
    exact hfree '\u212a' (by decide +kernel) (Unicode.foldsOntoAscii_iff.mpr (by decide))
  · have hfree := (foldsAsciiOnly.same_iff_of_unicode _ _ hascii (.inr hupper)).mp h
    exact hfree '\u017f' (by decide +kernel) (Unicode.foldsOntoAscii_iff.mpr (by decide))
  · have hwhole : "SOCKS".toList.all Char.isAscii := by decide +kernel
    refine (foldsAsciiOnly.same_iff_of_unicode _ _ hascii (.inl hcapitals)).mpr ?_
    rintro c hc ⟨hout, -⟩
    exact hout (List.all_eq_true.mp hwhole c hc)

end Text
end VulnScanner
