import VulnScanner.Octets.Form
import VulnScanner.Proofs.Octets.Utf8

/-!
# Parameters through a query

What is written as a query is read back as it was: octet by octet, then text by text, and then
parameter by parameter. Behind an ampersand a query is read as if it stood by itself.
-/

namespace VulnScanner.Octets.Form

/-! ### Octets -/

/-- The characters that forms are made of. -/
def isFormChar (c : Char) : Bool := c.isAlphanum || ['-', '.', '_', '~', '+', '%'].contains c

private theorem forall_octet {P : UInt8 → Prop} (h : ∀ n < 256, P (UInt8.ofNat n)) (b : UInt8) :
    P b := by
  have hb := h b.toNat b.toNat_lt
  rwa [UInt8.ofNat_toNat] at hb

/-- The form of an octet consists of such characters. -/
theorem isFormChar_of_mem_encodeByte (b : UInt8) : ∀ c ∈ encodeByte b, isFormChar c = true := by
  have hall : ∀ b, (encodeByte b).all isFormChar = true := by
    refine forall_octet ?_
    decide +kernel
  exact List.all_eq_true.mp (hall b)

/-- An octet that stands for itself is a character of one octet and no sign of the form. -/
theorem char_of_isPlain (b : UInt8) : isPlain b = true →
    Char.ofNat b.toNat ≠ '%' ∧ Char.ofNat b.toNat ≠ '+' ∧
      String.utf8EncodeChar (Char.ofNat b.toNat) = [b] := by
  revert b
  refine forall_octet ?_
  decide +kernel

/-- A digit has the value that it is written for. -/
theorem hexValue?_upperHexDigit (n : Nat) : Text.hexValue? (upperHexDigit n) = some (n % 16) := by
  have hdigits : ∀ d < 16, Text.hexValue? (upperHexDigit d) = some d := by decide
  have hn := hdigits (n % 16) (Nat.mod_lt n (by decide))
  rwa [upperHexDigit, Nat.mod_mod] at hn

/-- A character that is no percent sign is read by itself. -/
theorem decodeBytes_cons {c : Char} (hc : c ≠ '%') (rest : List Char) :
    decodeBytes (c :: rest) =
      (if c = '+' then [32] else String.utf8EncodeChar c) ++ decodeBytes rest := by
  rw [decodeBytes]
  rintro _ _ _ h -
  exact hc h

/-- The form of an octet is read as the octet. -/
theorem decodeBytes_encodeByte_append (b : UInt8) (rest : List Char) :
    decodeBytes (encodeByte b ++ rest) = b :: decodeBytes rest := by
  unfold encodeByte
  split
  next hplain =>
    obtain ⟨hpercent, hplus, hencode⟩ := char_of_isPlain b hplain
    rw [List.singleton_append, decodeBytes_cons hpercent, if_neg hplus, hencode]
    rfl
  next =>
  split
  next hspace =>
    rw [List.singleton_append, decodeBytes_cons (by decide), hspace]
    rfl
  next =>
    rw [List.cons_append, List.cons_append, List.singleton_append, decodeBytes,
      hexValue?_upperHexDigit, hexValue?_upperHexDigit]
    have hb : 16 * (b.toNat / 16 % 16) + b.toNat % 16 = b.toNat := by
      have := b.toNat_lt
      omega
    dsimp only
    rw [hb, UInt8.ofNat_toNat]

/-! ### Texts -/

/-- The form of a text is read as the octets of the text. -/
theorem decodeBytes_encodeText (s : List Char) : decodeBytes (encodeText s) = encodeChars s := by
  unfold encodeText
  induction encodeChars s with
  | nil => rfl
  | cons b rest ih => rw [List.flatMap_cons, decodeBytes_encodeByte_append, ih]

/-- The form of a text is read as the text. -/
theorem decodeText_encodeText (s : List Char) : decodeText (encodeText s) = String.ofList s := by
  rw [decodeText, decodeBytes_encodeText, decodeLossy_encodeChars]

/-- The form of a text consists of the characters that forms are made of. -/
theorem isFormChar_of_mem_encodeText {s : List Char} : ∀ c ∈ encodeText s, isFormChar c = true := by
  intro c hc
  obtain ⟨b, -, hb⟩ := List.mem_flatMap.mp hc
  exact isFormChar_of_mem_encodeByte b c hb

/-- A separator does not stand in the form of a text. -/
theorem not_mem_encodeText {c : Char} {s : List Char} (hc : isFormChar c = false) :
    c ∉ encodeText s := by
  intro h
  rw [isFormChar_of_mem_encodeText c h] at hc
  cases hc

/-! ### Parameters -/

/-- What is written as a parameter is read as the parameter. -/
theorem decodePair_encodePair (pair : String × String) : decodePair (encodePair pair) = pair := by
  have hname : ∀ c ∈ encodeText pair.1.toList, decide (c ≠ '=') = true := by
    intro c hc
    rw [decide_eq_true_iff]
    rintro rfl
    exact not_mem_encodeText (by decide) hc
  have hsplit : (encodePair pair).takeWhile (· ≠ '=') = encodeText pair.1.toList ∧
      (encodePair pair).dropWhile (· ≠ '=') = '=' :: encodeText pair.2.toList := by
    constructor
    · rw [encodePair, List.takeWhile_append_of_pos hname]
      simp
    · rw [encodePair, List.dropWhile_append_of_pos hname]
      simp
  rw [decodePair, hsplit.1, hsplit.2, List.drop_one, List.tail_cons, decodeText_encodeText,
    decodeText_encodeText, String.ofList_toList, String.ofList_toList]

/-- A query behind an ampersand adds its parameters. -/
theorem decodePairs_append (query more : List Char) :
    decodePairs (query ++ '&' :: more) = decodePairs query ++ decodePairs more := by
  rw [decodePairs, Text.splitAt_append_cons, List.filter_append, List.map_append]
  rfl

/-- One parameter is read as itself. -/
theorem decodePairs_encodePair (pair : String × String) :
    decodePairs (encodePair pair) = [pair] := by
  have hpiece : '&' ∉ encodePair pair := by
    rw [encodePair, List.mem_append, List.mem_cons, not_or, not_or]
    exact ⟨not_mem_encodeText (by decide), by decide, not_mem_encodeText (by decide)⟩
  have hfilled : [encodePair pair].filter (!·.isEmpty) = [encodePair pair] := by simp [encodePair]
  rw [decodePairs, Text.splitAt_of_not_mem hpiece, hfilled, List.map_singleton,
    decodePair_encodePair]

/-- Parameters that are written are read as they were, in their order. -/
theorem decodePairs_encodePairs (pairs : List (String × String)) :
    decodePairs (encodePairs pairs).toList = pairs := by
  rw [encodePairs, String.toList_ofList]
  induction pairs with
  | nil => rfl
  | cons pair rest ih =>
    cases rest with
    | nil => simpa using decodePairs_encodePair pair
    | cons next rest =>
      rw [List.map_cons, List.map_cons, List.intercalate_cons_cons, List.append_assoc,
        List.singleton_append, decodePairs_append, decodePairs_encodePair, ← List.map_cons, ih,
        List.singleton_append]

/-- The characters that queries are made of. -/
def isQueryChar (c : Char) : Bool := isFormChar c || c == '=' || c == '&'

private theorem isQueryChar_of_mem_encodePair {pair : String × String} :
    ∀ c ∈ encodePair pair, isQueryChar c = true := by
  intro c hc
  unfold isQueryChar
  rcases List.mem_append.mp hc with hc | hc
  · rw [isFormChar_of_mem_encodeText c hc]
    rfl
  · rcases List.mem_cons.mp hc with rfl | hc
    · decide
    · rw [isFormChar_of_mem_encodeText c hc]
      rfl

/-- Parameters are written with the characters that queries are made of. -/
theorem isQueryChar_of_mem_encodePairs {pairs : List (String × String)} :
    ∀ c ∈ (encodePairs pairs).toList, isQueryChar c = true := by
  rw [encodePairs, String.toList_ofList]
  induction pairs with
  | nil => simp
  | cons pair rest ih =>
    cases rest with
    | nil => simpa using isQueryChar_of_mem_encodePair
    | cons next rest =>
      intro c hc
      rw [List.map_cons, List.map_cons, List.intercalate_cons_cons, List.append_assoc,
        List.mem_append, List.singleton_append, List.mem_cons] at hc
      rcases hc with hc | rfl | hc
      · exact isQueryChar_of_mem_encodePair c hc
      · decide
      · exact ih c hc

/-- Nothing is written for no parameters alone. -/
theorem encodePairs_ne_nil {pairs : List (String × String)} (h : pairs ≠ []) :
    (encodePairs pairs).toList ≠ [] := by
  intro hnil
  have hpairs := decodePairs_encodePairs pairs
  rw [hnil] at hpairs
  exact h hpairs.symm

/-- Parameters are written with a character of a query at the end. -/
theorem exists_encodePairs_eq_concat {pairs : List (String × String)} (h : pairs ≠ []) :
    ∃ query c, (encodePairs pairs).toList = query ++ [c] ∧ isQueryChar c = true := by
  rcases List.eq_nil_or_concat (encodePairs pairs).toList with hnil | ⟨query, c, hconcat⟩
  · exact absurd hnil (encodePairs_ne_nil h)
  · rw [List.concat_eq_append] at hconcat
    have hc : c ∈ (encodePairs pairs).toList := by
      rw [hconcat]
      exact List.mem_append_right _ List.mem_cons_self
    exact ⟨query, c, hconcat, isQueryChar_of_mem_encodePairs c hc⟩

end VulnScanner.Octets.Form
