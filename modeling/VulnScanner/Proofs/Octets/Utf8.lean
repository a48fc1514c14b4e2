import VulnScanner.Octets.Utf8

/-!
# Texts through octets

The octets of a text are read back as the text: at the octets of a character the reader finds that
character, whatever follows.
-/

namespace VulnScanner.Octets

/-- A continuation octet lies in its range. -/
theorem isContinuation_iff {b : UInt8} :
    isContinuation b = true ↔ 0x80 ≤ b.toNat ∧ b.toNat < 0xc0 := by
  simp [isContinuation, UInt8.le_iff_toNat_le, UInt8.lt_iff_toNat_lt]

/-- A second octet is a continuation octet outside of the ranges that its first octet excludes. -/
theorem isSecond_iff {a b : UInt8} :
    isSecond a b = true ↔ (0x80 ≤ b.toNat ∧ b.toNat < 0xc0) ∧
      ¬ (a.toNat = 0xe0 ∧ b.toNat < 0xa0) ∧ ¬ (a.toNat = 0xed ∧ 0xa0 ≤ b.toNat) ∧
      ¬ (a.toNat = 0xf0 ∧ b.toNat < 0x90) ∧ ¬ (a.toNat = 0xf4 ∧ 0x90 ≤ b.toNat) := by
  unfold isSecond
  rw [Bool.and_eq_true, isContinuation_iff]
  simp [UInt8.le_iff_toNat_le, UInt8.lt_iff_toNat_lt, ← UInt8.toNat_inj, and_assoc]
  omega

private theorem toNat_ofNat {n : Nat} (h : n < 256) : (UInt8.ofNat n).toNat = n :=
  UInt8.toNat_ofNat_of_lt h

private theorem isContinuation_ofNat (n : Nat) :
    isContinuation (UInt8.ofNat (n % 64 + 0x80)) = true := by
  rw [isContinuation_iff, toNat_ofNat (by omega)]
  omega

private theorem payload_ofNat (n : Nat) : payload (UInt8.ofNat (n % 64 + 0x80)) = n % 64 := by
  rw [payload, toNat_ofNat (by omega)]
  omega

/-- The octets of a character are read as that character, and no more of what follows. -/
theorem exists_classify_eq (c : Char) (rest : List UInt8) :
    ∃ b bs, String.utf8EncodeChar c = b :: bs ∧
      classify b (bs ++ rest) = (.ok c, bs.length + 1) := by
  have hbounds : c.val.toNat < 0xd800 ∨ 0xdfff < c.val.toNat ∧ c.val.toNat < 0x110000 := c.valid
  have hchar : ∀ n, n = c.val.toNat → Char.ofNat n = c := by
    rintro n rfl
    exact Char.ofNat_toNat c
  unfold String.utf8EncodeChar
  generalize c.val.toNat = v at *
  dsimp only
  split
  case isTrue h1 =>
    have hb : (UInt8.ofNat v).toNat = v := toNat_ofNat (by omega)
    refine ⟨_, _, rfl, ?_⟩
    simp only [classify, hb]
    rw [if_pos (by omega), hchar v rfl]
    rfl
  case isFalse h1 =>
  split
  case isTrue h2 =>
    have hb : (UInt8.ofNat (v / 64 % 32 + 0xc0)).toNat = v / 64 % 32 + 0xc0 :=
      toNat_ofNat (by omega)
    have hv : Char.ofNat ((v / 64 % 32 + 0xc0 - 0xc0) * 64 + v % 64) = c := hchar _ (by omega)
    refine ⟨_, _, rfl, ?_⟩
    simp only [classify, List.cons_append, hb, payload_ofNat, isContinuation_ofNat, if_true]
    rw [if_neg (by omega), if_neg (by omega), if_pos (by omega), hv]
    rfl
  case isFalse h2 =>
  split
  case isTrue h3 =>
    have hb : (UInt8.ofNat (v / 4096 % 16 + 0xe0)).toNat = v / 4096 % 16 + 0xe0 :=
      toNat_ofNat (by omega)
    have hsecond : isSecond (UInt8.ofNat (v / 4096 % 16 + 0xe0))
        (UInt8.ofNat (v / 64 % 64 + 0x80)) = true := by
      rw [isSecond_iff, hb, toNat_ofNat (by omega)]
      omega
    have hv : Char.ofNat ((v / 4096 % 16 + 0xe0 - 0xe0) * 4096 + v / 64 % 64 * 64 + v % 64) = c :=
      hchar _ (by omega)
    refine ⟨_, _, rfl, ?_⟩
    simp only [classify, List.cons_append, hb, hsecond, payload_ofNat, isContinuation_ofNat,
      if_true, Bool.not_true, Bool.false_eq_true, if_false]
    rw [if_neg (by omega), if_neg (by omega), if_neg (by omega), if_pos (by omega), hv]
    rfl
  case isFalse h3 =>
    have hb : (UInt8.ofNat (v / 262144 % 8 + 0xf0)).toNat = v / 262144 % 8 + 0xf0 :=
      toNat_ofNat (by omega)
    have hsecond : isSecond (UInt8.ofNat (v / 262144 % 8 + 0xf0))
        (UInt8.ofNat (v / 4096 % 64 + 0x80)) = true := by
      rw [isSecond_iff, hb, toNat_ofNat (by omega)]
      omega
    have hv : Char.ofNat ((v / 262144 % 8 + 0xf0 - 0xf0) * 262144 + v / 4096 % 64 * 4096 +
        v / 64 % 64 * 64 + v % 64) = c := hchar _ (by omega)
    refine ⟨_, _, rfl, ?_⟩
    simp only [classify, List.cons_append, hb, hsecond, payload_ofNat, isContinuation_ofNat,
      if_true, Bool.not_true, Bool.false_eq_true, if_false]
    rw [if_neg (by omega), if_neg (by omega), if_neg (by omega), if_neg (by omega),
      if_pos (by omega), hv]
    rfl

private theorem decodeLossyAfter_length (skipped rest : List UInt8) :
    decodeLossyAfter skipped.length (skipped ++ rest) = decodeLossyAfter 0 rest := by
  induction skipped with
  | nil => rfl
  | cons b skipped ih => rw [List.cons_append, List.length_cons, decodeLossyAfter, ih]

/-- The octets of characters in front of others are read as the characters. -/
theorem decodeLossyAfter_encodeChars_append (s : List Char) (rest : List UInt8) :
    decodeLossyAfter 0 (encodeChars s ++ rest) = s ++ decodeLossyAfter 0 rest := by
  induction s with
  | nil => rfl
  | cons c s ih =>
    obtain ⟨b, bs, hc, hclassify⟩ := exists_classify_eq c (encodeChars s ++ rest)
    have hencode : encodeChars (c :: s) = b :: bs ++ encodeChars s := by
      rw [← hc]
      exact List.flatMap_cons
    rw [hencode, List.append_assoc, List.cons_append, decodeLossyAfter, hclassify]
    dsimp only
    rw [Nat.add_sub_cancel, decodeLossyAfter_length, ih, List.cons_append]

/-- The octets of a text are read as the text. -/
theorem decodeLossy_encodeChars (s : List Char) :
    decodeLossy (encodeChars s) = String.ofList s := by
  have h := decodeLossyAfter_encodeChars_append s []
  rw [List.append_nil] at h
  rw [decodeLossy, h, decodeLossyAfter, List.append_nil]

end VulnScanner.Octets
