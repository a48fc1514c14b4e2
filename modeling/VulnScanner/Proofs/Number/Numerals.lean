import Mathlib.Algebra.Group.Nat.Defs
import VulnScanner.Number.Reader

/-!
# Integers that are read

A numeral is read only if it has no more digits than are written out again, so that every integer
that comes from a text can be put back into one.
-/

namespace VulnScanner.Number

private theorem lt_of_digitOf? {base d : Nat} {c : Char} (h : digitOf? base c = some d) :
    d < base := by
  simpa using (Option.filter_eq_some_iff.mp h).2

private theorem lt_of_mem_mapM_digitOf? {base : Nat} {s : List Char} {digits : List Nat}
    (h : s.mapM (digitOf? base) = some digits) : ∀ d ∈ digits, d < base := by
  induction s generalizing digits with
  | nil =>
    cases h
    exact fun d hd ↦ absurd hd List.not_mem_nil
  | cons c rest ih =>
    rw [List.mapM_cons] at h
    obtain ⟨d, hd, h⟩ := Option.bind_eq_some_iff.mp h
    obtain ⟨others, hothers, h⟩ := Option.bind_eq_some_iff.mp h
    cases h
    exact List.forall_mem_cons.mpr ⟨lt_of_digitOf? hd, ih hothers⟩

/-- A number with digits put behind it stays below the next number with as many zeros behind it. -/
theorem foldl_digits_lt {base : Nat} {digits : List Nat} (h : ∀ d ∈ digits, d < base)
    (n : Nat) : digits.foldl (fun n d ↦ base * n + d) n < (n + 1) * base ^ digits.length := by
  induction digits generalizing n with
  | nil => simp
  | cons d rest ih =>
    rw [List.forall_mem_cons] at h
    calc
      rest.foldl (fun n d ↦ base * n + d) (base * n + d)
      _ < (base * n + d + 1) * base ^ rest.length := ih h.2 _
      _ ≤ ((n + 1) * base) * base ^ rest.length := by
        refine Nat.mul_le_mul_right _ ?_
        rw [Nat.add_mul, Nat.one_mul, Nat.mul_comm n base]
        exact Nat.add_le_add_left h.1 _
      _ = (n + 1) * base ^ (d :: rest).length := by
        rw [List.length_cons, Nat.pow_succ', Nat.mul_assoc]

/-- An integer that is read in decimal digits is written out. -/
theorem hasDigits_of_readInteger {s : List Char} {n : Int} (h : readInteger 10 s = .ok n) :
    hasDigits n = true := by
  unfold readInteger at h
  dsimp only at h
  split at h
  · cases h
  next digits hdigits =>
  split at h
  · cases h
  next hlength =>
  have hall : ∀ d ∈ digits, d < 10 := by
    unfold digitsOf? at hdigits
    obtain ⟨joined, -, hdigits⟩ := Option.bind_eq_some_iff.mp hdigits
    split at hdigits
    · cases hdigits
    · exact lt_of_mem_mapM_digitOf? hdigits
  have hlt : ofDigits 10 digits < 10 ^ digits.length := by
    have hfold := foldl_digits_lt hall 0
    rwa [Nat.zero_add, Nat.one_mul] at hfold
  have hle : digits.length ≤ digitLimit := by
    simpa using hlength
  have hnat : n.natAbs = ofDigits 10 digits := by
    cases h
    split
    · rw [Int.natAbs_neg, Int.natAbs_natCast]
    · rw [Int.natAbs_natCast]
  rw [hasDigits, hnat, decide_eq_true_eq]
  -- the limit is large enough for its power to be out of reach of evaluation
  generalize digitLimit = limit at hle
  rw [Binary64.tenTo, Nat.pow_eq]
  exact Nat.lt_of_lt_of_le hlt (Nat.pow_le_pow_right (by decide) hle)

end VulnScanner.Number
