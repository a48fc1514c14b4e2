import Mathlib.Order.Monotone.Basic
import VulnScanner.Number.Arithmetic

/-!
# The sign of a difference

A difference of finite floating-point numbers never rounds to a zero or to the other sign, so it
tells the order of the numbers. Only the difference of an infinity and itself tells nothing.
-/

namespace VulnScanner.Binary64

/-! ### Signs and magnitudes -/

/-- Magnitudes have no sign bit. -/
theorem magnitude_lt (x : Binary64) : x.magnitude < 0x8000000000000000 := Nat.mod_lt _ (by decide)

private theorem toNat_ofMagnitude (negative : Bool) {m : Nat} (h : m < 0x8000000000000000) :
    (ofMagnitude negative m).bits.toNat = m + if negative then 0x8000000000000000 else 0 := by
  rw [ofMagnitude, UInt64.toNat_ofNat']
  apply Nat.mod_eq_of_lt
  split <;> omega

/-- The sign of a number made from its parts. -/
theorem isNegative_ofMagnitude (negative : Bool) {m : Nat} (h : m < 0x8000000000000000) :
    (ofMagnitude negative m).isNegative = negative := by
  rw [isNegative, toNat_ofMagnitude negative h]
  cases negative with
  | true => simp
  | false => simpa using h

/-- The magnitude of a number made from its parts. -/
theorem magnitude_ofMagnitude (negative : Bool) {m : Nat} (h : m < 0x8000000000000000) :
    (ofMagnitude negative m).magnitude = m := by
  rw [magnitude, toNat_ofMagnitude negative h]
  cases negative with
  | true => rw [if_pos rfl, Nat.add_mod_right, Nat.mod_eq_of_lt h]
  | false => rw [if_neg Bool.false_ne_true, Nat.add_zero, Nat.mod_eq_of_lt h]

/-- The opposite number has the other sign. -/
theorem isNegative_neg (x : Binary64) : x.neg.isNegative = !x.isNegative :=
  isNegative_ofMagnitude _ x.magnitude_lt

/-- The opposite number has the same magnitude. -/
theorem magnitude_neg (x : Binary64) : x.neg.magnitude = x.magnitude :=
  magnitude_ofMagnitude _ x.magnitude_lt

/-! ### Units -/

/-- A finite magnitude in units of the smallest positive number. -/
def unitsOfMagnitude (m : Nat) : Nat :=
  if m / 0x10000000000000 = 0 then m % 0x10000000000000
  else (m % 0x10000000000000 + 0x10000000000000) <<< (m / 0x10000000000000 - 1)

/-- A finite number in units has its own sign. -/
theorem units?_of_lt {x : Binary64} (h : x.magnitude < infinityMagnitude) :
    x.units? = some (if x.isNegative then -(unitsOfMagnitude x.magnitude : Int)
      else unitsOfMagnitude x.magnitude) := by
  rw [units?, decode?, if_neg (Nat.not_le.mpr h)]
  by_cases he : x.magnitude / 0x10000000000000 = 0
  · have hq : ((-1074 + 1074 : Int).toNat) = 0 := rfl
    simp only [unitsOfMagnitude, he, if_true, Option.map_some, hq, Nat.shiftLeft_zero]
    rfl
  · have hq : ((x.magnitude / 0x10000000000000 : Nat) - 1075 + 1074 : Int).toNat =
        x.magnitude / 0x10000000000000 - 1 := by omega
    simp only [unitsOfMagnitude, he, if_false, Option.map_some, hq]
    rfl

/-- What is not finite has no units. -/
theorem units?_of_le {x : Binary64} (h : infinityMagnitude ≤ x.magnitude) :
    x.units? = none := by
  rw [units?, decode?, if_pos h]
  rfl

/-- A larger magnitude has more units. -/
theorem unitsOfMagnitude_strictMono : StrictMono unitsOfMagnitude := by
  apply strictMono_nat_of_lt_succ
  intro m
  by_cases hc : m % 0x10000000000000 + 1 = 0x10000000000000
  · -- the fraction overflows into the exponent
    have hd : (m + 1) / 0x10000000000000 = m / 0x10000000000000 + 1 := by omega
    have hr : (m + 1) % 0x10000000000000 = 0 := by omega
    rw [unitsOfMagnitude, unitsOfMagnitude, hd, hr, if_neg (Nat.succ_ne_zero _)]
    split
    · next he =>
      rw [he]
      omega
    · next he =>
      have hexp : m / 0x10000000000000 + 1 - 1 = m / 0x10000000000000 - 1 + 1 := by omega
      rw [hexp, Nat.shiftLeft_succ, Nat.shiftLeft_eq, Nat.shiftLeft_eq, ← Nat.mul_assoc]
      apply Nat.mul_lt_mul_of_pos_right _ (Nat.two_pow_pos _)
      omega
  · have hd : (m + 1) / 0x10000000000000 = m / 0x10000000000000 := by omega
    have hr : (m + 1) % 0x10000000000000 = m % 0x10000000000000 + 1 := by omega
    rw [unitsOfMagnitude, unitsOfMagnitude, hd, hr]
    split
    · exact Nat.lt_succ_self _
    · rw [Nat.shiftLeft_eq, Nat.shiftLeft_eq]
      apply Nat.mul_lt_mul_of_pos_right _ (Nat.two_pow_pos _)
      omega

private theorem unitsOfMagnitude_pos_iff (m : Nat) : 0 < unitsOfMagnitude m ↔ 0 < m := by
  rw [show 0 = unitsOfMagnitude 0 from rfl]
  exact unitsOfMagnitude_strictMono.lt_iff_lt

/-- The units of numbers are ordered as the numbers are. -/
theorem units_le_iff {x y : Binary64} {m n : Int} (hm : x.units? = some m)
    (hn : y.units? = some n) : m ≤ n ↔ x.order ≤ y.order := by
  have hfinite : ∀ {z : Binary64} {k : Int}, z.units? = some k →
      k = if z.isNegative then -(unitsOfMagnitude z.magnitude : Int)
        else unitsOfMagnitude z.magnitude := by
    intro z k hk
    by_cases hz : z.magnitude < infinityMagnitude
    · exact Option.some.inj (hk.symm.trans (units?_of_lt hz))
    · rw [units?_of_le (Nat.not_lt.mp hz)] at hk
      cases hk
  rw [hfinite hm, hfinite hn]
  have hxy := unitsOfMagnitude_strictMono.le_iff_le (a := x.magnitude) (b := y.magnitude)
  have hyx := unitsOfMagnitude_strictMono.le_iff_le (a := y.magnitude) (b := x.magnitude)
  have hx := unitsOfMagnitude_pos_iff x.magnitude
  have hy := unitsOfMagnitude_pos_iff y.magnitude
  unfold order
  cases x.isNegative <;> cases y.isNegative <;>
    simp only [Bool.false_eq_true, if_false, if_true, Int.ofNat_eq_natCast] <;> omega

/-! ### Rounding -/

private theorem divRoundEven_mul (n : Nat) {d : Nat} (hd : 0 < d) : divRoundEven (n * d) d = n := by
  simp [divRoundEven, Nat.mul_div_cancel n hd, hd]

private theorem rounded_pos {n d : Nat} (h : 0 < n) (hd : d = 1 <<< 1074) {q : Int}
    (hq : -1074 ≤ q) {s : Nat × Nat}
    (hs : s = if 0 ≤ q then (n, d <<< q.toNat) else (n <<< (-q).toNat, d)) :
    0 < min (divRoundEven s.1 s.2 + (q + 1074).toNat * 0x10000000000000) infinityMagnitude := by
  refine Nat.lt_min.mpr ⟨?_, by decide⟩
  by_cases he : q = -1074
  · have hn : ¬ 0 ≤ q := by omega
    have hexp : (-q).toNat = 1074 := by omega
    rw [Nat.one_shiftLeft] at hd
    rw [if_neg hn, hexp, Nat.shiftLeft_eq, ← hd] at hs
    have hpos : 0 < d := hd ▸ Nat.two_pow_pos 1074
    rw [hs, divRoundEven_mul n hpos]
    exact Nat.lt_of_lt_of_le h (Nat.le_add_right _ _)
  · have hpos : 0 < (q + 1074).toNat := by omega
    exact Nat.lt_of_lt_of_le (Nat.mul_pos hpos (by decide)) (Nat.le_add_left _ _)

/-- A positive number of units rounds to a positive number. -/
theorem magnitudeOfRatio_pos {n : Nat} (h : 0 < n) : 0 < magnitudeOfRatio n (1 <<< 1074) := by
  generalize hd : 1 <<< 1074 = d
  rw [magnitudeOfRatio, if_neg h.ne']
  exact rounded_pos h hd.symm (Int.le_max_right _ _) rfl

private theorem magnitudeOfRatio_le (n d : Nat) : magnitudeOfRatio n d ≤ infinityMagnitude := by
  rw [magnitudeOfRatio]
  split
  · exact Nat.zero_le _
  · exact Nat.min_le_right _ _

/-! ### Differences -/

/-- The order of two numbers. -/
theorem le_iff (x y : Binary64) : x ≤ y ↔
    (x.magnitude ≤ infinityMagnitude ∧ y.magnitude ≤ infinityMagnitude) ∧ x.order ≤ y.order := by
  show x.atMost y = true ↔ _
  simp only [atMost, isNaN, Bool.and_eq_true, Bool.not_eq_true', decide_eq_true_eq,
    decide_eq_false_iff_not, Nat.not_lt]

/-- A number is at most zero if its place is. -/
theorem le_zero_iff (x : Binary64) : x ≤ 0 ↔ x.magnitude ≤ infinityMagnitude ∧ x.order ≤ 0 := by
  have hmagnitude : (0 : Binary64).magnitude ≤ infinityMagnitude := by decide
  rw [le_iff, show (0 : Binary64).order = 0 by decide]
  exact and_congr_left' (and_iff_left hmagnitude)

private theorem ofMagnitude_le_zero_iff (negative : Bool) {m : Nat} (h : m ≤ infinityMagnitude) :
    ofMagnitude negative m ≤ 0 ↔ negative = true ∨ m = 0 := by
  have hm : m < 0x8000000000000000 := Nat.lt_of_le_of_lt h (by decide)
  rw [le_zero_iff, order, magnitude_ofMagnitude negative hm, isNegative_ofMagnitude negative hm]
  cases negative with
  | true => simp [h]
  | false => simp [h]

/-- A multiple of the unit does not change its sign when it is rounded. -/
theorem ofUnits_le_zero_iff (n : Int) : ofUnits n ≤ 0 ↔ n ≤ 0 := by
  rw [ofUnits, ofRatio, ofMagnitude_le_zero_iff _ (magnitudeOfRatio_le _ _)]
  rcases Int.lt_trichotomy n 0 with h | h | h
  · exact iff_of_true (Or.inl (decide_eq_true h)) (Int.le_of_lt h)
  · subst h
    exact iff_of_true (Or.inr (if_pos rfl)) (Int.le_refl 0)
  · have hpos : magnitudeOfRatio n.natAbs (1 <<< 1074) ≠ 0 :=
      (magnitudeOfRatio_pos (Int.natAbs_pos.mpr h.ne')).ne'
    refine iff_of_false (fun hor ↦ ?_) (Int.not_le.mpr h)
    rcases hor with hn | hz
    · exact absurd (of_decide_eq_true hn) (Int.not_lt.mpr (Int.le_of_lt h))
    · exact hpos hz

private theorem units?_neg {x : Binary64} {n : Int} (h : x.units? = some n) :
    x.neg.units? = some (-n) := by
  by_cases hx : x.magnitude < infinityMagnitude
  · rw [units?_of_lt hx] at h
    rw [units?_of_lt (by rwa [magnitude_neg]), isNegative_neg, magnitude_neg,
      ← Option.some.inj h]
    cases x.isNegative <;> simp
  · rw [units?_of_le (Nat.not_lt.mp hx)] at h
    cases h

private theorem lt_infinityMagnitude_of_units {x : Binary64} {n : Int} (h : x.units? = some n) :
    x.magnitude < infinityMagnitude := by
  by_contra hx
  rw [units?_of_le (Nat.not_lt.mp hx)] at h
  cases h

private theorem sub_le_zero_iff_of_finite {x y : Binary64} {m n : Int} (hx : x.units? = some m)
    (hy : y.units? = some n) : x - y ≤ 0 ↔ x ≤ y := by
  have hmx := lt_infinityMagnitude_of_units hx
  have hmy := lt_infinityMagnitude_of_units hy
  have horder : x ≤ y ↔ m ≤ n := by
    rw [le_iff, units_le_iff hx hy]
    exact and_iff_right ⟨Nat.le_of_lt hmx, Nat.le_of_lt hmy⟩
  rw [horder]
  show x.add y.neg ≤ 0 ↔ _
  rw [add, hx, units?_neg hy]
  by_cases hz : (x.isZero && y.neg.isZero) = true
  · simp only [hz, if_true, ofMagnitude_le_zero_iff _ (Nat.zero_le _), or_true, true_iff]
    simp only [isZero, magnitude_neg, Bool.and_eq_true, beq_iff_eq] at hz
    rw [units_le_iff hx hy, order, order, hz.1, hz.2]
    simp
  · simp only [hz]
    show ofUnits (m + -n) ≤ 0 ↔ m ≤ n
    rw [ofUnits_le_zero_iff]
    omega

private theorem eq_of_parts {x y : Binary64} (hs : x.isNegative = y.isNegative)
    (hm : x.magnitude = y.magnitude) : x = y := by
  cases x with
  | mk a =>
    cases y with
    | mk b =>
      have ha := a.toNat_lt
      have hb := b.toNat_lt
      simp only [isNegative, magnitude, ge_iff_le, decide_eq_decide] at hs hm
      congr 1
      apply UInt64.toNat_inj.mp
      omega

private theorem units?_neg_of_none {x : Binary64} (h : infinityMagnitude ≤ x.magnitude) :
    x.neg.units? = none :=
  units?_of_le (by rwa [magnitude_neg])

private theorem not_nan_le_zero : ¬ nan ≤ 0 := by
  rw [le_zero_iff]
  decide

private theorem sub_le_zero_iff_of_infinite {x y : Binary64} (hx : infinityMagnitude ≤ x.magnitude)
    (hy : infinityMagnitude ≤ y.magnitude) :
    x.add y.neg ≤ 0 ↔ x ≤ y ∧ ¬ (x = y ∧ x.isInfinite = true) := by
  rw [add, units?_of_le hx, units?_neg_of_none hy]
  show (if (x.isNaN || y.neg.isNaN || x.isNegative != y.neg.isNegative) = true then nan else x) ≤ 0
    ↔ _
  by_cases hn : x.magnitude = infinityMagnitude ∧ y.magnitude = infinityMagnitude
  · have hnan : (x.isNaN || y.neg.isNaN) = false := by
      simp [isNaN, magnitude_neg, hn.1, hn.2]
    rw [hnan, Bool.false_or, isNegative_neg]
    by_cases hs : x.isNegative = y.isNegative
    · have heq := eq_of_parts hs (hn.1.trans hn.2.symm)
      have hinf : x.isInfinite = true := beq_iff_eq.mpr hn.1
      rw [hs, if_pos (by simp)]
      exact iff_of_false not_nan_le_zero fun h ↦ h.2 ⟨heq, hinf⟩
    · have hne : ¬ (x = y ∧ x.isInfinite = true) := fun h ↦ hs (congrArg isNegative h.1)
      rw [if_neg (by simpa using hs), and_iff_left hne, le_zero_iff, le_iff, order, order, hn.1,
        hn.2]
      revert hs
      cases x.isNegative <;> cases y.isNegative <;> decide
  · have hle : ¬ x ≤ y := by
      rw [le_iff]
      omega
    have hnan : (x.isNaN || y.neg.isNaN) = true := by
      simp only [isNaN, magnitude_neg, Bool.or_eq_true, decide_eq_true_eq]
      omega
    rw [hnan, Bool.true_or, if_pos rfl]
    exact iff_of_false not_nan_le_zero fun h ↦ hle h.1

/-- A difference is at most zero exactly if the first number is not above the second, but for the
difference of an infinity and itself. -/
theorem sub_le_zero_iff (x y : Binary64) :
    x - y ≤ 0 ↔ x ≤ y ∧ ¬ (x = y ∧ x.isInfinite = true) := by
  show x.add y.neg ≤ 0 ↔ _
  by_cases hx : x.magnitude < infinityMagnitude
  · have hinf : ¬ (x = y ∧ x.isInfinite = true) :=
      fun h ↦ Nat.ne_of_lt hx (beq_iff_eq.mp h.2)
    rw [and_iff_left hinf]
    by_cases hy : y.magnitude < infinityMagnitude
    · exact sub_le_zero_iff_of_finite (units?_of_lt hx) (units?_of_lt hy)
    · -- the difference is the opposite of the second number
      have hy := Nat.not_lt.mp hy
      rw [add, units?_of_lt hx, units?_neg_of_none hy, le_zero_iff, le_iff, order, order, order,
        isNegative_neg, magnitude_neg]
      cases x.isNegative <;> cases y.isNegative <;>
        simp only [Bool.not_true, Bool.not_false, Bool.false_eq_true, if_false, if_true,
          Int.ofNat_eq_natCast] <;> omega
  · have hx := Nat.not_lt.mp hx
    by_cases hy : y.magnitude < infinityMagnitude
    · -- the difference is the first number
      have hne : ¬ (x = y ∧ x.isInfinite = true) := by
        rintro ⟨rfl, -⟩
        omega
      rw [add, units?_of_le hx, units?_neg (units?_of_lt hy), le_zero_iff, le_iff, order, order,
        and_iff_left hne]
      cases x.isNegative <;> cases y.isNegative <;>
        simp only [Bool.false_eq_true, if_false, if_true, Int.ofNat_eq_natCast] <;> omega
    · exact sub_le_zero_iff_of_infinite hx (Nat.not_lt.mp hy)

end VulnScanner.Binary64
