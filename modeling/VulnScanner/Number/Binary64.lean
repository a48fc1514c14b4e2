/-!
# Binary floating-point numbers of 64 bits

A number is its bit pattern, so equality is decidable and arithmetic on patterns can be reasoned
about: the highest bit is the sign, the eleven below it are the exponent, and the lowest 52 are the
fraction. `decode?` gives the magnitude of a finite number as `m · 2 ^ q`, and `ofRatio` rounds a
quotient of natural numbers to the nearest number, a tie to the even neighbour.
-/

namespace VulnScanner

/-- A floating-point number, kept as its bit pattern. -/
structure Binary64 where
  bits : UInt64
  deriving DecidableEq, Repr, Inhabited

namespace Binary64

/-- The number with the bit pattern of a machine float. -/
def ofFloat (x : Float) : Binary64 := ⟨x.toBits⟩

/-- The machine float with the same bit pattern. -/
def toFloat (x : Binary64) : Float := Float.ofBits x.bits

/-- The sign bit. -/
def isNegative (x : Binary64) : Bool := x.bits.toNat ≥ 0x8000000000000000

/-- The bits without the sign, which order the magnitudes. -/
def magnitude (x : Binary64) : Nat := x.bits.toNat % 0x8000000000000000

/-- The magnitude of infinity; larger magnitudes are not numbers. -/
def infinityMagnitude : Nat := 0x7ff0000000000000

/-- Holds for the patterns that are no number. -/
def isNaN (x : Binary64) : Bool := infinityMagnitude < x.magnitude

/-- Holds for the two infinities. -/
def isInfinite (x : Binary64) : Bool := x.magnitude == infinityMagnitude

/-- Holds for both zeros. -/
def isZero (x : Binary64) : Bool := x.magnitude == 0

/-- The number with a sign and a magnitude. -/
def ofMagnitude (negative : Bool) (magnitude : Nat) : Binary64 :=
  ⟨UInt64.ofNat (magnitude + if negative then 0x8000000000000000 else 0)⟩

/-- Positive infinity. -/
def infinity (negative : Bool) : Binary64 := ofMagnitude negative infinityMagnitude

/-- The pattern used for "not a number". -/
def nan : Binary64 := ofMagnitude false (infinityMagnitude + 0x8000000000000)

/-- Mantissa and binary exponent of a finite magnitude: the value is `m · 2 ^ q`. -/
def decode? (x : Binary64) : Option (Nat × Int) :=
  if infinityMagnitude ≤ x.magnitude then none
  else
    let exponent : Nat := x.magnitude / 0x10000000000000
    let fraction : Nat := x.magnitude % 0x10000000000000
    if exponent = 0 then some (fraction, -1074)
    else some (fraction + 0x10000000000000, (exponent : Int) - 1075)

/-- The numerator and denominator of `m · 2 ^ q`. -/
def ratio (m : Nat) (q : Int) : Nat × Nat :=
  if 0 ≤ q then (m <<< q.toNat, 1) else (m, 1 <<< (-q).toNat)

/-- The quotient rounded to the nearest integer, a tie to the even one. -/
def divRoundEven (num den : Nat) : Nat :=
  let quotient := num / den
  let rest := 2 * (num % den)
  if rest < den then quotient
  else if den < rest then quotient + 1
  else quotient + quotient % 2

/-- The magnitude nearest to `num / den`, for a positive denominator. -/
def magnitudeOfRatio (num den : Nat) : Nat :=
  if num = 0 then 0
  else
    let estimate : Int := (Nat.log2 num : Int) - Nat.log2 den - 53
    let scaledAt (q : Int) : Nat × Nat :=
      if 0 ≤ q then (num, den <<< q.toNat) else (num <<< (-q).toNat, den)
    let (a, b) := scaledAt estimate
    let q := max (if a / b < 0x20000000000000 then estimate else estimate + 1) (-1074)
    let (n, d) := scaledAt q
    min (divRoundEven n d + (q + 1074).toNat * 0x10000000000000) infinityMagnitude

/-- The number nearest to `num / den`, for a positive denominator. -/
def ofRatio (negative : Bool) (num den : Nat) : Binary64 :=
  ofMagnitude negative (magnitudeOfRatio num den)

/-- The number of decimal digits of a positive number. -/
def decimalWidth (n : Nat) : Nat := (Nat.toDigits 10 n).length

/-- The number `10 ^ n`. -/
def tenTo (n : Nat) : Nat := Nat.pow 10 n

/-- The number nearest to `digits · 10 ^ exponent`. Exponents far outside the range give zero
or infinity without computing the power. -/
def ofDecimal (negative : Bool) (digits : Nat) (exponent : Int) : Binary64 :=
  if digits = 0 then ofMagnitude negative 0
  else
    let top := exponent + decimalWidth digits
    if 400 < top then infinity negative
    else if top < -400 then ofMagnitude negative 0
    else if 0 ≤ exponent then ofRatio negative (digits * tenTo exponent.toNat) 1
    else ofRatio negative digits (tenTo (-exponent).toNat)

/-- The number nearest to an integer. -/
def ofInt (n : Int) : Binary64 := ofRatio (n < 0) n.natAbs 1

/-- The integer value of a finite number without a fractional part. -/
def toInt? (x : Binary64) : Option Int :=
  match x.decode? with
  | none => none
  | some (m, q) =>
    let (num, den) := ratio m q
    if num % den = 0 then some (if x.isNegative then -Int.ofNat (num / den) else num / den)
    else none

end Binary64
end VulnScanner
