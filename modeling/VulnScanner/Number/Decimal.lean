import VulnScanner.Number.Binary64

/-!
# Decimal text of floating-point numbers

`shortestDigits` finds the fewest significant digits that read back as the same number, and of
those the nearest to it. `Layout` records how such digits are set out; `Layout.program` is the
layout of every number this library prints in full. Fixed and general notation round the exact
binary value, a tie to the even digit.
-/

namespace VulnScanner.Binary64

/-- The comparison `a / b < c / d` of quotients with positive denominators. -/
private def lessRatio (a b c d : Nat) : Bool := a * d < c * b

/-- `n · 10 ^ k` as a quotient. -/
private def decimalRatio (n : Nat) (k : Int) : Nat × Nat :=
  if 0 ≤ k then (n * tenTo k.toNat, 1) else (n, tenTo (-k).toNat)

/-- The largest `k` with `10 ^ k ≤ num / den`, for a positive quotient. -/
def floorLog10 (num den : Nat) : Int :=
  let estimate : Int := (decimalWidth num : Int) - decimalWidth den
  let (a, b) := decimalRatio 1 estimate
  if lessRatio num den a b then estimate - 1 else estimate

/-- Holds when `c / d` lies in the interval of reals that round to `m · 2 ^ q`. The ends
belong to it exactly for an even mantissa. -/
private def roundsTo (m : Nat) (q : Int) (c d : Nat) : Bool :=
  let lower : Nat × Nat :=
    if m = 0x10000000000000 ∧ -1074 < q then ratio (4 * m - 1) (q - 2)
    else ratio (2 * m - 1) (q - 1)
  let upper := ratio (2 * m + 1) (q - 1)
  if m % 2 = 0 then !lessRatio c d lower.1 lower.2 && !lessRatio upper.1 upper.2 c d
  else lessRatio lower.1 lower.2 c d && lessRatio c d upper.1 upper.2

/-- The better of the two grid neighbours of the value at grid `10 ^ k`, if one reads back. -/
private def gridHit? (m : Nat) (q : Int) (k : Int) : Option Nat :=
  let (num, den) := ratio m q
  let (p, r) := decimalRatio 1 k
  let below := num * r / (den * p)
  let hit (n : Nat) : Bool :=
    let (c, d) := decimalRatio n k
    0 < n && roundsTo m q c d
  let nearest := divRoundEven (num * r) (den * p)
  if hit nearest then some nearest
  else if hit below then some below
  else if hit (below + 1) then some (below + 1)
  else none

/-- Tries grids of `10 ^ k, 10 ^ (k - 1), …` until one has a hit. -/
private def searchGrids (m : Nat) (q : Int) : Nat → Int → Nat × Int
  | 0, k => (0, k)
  | tries + 1, k =>
    match gridHit? m q k with
    | some n => (n, k)
    | none => searchGrids m q tries (k - 1)

/-- Removes trailing zeros of the digits, moving them to the exponent. -/
private def trimZeros : Nat → Nat → Int → Nat × Int
  | 0, n, k => (n, k)
  | fuel + 1, n, k => if n ≠ 0 ∧ n % 10 = 0 then trimZeros fuel (n / 10) (k + 1) else (n, k)

/-- Digits `n` and exponent `k` of the shortest decimal `n · 10 ^ k` that reads back as
`m · 2 ^ q`, for a positive mantissa. -/
def shortestDigits (m : Nat) (q : Int) : Nat × Int :=
  let (num, den) := ratio m q
  let (n, k) := searchGrids m q 18 (floorLog10 num den)
  trimZeros 20 n k

/-- How the digits of a number are set out. -/
structure Layout where
  /-- Positional notation is used while the point stands after this many places … -/
  leastPoint : Int
  /-- … and before this many. -/
  mostPoint : Int
  /-- A positional number without a fraction ends in a point and a zero. -/
  keepsPoint : Bool
  /-- The least number of digits of an exponent. -/
  exponentWidth : Nat

/-- Positional from `0.0001` to `10 ^ 16`, always with a point; exponents have a sign and at least
two digits. -/
def Layout.program : Layout := ⟨-4, 17, true, 2⟩

/-- The text of an exponent: sign, then the digits padded with zeros. -/
def exponentText (width : Nat) (e : Int) : String :=
  let digits := toString e.natAbs
  let padding := String.ofList (List.replicate (width - digits.length) '0')
  (if e < 0 then "e-" else "e+") ++ padding ++ digits

/-- Sets out the digits of `n` with the point after `point` places. -/
def Layout.write (layout : Layout) (n : Nat) (point : Int) : String :=
  let digits := (toString n).toList
  let width : Int := digits.length
  let zeros (k : Int) : List Char := List.replicate k.toNat '0'
  if layout.leastPoint < point ∧ point < layout.mostPoint then
    if point ≤ 0 then String.ofList ('0' :: '.' :: zeros (-point) ++ digits)
    else if point < width then
      String.ofList (digits.take point.toNat ++ '.' :: digits.drop point.toNat)
    else String.ofList (digits ++ zeros (point - width) ++
      if layout.keepsPoint then ['.', '0'] else [])
  else
    let mantissa := match digits with
      | [] => []
      | [d] => [d]
      | d :: rest => d :: '.' :: rest
    String.ofList mantissa ++ exponentText layout.exponentWidth (point - 1)

/-- The sign of a number as text. -/
def signText (x : Binary64) : String := if x.isNegative then "-" else ""

/-- The text of a number that is not finite. -/
def specialText (x : Binary64) : String := if x.isNaN then "nan" else x.signText ++ "inf"

/-- The shortest text that reads back as the number. -/
def text (x : Binary64) : String :=
  match x.decode? with
  | none => x.specialText
  | some (0, _) => x.signText ++ "0.0"
  | some (m, q) =>
    let (n, k) := shortestDigits m q
    x.signText ++ Layout.program.write n (k + decimalWidth n)

/-- The number with `places` digits after the point. -/
def fixed (places : Nat) (x : Binary64) : String :=
  match x.decode? with
  | none => x.specialText
  | some (m, q) =>
    let (num, den) := ratio m q
    let scaled := divRoundEven (num * tenTo places) den
    let whole := toString (scaled / tenTo places)
    let fraction := toString (scaled % tenTo places)
    let padding := String.ofList (List.replicate (places - fraction.length) '0')
    x.signText ++ whole ++ (if places = 0 then "" else "." ++ padding ++ fraction)

/-- Six significant digits without trailing zeros, positional from `0.0001` to `10 ^ 6`. -/
def general (x : Binary64) : String :=
  match x.decode? with
  | none => x.specialText
  | some (0, _) => x.signText ++ "0"
  | some (m, q) =>
    let (num, den) := ratio m q
    let k := floorLog10 num den - 5
    let (p, r) := decimalRatio 1 k
    let rounded := divRoundEven (num * r) (den * p)
    let (n, k) := trimZeros 20 rounded k
    let layout : Layout := ⟨-4, 7, false, 2⟩
    x.signText ++ layout.write n (k + decimalWidth n)

end VulnScanner.Binary64
