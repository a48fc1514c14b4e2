import VulnScanner.Number.Binary64

/-!
# Sums and order of floating-point numbers

A finite number is a whole multiple of the smallest positive one. A sum is formed exactly in these
units and then rounded to the nearest number. What is no number is neither below nor above
anything.
-/

namespace VulnScanner.Binary64

/-- A finite number in units of the smallest positive one. -/
def units? (x : Binary64) : Option Int :=
  x.decode?.map fun (m, q) ↦
    let n := Int.ofNat (m <<< (q + 1074).toNat)
    if x.isNegative then -n else n

/-- The number nearest to a multiple of the unit; zero is positive. -/
def ofUnits (n : Int) : Binary64 := ofRatio (n < 0) n.natAbs (1 <<< 1074)

/-- The number with the opposite sign. -/
def neg (x : Binary64) : Binary64 := ofMagnitude (!x.isNegative) x.magnitude

/-- The sum, rounded to the nearest number. The sum of two negative zeros is negative. -/
def add (x y : Binary64) : Binary64 :=
  match x.units?, y.units? with
  | some m, some n =>
    if x.isZero && y.isZero then ofMagnitude (x.isNegative && y.isNegative) 0
    else ofUnits (m + n)
  | some _, none => y
  | none, some _ => x
  | none, none =>
    if x.isNaN || y.isNaN || x.isNegative != y.isNegative then nan else x

/-- The difference, rounded to the nearest number. -/
def sub (x y : Binary64) : Binary64 := x.add y.neg

/-- The place of a number in the order; both zeros have the same. -/
def order (x : Binary64) : Int :=
  if x.isNegative then -Int.ofNat x.magnitude else Int.ofNat x.magnitude

/-- Neither number is missing, and the first is below the second. -/
def below (x y : Binary64) : Bool := !x.isNaN && !y.isNaN && decide (x.order < y.order)

/-- Neither number is missing, and the first is not above the second. -/
def atMost (x y : Binary64) : Bool := !x.isNaN && !y.isNaN && decide (x.order ≤ y.order)

instance : Add Binary64 := ⟨add⟩

instance : Sub Binary64 := ⟨sub⟩

instance : Zero Binary64 := ⟨⟨0⟩⟩

instance : LT Binary64 := ⟨fun x y ↦ x.below y = true⟩

instance : LE Binary64 := ⟨fun x y ↦ x.atMost y = true⟩

instance : DecidableLT Binary64 := fun x y ↦ inferInstanceAs (Decidable (x.below y = true))

instance : DecidableLE Binary64 := fun x y ↦ inferInstanceAs (Decidable (x.atMost y = true))

end VulnScanner.Binary64
