import VulnScanner.Text.Hex

/-!
# The digest SHA3-224

The sponge with the permutation of 1600 bits: the input is padded and absorbed in blocks of 144
octets, and the first 28 octets of the state are the digest. The state has 25 lanes of 64 bits;
lane `x + 5 * y` stands in column `x` and row `y`.
-/

namespace VulnScanner.Octets.Sha3

/-- The lanes of the permutation. -/
abbrev State := Vector UInt64 25

/-- The lane in column `x` and row `y`, both taken modulo five. -/
def State.lane (a : State) (x y : Nat) : UInt64 :=
  a.get ⟨x % 5 + 5 * (y % 5), by omega⟩

/-- Rotation of a lane to the left. -/
def rotate (w : UInt64) (n : Nat) : UInt64 :=
  let k := n % 64
  if k = 0 then w else (w <<< UInt64.ofNat k) ||| (w >>> UInt64.ofNat (64 - k))

/-- The rotation of each lane. -/
def offsets : Vector Nat 25 :=
  #v[0, 1, 62, 28, 27, 36, 44, 6, 55, 20, 3, 10, 43, 25, 39, 41, 45, 15, 21, 8, 18, 2, 61, 56, 14]

/-- The constants of the rounds. -/
def roundConstants : List UInt64 :=
  [0x0000000000000001, 0x0000000000008082, 0x800000000000808a, 0x8000000080008000,
   0x000000000000808b, 0x0000000080000001, 0x8000000080008081, 0x8000000000008009,
   0x000000000000008a, 0x0000000000000088, 0x0000000080008009, 0x000000008000000a,
   0x000000008000808b, 0x800000000000008b, 0x8000000000008089, 0x8000000000008003,
   0x8000000000008002, 0x8000000000000080, 0x000000000000800a, 0x800000008000000a,
   0x8000000080008081, 0x8000000000008080, 0x0000000080000001, 0x8000000080008008]

/-- Adds to each lane the parity of two neighbouring columns. -/
def theta (a : State) : State :=
  let parity : Vector UInt64 5 := Vector.ofFn fun x ↦
    a.lane x 0 ^^^ a.lane x 1 ^^^ a.lane x 2 ^^^ a.lane x 3 ^^^ a.lane x 4
  let column (x : Nat) : UInt64 := parity.get ⟨x % 5, Nat.mod_lt x (by decide)⟩
  Vector.ofFn fun i ↦ a.get i ^^^ column (i.val + 4) ^^^ rotate (column (i.val + 1)) 1

/-- Rotates each lane by its own offset and moves it to its new place. -/
def rhoPi (a : State) : State :=
  Vector.ofFn fun i ↦
    let x := i.val % 5
    let source : Fin 25 := ⟨(x + 3 * (i.val / 5)) % 5 + 5 * x, by omega⟩
    rotate (a.get source) (offsets.get source)

/-- Combines each lane with the next two of its row. -/
def chi (a : State) : State :=
  Vector.ofFn fun i ↦
    a.get i ^^^
      (~~~(a.lane (i.val % 5 + 1) (i.val / 5)) &&& a.lane (i.val % 5 + 2) (i.val / 5))

/-- One round. -/
def round (a : State) (constant : UInt64) : State :=
  let b := chi (rhoPi (theta a))
  b.set 0 (b[0] ^^^ constant)

/-- The permutation. -/
def permute (a : State) : State := roundConstants.foldl round a

/-- The octets of a block. -/
def rate : Nat := 144

/-- The padding behind an input: a domain mark, zeros, and a final bit. -/
def padding (length : Nat) : List UInt8 :=
  let missing := rate - length % rate
  if missing = 1 then [0x86] else 0x06 :: List.replicate (missing - 2) 0 ++ [0x80]

/-- Eight octets as a lane, the lowest first. -/
def laneOf (octets : List UInt8) : UInt64 :=
  octets.foldr (fun b w ↦ (w <<< 8) ||| b.toUInt64) 0

/-- Adds a block to the first lanes of the state. -/
def absorb (a : State) (block : List UInt8) : State :=
  Vector.ofFn fun i ↦ a.get i ^^^ laneOf ((block.drop (8 * i.val)).take 8)

/-- Absorbs `count` blocks. -/
def absorbAll : Nat → State → List UInt8 → State
  | 0, a, _ => a
  | count + 1, a, octets =>
    absorbAll count (permute (absorb a (octets.take rate))) (octets.drop rate)

/-- The octets of a lane, the lowest first. -/
def octetsOf (w : UInt64) : List UInt8 :=
  (List.range 8).map fun i ↦ (w >>> UInt64.ofNat (8 * i)).toUInt8

/-- The digest of an octet sequence. -/
def digest (input : List UInt8) : List UInt8 :=
  let padded := input ++ padding input.length
  let final := absorbAll (padded.length / rate) (Vector.replicate 25 0) padded
  (final.toList.flatMap octetsOf).take 28

/-- The digest as hexadecimal text. -/
def hexDigest (input : List UInt8) : String := Text.hexOfBytes (digest input)

end VulnScanner.Octets.Sha3
