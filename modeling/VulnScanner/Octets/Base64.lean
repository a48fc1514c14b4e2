/-!
# Base 64

Reading octets written in base 64. Characters outside the alphabet are skipped; the text ends
at a padding that completes a group of four, and an incomplete group is an error.
-/

namespace VulnScanner.Octets.Base64

/-- The value of a character of the alphabet. -/
def digit? (c : Char) : Option Nat :=
  let n := c.toNat
  if 65 ≤ n ∧ n ≤ 90 then some (n - 65)
  else if 97 ≤ n ∧ n ≤ 122 then some (n - 71)
  else if 48 ≤ n ∧ n ≤ 57 then some (n + 4)
  else if c = '+' then some 62
  else if c = '/' then some 63
  else none

/-- Reads on inside a group: `filled` digits of the group are read, `carry` holds the bits that
are not yet part of an octet, and `pads` counts the padding characters since the last digit. -/
def decodeFrom : (filled carry pads : Nat) → List Char → Option (List UInt8)
  | filled, _, _, [] => if filled = 0 then some [] else none
  | filled, carry, pads, c :: rest =>
    if c = '=' then
      if 2 ≤ filled then
        if 4 ≤ filled + pads + 1 then some [] else decodeFrom filled carry (pads + 1) rest
      else decodeFrom filled carry pads rest
    else
      match digit? c with
      | none => decodeFrom filled carry pads rest
      | some d =>
        match filled with
        | 0 => decodeFrom 1 d 0 rest
        | 1 => (decodeFrom 2 (d % 16) 0 rest).map (UInt8.ofNat (carry * 4 + d / 16) :: ·)
        | 2 => (decodeFrom 3 (d % 4) 0 rest).map (UInt8.ofNat (carry * 16 + d / 4) :: ·)
        | _ => (decodeFrom 0 0 0 rest).map (UInt8.ofNat (carry * 64 + d) :: ·)

/-- The octets of a base 64 text, or nothing when its last group is incomplete. -/
def decode? (s : List Char) : Option (List UInt8) := decodeFrom 0 0 0 s

end VulnScanner.Octets.Base64
