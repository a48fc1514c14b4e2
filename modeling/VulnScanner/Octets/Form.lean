import VulnScanner.Octets.Utf8
import VulnScanner.Text.Hex
import VulnScanner.Text.Split

/-!
# Form encoding of parameters

Names and values of parameters as the query of an address: letters, digits and `-._~` stand for
themselves, a space becomes a plus, and every other octet of the UTF-8 form is written with a
percent sign. `decodePairs` reads a query back.
-/

namespace VulnScanner.Octets.Form

/-- Holds for the octets that stand for themselves. -/
def isPlain (b : UInt8) : Bool :=
  (48 ≤ b && b ≤ 57) || (65 ≤ b && b ≤ 90) || (97 ≤ b && b ≤ 122) || b == 45 || b == 46 ||
    b == 95 || b == 126

/-- The upper-case hexadecimal digit of `n % 16`. -/
def upperHexDigit (n : Nat) : Char :=
  let d := n % 16
  Char.ofNat (if d < 10 then 48 + d else 55 + d)

/-- The form of one octet. -/
def encodeByte (b : UInt8) : List Char :=
  if isPlain b then [Char.ofNat b.toNat]
  else if b = 32 then ['+']
  else ['%', upperHexDigit (b.toNat / 16), upperHexDigit b.toNat]

/-- The form of a text. -/
def encodeText (s : List Char) : List Char := (encodeChars s).flatMap encodeByte

/-- A parameter as `name=value`. -/
def encodePair (pair : String × String) : List Char :=
  encodeText pair.1.toList ++ '=' :: encodeText pair.2.toList

/-- Parameters joined by ampersands. -/
def encodePairs (pairs : List (String × String)) : String :=
  String.ofList (['&'].intercalate (pairs.map encodePair))

/-- The octets of a form-encoded text: a plus is a space, a percent sign with two hexadecimal
digits is an octet, and everything else stands for itself. -/
def decodeBytes : List Char → List UInt8
  | [] => []
  | '%' :: a :: b :: rest =>
    match Text.hexValue? a, Text.hexValue? b with
    | some high, some low => UInt8.ofNat (16 * high + low) :: decodeBytes rest
    | _, _ => 37 :: decodeBytes (a :: b :: rest)
  | c :: rest => (if c = '+' then [32] else String.utf8EncodeChar c) ++ decodeBytes rest

/-- The text of a form-encoded text. -/
def decodeText (s : List Char) : String := decodeLossy (decodeBytes s)

/-- A piece of a query as a parameter: it is split at its first equals sign. -/
def decodePair (piece : List Char) : String × String :=
  (decodeText (piece.takeWhile (· ≠ '=')), decodeText ((piece.dropWhile (· ≠ '=')).drop 1))

/-- The parameters of a query; empty pieces are dropped. -/
def decodePairs (query : List Char) : List (String × String) :=
  ((Text.splitAt '&' query).filter (!·.isEmpty)).map decodePair

end VulnScanner.Octets.Form
