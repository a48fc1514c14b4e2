import VulnScanner.Text.Hex

/-!
# UTF-8

One octet sequence is read as text in two ways: `decode` refuses malformed octets and says where
and why, `decodeLossy` puts the replacement character for each maximal malformed piece. Both
go through `classify`, which looks at the octets of one character.
-/

namespace VulnScanner.Octets

/-- Why octets are no UTF-8. -/
inductive Utf8Fault where
  | invalidStart
  | invalidContinuation
  | unexpectedEnd
  deriving DecidableEq, Repr

/-- The wording of a fault. -/
def Utf8Fault.text : Utf8Fault → String
  | invalidStart => "invalid start byte"
  | invalidContinuation => "invalid continuation byte"
  | unexpectedEnd => "unexpected end of data"

/-- The replacement character. -/
def replacementChar : Char := '\ufffd'

/-- Holds for continuation octets. -/
def isContinuation (b : UInt8) : Bool := 0x80 ≤ b && b < 0xc0

/-- The bits that a continuation octet carries. -/
def payload (b : UInt8) : Nat := b.toNat % 64

/-- Holds when `second` may follow the first octet of a sequence of three or four: the ranges
exclude overlong forms, surrogates and code points beyond the last. -/
def isSecond (first second : UInt8) : Bool :=
  isContinuation second &&
    !((first = 0xe0 && second < 0xa0) || (first = 0xed && 0xa0 ≤ second) ||
      (first = 0xf0 && second < 0x90) || (first = 0xf4 && 0x90 ≤ second))

/-- What stands at the head of the octets `first :: rest`: a character or a fault, and the
number of octets that belong to it. -/
def classify (first : UInt8) (rest : List UInt8) : Except Utf8Fault Char × Nat :=
  let n := first.toNat
  if n < 0x80 then (.ok (Char.ofNat n), 1)
  else if n < 0xc2 then (.error .invalidStart, 1)
  else if n < 0xe0 then
    match rest with
    | [] => (.error .unexpectedEnd, 1)
    | b :: _ =>
      if isContinuation b then (.ok (Char.ofNat ((n - 0xc0) * 64 + payload b)), 2)
      else (.error .invalidContinuation, 1)
  else if n < 0xf0 then
    match rest with
    | [] => (.error .unexpectedEnd, 1)
    | b :: rest =>
      if !isSecond first b then (.error .invalidContinuation, 1)
      else match rest with
        | [] => (.error .unexpectedEnd, 2)
        | c :: _ =>
          if isContinuation c then
            (.ok (Char.ofNat ((n - 0xe0) * 4096 + payload b * 64 + payload c)), 3)
          else (.error .invalidContinuation, 2)
  else if n < 0xf5 then
    match rest with
    | [] => (.error .unexpectedEnd, 1)
    | b :: rest =>
      if !isSecond first b then (.error .invalidContinuation, 1)
      else match rest with
        | [] => (.error .unexpectedEnd, 2)
        | c :: rest =>
          if !isContinuation c then (.error .invalidContinuation, 2)
          else match rest with
            | [] => (.error .unexpectedEnd, 3)
            | d :: _ =>
              if isContinuation d then
                (.ok (Char.ofNat
                  ((n - 0xf0) * 262144 + payload b * 4096 + payload c * 64 + payload d)), 4)
              else (.error .invalidContinuation, 3)
  else (.error .invalidStart, 1)

/-- Decodes the octets behind the next `skip` ones, with the replacement character for each
malformed piece. -/
def decodeLossyAfter : Nat → List UInt8 → List Char
  | _, [] => []
  | skip + 1, _ :: rest => decodeLossyAfter skip rest
  | 0, b :: rest =>
    let (result, width) := classify b rest
    (match result with | .ok c => c | .error _ => replacementChar) ::
      decodeLossyAfter (width - 1) rest

/-- The text of octets, with the replacement character for each malformed piece. -/
def decodeLossy (octets : List UInt8) : String := String.ofList (decodeLossyAfter 0 octets)

/-- A malformed piece in an octet sequence: its first octet, its position and its length. -/
structure Utf8Error where
  fault : Utf8Fault
  octet : UInt8
  position : Nat
  width : Nat
  deriving DecidableEq, Repr

/-- The message for a malformed piece: one octet is shown, several are only counted. -/
def Utf8Error.message (e : Utf8Error) : String :=
  "\x27utf-8\x27 codec can\x27t decode " ++
    (if e.width = 1 then
      s!"byte 0x{Text.hexOfBytes [e.octet]} in position {e.position}: "
    else s!"bytes in position {e.position}-{e.position + e.width - 1}: ") ++ e.fault.text

/-- Decodes the octets behind the next `skip` ones, which begin at `position`. -/
def decodeAfter : Nat → Nat → List UInt8 → Except Utf8Error (List Char)
  | _, _, [] => .ok []
  | skip + 1, position, _ :: rest => decodeAfter skip (position + 1) rest
  | 0, position, b :: rest =>
    match classify b rest with
    | (.ok c, width) => (decodeAfter (width - 1) (position + 1) rest).map (c :: ·)
    | (.error fault, width) => .error ⟨fault, b, position, width⟩

/-- The text of well-formed octets. -/
def decode (octets : List UInt8) : Except Utf8Error String :=
  (decodeAfter 0 0 octets).map String.ofList

/-- The octets of a list of characters. -/
def encodeChars (s : List Char) : List UInt8 := s.flatMap String.utf8EncodeChar

/-- The octets of a text. -/
def encode (s : String) : List UInt8 := encodeChars s.toList

/-- Line breaks of all conventions as line feeds. -/
def universalNewlines : List Char → List Char
  | [] => []
  | '\r' :: '\n' :: rest => '\n' :: universalNewlines rest
  | '\r' :: rest => '\n' :: universalNewlines rest
  | c :: rest => c :: universalNewlines rest

end VulnScanner.Octets
