import VulnScanner.Number.Reader
import VulnScanner.Text.Quoted
import VulnScanner.Text.Split

/-!
# Authorities of addresses

What stands between the two slashes behind the scheme of an address and the next slash, question
mark or number sign. Brackets in it hold an address of version six or of a later version, and no
character in it may become a sign of addresses when it is put into its compatible form.
-/

namespace VulnScanner.Http

/-- An address that no request can be made for. -/
inductive UrlFault where
  /-- There is no scheme. -/
  | noScheme (written : String)
  /-- There is a bracket of one kind only. -/
  | unpairedBracket
  /-- What the brackets hold begins like an address of a later version. -/
  | laterVersion
  /-- The brackets hold an address of version four. -/
  | fourthVersion
  /-- The brackets hold something else. -/
  | noVersion (host : String)
  /-- A character becomes a sign of addresses. -/
  | hiddenSign (authority : String)
  /-- The number of the port is too long to be written out. -/
  | longPort
  deriving DecidableEq, Repr

/-- The message of a fault. -/
def UrlFault.message : UrlFault → String
  | noScheme written => "unknown url type: " ++ Text.quoted written
  | unpairedBracket => "Invalid IPv6 URL"
  | laterVersion => "IPvFuture address is invalid"
  | fourthVersion => "An IPv4 address cannot be in brackets"
  | noVersion host => Text.quoted host ++ " does not appear to be an IPv4 or IPv6 address"
  | hiddenSign authority =>
    s!"netloc \x27{authority}\x27 contains invalid characters under NFKC normalization"
  | longPort => Number.unwrittenMessage

namespace Literal

/-- Numbers up to 255 in decimal digits, without a zero in front. -/
def isOctet (s : List Char) : Bool :=
  !s.isEmpty && s.length ≤ 3 && s.all Char.isDigit && (s == ['0'] || s.head? != some '0') &&
    s.foldl (fun n c ↦ 10 * n + (c.toNat - 48)) 0 ≤ 255

/-- Addresses of version four: four octets with dots between them. -/
def isFourth (s : List Char) : Bool :=
  let octets := Text.splitAt '.' s
  octets.length == 4 && octets.all isOctet

/-- Up to four hexadecimal digits. -/
def isGroup (s : List Char) : Bool :=
  !s.isEmpty && s.length ≤ 4 && s.all fun c ↦ (Text.hexValue? c).isSome

/-- The parts between the colons. An address of version four at the end stands for two groups. -/
def parts? (s : List Char) : Option (List (List Char)) :=
  let parts := Text.splitAt ':' s
  let last := parts.getLastD []
  if !last.contains '.' then some parts
  else if isFourth last then some (parts.dropLast ++ [['0'], ['0']])
  else none

/-- The groups on one side of two colons in a row; an empty part is no group at all. -/
def side (parts : List (List Char)) : List (List Char) := if parts = [[]] then [] else parts

/-- Eight groups, or fewer with an empty part that stands for those that are left out. -/
def areGroups (parts : List (List Char)) : Bool :=
  (parts.length == 8 && parts.all isGroup) ||
    (List.range parts.length).any fun i ↦
      let groups := side (parts.take i) ++ side (parts.drop (i + 1))
      0 < i && i + 1 < parts.length && parts[i]? == some [] && groups.length ≤ 7 &&
        groups.all isGroup

/-- Addresses of version six, perhaps with the name of a zone behind a percent sign. -/
def isSixth (s : List Char) : Bool :=
  (match s.dropWhile (· != '%') with
    | [] => true
    | _ :: zone => !zone.isEmpty && !zone.contains '%') &&
  (parts? (s.takeWhile (· != '%'))).any areGroups

/-- Addresses of a later version, whose number is hexadecimal. -/
def isLater : List Char → Bool
  | 'v' :: rest =>
    let isHex (c : Char) : Bool := (Text.hexValue? c).isSome
    (rest.head?.any isHex) && match rest.dropWhile isHex with
      | '.' :: more => !more.isEmpty
      | _ => false
  | _ => false

/-- Holds for what may stand between brackets. -/
def isValid (s : List Char) : Bool := if s.head? = some 'v' then isLater s else isSixth s

/-- What is wrong with a text that may not stand between brackets. -/
def fault (s : List Char) : UrlFault :=
  if s.head? = some 'v' then .laterVersion
  else if isFourth s then .fourthVersion
  else .noVersion (String.ofList s)

end Literal

/-- The code points of the characters of which the compatible form has a slash, a question mark, a
number sign, an at sign or a colon. -/
def signLookalikes : List Nat :=
  [0x2047, 0x2048, 0x2049, 0x2100, 0x2101, 0x2105, 0x2106, 0x2a74, 0xfe13, 0xfe16, 0xfe55, 0xfe56,
   0xfe5f, 0xfe6b, 0xff03, 0xff0f, 0xff1a, 0xff1f, 0xff20]

/-- Holds for characters that become a sign of addresses. -/
def hidesSign (c : Char) : Bool := signLookalikes.contains c.toNat

namespace Authority

/-- What stands behind the first opening bracket, up to the next closing one. -/
def bracketed (a : List Char) : List Char :=
  ((a.dropWhile (· != '[')).drop 1).takeWhile (· != ']')

/-- Checks an authority: its brackets, what they hold, and its characters. -/
def check (a : List Char) : Except UrlFault Unit :=
  if a.contains '[' != a.contains ']' then .error .unpairedBracket
  else if a.contains '[' && !Literal.isValid (bracketed a) then
    .error (Literal.fault (bracketed a))
  else if a.any hidesSign then .error (.hiddenSign (String.ofList a))
  else .ok ()

/-- Brackets come in pairs and hold an address, and no character becomes a sign. -/
structure IsSound (a : List Char) : Prop where
  paired : '[' ∈ a ↔ ']' ∈ a
  valid : '[' ∈ a → Literal.isValid (bracketed a) = true
  plain : ∀ c ∈ a, hidesSign c = false

/-- The sound authorities are those that pass the check. -/
theorem check_eq_ok_iff {a : List Char} : check a = .ok () ↔ IsSound a := by
  have hpaired : (a.contains '[' != a.contains ']') = false ↔ ('[' ∈ a ↔ ']' ∈ a) := by
    rw [bne_eq_false_iff_eq, Bool.eq_iff_iff, List.contains_iff_mem, List.contains_iff_mem]
  have hplain : a.any hidesSign = false ↔ ∀ c ∈ a, hidesSign c = false := by
    simp [List.any_eq_false]
  have hvalid : (a.contains '[' && !Literal.isValid (bracketed a)) = false ↔
      ('[' ∈ a → Literal.isValid (bracketed a) = true) := by
    rw [Bool.and_eq_false_imp, List.contains_iff_mem, Bool.not_eq_false']
  unfold check
  constructor
  · intro h
    split at h
    · cases h
    next hp =>
    split at h
    · cases h
    next hv =>
    split at h
    · cases h
    next hs =>
    exact ⟨hpaired.mp (Bool.not_eq_true _ ▸ hp), hvalid.mp (Bool.not_eq_true _ ▸ hv),
      hplain.mp (Bool.not_eq_true _ ▸ hs)⟩
  · rintro ⟨hp, hv, hs⟩
    rw [hpaired.mpr hp, hvalid.mpr hv, hplain.mpr hs]
    rfl

instance (a : List Char) : Decidable (IsSound a) :=
  decidable_of_iff (check a).isOk <| by
    rw [← check_eq_ok_iff]
    cases check a <;> simp [Except.isOk, Except.toBool]

end Authority
end VulnScanner.Http
