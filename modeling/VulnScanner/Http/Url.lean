import VulnScanner.Http.Authority
import VulnScanner.Unicode.Basic
import VulnScanner.Unicode.Case

/-!
# Addresses of requests

An address may be wrapped in blanks, angle brackets and the mark `URL:`. What follows its last
number sign is a fragment, which counts only if it is not empty. An address needs a scheme, and if
that is followed by an authority, the authority has to be sound; nothing else in an address is
looked at.
-/

namespace VulnScanner.Http

/-- An address. An empty fragment is none. -/
structure Url where
  address : List Char
  fragment : List Char := []
  deriving DecidableEq, Repr

/-- Holds for the schemes in front of an authority: a letter, and then letters, digits and three
signs. -/
def isScheme : List Char → Bool
  | [] => false
  | c :: rest => c.isAlpha && rest.all fun d ↦ d.isAlphanum || ['+', '-', '.'].contains d

namespace Url

/-- Takes off a pair of angle brackets. -/
def withoutBrackets (s : List Char) : List Char :=
  if s.head? == some '<' && s.getLast? == some '>' then Unicode.strip (s.drop 1).dropLast else s

/-- Takes off the mark `URL:`. -/
def withoutMark : List Char → List Char
  | 'U' :: 'R' :: 'L' :: ':' :: rest => Unicode.strip rest
  | s => s

/-- Takes off everything that an address may be wrapped in. -/
def unwrap (s : List Char) : List Char := withoutMark (withoutBrackets (Unicode.strip s))

/-- Cuts off the fragment. -/
def ofUnwrapped (s : List Char) : Url :=
  match Text.splitLast '#' s with
  | some (address, fragment) => ⟨address, fragment⟩
  | none => ⟨s, []⟩

/-- The address with its fragment. -/
def toList (u : Url) : List Char :=
  if u.fragment.isEmpty then u.address else u.address ++ '#' :: u.fragment

/-- The text of an address with its fragment. -/
def text (u : Url) : String := String.ofList u.toList

/-- The scheme, which is not empty and ends at a colon before any slash, and what follows it. -/
def splitScheme (u : Url) : Option (List Char × List Char) :=
  match u.address.span fun c ↦ c != '/' && c != ':' with
  | ([], _) => none
  | (scheme, ':' :: rest) => some (Unicode.lower scheme, rest)
  | _ => none

/-- What stands between two slashes at the beginning and the next slash, question mark or number
sign. -/
def behindSlashes? : List Char → Option (List Char)
  | '/' :: '/' :: rest => some (rest.takeWhile fun c ↦ c != '/' && c != '?' && c != '#')
  | _ => none

/-- The host: what stands between two slashes behind the scheme. -/
def host? (u : Url) : Option (List Char) := u.splitScheme.bind fun parts ↦ behindSlashes? parts.2

/-- Holds for the characters that are left out wherever they stand: tabs and line breaks. -/
def isLeftOut (c : Char) : Bool := c = '\t' || c = '\n' || c = '\r'

/-- An address without control characters and spaces in front, and without tabs and line breaks. -/
def clean (s : List Char) : List Char := (s.dropWhile (·.toNat ≤ 0x20)).filter (!isLeftOut ·)

/-- What follows a scheme of letters, digits and signs; without one, all of an address. -/
def behindScheme (s : List Char) : List Char :=
  match s.span (· != ':') with
  | (scheme, ':' :: rest) => if isScheme scheme then rest else s
  | _ => s

/-- The authority that is looked at. -/
def authority (u : Url) : List Char :=
  (behindSlashes? (behindScheme (clean u.toList))).getD []

/-- Checks that there is a scheme, and then the authority. -/
def check (u : Url) : Except UrlFault Unit :=
  if u.splitScheme.isNone then .error (.noScheme u.text) else Authority.check u.authority

/-- Reads an address. -/
def read (s : String) : Except UrlFault Url := do
  let u := ofUnwrapped (unwrap s.toList)
  u.check
  return u

/-- Addresses that a request can be made for: they have a scheme and a sound authority. -/
structure IsSound (u : Url) : Prop where
  hasScheme : u.splitScheme.isSome
  authority : Authority.IsSound u.authority

/-- The sound addresses are those that pass the check. -/
theorem check_eq_ok_iff {u : Url} : u.check = .ok () ↔ u.IsSound := by
  unfold check
  cases h : u.splitScheme.isNone with
  | true =>
    rw [Option.isNone_iff_eq_none] at h
    exact iff_of_false (by simp) fun hs ↦ by simpa [h] using hs.hasScheme
  | false =>
    have hsome : u.splitScheme.isSome = true := by simpa using h
    rw [if_neg (by simp), Authority.check_eq_ok_iff]
    exact ⟨fun ha ↦ ⟨hsome, ha⟩, IsSound.authority⟩

instance (u : Url) : Decidable u.IsSound :=
  decidable_of_iff (u.splitScheme.isSome ∧ Authority.IsSound u.authority)
    ⟨fun h ↦ ⟨h.1, h.2⟩, fun h ↦ ⟨h.1, h.2⟩⟩

/-- Reading takes off what an address is wrapped in, and accepts the sound addresses. -/
theorem read_eq_ok_iff {s : String} {u : Url} :
    read s = .ok u ↔ u = ofUnwrapped (unwrap s.toList) ∧ u.IsSound := by
  have hread : read s = (ofUnwrapped (unwrap s.toList)).check.map
      fun _ ↦ ofUnwrapped (unwrap s.toList) := rfl
  rw [hread]
  constructor
  · intro h
    cases hc : (ofUnwrapped (unwrap s.toList)).check with
    | error fault => simp [hc, Except.map] at h
    | ok =>
      rw [hc] at h
      cases h
      exact ⟨rfl, check_eq_ok_iff.mp hc⟩
  · rintro ⟨rfl, hsound⟩
    rw [check_eq_ok_iff.mpr hsound]
    rfl

/-- Adds parameters at the end of an address: behind a question mark, or behind an ampersand if
there is a question mark already. -/
def withQuery (base query : String) : String :=
  if base.toList.contains '?' then base ++ "&" ++ query else base ++ "?" ++ query

end Url
end VulnScanner.Http
