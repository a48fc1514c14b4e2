import VulnScanner.Text.Split

/-!
# Paths

A path is an anchor, where it begins, and the names that lead on from there. Paths are kept as they
are written, except that empty names and single dots mean nothing and are left out.
-/

namespace VulnScanner

/-- A path. A relative one has an empty anchor. Anchors that consist of slashes are joined to the
names directly, all others by a slash. -/
structure Path where
  anchor : String := ""
  names : List String := []
  deriving DecidableEq, Repr, Inhabited

namespace Path

/-- The names in a text that are kept. -/
def namesOf (s : List Char) : List String :=
  ((Text.splitAt '/' s).map String.ofList).filter fun name ↦ name != "" && name != "."

/-- The slashes that a text begins with: exactly two are kept, any other number counts as one. -/
def leadingAnchor : List Char → String
  | '/' :: '/' :: '/' :: _ => "/"
  | '/' :: '/' :: _ => "//"
  | '/' :: _ => "/"
  | _ => ""

/-- Reads a path. -/
def parse (s : String) : Path := ⟨leadingAnchor s.toList, namesOf s.toList⟩

/-- The text of a path; the relative path without names is a dot. -/
def text (p : Path) : String :=
  let tail := "/".intercalate p.names
  if p.anchor = "" then (if p.names.isEmpty then "." else tail)
  else if p.names.isEmpty then p.anchor
  else if p.anchor.startsWith "/" then p.anchor ++ tail
  else p.anchor ++ "/" ++ tail

/-- Goes on from a path along another one; a path with an anchor begins anew. -/
def join (p q : Path) : Path :=
  if q.anchor = "" then ⟨p.anchor, p.names ++ q.names⟩ else q

/-- The path of a named entry. -/
def child (p : Path) (name : String) : Path := ⟨p.anchor, p.names ++ [name]⟩

/-- The path without its last name. -/
def parent (p : Path) : Path := ⟨p.anchor, p.names.dropLast⟩

/-- Paths with the same anchor are in the order of their names, and names in the order of
their characters. -/
def le (p q : Path) : Bool := decide (List.le p.names q.names)

end Path
end VulnScanner
