import VulnScanner.Files.Path

/-!
# File trees

A tree of directories and files below one directory. The directories above that one are there, and
nothing is known of what else they hold, so everything else counts as missing.
-/

namespace VulnScanner

/-- What is at a place in a tree. `F` is the type of files. -/
inductive TreeEntry (F : Type) where
  | directory
  | file (content : F)
  deriving Repr

/-- A tree: the entries below its base, each with the names that lead there. The directories on
the way to an entry need not be listed. -/
structure Tree (F : Type) where
  base : Path
  entries : List (List String × TreeEntry F) := []

/-- What a look-up finds. A directory below the base comes with its place. -/
inductive Finding (F : Type) where
  | missing
  | directory (place : Option (List String))
  | file (content : F)
  /-- A name on the way has more octets than a name may have. -/
  | tooLong
  deriving Repr

namespace Tree

variable {F : Type}

/-- The most octets of a name. -/
def nameLimit : Nat := 255

/-- The entry at a place, named without dots. What is listed last counts. -/
def entry? (t : Tree F) (place : List String) : Option (TreeEntry F) :=
  match t.entries.reverse.find? (·.1 == place) with
  | some (_, entry) => some entry
  | none =>
    if place.isEmpty || t.entries.any (place.isPrefixOf ·.1) then some .directory else none

/-- Follows names from a place, which is given innermost name first; two dots lead one level up.
With `above` the place is that many levels above the base. -/
def follow (t : Tree F) (inside : List String) (above : Nat) : List String → Finding F
  | [] =>
    if above > 0 then .directory none
    else match t.entry? inside.reverse with
      | none => .missing
      | some .directory => .directory (some inside.reverse)
      | some (.file content) => .file content
  | name :: rest =>
    if above > 0 then
      if name = ".." then t.follow inside (above + 1) rest else .missing
    else match t.entry? inside.reverse with
      | some .directory =>
        if name = ".." then
          match inside with
          | [] => t.follow [] 1 rest
          | _ :: outer => t.follow outer 0 rest
        else if name.utf8ByteSize > nameLimit then .tooLong
        else t.follow (name :: inside) 0 rest
      | _ => .missing

/-- Looks up a path. Of the places that do not lie below the base only the topmost directory
is known. -/
def find (t : Tree F) (p : Path) : Finding F :=
  if p.anchor = t.base.anchor && t.base.names.isPrefixOf p.names then
    t.follow [] 0 (p.names.drop t.base.names.length)
  else if p.anchor.startsWith "/" && p.names.all (· == "..") then .directory none
  else .missing

/-- The places of all directories on the way to a place, the base first. -/
def waysTo (place : List String) : List (List String) :=
  (List.range place.length).map place.take

/-- The places of all entries, also of those that are not listed, each once. -/
def places (t : Tree F) : List (List String) :=
  (t.entries.flatMap fun e ↦ waysTo e.1 ++ [e.1]).eraseDups

/-- The paths of the entries with a name anywhere below a directory, in their order. -/
def named (t : Tree F) (name : String) (directory : Path) : List Path :=
  match t.find directory with
  | .directory (some start) =>
    let found := t.places.filter fun place ↦
      place.getLast? == some name && start.isPrefixOf place && start.length < place.length
    let paths := found.map fun place ↦
      (⟨directory.anchor, directory.names ++ place.drop start.length⟩ : Path)
    paths.mergeSort Path.le
  | _ => []

end Tree
end VulnScanner
