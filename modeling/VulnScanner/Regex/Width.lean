import VulnScanner.Regex.Error

/-!
# Widths of regular expressions

The least and the largest number of characters that an expression can match, cut off at
`widthLimit`. What is looked for behind the current place needs a fixed width.
-/

namespace VulnScanner.Regex

/-- Least and largest number of characters. -/
structure Width where
  low : Nat
  high : Nat
  deriving DecidableEq, Repr

/-- Widths at least this large are all taken as this one. -/
def widthLimit : Nat := 1 <<< 64

/-- The largest distance of a look behind. -/
def behindLimit : Nat := (1 <<< 32) - 1

/-- One after the other. -/
def Width.add (a b : Width) : Width := ⟨a.low + b.low, a.high + b.high⟩

/-- One or the other. -/
def Width.join (a b : Width) : Width := ⟨min a.low b.low, max a.high b.high⟩

/-- Both ends cut off at the limit. -/
def Width.cut (a : Width) : Width := ⟨min a.low widthLimit, min a.high widthLimit⟩

mutual

/-- The width of a node; the first argument gives the widths of the groups by number. -/
def Node.width (groups : List (Option Width)) : Node → Width
  | .code _ => ⟨1, 1⟩
  | .otherThan _ => ⟨1, 1⟩
  | .any => ⟨1, 1⟩
  | .oneOf _ _ => ⟨1, 1⟩
  | .anchor _ => ⟨0, 0⟩
  | .group _ _ _ body => (sequenceWidth groups body).cut
  | .repeated _ least most body =>
    let w := (sequenceWidth groups body).cut
    ⟨w.low * least,
      match most with
      | some most => w.high * most
      | none => if w.high = 0 then 0 else widthLimit⟩
  | .either branches => branchesWidth groups branches
  | .backref number => ((groups[number]?).getD none).getD ⟨0, 0⟩
  | .conditional _ yes no => ((sequenceWidth groups yes).cut).join (sequenceWidth groups no).cut
  | .look _ _ _ => ⟨0, 0⟩
  | .atomic body => (sequenceWidth groups body).cut

/-- The width of nodes one after the other, without a cut. -/
def sequenceWidth (groups : List (Option Width)) : List Node → Width
  | [] => ⟨0, 0⟩
  | n :: rest => (n.width groups).add (sequenceWidth groups rest)

/-- The width of a choice. -/
def branchesWidth (groups : List (Option Width)) : List (List Node) → Width
  | [] => ⟨widthLimit, 0⟩
  | b :: rest => ((sequenceWidth groups b).cut).join (branchesWidth groups rest)

end

mutual

/-- Checks a node for what a matcher cannot do. -/
def Node.check (groups : List (Option Width)) (flags : Flags) : Node → Except Error Unit
  | .group _ on off body => sequenceCheck groups (flags.within on off) body
  | .repeated style _ _ body =>
    if flags.template then .error (.repetitionRefused style) else sequenceCheck groups flags body
  | .either branches => branchesCheck groups flags branches
  | .conditional _ yes no => do
    sequenceCheck groups flags yes
    sequenceCheck groups flags no
  | .look behind _ body =>
    let w := (sequenceWidth groups body).cut
    if behind && behindLimit < w.low then .error .lookBehindTooLong
    else if behind && w.low != w.high then .error .lookBehindWidth
    else sequenceCheck groups flags body
  | .atomic body => sequenceCheck groups flags body
  | .code _ => .ok ()
  | .otherThan _ => .ok ()
  | .any => .ok ()
  | .oneOf _ _ => .ok ()
  | .anchor _ => .ok ()
  | .backref _ => .ok ()

/-- Checks nodes from left to right. -/
def sequenceCheck (groups : List (Option Width)) (flags : Flags) : List Node → Except Error Unit
  | [] => .ok ()
  | n :: rest => do
    n.check groups flags
    sequenceCheck groups flags rest

/-- Checks the branches of a choice from left to right. -/
def branchesCheck (groups : List (Option Width)) (flags : Flags) :
    List (List Node) → Except Error Unit
  | [] => .ok ()
  | b :: rest => do
    sequenceCheck groups flags b
    branchesCheck groups flags rest

end

end VulnScanner.Regex
