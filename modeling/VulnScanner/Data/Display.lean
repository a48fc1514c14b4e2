import VulnScanner.Fault
import VulnScanner.Number.Reader
import VulnScanner.Platform

/-!
# Writing values out

The text of a value in a message. There is none for a value that holds an integer of too many
digits, nor for one that nests deeper than there is room for.
-/

namespace VulnScanner

/-- Why a value is not written out. -/
inductive DisplayFault where
  /-- An integer has too many digits. -/
  | tooManyDigits
  /-- The value nests too deep. -/
  | tooDeep
  deriving DecidableEq, Repr

namespace DisplayFault

/-- The message of a fault. -/
def message : DisplayFault → String
  | tooManyDigits => Number.unwrittenMessage
  | tooDeep => "maximum recursion depth exceeded while getting the repr of an object"

/-- The kind of a fault. -/
def kind : DisplayFault → FaultKind
  | tooManyDigits => .value
  | tooDeep => .runtime

end DisplayFault

namespace Value

mutual

/-- The first fault that is met when a value is written out with room for so many levels. -/
def faultWithin (levels : Nat) : Value → Option DisplayFault
  | int n => if Number.hasDigits n then none else some .tooManyDigits
  | list items =>
    match levels with
    | 0 => some .tooDeep
    | levels + 1 => firstFault levels items
  | pair a b =>
    match levels with
    | 0 => some .tooDeep
    | levels + 1 => (faultWithin levels a).or (faultWithin levels b)
  | set members =>
    match levels with
    | 0 => some .tooDeep
    | levels + 1 => firstFault levels members
  | mapping entries =>
    match levels with
    | 0 => some .tooDeep
    | levels + 1 => firstEntryFault levels entries
  | _ => none

/-- The first fault among values. -/
def firstFault (levels : Nat) : List Value → Option DisplayFault
  | [] => none
  | v :: rest => (faultWithin levels v).or (firstFault levels rest)

/-- The first fault among entries, each key before its value. -/
def firstEntryFault (levels : Nat) : List (Value × Value) → Option DisplayFault
  | [] => none
  | (k, v) :: rest =>
    ((faultWithin levels k).or (faultWithin levels v)).or (firstEntryFault levels rest)

end

variable [Platform]

/-- What keeps a value from being written out. -/
def displayFault? (v : Value) : Option DisplayFault := v.faultWithin (Platform.displayLevels v)

/-- The text of a value in a message, if it can be written out. -/
def written (v : Value) : Except DisplayFault String :=
  match v.displayFault? with
  | some fault => .error fault
  | none => .ok v.display

/-- The form of a value inside a collection, if it can be written out. -/
def writtenExpression (v : Value) : Except DisplayFault String :=
  match v.displayFault? with
  | some fault => .error fault
  | none => .ok v.expression

/-- What is written of a value is its text. -/
theorem eq_display_of_written {v : Value} {text : String} (h : v.written = .ok text) :
    v.display = text := by
  unfold written at h
  split at h
  · cases h
  · exact Except.ok.inj h

/-- An empty value is always written. -/
@[simp] theorem written_null : null.written = .ok "None" := by
  simp [written, displayFault?, faultWithin]

end Value
end VulnScanner
