import VulnScanner.Data.Display

/-!
# The closed lists of payloads

Where a payload is written and run, what it is for, and how its success is seen. Each list is closed
and each member has one name; some names have a short form in records.
-/

namespace VulnScanner

/-- A closed list of named values. -/
class Named (α : Type) where
  /-- The word for the list in messages. -/
  title : String
  members : List α
  name : α → String
  /-- Short forms that records may use, each with the full name. -/
  shortForms : List (String × String) := []

/-- Why a value names no member of a closed list. -/
structure NameFault where
  message : String
  kind : FaultKind := .value
  deriving DecidableEq, Repr

namespace Named

variable {α : Type} [Named α]

/-- The member with a name. -/
def ofName? (text : String) : Option α := (members : List α).find? (name · == text)

/-- The member that a value names. -/
def ofValue? : Value → Option α
  | .text s => ofName? s
  | _ => none

/-- The fault of a value that names no member, which is told in it if it can be written out. -/
def unknown [Platform] (α : Type) [Named α] (v : Value) : NameFault :=
  match v.writtenExpression with
  | .ok text => { message := s!"{text} is not a valid {title α}" }
  | .error fault => { message := fault.message, kind := fault.kind }

/-- The member that a value names, or what is wrong with it. -/
def require [Platform] (v : Value) : Except NameFault α :=
  match (ofValue? v : Option α) with
  | some a => .ok a
  | none => .error (unknown α v)

end Named

/-- The language or shell that a payload is written in. -/
inductive InterpretationEnvironment where
  | any
  | linuxShell
  | windowsShell
  | java
  | python
  deriving DecidableEq, Repr

instance : Named InterpretationEnvironment where
  title := "InterpretationEnvironment"
  members := [.any, .linuxShell, .windowsShell, .java, .python]
  name
    | .any => "INTERPRETATION_ANY"
    | .linuxShell => "LINUX_SHELL"
    | .windowsShell => "WINDOWS_SHELL"
    | .java => "JAVA"
    | .python => "PYTHON"
  shortForms := [("ANY", "INTERPRETATION_ANY")]

/-- Where the effect of a payload shows. -/
inductive ExecutionEnvironment where
  | any
  | interpretation
  deriving DecidableEq, Repr

instance : Named ExecutionEnvironment where
  title := "ExecutionEnvironment"
  members := [.any, .interpretation]
  name
    | .any => "EXEC_ANY"
    | .interpretation => "EXEC_INTERPRETATION_ENVIRONMENT"
  shortForms :=
    [("ANY", "EXEC_ANY"), ("INTERPRETATION_ENVIRONMENT", "EXEC_INTERPRETATION_ENVIRONMENT")]

/-- How the success of a payload is seen. -/
inductive ValidationType where
  | none
  | regex
  | callback
  deriving DecidableEq, Repr

instance : Named ValidationType where
  title := "ValidationType"
  members := [.none, .regex, .callback]
  name
    | .none => "VALIDATION_NONE"
    | .regex => "VALIDATION_REGEX"
    | .callback => "VALIDATION_CALLBACK"
  shortForms := [("NONE", "VALIDATION_NONE"), ("REGEX", "VALIDATION_REGEX"),
    ("CALLBACK", "VALIDATION_CALLBACK")]

/-- What a payload is for. -/
inductive VulnerabilityType where
  | ssrf
  | reflectiveRce
  | blindRce
  | arbitraryFileRead
  | arbitraryFileWrite
  deriving DecidableEq, Repr

instance : Named VulnerabilityType where
  title := "VulnerabilityType"
  members := [.ssrf, .reflectiveRce, .blindRce, .arbitraryFileRead, .arbitraryFileWrite]
  name
    | .ssrf => "SSRF"
    | .reflectiveRce => "REFLECTIVE_RCE"
    | .blindRce => "BLIND_RCE"
    | .arbitraryFileRead => "ARBITRARY_FILE_READ"
    | .arbitraryFileWrite => "ARBITRARY_FILE_WRITE"

end VulnScanner
