/-!
# Kinds of faults

Every error of the library has a cause of its own type, a message, and one of the kinds
listed here, by which callers tell errors apart.
-/

namespace VulnScanner

/-- The kind of an error. -/
inductive FaultKind where
  /-- A value is not acceptable. -/
  | value
  /-- A value is of the wrong kind. -/
  | type
  | index
  | key
  | attribute
  | overflow
  /-- Something went wrong while running. -/
  | runtime
  /-- A plugin definition breaks the rules. -/
  | definition
  /-- A registration or a look-up failed. -/
  | registry
  /-- A payload catalog is not acceptable. -/
  | catalog
  /-- Talking to another program failed. -/
  | adapter
  /-- A module or a class in it is missing. -/
  | moduleMissing
  | fileMissing
  | isDirectory
  /-- The file system refuses a request. -/
  | system
  /-- Octets are no text. -/
  | encoding
  /-- A regular expression is malformed. -/
  | expression
  /-- A document is malformed. -/
  | document
  deriving DecidableEq, Repr

end VulnScanner
