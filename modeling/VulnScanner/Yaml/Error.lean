import VulnScanner.Calendar.Moment
import VulnScanner.Fault
import VulnScanner.Number.Reader

/-!
# Why a text gives no document

Everything that breaks the rules of YAML is one cause, `malformed`. The others come from scalars
whose tag announces a kind of value that their text does not have, from numbers that are too large,
and from collections that nest too deep.
-/

namespace VulnScanner.Yaml

/-- Why a text gives no value. -/
inductive Error where
  | malformed
  | integer (error : Number.IntegerError)
  /-- The text of a floating-point number is no number. -/
  | decimal (text : String)
  /-- A number has no digits at all. -/
  | emptyNumber
  /-- The word does not name a truth value. -/
  | truthWord (word : String)
  /-- The text does not have the form of a timestamp. -/
  | timestampForm
  | calendar (error : Calendar.Error)
  /-- A mapping that names a text stands in the place of a timestamp. -/
  | timestampMapping
  /-- A number in base sixty has so many places that the first counts for too much. -/
  | placeTooLarge
  /-- An escape names a code point beyond the last. -/
  | codePoint (n : Nat)
  /-- Collections nest too deep, or a mapping names a text through too many others. -/
  | tooDeep
  deriving Repr, DecidableEq

/-- The kind of an error. -/
def Error.kind : Error → FaultKind
  | malformed => .document
  | emptyNumber => .index
  | truthWord _ => .key
  | timestampForm => .attribute
  | timestampMapping => .type
  | placeTooLarge => .overflow
  | codePoint n => if n < 0x80000000 then .value else .overflow
  | tooDeep => .runtime
  | _ => .value

/-- The message of an error; malformed documents have none. -/
def Error.message : Error → String
  | malformed => ""
  | integer error => error.message
  | decimal text => Number.decimalMessage text
  | emptyNumber => "string index out of range"
  | truthWord word => word
  | timestampForm => "\x27NoneType\x27 object has no attribute \x27groupdict\x27"
  | calendar error => error.message
  | timestampMapping => "expected string or bytes-like object, got \x27list\x27"
  | placeTooLarge => "int too large to convert to float"
  | tooDeep => "maximum recursion depth exceeded"
  | codePoint n =>
    if n < 0x80000000 then "chr() arg not in range(0x110000)"
    else "Python int too large to convert to C int"

end VulnScanner.Yaml
