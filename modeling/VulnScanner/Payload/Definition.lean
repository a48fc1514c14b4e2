import VulnScanner.Payload.Kinds
import VulnScanner.Regex.Pattern
import VulnScanner.Text.Basic

/-!
# Payload definitions

A definition is a template with the conditions for its use and the way in which success is seen. A
payload that uses the callback server is validated by it alone and mentions the address of the
callback; any other payload is validated by a regular expression or not at all.
-/

namespace VulnScanner

/-- The mark for the address of the callback in templates. -/
def urlMark : String := "$TOKEN_URL"

/-- The mark for the random token in templates and expressions. -/
def tokenMark : String := "$TOKEN_RANDOM"

/-- A definition before the check of how its parts fit together. -/
structure PayloadDraft where
  name : String
  interpretation : InterpretationEnvironment
  execution : ExecutionEnvironment
  usesCallback : Bool := false
  template : String
  validation : Option ValidationType := none
  regex : Option String := none
  vulnerabilities : List VulnerabilityType
  deriving DecidableEq, Repr

/-- A definition. -/
structure PayloadDefinition where
  name : String
  interpretation : InterpretationEnvironment
  execution : ExecutionEnvironment
  usesCallback : Bool
  template : String
  validation : ValidationType
  /-- The expression that a response has to match; an empty one is none. -/
  regex : Option String
  vulnerabilities : List VulnerabilityType
  deriving DecidableEq, Repr

/-- An expression that cannot be used. -/
structure PatternFault where
  source : List Char
  error : Regex.Error
  deriving DecidableEq, Repr

/-- The message of a fault. -/
def PatternFault.message (f : PatternFault) : String := f.error.message f.source

/-- The kind of a fault. -/
def PatternFault.kind (f : PatternFault) : FaultKind := f.error.kind

/-- Why the parts of a definition do not fit together. -/
inductive MismatchFault where
  | callbackValidation
  | callbackRegex
  | noCallbackUrl
  | callbackUnused
  | regexMissing
  | regexUnusable (fault : PatternFault)
  | regexUnused
  deriving DecidableEq, Repr

/-- The message of a fault. -/
def MismatchFault.message : MismatchFault → String
  | callbackValidation => "callback payloads are validated by the callback server only"
  | callbackRegex => "callback payloads cannot declare validation_regex"
  | noCallbackUrl => "callback payloads must reference " ++ urlMark
  | callbackUnused => "VALIDATION_CALLBACK requires uses_callback_server"
  | regexMissing => "VALIDATION_REGEX requires validation_regex"
  | regexUnusable fault =>
    if fault.kind = .expression then "invalid validation_regex: " ++ fault.message
    else fault.message
  | regexUnused => "validation_regex is only allowed with VALIDATION_REGEX"

/-- An expression that is there and not empty. -/
def givenRegex (regex : Option String) : Option String := regex.filter (· != "")

/-- The expression for a token. -/
def regexFor (token : List Char) (regex : String) : List Char :=
  Text.replaceAll tokenMark.toList token regex.toList

/-- The token that stands in for a random one when an expression is checked. -/
def zeroToken : List Char := List.replicate 16 '0'

/-- Checks that an expression can be used. -/
def checkRegex [Platform] (regex : String) : Except MismatchFault Unit :=
  let source := regexFor zeroToken regex
  match Regex.Pattern.compile {} source with
  | .ok _ => .ok ()
  | .error error => .error (.regexUnusable ⟨source, error⟩)

namespace PayloadDraft

/-- The definition with the given way of validation. -/
def withValidation (d : PayloadDraft) (validation : ValidationType) : PayloadDefinition where
  name := d.name
  interpretation := d.interpretation
  execution := d.execution
  usesCallback := d.usesCallback
  template := d.template
  validation := validation
  regex := d.regex
  vulnerabilities := d.vulnerabilities

/-- How a draft is validated: if it does not say, by the callback server if it uses it, else by its
expression if it has one. -/
def validationType (d : PayloadDraft) : ValidationType :=
  d.validation.getD <|
    if d.usesCallback then .callback
    else if (givenRegex d.regex).isSome then .regex else .none

/-- Checks a draft that uses the callback server. -/
def checkCallback (d : PayloadDraft) : Except MismatchFault Unit :=
  if d.validationType ≠ .callback then .error .callbackValidation
  else if (givenRegex d.regex).isSome then .error .callbackRegex
  else if !Text.contains d.template urlMark then .error .noCallbackUrl
  else .ok ()

/-- Checks a draft that does not use the callback server. -/
def checkLocal [Platform] (d : PayloadDraft) : Except MismatchFault Unit :=
  match d.validationType, givenRegex d.regex with
  | .callback, _ => .error .callbackUnused
  | .regex, none => .error .regexMissing
  | .regex, some regex => checkRegex regex
  | .none, none => .ok ()
  | .none, some _ => .error .regexUnused

/-- Checks how the parts of a draft fit together. -/
def define [Platform] (d : PayloadDraft) : Except MismatchFault PayloadDefinition := do
  if d.usesCallback then d.checkCallback else d.checkLocal
  return d.withValidation d.validationType

end PayloadDraft

namespace PayloadDefinition

/-- Whether a definition is for an environment and a vulnerability. -/
def supports (d : PayloadDefinition) (i : InterpretationEnvironment) (e : ExecutionEnvironment)
    (v : VulnerabilityType) : Bool :=
  (d.interpretation = .any || d.interpretation = i) && (d.execution = .any || d.execution = e) &&
    d.vulnerabilities.contains v

/-- A definition as a draft that says how it is validated. -/
def toDraft (d : PayloadDefinition) : PayloadDraft where
  name := d.name
  interpretation := d.interpretation
  execution := d.execution
  usesCallback := d.usesCallback
  template := d.template
  validation := some d.validation
  regex := d.regex
  vulnerabilities := d.vulnerabilities

end PayloadDefinition
end VulnScanner
