import VulnScanner.Number.Arithmetic
import VulnScanner.Number.Decimal
import VulnScanner.Payload.Wait
import VulnScanner.Plugin.Object

/-!
# Validating payloads

A payload is validated in the way that its definition declares: by its expression, by waiting for a
callback, or not at all. Not to be confirmed is a result and no error.
-/

namespace VulnScanner

/-- The result of a validation. -/
structure ValidationResult where
  confirmed : Bool
  validation : ValidationType
  detail : String
  deriving DecidableEq, Repr

/-- The status that a report gets. -/
def ValidationResult.status (r : ValidationResult) : DetectionStatus :=
  if r.confirmed then .verified else .unconfirmed

/-- Why a payload cannot be validated. -/
inductive ValidationFault where
  | pattern (fault : PatternFault)
  | url (fault : Http.UrlFault)

/-- The message of a fault. -/
def ValidationFault.message : ValidationFault → String
  | pattern fault => fault.message
  | url fault => fault.message

/-- The kind of a fault. -/
def ValidationFault.kind : ValidationFault → FaultKind
  | pattern fault => fault.kind
  | url _ => .value

/-- What validation comes to. -/
abbrev ValidationOutcome := Except ValidationFault ValidationResult

/-- Matches a response against the expression of a payload. -/
def Payload.checkResponse [Platform] (p : Payload) (response : Option String) : ValidationOutcome :=
  match p.pattern?, response with
  | some (.error fault), _ => .error (.pattern fault)
  | some (.ok pattern), some response =>
    if pattern.occursIn response.toList then
      .ok ⟨true, .regex, "response matched validation regex"⟩
    else .ok ⟨false, .regex, "response did not match"⟩
  | _, _ => .ok ⟨false, .regex, "no response to match"⟩

/-- The result that a verdict on a callback gives. -/
def CallbackVerdict.outcome : CallbackVerdict Binary64 → ValidationOutcome
  | notConfigured => .ok ⟨false, .callback, "callback server not configured"⟩
  | recorded => .ok ⟨true, .callback, "callback interaction recorded"⟩
  | expired timeout => .ok ⟨false, .callback, s!"no callback within {timeout.general}s"⟩
  | cancelled => .ok ⟨false, .callback, "callback wait cancelled"⟩
  | impossible fault => .error (.url fault)

namespace Validator

variable {W : Type}

/-- Waits for the callback of a payload. -/
def callbackOutcome (v : Validator Binary64) (world : World W Binary64) (polls : Nat)
    (p : Payload) (timeout : Option Binary64) (w : W) : Option (ValidationOutcome × W) :=
  (v.waitForCallback world polls p timeout w).map fun (verdict, w) ↦ (verdict.outcome, w)

/-- Validates a payload in the way that its definition declares. -/
def validate [Platform] (v : Validator Binary64) (world : World W Binary64) (polls : Nat)
    (p : Payload) (response : Option String) (timeout : Option Binary64) (w : W) :
    Option (ValidationOutcome × W) :=
  match p.definition.validation with
  | .regex => some (p.checkResponse response, w)
  | .callback => v.callbackOutcome world polls p timeout w
  | .none => some (.ok ⟨false, .none, "payload declares no validation"⟩, w)

end Validator
end VulnScanner
