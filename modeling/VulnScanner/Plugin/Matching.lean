import VulnScanner.Plugin.Definition
import VulnScanner.Service.Basic

/-!
# Which services a plugin is meant for

A service matches a definition by its name or by its software. What is not known of a service yet
counts as matching, so that a plugin is not left out too early.
-/

namespace VulnScanner

/-- Why the software that a definition names cannot be compared with a text. -/
inductive ComparisonFault where
  | noLength (kind : String)
  | notText (kind : String)
  | notCharacter (length : Nat)
  deriving DecidableEq, Repr

/-- The message of a fault; all of them are faults of kind. -/
def ComparisonFault.message : ComparisonFault → String
  | noLength kind => s!"object of type \x27{kind}\x27 has no len()"
  | notText kind =>
    s!"\x27<=\x27 not supported between instances of \x27str\x27 and \x27{kind}\x27"
  | notCharacter length =>
    s!"ord() expected a character, but string of length {length} found"

/-- The lower case form of one part of a value that is compared with a text. -/
def lowerPart : Value → Except ComparisonFault String
  | .text s =>
    if "A" ≤ s ∧ s ≤ "Z" then
      if s.length = 1 then .ok (Text.asciiLower s) else .error (.notCharacter s.length)
    else .ok s
  | v => .error (.notText v.kind)

/-- Compares a value with a text up to ASCII case. A collection is compared as if its members
were written one after the other. -/
def sameUpToCase (v : Value) (s : String) : Except ComparisonFault Bool :=
  match v with
  | .text t => .ok (Text.equalsIgnoringCase t s)
  | v =>
    match v.iterate? with
    | none => .error (.noLength v.kind)
    | some parts =>
      if parts.length ≠ s.length then .ok false
      else do
        let lowered ← parts.mapM lowerPart
        return String.join lowered == Text.asciiLower s

namespace PluginDefinition

/-- Decides which services are web services. -/
abbrev WebRule := NetworkService → Bool

/-- The name rule: one of the target names is the name of the service, or the service has no
name yet; or the definition is for web services and the service is one. -/
def matchesName (web : WebRule) (d : PluginDefinition) (s : NetworkService) : Bool :=
  (match d.targetNames with
    | none => false
    | some names => !names.isEmpty &&
      (s.name.isEmpty || names.any (Text.equalsIgnoringCase · s.name))) ||
    (d.forWebService && web s)

/-- The software rule: the target software is that of the service, or the software of the service
is not known yet. -/
def matchesSoftware (d : PluginDefinition) (s : NetworkService) : Except ComparisonFault Bool :=
  match d.targetSoftware with
  | none => .ok false
  | some software =>
    if !software.isTruthy then .ok false
    else if s.software.name.isEmpty then .ok true
    else sameUpToCase software s.software.name

/-- Either rule; the software is looked at only if the name does not match. -/
def isFor (web : WebRule) (d : PluginDefinition) (s : NetworkService) :
    Except ComparisonFault Bool :=
  if d.matchesName web s then .ok true else d.matchesSoftware s

/-- The services that match, in their order; all of them if the definition has no condition. -/
def servicesFor (web : WebRule) (d : PluginDefinition) (services : List NetworkService) :
    Except ComparisonFault (List NetworkService) :=
  if d.isUnconstrained then .ok services else services.filterM (d.isFor web)

end PluginDefinition
end VulnScanner
