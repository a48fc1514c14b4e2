import VulnScanner.Data.Value
import VulnScanner.Fault

/-!
# Plugin definitions

What is known of a plugin before it is built: its identity, its category, and the services that it
is meant for. `PluginDraft.define` accepts exactly the drafts with an identifier, a
known category and targets that are not empty.
-/

namespace VulnScanner

/-- The categories of plugins. -/
inductive PluginType where
  | portScan
  | serviceFingerprint
  | vulnDetection
  | remoteVulnDetection
  deriving DecidableEq, Repr, Inhabited

namespace PluginType

/-- All categories. -/
def all : List PluginType := [portScan, serviceFingerprint, vulnDetection, remoteVulnDetection]

/-- The name of a category. -/
def name : PluginType → String
  | portScan => "PORT_SCAN"
  | serviceFingerprint => "SERVICE_FINGERPRINT"
  | vulnDetection => "VULN_DETECTION"
  | remoteVulnDetection => "REMOTE_VULN_DETECTION"

/-- The category with a name. -/
def ofName? (name : String) : Option PluginType := all.find? (·.name == name)

/-- Holds for the categories that detect vulnerabilities. -/
def detects : PluginType → Bool
  | vulnDetection => true
  | remoteVulnDetection => true
  | _ => false

/-- A category is found under its name. -/
theorem ofName?_name (t : PluginType) : ofName? t.name = some t := by
  cases t <;> decide

end PluginType

/-- The names of the services that a plugin is meant for, as they are written. -/
inductive NameTargets where
  | one (name : String)
  | many (names : List String)
  deriving DecidableEq, Repr

/-- The names as a list; a lone text is one name. -/
def NameTargets.toList : NameTargets → List String
  | one name => [name]
  | many names => names

/-- A plugin definition before it is checked. -/
structure PluginDraft where
  pluginId : String
  pluginType : Value
  targetNames : Option NameTargets := none
  targetSoftware : Option Value := none
  forWebService : Bool := false
  name : String := ""
  version : String := ""
  description : String := ""
  deriving Repr

/-- A plugin definition. The names are a set: order and repetition mean nothing. -/
structure PluginDefinition where
  pluginId : String
  pluginType : PluginType
  targetNames : Option (List String) := none
  targetSoftware : Option Value := none
  forWebService : Bool := false
  name : String := ""
  version : String := ""
  description : String := ""
  deriving Repr, Inhabited

/-- Why a draft is refused. -/
inductive DefinitionError where
  | noIdentifier
  | unknownType (written : Value) (pluginId : String)
  | emptyNames (pluginId : String)
  | emptySoftware (pluginId : String)
  deriving Repr

/-- The message of a refusal. -/
def DefinitionError.message : DefinitionError → String
  | noIdentifier => "Plugin definition requires a plugin_id"
  | unknownType written pluginId => s!"Unknown plugin type {written.expression} for {pluginId}"
  | emptyNames pluginId => "Empty target_service_names for " ++ pluginId
  | emptySoftware pluginId => "Empty target_software for " ++ pluginId

/-- The category that a value names. -/
def PluginType.ofValue? : Value → Option PluginType
  | .text name => ofName? name
  | _ => none

/-- Checks a draft. The identifier is looked at first, then the category, the names and the
software. -/
def PluginDraft.define (d : PluginDraft) : Except DefinitionError PluginDefinition :=
  if d.pluginId = "" then .error .noIdentifier
  else match PluginType.ofValue? d.pluginType with
    | none => .error (.unknownType d.pluginType d.pluginId)
    | some pluginType =>
      let names := d.targetNames.map NameTargets.toList
      if names = some [] then .error (.emptyNames d.pluginId)
      else if d.targetSoftware.any (!·.isTruthy) then .error (.emptySoftware d.pluginId)
      else .ok
        { pluginId := d.pluginId
          pluginType := pluginType
          targetNames := names
          targetSoftware := d.targetSoftware
          forWebService := d.forWebService
          name := d.name
          version := d.version
          description := d.description }

/-- A definition without any condition fits every service. -/
def PluginDefinition.isUnconstrained (d : PluginDefinition) : Bool :=
  d.targetNames.isNone && d.targetSoftware.isNone && !d.forWebService

/-- The distinct target names in the order of their characters. -/
def PluginDefinition.sortedNames? (d : PluginDefinition) : Option (List String) :=
  d.targetNames.map fun names ↦ names.eraseDups.mergeSort fun a b ↦ decide (a ≤ b)

end VulnScanner
