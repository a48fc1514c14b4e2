import VulnScanner.Plugin.Fault

/-!
# Plugin objects

What a factory builds. A detector keeps the reports that it has made, and a remote detector keeps
a list of the plugins that it is to run; both only ever grow at their ends.
-/

namespace VulnScanner

/-- How sure a finding is. -/
inductive DetectionStatus where
  | verified
  | unconfirmed
  deriving DecidableEq, Repr

namespace DetectionStatus

/-- The name of a status. -/
def name : DetectionStatus → String
  | verified => "VULNERABILITY_VERIFIED"
  | unconfirmed => "VULNERABILITY_UNCONFIRMED"

/-- The status with a name. -/
def ofName? (name : String) : Option DetectionStatus :=
  [verified, unconfirmed].find? (·.name == name)

/-- The message for a text that names no status. -/
def unknownMessage (name : String) : String :=
  Text.quoted name ++ " is not a valid DetectionStatus"

end DetectionStatus

/-- A finding of a plugin. -/
structure DetectionReport where
  pluginId : String
  service : Option NetworkService
  title : String
  status : DetectionStatus := .verified
  evidence : Value := .mapping []
  deriving Repr

/-- A remote plugin with the services that it is to be run on, which may be none. -/
structure MatchedPlugin where
  plugin : PluginDefinition
  services : List NetworkService
  deriving Repr

/-- What a plugin object is able to do. A remote detector is a detector too; a foreign object is
no plugin at all. -/
inductive PluginKind where
  | portScanner
  | fingerprinter
  | detector
  | remoteDetector
  | foreign
  deriving DecidableEq, Repr

/-- The classes that plugins extend. -/
inductive PluginBase where
  | portScanner
  | fingerprinter
  | detector
  | remoteDetector
  deriving DecidableEq, Repr

/-- The name of a class. -/
def PluginBase.name : PluginBase → String
  | portScanner => "PortScanner"
  | fingerprinter => "ServiceFingerprinter"
  | detector => "VulnDetector"
  | remoteDetector => "RemoteVulnDetector"

/-- The class that the plugins of a category extend. -/
def PluginType.base : PluginType → PluginBase
  | portScan => .portScanner
  | serviceFingerprint => .fingerprinter
  | vulnDetection => .detector
  | remoteVulnDetection => .remoteDetector

/-- Whether the objects of a kind are objects of a class. -/
def PluginKind.isA : PluginKind → PluginBase → Bool
  | portScanner, .portScanner => true
  | fingerprinter, .fingerprinter => true
  | detector, .detector => true
  | remoteDetector, .detector => true
  | remoteDetector, .remoteDetector => true
  | _, _ => false

/-- What the operations of plugin objects do. -/
structure PluginBehavior where
  /-- What a detector finds on a target and some services: new reports, or nothing at all. -/
  detect : String → List NetworkService → Except PluginFault (Option (List DetectionReport)) :=
    fun _ _ ↦ .ok none
  /-- What a detector returns, of the reports that it has made before and the new ones. -/
  answer : List DetectionReport → List DetectionReport → List DetectionReport := (· ++ ·)
  /-- The plugins that a remote detector offers. -/
  remotePlugins : List PluginDraft := []
  /-- What a fingerprinter makes of a service. -/
  refine : String → NetworkService → Except PluginFault NetworkService := fun _ s ↦ .ok s

/-- What a factory builds: the kind of the object and what its operations do. -/
structure Blueprint extends PluginBehavior where
  className : String
  kind : PluginKind
  config : Value := .mapping []

/-- A plugin object with what it has gathered. -/
structure PluginObject where
  blueprint : Blueprint
  results : List DetectionReport := []
  worklist : List MatchedPlugin := []

namespace PluginObject

/-- The configuration of an object; an empty one is an empty mapping. -/
def config (o : PluginObject) : Value :=
  if o.blueprint.config.isTruthy then o.blueprint.config else .mapping []

/-- Adds a report at the end. -/
def addReport (o : PluginObject) (report : DetectionReport) : PluginObject :=
  { o with results := o.results ++ [report] }

/-- Adds reports at the end. -/
def addReports (o : PluginObject) (reports : List DetectionReport) : PluginObject :=
  { o with results := o.results ++ reports }

/-- Adds a plugin to be run at the end of the worklist. -/
def enqueue (o : PluginObject) (plugin : MatchedPlugin) : PluginObject :=
  { o with worklist := o.worklist ++ [plugin] }

end PluginObject

/-- A report whose evidence is an empty mapping if nothing is given. -/
def DetectionReport.make (pluginId : String) (service : Option NetworkService) (title : String)
    (status : DetectionStatus) (evidence : Value) : DetectionReport where
  pluginId := pluginId
  service := service
  title := title
  status := status
  evidence := if evidence.isTruthy then evidence else .mapping []

end VulnScanner
