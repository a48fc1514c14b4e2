import VulnScanner.Plugin.Session

/-!
# Choosing plugins

A selector picks the plugins of a registry that are to be run on the services of a report, in the
order of registration, and builds one plugin for each result. Building apart, the only
effect is that remote detectors are told what to run.
-/

namespace VulnScanner

/-- A plugin that was chosen: its definition, the number of the object built for it, the services
it is to be run on, and what was added to its worklist. -/
structure Selection where
  definition : PluginDefinition
  object : Nat
  services : List NetworkService := []
  queued : List MatchedPlugin := []
  deriving Repr

/-- Chooses plugins from a registry, if there is one. -/
structure Selector where
  registry : Option (Registry Factory)
  web : PluginDefinition.WebRule := NetworkService.isWeb

namespace Selector

/-- The entries of some categories. -/
def entries (c : Selector) (types : List PluginType) : List (PluginDefinition × Factory) :=
  (c.registry.map (·.ofTypes types)).getD []

/-- All port scanners; they apply to targets as a whole. -/
def portScanners (c : Selector) : SessionM (List Selection) :=
  (c.entries [.portScan]).mapM fun (d, f) ↦
    return { definition := d, object := ← d.build f .portScanner }

/-- The port scanner that was registered first. -/
def portScanner? (c : Selector) : SessionM (Option Selection) := return (← c.portScanners).head?

/-- The fingerprinter that was registered first among those whose name rule holds. -/
def fingerprinter? (c : Selector) (service : NetworkService) : SessionM (Option Selection) := do
  match (c.entries [.serviceFingerprint]).find? fun e ↦ e.1.matchesName c.web service with
  | none => return none
  | some (d, f) =>
    return some { definition := d, object := ← d.build f .fingerprinter, services := [service] }

/-- The services that a definition is for. -/
def servicesFor (c : Selector) (d : PluginDefinition) (services : List NetworkService) :
    SessionM (List NetworkService) :=
  SessionM.ofExcept .comparison (d.servicesFor c.web services)

/-- Chooses a local detector, unless it has conditions and no service meets them. -/
def localDetector? (c : Selector) (d : PluginDefinition) (f : Factory)
    (services : List NetworkService) : SessionM (Option Selection) := do
  let found ← c.servicesFor d services
  if found.isEmpty && !d.isUnconstrained then return none
  return some { definition := d, object := ← d.build f .detector, services := found }

/-- Adds a remote plugin with its services to the worklist of an object, also if there are none. -/
def enqueue (c : Selector) (object : Nat) (services : List NetworkService)
    (d : PluginDefinition) : SessionM MatchedPlugin := do
  let plugin : MatchedPlugin := ⟨d, ← c.servicesFor d services⟩
  modify fun s ↦ s.update object (·.enqueue plugin)
  return plugin

/-- Chooses a remote detector and hands it the plugins that it offers. -/
def remoteDetector (c : Selector) (d : PluginDefinition) (f : Factory)
    (services : List NetworkService) : SessionM Selection := do
  let object ← d.build f .remoteDetector
  let definitions ← ((← get).remotePlugins object).mapM fun draft ↦
    SessionM.ofExcept .definition draft.define
  let queued ← definitions.mapM (c.enqueue object services)
  return { definition := d, object := object, services := services, queued := queued }

/-- The detectors for the services of a report, local and remote. -/
def detectors (c : Selector) (report : Option ReconReport) : SessionM (List Selection) := do
  let services := ReconReport.servicesOf report
  let found ← (c.entries [.vulnDetection, .remoteVulnDetection]).mapM fun (d, f) ↦ do
    if d.pluginType = .remoteVulnDetection then
      return some (← c.remoteDetector d f services)
    else c.localDetector? d f services
  return found.filterMap id

end Selector
end VulnScanner
