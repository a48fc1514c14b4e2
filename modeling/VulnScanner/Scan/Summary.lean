import VulnScanner.Plugin.Selection

/-!
# Scans

Fingerprinting replaces each service of a report by what the fingerprinter chosen for it makes of
it. Detection runs the chosen detectors; one that fails does not keep the others from running.
Tasks are started and finished in the orders that a schedule gives.
-/

namespace VulnScanner

/-- What a detection run gives. -/
structure ScanSummary where
  target : String
  reports : List DetectionReport := []
  /-- The plugins that failed, each with the message of its fault. -/
  failed : List (String × String) := []
  executed : List String := []
  deriving Repr

/-- The outcome of one task. -/
abbrev Outcome := Except PluginFault (List DetectionReport)

/-- Puts the message of a failed plugin under its identifier. -/
def putFailure (failed : List (String × String)) (pluginId text : String) :
    List (String × String) :=
  if failed.any (·.1 == pluginId) then
    failed.map fun e ↦ if e.1 = pluginId then (pluginId, text) else e
  else failed ++ [(pluginId, text)]

/-- Adds the outcome of a finished task. -/
def ScanSummary.add (s : ScanSummary) (pluginId : String) : Outcome → ScanSummary
  | .error fault => { s with failed := putFailure s.failed pluginId fault.message }
  | .ok reports =>
    { s with executed := s.executed ++ [pluginId], reports := s.reports ++ reports }

/-- The orders in which tasks are started and finished; tasks are known by their numbers. -/
structure Schedule where
  starts : List Nat
  finishes : List Nat

/-- One task after the other. -/
def Schedule.sequential (count : Nat) : Schedule := ⟨List.range count, List.range count⟩

/-- Runs scans with the plugins of a registry. -/
structure Scanner where
  registry : Registry Factory
  workers : Int := 8

namespace Scanner

/-- The selector of a scanner. -/
def selector (s : Scanner) : Selector := { registry := some s.registry }

/-- The number of tasks that may run at a time: at least one. -/
def workerCount (s : Scanner) : Int := max 1 s.workers

/-- The definitions of all plugins. -/
def definitions (s : Scanner) : List PluginDefinition := s.registry.entries.map (·.1)

/-- Replaces a service by what its fingerprinter makes of it. -/
def refineService (s : Scanner) (target : String) (service : NetworkService) :
    SessionM NetworkService := do
  match ← s.selector.fingerprinter? service with
  | none => return service
  | some chosen =>
    match (← get).object? chosen.object with
    | none => return service
    | some o => SessionM.ofExcept id (o.blueprint.refine target service)

/-- Replaces each service of a report by what its fingerprinter makes of it. -/
def fingerprint (s : Scanner) (target : String) (report : Option ReconReport) :
    SessionM ReconReport := do
  match report with
  | none => throw .noReport
  | some report =>
    return { report with services := ← report.services.mapM (s.refineService target) }

/-- Runs the detector of a selection. New reports are added to those that the object has made
before; what it answers of all these is given. -/
def execute (target : String) (chosen : Selection) : StateM Session Outcome := do
  match (← get).object? chosen.object with
  | none => return .ok []
  | some o =>
    match o.blueprint.detect target chosen.services with
    | .error fault => return .error fault
    | .ok none => return .ok []
    | .ok (some reports) =>
      modify fun s ↦ s.update chosen.object (·.addReports reports)
      return .ok (o.blueprint.answer o.results reports)

/-- Runs tasks in the order of their numbers in `starts`; each outcome stands beside the number of
its task. -/
def runTasks (target : String) (tasks : List Selection) (starts : List Nat) :
    StateM Session (List (Nat × Outcome)) := do
  let outcomes ← starts.mapM fun number ↦ do
    match tasks[number]? with
    | none => return none
    | some task => return some (number, ← execute target task)
  return outcomes.filterMap id

/-- Gathers outcomes in the order in which the tasks finish. -/
def gather (target : String) (tasks : List Selection) (outcomes : List (Nat × Outcome))
    (finishes : List Nat) : ScanSummary :=
  finishes.foldl
    (fun summary number ↦
      match tasks[number]?, outcomes.lookup number with
      | some task, some outcome => summary.add task.definition.pluginId outcome
      | _, _ => summary)
    { target := target }

/-- Runs the detectors for a report under a schedule for the number of tasks. -/
def detect (s : Scanner) (schedule : Nat → Schedule) (target : String)
    (report : Option ReconReport) : SessionM ScanSummary := do
  let tasks ← s.selector.detectors report
  let plan := schedule tasks.length
  let outcomes ← runTasks target tasks plan.starts
  return gather target tasks outcomes plan.finishes

end Scanner
end VulnScanner
