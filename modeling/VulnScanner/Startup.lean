import VulnScanner.Payload.Bundled
import VulnScanner.Payload.Validation
import VulnScanner.Scan.Summary
import VulnScanner.Plugin.Loader
import VulnScanner.Settings

/-!
# Starting up

At the start the plugins are registered, the payload catalog is loaded and the callback server is
set up. Each step leaves a line in the log; the first step that fails is the last.
-/

namespace VulnScanner

/-- How important a line of the log is. -/
inductive LogLevel where
  | info
  | warning
  deriving DecidableEq, Repr

/-- The name of a level. -/
def LogLevel.name : LogLevel → String
  | info => "INFO"
  | warning => "WARNING"

/-- A line of the log. -/
structure LogLine where
  level : LogLevel
  /-- The part of the program that speaks. -/
  speaker : String
  text : String
  deriving DecidableEq, Repr

/-- A line as it is shown. -/
def LogLine.render (l : LogLine) : String := s!"{l.level.name} {l.speaker}: {l.text}"

/-- Why starting up fails. -/
inductive StartupFault where
  | plugins (fault : PopulateFault)
  | settings (fault : SettingsFault)

/-- The message of a fault. -/
def StartupFault.message : StartupFault → String
  | plugins fault => fault.message
  | settings fault => fault.message

/-- The kind of a fault. -/
def StartupFault.kind : StartupFault → FaultKind
  | plugins fault => fault.kind
  | settings _ => .value

/-- What is needed to start up. -/
structure Startup where
  plugins : PluginLoader
  payloadFile : Path
  /-- The time between two look-ups for a callback, in seconds. -/
  pollInterval : Binary64
  environment : Environment

namespace Startup

/-- The lines about registered plugins, if registering succeeds. -/
def registrationLines (l : PluginLoader) (count : Nat) : List LogLine :=
  [⟨.info, "vulndetect.core.plugin_loader",
     s!"Registered {count} plugin(s) from {l.directory.text}"⟩,
   ⟨.info, "vulndetect.services.orchestrator", s!"Discovered {count} plugins"⟩]

/-- The line about a plugins directory that is not there. -/
def missingLines (l : PluginLoader) : List LogLine :=
  if l.directoryExists then []
  else [⟨.warning, "vulndetect.core.plugin_loader",
    "Plugins directory not found: " ++ l.directory.text⟩]

/-- The line about a payload catalog. -/
def catalogLine (c : PayloadCatalog) (source : Path) : LogLine :=
  ⟨.info, "vulndetect.payload.catalog",
    s!"Loaded {c.payloads.length} payload definition(s) from {source.text}"⟩

/-- The line about a callback server that is not in use. -/
def callbackLines (server : Callback.Server) : List LogLine :=
  if server.isEnabled then []
  else [⟨.info, "vulndetect.adapters.callback",
    "Callback server not configured; callback payloads are disabled"⟩]

/-- The last line. -/
def readyLine (c : PayloadCatalog) (server : Callback.Server) (interval : Binary64) : LogLine :=
  let state := if server.isEnabled then "enabled" else "disabled"
  ⟨.info, "run",
    s!"Payload catalog ready with {c.payloads.length} entries (callback server {state}, " ++
      s!"poll interval {interval.general}s)"⟩

/-- Starts up: the lines of the log, and the fault that ended it early. -/
def run [Platform] (s : Startup) : List LogLine × Option StartupFault :=
  let found := missingLines s.plugins
  match s.plugins.populate .empty with
  | (_, some fault) => (found, some (.plugins fault))
  | (registry, none) =>
    let catalog := PayloadCatalog.bundled
    let loaded := found ++ registrationLines s.plugins registry.entries.length ++
      [catalogLine catalog s.payloadFile]
    match Callback.Server.ofEnvironment s.environment with
    | .error fault => (loaded, some (.settings fault))
    | .ok server =>
      let interval := laterOf s.pollInterval Settings.leastPollInterval
      (loaded ++ callbackLines server ++ [readyLine catalog server interval], none)

end Startup
end VulnScanner
