import VulnScanner.Startup

/-!
# The program

Starts up with the settings of the environment and shows the log. The files of the plugins directory
are named on the command line, since only what is named is read.
-/

namespace VulnScanner

/-- The variables that are looked at. -/
def variableNames : List String :=
  ["VULNDETECT_PLUGINS_DIR", "VULNDETECT_LOG_LEVEL", "VULNDETECT_CALLBACK_ADDRESS",
   "VULNDETECT_CALLBACK_PORT", "VULNDETECT_CALLBACK_POLLING_URI", "VULNDETECT_CALLBACK_DOMAIN",
   "VULNDETECT_CALLBACK_TIMEOUT", "VULNDETECT_POLL_INTERVAL", "VULNDETECT_HTTP_TIMEOUT",
   "VULNDETECT_MAX_WORKERS"]

/-- The names that lead from a directory to a file; a file elsewhere is taken as it is named. -/
def namesBelow (directory file : Path) : List String :=
  if directory.anchor = file.anchor && directory.names.isPrefixOf file.names then
    file.names.drop directory.names.length
  else file.names

/-- The tree of the files of a directory, each with its text. -/
def treeOf (directory : Path) (files : List (String × String)) : Tree PluginFile where
  base := directory
  entries := files.map fun f ↦ (namesBelow directory (Path.parse f.1), .file (.text f.2))

/-- What to do with the settings and the files of a run. -/
def startupOf (s : Settings) (env : Environment) (files : List (String × String)) : Startup where
  plugins := ⟨treeOf s.pluginsDirectory files, s.pluginsDirectory⟩
  payloadFile := s.payloadFile
  pollInterval := s.pollInterval
  environment := env

/-- Reads the variables that are set. -/
def readEnvironment : IO Environment := do
  let found ← variableNames.mapM fun name ↦ do
    return (← IO.getEnv name).map fun value ↦ (name, value)
  return found.filterMap id

end VulnScanner

open VulnScanner in
/-- Starts up, shows the log, and fails if a step fails. -/
def main (args : List String) : IO UInt32 := do
  let env ← readEnvironment
  let home := Path.parse ((← IO.getEnv "PWD").getD ".")
  match Settings.read home env with
  | .error fault =>
    IO.eprintln fault.message
    return 1
  | .ok settings =>
    let files ← args.mapM fun (file : String) ↦ do return (file, ← IO.FS.readFile file)
    let (lines, fault) := (startupOf settings env files).run
    for line in lines do
      IO.eprintln line.render
    match fault with
    | none => return 0
    | some fault =>
      IO.eprintln fault.message
      return 1
