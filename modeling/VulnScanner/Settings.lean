import VulnScanner.Callback.Server
import VulnScanner.Files.Path
import VulnScanner.Number.Reader

/-!
# Settings

The settings of a run come from the variables of the environment. Numbers are checked in a fixed
order, and the first that cannot be read counts.
-/

namespace VulnScanner

/-- The variables of an environment. -/
abbrev Environment := List (String × String)

/-- The value of a variable, or something else if it is not set. -/
def Environment.getD (env : Environment) (name other : String) : String :=
  (List.lookup name env).getD other

/-- Why a setting cannot be read. -/
inductive SettingsFault where
  | integer (error : Number.IntegerError)
  | decimal (text : String)

/-- The message of a fault. -/
def SettingsFault.message : SettingsFault → String
  | integer error => error.message
  | decimal text => Number.decimalMessage text

/-- The integer that a text gives. -/
def readIntegerSetting (text : String) : Except SettingsFault Int :=
  (Number.readInteger 10 text.toList).mapError .integer

/-- The decimal number that a text gives. -/
def readDecimalSetting (text : String) : Except SettingsFault Binary64 :=
  match Number.readDecimal? text.toList with
  | some x => .ok x
  | none => .error (.decimal text)

/-- The callback server of an environment. -/
def Callback.Server.ofEnvironment (env : Environment) : Except SettingsFault Callback.Server := do
  let port ← readIntegerSetting (env.getD "VULNDETECT_CALLBACK_PORT" "8881")
  return {
    address := env.getD "VULNDETECT_CALLBACK_ADDRESS" ""
    port := port
    pollingUri := env.getD "VULNDETECT_CALLBACK_POLLING_URI" ""
    domain := env.getD "VULNDETECT_CALLBACK_DOMAIN" "" }

/-- The settings of a run. -/
structure Settings where
  pluginsDirectory : Path
  payloadDirectory : Path
  logLevel : String
  callback : Callback.Server
  /-- How long a callback is waited for, in seconds. -/
  callbackTimeout : Binary64
  /-- How long to wait between two look-ups, in seconds. -/
  pollInterval : Binary64
  /-- The time limit of a request, in seconds. -/
  httpTimeout : Int
  workers : Int

namespace Settings

/-- The shortest time between two look-ups, in seconds. -/
def leastPollInterval : Binary64 := .ofDecimal false 5 (-2)

/-- The file that holds the payload catalog. -/
def payloadFile (s : Settings) : Path := s.payloadDirectory.child "payload_definitions.yml"

/-- Reads the settings of a program whose files are at `home`. -/
def read (home : Path) (env : Environment) : Except SettingsFault Settings := do
  let callback ← Callback.Server.ofEnvironment env
  let callbackTimeout ← readDecimalSetting (env.getD "VULNDETECT_CALLBACK_TIMEOUT" "10")
  let pollInterval ← readDecimalSetting (env.getD "VULNDETECT_POLL_INTERVAL" "1")
  let httpTimeout ← readIntegerSetting (env.getD "VULNDETECT_HTTP_TIMEOUT" "5")
  let workers ← readIntegerSetting (env.getD "VULNDETECT_MAX_WORKERS" "8")
  return {
    pluginsDirectory :=
      Path.parse (env.getD "VULNDETECT_PLUGINS_DIR" (home.child "plugins").text)
    payloadDirectory := home.join (Path.parse "vulndetect/payload/data")
    logLevel := env.getD "VULNDETECT_LOG_LEVEL" "INFO"
    callback := callback
    callbackTimeout := callbackTimeout
    pollInterval := pollInterval
    httpTimeout := httpTimeout
    workers := workers }

end Settings
end VulnScanner
