import VulnScanner.Json.Reader

/-!
# What goes wrong with other programs

A request can fail on the network, and a reply can be something else than what was asked for.
-/

namespace VulnScanner.Http

/-- A failure of the network. -/
inductive NetworkFault where
  /-- The connection fails. -/
  | connection (text : String)
  /-- The system refuses, perhaps with a number. -/
  | system (number : Option Int) (text : String)
  deriving DecidableEq, Repr

/-- The message of a failure. -/
def NetworkFault.message : NetworkFault → String
  | connection text => s!"<urlopen error {text}>"
  | system none text => text
  | system (some number) text => s!"[Errno {number}] {text}"

/-- Why another program could not be asked. -/
inductive AdapterError where
  | requestFailed (fault : NetworkFault)
  | invalidJson (text : List Char) (error : Json.Error)
  | noServer
  | badStatus (status : Int)
  | notObject

/-- The message of an error. -/
def AdapterError.message : AdapterError → String
  | requestFailed fault => "HTTP request failed: " ++ fault.message
  | invalidJson text error => "Invalid JSON response: " ++ error.message text
  | noServer => "Callback server address or domain is required"
  | badStatus status => s!"Callback server returned status {status}"
  | notObject => "Callback server response must be an object"

end VulnScanner.Http
