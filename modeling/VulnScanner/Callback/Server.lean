import VulnScanner.Http.Client
import VulnScanner.Octets.Sha3

/-!
# Callback servers

A callback server records who asks for an address that only one probe knows. The address is made
from a secret: what is shown to the outside is a digest of it. A server is asked with the secret
whether anything has been recorded.
-/

namespace VulnScanner.Callback

/-- Where a callback server is. -/
structure Server where
  address : String := ""
  port : Int := 8881
  pollingUri : String := ""
  domain : String := ""
  deriving DecidableEq, Repr

namespace Server

/-- A server is in use if it has an address or a domain. -/
def isEnabled (s : Server) : Bool := s.address != "" || s.domain != ""

/-- The root of the server at its address. -/
def root (s : Server) : String := s!"http://{s.address}:{s.port}/"

/-- The address at which the server is asked. -/
def polling (s : Server) : String := if s.pollingUri = "" then s.root else s.pollingUri

/-- Whether this address can be written out: it is given, or the port has not too many digits. -/
def hasPolling (s : Server) : Bool := s.pollingUri != "" || Number.hasDigits s.port

end Server

/-- The public form of a secret. -/
def publicId (secret : String) : String := Octets.Sha3.hexDigest (Octets.encode secret)

/-- A client of a callback server that is in use. -/
structure Client where
  server : Server
  isEnabled : server.isEnabled = true
  http : Http.Client := {}

namespace Client

/-- The client of a server, which has to be in use. -/
def ofServer (s : Server) (http : Http.Client) : Except Http.AdapterError Client :=
  if h : s.isEnabled = true then .ok ⟨s, h, http⟩ else .error .noServer

/-- The address that a probe has its target ask for. -/
def uri (c : Client) (secret : String) : String :=
  if c.server.domain = "" then c.server.root ++ publicId secret
  else publicId secret ++ "." ++ c.server.domain

/-- The parameters of a look-up; a moment is given in seconds with three places. -/
def lookupParams (secret : String) (since : Option Binary64) : List (String × String) :=
  ("secret", secret) :: (since.map fun t ↦ ("since", t.fixed 3)).toList

/-- The request that asks for what is recorded for a secret since a moment. -/
def lookupRequest (c : Client) (secret : String) (since : Option Binary64) :
    Except Http.UrlFault Http.Request :=
  if c.server.hasPolling then c.http.get c.server.polling (lookupParams secret since) [] .null
  else .error .longPort

/-- A look-up can be made if the polling address can be written out and a request be made for it. -/
theorem lookupRequest_eq_ok_iff {c : Client} {secret : String} {since : Option Binary64}
    {r : Http.Request} : c.lookupRequest secret since = .ok r ↔ c.server.hasPolling = true ∧
      c.http.get c.server.polling (lookupParams secret since) [] .null = .ok r := by
  unfold lookupRequest
  split
  next h => exact (and_iff_right h).symm
  next h => exact iff_of_false (by simp) fun h' ↦ h h'.1

/-- Whether a document says that something has been recorded. -/
def isHit (entries : List (Value × Value)) : Bool :=
  let holds (name : String) : Bool := (Value.field? entries name).any Value.isTruthy
  holds "has_dns_interaction" || holds "has_http_interaction"

/-- What a reply says: whether something has been recorded. A missing page means no. -/
def verdict (reply : Http.Reply) : Except Http.AdapterError Bool := do
  let response ← reply.read
  if response.status = 404 then return false
  if response.status ≠ 200 then throw (.badStatus response.status)
  match ← response.json with
  | .mapping entries => return isHit entries
  | _ => throw .notObject

end Client
end VulnScanner.Callback
