import VulnScanner.Data.Value
import VulnScanner.Text.Basic

/-!
# Network services

An endpoint that a reconnaissance has found, and what is known of it. Empty texts stand for what
is not known yet. Host, port and transport are carried along and never looked at.
-/

namespace VulnScanner

/-- The software behind a service; what is unknown is empty. -/
structure Software where
  name : String := ""
  version : String := ""
  deriving DecidableEq, Repr, Inhabited

/-- A network endpoint. An empty name means that the service is not identified yet. -/
structure NetworkService where
  host : Value
  port : Value
  transport : Value := .text "tcp"
  name : String := ""
  software : Software := {}
  /-- The request methods that the service advertises. -/
  methods : List String := []
  banner : String := ""
  deriving Repr, Inhabited

namespace NetworkService

/-- The names of services that speak the protocol of the web. -/
def webNames : List String :=
  ["http", "http-alt", "http-proxy", "https", "https-alt", "radan-http", "ssl/http",
   "ssl/http-alt", "ssl/https", "ssl/https-alt", "sun-answerbook", "upnp", "webcache", "www"]

/-- A web service advertises request methods or has one of the known names, in any ASCII case. -/
def isWeb (s : NetworkService) : Bool :=
  !s.methods.isEmpty || webNames.contains (Text.asciiLower s.name)

end NetworkService

/-- A description of software in which parts may be left out. -/
structure SoftwareDraft where
  name : Option String := none
  version : Option String := none
  deriving Repr

/-- A description of a service in which parts may be left out. -/
structure ServiceDraft where
  host : Value
  port : Value
  transport : Value := .text "tcp"
  name : Option String := none
  software : Option SoftwareDraft := none
  methods : Option (List String) := none
  banner : Option String := none
  deriving Repr

/-- The software of a draft; what is left out is empty. -/
def SoftwareDraft.complete (d : SoftwareDraft) : Software :=
  ⟨d.name.getD "", d.version.getD ""⟩

/-- The service of a draft; what is left out is empty. -/
def ServiceDraft.complete (d : ServiceDraft) : NetworkService where
  host := d.host
  port := d.port
  transport := d.transport
  name := d.name.getD ""
  software := (d.software.map SoftwareDraft.complete).getD {}
  methods := d.methods.getD []
  banner := d.banner.getD ""

/-- A service as a draft that leaves nothing out: what a fingerprinter changes and completes
anew. -/
def NetworkService.toDraft (s : NetworkService) : ServiceDraft where
  host := s.host
  port := s.port
  transport := s.transport
  name := some s.name
  software := some ⟨some s.software.name, some s.software.version⟩
  methods := some s.methods
  banner := some s.banner

/-- The services that were found on a target. -/
structure ReconReport where
  target : Value
  services : List NetworkService := []
  deriving Repr

/-- The services of a report; a missing report has none. -/
def ReconReport.servicesOf (report : Option ReconReport) : List NetworkService :=
  (report.map (·.services)).getD []

end VulnScanner
