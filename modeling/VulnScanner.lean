import VulnScanner.Calendar.Moment
import VulnScanner.Callback.Server
import VulnScanner.Data.Display
import VulnScanner.Data.Value
import VulnScanner.Fault
import VulnScanner.Files.Path
import VulnScanner.Files.Tree
import VulnScanner.Http.Client
import VulnScanner.Http.Fault
import VulnScanner.Http.Url
import VulnScanner.Json.Reader
import VulnScanner.Main
import VulnScanner.Number.Arithmetic
import VulnScanner.Number.Binary64
import VulnScanner.Number.Decimal
import VulnScanner.Number.Reader
import VulnScanner.Octets.Base64
import VulnScanner.Octets.Form
import VulnScanner.Octets.Sha3
import VulnScanner.Octets.Utf8
import VulnScanner.Payload.Bundled
import VulnScanner.Payload.Catalog
import VulnScanner.Payload.Definition
import VulnScanner.Payload.Generator
import VulnScanner.Payload.Kinds
import VulnScanner.Payload.Record
import VulnScanner.Payload.Rehearsal
import VulnScanner.Payload.Validation
import VulnScanner.Payload.Wait
import VulnScanner.Plugin.Definition
import VulnScanner.Plugin.Fault
import VulnScanner.Plugin.Loader
import VulnScanner.Plugin.Manifest
import VulnScanner.Plugin.Matching
import VulnScanner.Plugin.Module
import VulnScanner.Plugin.Object
import VulnScanner.Plugin.Registry
import VulnScanner.Plugin.Selection
import VulnScanner.Plugin.Session
import VulnScanner.Proofs.Callback.Polling
import VulnScanner.Proofs.Callback.Verdict
import VulnScanner.Proofs.Data.Entries
import VulnScanner.Proofs.Files.Named
import VulnScanner.Proofs.Http.Host
import VulnScanner.Proofs.Http.Query
import VulnScanner.Proofs.Json.Documents
import VulnScanner.Proofs.Json.Grammar
import VulnScanner.Proofs.Lists
import VulnScanner.Proofs.Number.Difference
import VulnScanner.Proofs.Number.Numerals
import VulnScanner.Proofs.Octets.Form
import VulnScanner.Proofs.Octets.Utf8
import VulnScanner.Proofs.Payload.Choice
import VulnScanner.Proofs.Payload.Crosstalk
import VulnScanner.Proofs.Payload.Described
import VulnScanner.Proofs.Payload.Faults
import VulnScanner.Proofs.Payload.Freshness
import VulnScanner.Proofs.Payload.Journal
import VulnScanner.Proofs.Payload.Loading
import VulnScanner.Proofs.Payload.MarksLeft
import VulnScanner.Proofs.Payload.Outcome
import VulnScanner.Proofs.Payload.PollCount
import VulnScanner.Proofs.Payload.Probes
import VulnScanner.Proofs.Payload.Refusal
import VulnScanner.Proofs.Payload.Rendering
import VulnScanner.Proofs.Payload.Respelling
import VulnScanner.Proofs.Payload.Spelling
import VulnScanner.Proofs.Payload.StandIn
import VulnScanner.Proofs.Payload.Template
import VulnScanner.Proofs.Payload.Verdict
import VulnScanner.Proofs.Payload.Wording
import VulnScanner.Proofs.Payload.Writing
import VulnScanner.Proofs.Plugin.Comparing
import VulnScanner.Proofs.Plugin.Detectors
import VulnScanner.Proofs.Plugin.Directory
import VulnScanner.Proofs.Plugin.Discovery
import VulnScanner.Proofs.Plugin.Foresight
import VulnScanner.Proofs.Plugin.Growth
import VulnScanner.Proofs.Plugin.Matching
import VulnScanner.Proofs.Plugin.Registration
import VulnScanner.Proofs.Plugin.Running
import VulnScanner.Proofs.Plugin.Usage
import VulnScanner.Proofs.Plugin.Worklists
import VulnScanner.Proofs.Regex.Alike
import VulnScanner.Proofs.Regex.Checking
import VulnScanner.Proofs.Regex.DotAll
import VulnScanner.Proofs.Regex.Lockstep
import VulnScanner.Proofs.Regex.Reading
import VulnScanner.Proofs.Regex.Searching
import VulnScanner.Proofs.Regex.Surrounded
import VulnScanner.Proofs.Scan.Isolation
import VulnScanner.Proofs.Scan.Pool
import VulnScanner.Proofs.Scan.Tasks
import VulnScanner.Proofs.Steps
import VulnScanner.Proofs.Text.Case
import VulnScanner.Proofs.Text.Occurrence
import VulnScanner.Proofs.Yaml.Reading
import VulnScanner.Proofs.Yaml.Scanning
import VulnScanner.Regex.Error
import VulnScanner.Regex.Escape
import VulnScanner.Regex.Letter
import VulnScanner.Regex.Match
import VulnScanner.Regex.Node
import VulnScanner.Regex.Pattern
import VulnScanner.Regex.Reader
import VulnScanner.Regex.Token
import VulnScanner.Regex.Width
import VulnScanner.Scan.Summary
import VulnScanner.Service.Basic
import VulnScanner.Settings
import VulnScanner.Startup
import VulnScanner.Text.Basic
import VulnScanner.Text.Hex
import VulnScanner.Text.Quoted
import VulnScanner.Text.Split
import VulnScanner.Unicode.Basic
import VulnScanner.Unicode.Case
import VulnScanner.Unicode.Identifier
import VulnScanner.Unicode.Letters
import VulnScanner.Unicode.Names
import VulnScanner.Unicode.Printable
import VulnScanner.Yaml.Document
import VulnScanner.Yaml.Error
import VulnScanner.Yaml.Node
import VulnScanner.Yaml.Node.Reader
import VulnScanner.Yaml.Scalar
import VulnScanner.Yaml.Tag
import VulnScanner.Yaml.Token
import VulnScanner.Yaml.Token.Cursor
import VulnScanner.Yaml.Token.Lexer
import VulnScanner.Yaml.Token.Scalar
import VulnScanner.Proofs.Plugin.Calls
import VulnScanner.Proofs.Scan.Fingerprinting
import VulnScanner.Proofs.Files.Alike
import VulnScanner.Proofs.Plugin.Identification
import VulnScanner.Proofs.Plugin.Populating
import VulnScanner.Proofs.Plugin.Drafts
import VulnScanner.Proofs.Plugin.Separation
import VulnScanner.Proofs.Plugin.RecasedChoice
import VulnScanner.Proofs.Plugin.Declared
import VulnScanner.Proofs.Plugin.EmptyFields
import VulnScanner.Proofs.Text.Folding
