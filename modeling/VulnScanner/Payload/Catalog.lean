import VulnScanner.Payload.Record
import VulnScanner.Yaml.Document

/-!
# Payload catalogs

A catalog is a list of payload definitions with different names, in the order in which they are
declared. It is read from a document: a list of records, or a mapping that holds one. The first
record that cannot be used decides how reading fails.
-/

namespace VulnScanner

/-- Why a catalog cannot be read. `source` tells where it comes from. -/
inductive CatalogFault where
  /-- The text is no document. -/
  | unreadable (source : String)
  /-- A scalar of the document has no value, or a number in it is too large. -/
  | scalar (error : Yaml.Error)
  | notList (source : String)
  | notMapping (index : Nat) (source : String)
  | badRecord (label source : String) (faults : List RecordFault)
  /-- An expression counts too far or nests too deep. -/
  | regexLimit (fault : PatternFault)
  /-- A record is refused, but what it is called cannot be written out. -/
  | unwritable (fault : DisplayFault)
  | duplicateName (name source : String)
  | fileMissing (path : String)
  | notUtf8 (error : Octets.Utf8Error)

/-- The message of a fault. -/
def CatalogFault.message : CatalogFault → String
  | unreadable source => "Cannot parse payload catalog " ++ source
  | scalar error => error.message
  | notList source => s!"Payload catalog {source} must contain a list of payloads"
  | notMapping index source => s!"Payload #{index} in {source} must be a mapping"
  | badRecord label source _ => s!"Invalid payload {label} in {source}"
  | regexLimit fault => fault.message
  | unwritable fault => fault.message
  | duplicateName name source => s!"Duplicate payload name {name} in {source}"
  | fileMissing path => s!"[Errno 2] No such file or directory: {Text.quoted path}"
  | notUtf8 error => error.message

/-- The kind of a fault. -/
def CatalogFault.kind : CatalogFault → FaultKind
  | scalar error => error.kind
  | regexLimit fault => fault.kind
  | unwritable fault => fault.kind
  | fileMissing _ => .fileMissing
  | notUtf8 _ => .encoding
  | _ => .catalog

/-- The faults of the fields of a record. -/
def CatalogFault.recordFaults : CatalogFault → List RecordFault
  | badRecord _ _ faults => faults
  | _ => []

/-- A catalog, in the order of declaration. -/
structure PayloadCatalog where
  payloads : List PayloadDefinition := []
  deriving DecidableEq, Repr

namespace PayloadCatalog

variable [Platform]

/-- What a record is called in messages: its name, or its number if that is empty. -/
def label (index : Nat) (entries : List (Value × Value)) : Except DisplayFault String :=
  match (Value.field? entries "name").filter Value.isTruthy with
  | some name => name.written
  | none => .ok s!"#{index}"

/-- How a record with some faults is refused, which tells what it is called. -/
def refusal (source : String) (index : Nat) (entries : List (Value × Value))
    (faults : List RecordFault) : CatalogFault :=
  match label index entries with
  | .ok label => .badRecord label source faults
  | .error fault => .unwritable fault

/-- How the mismatch of a record is reported. -/
def mismatchFault (source : String) (index : Nat) (entries : List (Value × Value)) :
    MismatchFault → CatalogFault
  | .regexUnusable pattern =>
    if pattern.error.isLimit then .regexLimit pattern
    else refusal source index entries [⟨.mismatch (.regexUnusable pattern), []⟩]
  | fault => refusal source index entries [⟨.mismatch fault, []⟩]

/-- The definition that a record gives. -/
def readRecord (source : String) (index : Nat) (record : Value) :
    Except CatalogFault PayloadDefinition :=
  match record.entries? with
  | none => .error (.notMapping index source)
  | some entries =>
    match Record.draft entries with
    | .error faults => .error (refusal source index entries faults)
    | .ok draft => draft.define.mapError (mismatchFault source index entries)

/-- Reads records behind those that have been read; names must be new. -/
def readRecords (source : String) : List PayloadDefinition → List Value →
    Except CatalogFault (List PayloadDefinition)
  | done, [] => .ok done
  | done, record :: rest =>
    match readRecord source done.length record with
    | .error fault => .error fault
    | .ok d =>
      if done.any (·.name == d.name) then .error (.duplicateName d.name source)
      else readRecords source (done ++ [d]) rest

/-- The records of a document: those under the key `payloads` of a mapping, or the document itself.
Null stands for no records. -/
def recordsOf (source : String) (document : Value) : Except CatalogFault (List Value) :=
  let records := match document.entries? with
    | some entries => (Value.field? entries "payloads").getD .null
    | none => document
  match records with
  | .null => .ok []
  | .list items => .ok (items.map (Value.detach (.list items)))
  | _ => .error (.notList source)

/-- The catalog in a document. -/
def ofValue (document : Value) (source : String) : Except CatalogFault PayloadCatalog := do
  return ⟨← readRecords source [] (← recordsOf source document)⟩

/-- The catalog in the text of a document. -/
def ofText (text : List Char) (source : String) : Except CatalogFault PayloadCatalog :=
  match Yaml.load text with
  | .ok document => ofValue document source
  | .error .malformed => .error (.unreadable source)
  | .error error => .error (.scalar error)

/-- The catalog in a file, of which the octets are given if it is there. -/
def ofFile (octets : Option (List UInt8)) (path : String) : Except CatalogFault PayloadCatalog :=
  match octets with
  | none => .error (.fileMissing path)
  | some octets =>
    match Octets.decode octets with
    | .error error => .error (.notUtf8 error)
    | .ok text => ofText (Octets.universalNewlines text.toList) path

/-- The definitions that are for an environment and a vulnerability, in their order. -/
def select (c : PayloadCatalog) (i : InterpretationEnvironment) (e : ExecutionEnvironment)
    (v : VulnerabilityType) : List PayloadDefinition :=
  c.payloads.filter (·.supports i e v)

/-- The definition with a name. -/
def find? (c : PayloadCatalog) (name : String) : Option PayloadDefinition :=
  c.payloads.find? (·.name == name)

end PayloadCatalog

/-- Selects by written names, which are looked at only if there is something to select from. -/
def PayloadCatalog.selectNamed [Platform] (c : PayloadCatalog) (i e v : Value) :
    Except NameFault (List PayloadDefinition) := do
  if c.payloads.isEmpty then return []
  let i ← Named.require i
  let e ← Named.require e
  let v ← Named.require v
  return c.select i e v

end VulnScanner
