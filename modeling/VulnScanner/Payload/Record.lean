import VulnScanner.Octets.Utf8
import VulnScanner.Payload.Definition
import VulnScanner.Text.Basic
import VulnScanner.Unicode.Basic
import VulnScanner.Unicode.Case

/-!
# Payload records

A record is a mapping that writes a payload definition down. Each field has a short and a spelled
name, and values of a related kind are accepted where their meaning is clear. All faults of the
fields are reported together, in the order of the fields, and then those of the keys that are no
field; how the parts fit together is checked only if there are none.
-/

namespace VulnScanner

/-- What is wrong at a place of a record. -/
inductive RecordIssue where
  | missing
  | unknownKey
  | notText
  | notUtf8
  | emptyText
  | unknownName
  | unclearTruth
  | notTruth
  | notList
  | emptyList
  | keyNotText
  | mismatch (fault : MismatchFault)
  deriving DecidableEq, Repr

/-- The name of an issue in reports. -/
def RecordIssue.name : RecordIssue → String
  | missing => "missing"
  | unknownKey => "extra_forbidden"
  | notText => "string_type"
  | notUtf8 => "string_unicode"
  | emptyText => "string_too_short"
  | unknownName => "enum"
  | unclearTruth => "bool_parsing"
  | notTruth => "bool_type"
  | notList => "list_type"
  | emptyList => "too_short"
  | keyNotText => "invalid_key"
  | mismatch _ => "value_error"

/-- A step to a place in a record: a key or a number. -/
inductive RecordStep where
  | key (name : String)
  | index (n : Int)
  deriving DecidableEq, Repr

/-- An issue and its place. -/
structure RecordFault where
  issue : RecordIssue
  place : List RecordStep
  deriving DecidableEq, Repr

/-- The result of reading a part of a record. -/
abbrev Checked (α : Type) := Except (List RecordFault) α

/-- The faults of a result. -/
def Checked.faults {α : Type} : Checked α → List RecordFault
  | .ok _ => []
  | .error faults => faults

/-- A field of records: the name that is used in faults when it is missing comes first. -/
structure RecordField where
  spelled : String
  plain : String
  deriving DecidableEq, Repr

namespace RecordField

/-- The field under either of its names; the spelled one is looked up first. -/
def find? (f : RecordField) (entries : List (Value × Value)) : Option (String × Value) :=
  match Value.field? entries f.spelled with
  | some v => some (f.spelled, v)
  | none => (Value.field? entries f.plain).map fun v ↦ (f.plain, v)

/-- The name of a payload. -/
def name : RecordField := ⟨"name", "name"⟩

/-- Where a payload is interpreted. -/
def interpretation : RecordField := ⟨"interpretationEnvironment", "interpretation_environment"⟩

/-- Where a payload is executed. -/
def execution : RecordField := ⟨"executionEnvironment", "execution_environment"⟩

/-- Whether a payload uses the callback server. -/
def usesCallback : RecordField := ⟨"usesCallbackServer", "uses_callback_server"⟩

/-- The template of a payload. -/
def template : RecordField := ⟨"payloadString", "payload_string"⟩

/-- How a payload is validated. -/
def validation : RecordField := ⟨"validationType", "validation_type"⟩

/-- The expression that validates a payload. -/
def regex : RecordField := ⟨"validationRegex", "validation_regex"⟩

/-- What a payload is for. -/
def vulnerabilities : RecordField := ⟨"vulnerabilityType", "vulnerability_type"⟩

/-- All fields in their order. -/
def all : List RecordField :=
  [name, interpretation, execution, usesCallback, template, validation, regex, vulnerabilities]

/-- Reads a field that may be left out. -/
def optional {α : Type} (f : RecordField) (entries : List (Value × Value)) (other : α)
    (read : String → Value → Checked α) : Checked α :=
  match f.find? entries with
  | some (key, v) => read key v
  | none => .ok other

/-- Reads a field that must be there. -/
def required {α : Type} (f : RecordField) (entries : List (Value × Value))
    (read : String → Value → Checked α) : Checked α :=
  match f.find? entries with
  | some (key, v) => read key v
  | none => .error [⟨.missing, [.key f.spelled]⟩]

end RecordField

namespace Record

/-- Places the issue of a value at a key. -/
def under {α : Type} (read : Value → Except RecordIssue α) (key : String) (v : Value) :
    Checked α :=
  (read v).mapError fun issue ↦ [⟨issue, [.key key]⟩]

/-- A text; octets are read as UTF-8. -/
def readText : Value → Except RecordIssue String
  | .text s => .ok s
  | .bytes octets => (Octets.decode octets).mapError fun _ ↦ .notUtf8
  | _ => .error .notText

/-- A text that is not empty. -/
def readFilledText (v : Value) : Except RecordIssue String := do
  let s ← readText v
  if s = "" then throw .emptyText else return s

/-- Null, or what else can be read. -/
def readNullable {α : Type} (read : Value → Except RecordIssue α) :
    Value → Except RecordIssue (Option α)
  | .null => .ok none
  | v => (read v).map some

/-- A written name without surrounding blanks and in capitals. -/
def capitals (s : String) : String := String.ofList (Unicode.upper (Unicode.strip s.toList))

/-- The member that a full name stands for. -/
def readMember {α : Type} [Named α] (v : Value) : Except RecordIssue α :=
  let found := match v with
    | .text s => Named.ofName? s
    | .bytes octets => (Octets.decode octets).toOption.bind Named.ofName?
    | _ => none
  match found with
  | some a => .ok a
  | none => .error .unknownName

/-- The full name that a written name stands for. -/
def fullName (α : Type) [Named α] (written : String) : String :=
  ((Named.shortForms α).lookup (capitals written)).getD (capitals written)

/-- The member that a written name stands for: in any case, with blanks around it, and perhaps
in its short form. -/
def readName {α : Type} [Named α] (v : Value) : Except RecordIssue α :=
  match v with
  | .text s => readMember (.text (fullName α s))
  | v => readMember v

/-- The words for false and for true. -/
def truthWords : List (String × Bool) :=
  [("0", false), ("f", false), ("n", false), ("no", false), ("off", false), ("false", false),
   ("1", true), ("t", true), ("y", true), ("on", true), ("yes", true), ("true", true)]

/-- The truth value of a word in any ASCII case. -/
def truthOfWord (word : String) : Except RecordIssue Bool :=
  match truthWords.lookup (Text.asciiLower word) with
  | some b => .ok b
  | none => .error .unclearTruth

/-- Whether an integer fits into 64 bits. -/
def fitsWord (n : Int) : Bool := Int64.minValue.toInt ≤ n && n ≤ Int64.maxValue.toInt

/-- The truth value of an integer. -/
def truthOfInt (n : Int) : Except RecordIssue Bool :=
  if !fitsWord n then .error .notTruth
  else if n = 0 then .ok false
  else if n = 1 then .ok true
  else .error .unclearTruth

/-- A truth value, or a word or number that clearly stands for one. -/
def readTruth : Value → Except RecordIssue Bool
  | .bool b => .ok b
  | .text s => truthOfWord s
  | .bytes octets =>
    match Octets.decode octets with
    | .ok s => truthOfWord s
    | .error _ => .error .unclearTruth
  | .int n => truthOfInt n
  | .float x =>
    match x.toInt? with
    | some n => truthOfInt n
    | none => .error .notTruth
  | _ => .error .notTruth

/-- A written name in capitals; other values are left as they are. -/
def capitalItem : Value → Value
  | .text s => .text (capitals s)
  | v => v

/-- The items of a list; a lone text is a list of one item. -/
def listItems : Value → Except RecordIssue (List Value)
  | .text s => .ok [capitalItem (.text s)]
  | .list items => .ok (items.map capitalItem)
  | .set members => .ok members
  | .pair a b => .ok [a, b]
  | _ => .error .notList

/-- Reads items, keeping the faults of all of them. -/
def readItems {α : Type} (read : Value → Except RecordIssue α) (key : String) :
    Nat → List Value → Checked (List α)
  | _, [] => .ok []
  | i, v :: rest =>
    match read v, readItems read key (i + 1) rest with
    | .ok a, .ok as => .ok (a :: as)
    | .ok _, .error faults => .error faults
    | .error issue, others => .error (⟨issue, [.key key, .index i]⟩ :: others.faults)

/-- A list of names that is not empty. -/
def readNames {α : Type} [Named α] (key : String) (v : Value) : Checked (List α) := do
  let items ← under listItems key v
  let names ← readItems readMember key 0 items
  if names.isEmpty then throw [⟨.emptyList, [.key key]⟩] else return names

variable [Platform]

/-- The form of a key in a place; the kind stands in for what cannot be written out. -/
def keyText (key : Value) : String :=
  match key.writtenExpression with
  | .ok text => text
  | .error _ => s!"<unprintable {key.kind} object>"

/-- The place of a key that is no text. -/
def keyStep (key : Value) : RecordStep :=
  match key with
  | .bool b => .index (if b then 1 else 0)
  | .int n => if fitsWord n then .index n else .key (keyText key)
  | key => .key (keyText key)

/-- The names under which the fields of a record were found. -/
def usedKeys (entries : List (Value × Value)) : List String :=
  RecordField.all.filterMap fun f ↦ (f.find? entries).map (·.1)

/-- The faults of keys that are no field. -/
def keyFaults (entries : List (Value × Value)) : List RecordFault :=
  let used := usedKeys entries
  entries.filterMap fun (key, _) ↦
    match key with
    | .text name => if used.contains name then none else some ⟨.unknownKey, [.key name]⟩
    | key => some ⟨.keyNotText, [keyStep key]⟩

/-- Reads the fields of a record. -/
def draft (entries : List (Value × Value)) : Checked PayloadDraft := do
  let name := RecordField.name.required entries (under readFilledText)
  let interpretation : Checked InterpretationEnvironment :=
    RecordField.interpretation.required entries (under readName)
  let execution : Checked ExecutionEnvironment :=
    RecordField.execution.required entries (under readName)
  let usesCallback := RecordField.usesCallback.optional entries false (under readTruth)
  let template := RecordField.template.required entries (under readFilledText)
  let validation : Checked (Option ValidationType) :=
    RecordField.validation.optional entries none (under (readNullable readName))
  let regex := RecordField.regex.optional entries none (under (readNullable readText))
  let vulnerabilities : Checked (List VulnerabilityType) :=
    RecordField.vulnerabilities.required entries readNames
  let faults := name.faults ++ interpretation.faults ++ execution.faults ++
    usesCallback.faults ++ template.faults ++ validation.faults ++ regex.faults ++
    vulnerabilities.faults ++ keyFaults entries
  if !faults.isEmpty then throw faults
  return {
    name := ← name
    interpretation := ← interpretation
    execution := ← execution
    usesCallback := ← usesCallback
    template := ← template
    validation := ← validation
    regex := ← regex
    vulnerabilities := ← vulnerabilities }

end Record
end VulnScanner
