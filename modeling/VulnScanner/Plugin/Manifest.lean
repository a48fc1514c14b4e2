import VulnScanner.Data.Display
import VulnScanner.Files.Path
import VulnScanner.Octets.Utf8
import VulnScanner.Plugin.Definition
import VulnScanner.Text.Basic
import VulnScanner.Unicode.Case
import VulnScanner.Yaml.Document

/-!
# Plugin manifests

A manifest describes a plugin that is to be loaded from a module: its definition, the module and
the class to use, and a configuration. Four fields are required; the definition is checked when
the manifest is read, and everything else only when the plugin is built.
-/

namespace VulnScanner

/-- A manifest. -/
structure PluginManifest where
  definition : PluginDefinition
  entryPoint : String
  className : String
  /-- The directory that holds the manifest; the entry point is looked up from it. -/
  directory : Path
  config : Value := .mapping []
  deriving Repr

namespace PluginManifest

/-- The path of the module. -/
def modulePath (m : PluginManifest) : Path := m.directory.join (Path.parse m.entryPoint)

/-- Why a manifest cannot be read. -/
inductive Fault where
  | document (error : Yaml.Error)
  | isDirectory (path : String)
  /-- The document holds a value in which fields cannot be looked for. -/
  | notContainer (kind : String)
  /-- The document holds octets, in which no text can be looked for. -/
  | octets
  | missingField (name path : String)
  /-- The document holds all required names, but is no mapping. -/
  | noFields (kind : String)
  | namesNotIterable (kind : String)
  /-- A field gives a text, but its value cannot be written out. -/
  | unwritable (fault : DisplayFault)
  | definition (error : DefinitionError)

/-- The message of a fault. -/
def Fault.message : Fault → String
  | document error => error.message
  | isDirectory path => s!"[Errno 21] Is a directory: {Text.quoted path}"
  | notContainer kind => s!"argument of type \x27{kind}\x27 is not iterable"
  | octets => "a bytes-like object is required, not \x27str\x27"
  | missingField name path => s!"Missing required field {name} in {path}"
  | noFields kind => s!"\x27{kind}\x27 object has no attribute \x27get\x27"
  | namesNotIterable kind => s!"\x27{kind}\x27 object is not iterable"
  | unwritable fault => fault.message
  | definition error => error.message

/-- The kind of a fault. -/
def Fault.kind : Fault → FaultKind
  | document error => error.kind
  | isDirectory _ => .isDirectory
  | notContainer _ => .type
  | octets => .type
  | missingField _ _ => .value
  | noFields _ => .attribute
  | namesNotIterable _ => .type
  | unwritable fault => fault.kind
  | definition _ => .definition

/-- The required fields in the order in which they are looked for. -/
def requiredFields : List String := ["id", "type", "entry_point", "class_name"]

/-- Whether a name is in a value: as a key, as a member, or as a part of a text. -/
def holdsName (v : Value) (name : String) : Except Fault Bool :=
  match v with
  | .mapping entries => .ok (entries.any (·.1.sameKey (.text name)))
  | .list items => .ok (items.any (·.sameKey (.text name)))
  | .set members => .ok (members.any (·.sameKey (.text name)))
  | .pair a b => .ok (a.sameKey (.text name) || b.sameKey (.text name))
  | .text s => .ok (Text.contains s name)
  | .bytes _ => .error .octets
  | v => .error (.notContainer v.kind)

/-- Requires names in a value. -/
def requireNames (v : Value) (path : String) : List String → Except Fault Unit
  | [] => .ok ()
  | name :: rest => do
    if ← holdsName v name then requireNames v path rest else throw (.missingField name path)

variable [Platform]

/-- The text of a value. -/
def textOf (v : Value) : Except Fault String := v.written.mapError .unwritable

/-- The target names that a field gives: a text is one name, a collection has many. -/
def targetNames : Option Value → Except Fault (Option NameTargets)
  | none => .ok none
  | some .null => .ok none
  | some (.text name) => .ok (some (.one name))
  | some v =>
    match v.iterate? with
    | none => .error (.namesNotIterable v.kind)
    | some names => return some (.many (← names.mapM textOf))

/-- A field that may be left empty. -/
def present? : Option Value → Option Value
  | some .null => none
  | v => v

/-- The text of a field; a missing one is empty. -/
def fieldText : Option Value → Except Fault String
  | none => .ok ""
  | some v => textOf v

/-- The draft of the definition; `field?` looks up a field. -/
def draft (field? : String → Option Value) : Except Fault PluginDraft := do
  return {
    pluginId := ← fieldText (field? "id")
    pluginType := .text (String.ofList (Unicode.upper (← fieldText (field? "type")).toList))
    targetNames := ← targetNames (field? "target_service_names")
    targetSoftware := present? (field? "target_software")
    forWebService := (field? "for_web_service").any Value.isTruthy
    name := ← fieldText (field? "name")
    version := ← fieldText (field? "version")
    description := ← fieldText ((field? "description").filter Value.isTruthy) }

/-- Reads the fields of a manifest in a directory. -/
def ofFields (directory : Path) (field? : String → Option Value) :
    Except Fault PluginManifest := do
  let d ← draft field?
  match d.define with
  | .error error => throw (.definition error)
  | .ok definition =>
    return {
      definition := definition
      entryPoint := ← fieldText (field? "entry_point")
      className := ← fieldText (field? "class_name")
      directory := directory
      config := ((field? "config").filter Value.isTruthy).getD (.mapping []) }

/-- The manifest that a document gives; an empty one counts as a mapping without entries. -/
def ofValue (file : Path) (v : Value) : Except Fault PluginManifest := do
  let v := if v.isTruthy then v else .mapping []
  requireNames v file.text requiredFields
  match v.entries? with
  | none => throw (.noFields v.kind)
  | some entries => ofFields file.parent (Value.field? entries)

/-- Reads the manifest in a file. -/
def ofText (file : Path) (text : String) : Except Fault PluginManifest :=
  match Yaml.load (Octets.universalNewlines text.toList) with
  | .error error => .error (.document error)
  | .ok v => ofValue file v

end PluginManifest
end VulnScanner
