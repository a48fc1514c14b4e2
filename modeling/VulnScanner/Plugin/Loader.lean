import VulnScanner.Files.Tree
import VulnScanner.Plugin.Manifest
import VulnScanner.Plugin.Module
import VulnScanner.Plugin.Session

/-!
# Loading plugins

A loader finds the manifests in a directory, registers their definitions, and builds plugins from
their modules. Nothing of a module is looked at before a plugin is built.
-/

namespace VulnScanner

/-- A file of a plugins directory. -/
inductive PluginFile where
  | text (content : String)
  | module (content : PluginModule)

/-- The text of a file; modules have none to speak of. -/
def PluginFile.content : PluginFile → String
  | text content => content
  | module _ => ""

/-- The module in a file. -/
def PluginFile.toModule : PluginFile → PluginModule
  | text content => .ofText content
  | module content => content

/-- Loads plugins from a directory of a file tree. -/
structure PluginLoader where
  tree : Tree PluginFile
  directory : Path

/-- Why a registry cannot be filled. -/
inductive PopulateFault where
  | manifest (fault : PluginManifest.Fault)
  | registry (error : RegistryError)

/-- The message of a fault. -/
def PopulateFault.message : PopulateFault → String
  | manifest fault => fault.message
  | registry error => error.message

/-- The kind of a fault. -/
def PopulateFault.kind : PopulateFault → FaultKind
  | manifest fault => fault.kind
  | registry _ => .registry

/-- Adds an entry to the entries of a configuration, if the item has exactly two parts of which
the first may be a key. -/
def configEntry (entries : List (Value × Value)) (item : Value × Nat) :
    Except ConfigFault (List (Value × Value)) :=
  match item.1.iterate? with
  | none => .error (.notSequence item.2)
  | some [key, value] =>
    match key with
    | .list _ => .error (.unhashable key.kind)
    | .set _ => .error (.unhashable key.kind)
    | .mapping _ => .error (.unhashable key.kind)
    | _ => .ok (Value.putEntry entries key value)
  | some parts => .error (.badLength item.2 parts.length)

/-- The configuration that a value gives: a mapping itself, or the pairs of a collection. -/
def configOf : Value → Except ConfigFault Value
  | .mapping entries => .ok (.mapping entries)
  | v =>
    match v.iterate? with
    | none => .error (.notIterable v.kind)
    | some items => return .mapping (← items.zipIdx.foldlM configEntry [])

namespace PluginManifest

/-- Builds an object of a class that is named in a manifest. -/
def construct (m : PluginManifest) (c : PluginClass) : Except LoadFault Blueprint :=
  if !c.kind.isA m.definition.pluginType.base then
    .error (.notExtending m.className m.definition.pluginType.base.name)
  else match configOf m.config with
    | .error fault => .error (.config fault)
    | .ok config =>
      if !c.openMethods.isEmpty then .error (.incomplete m.className c.openMethods)
      else match c.failure with
        | some text => .error (.failed text)
        | none =>
          .ok { c.toPluginBehavior with className := m.className, kind := c.kind, config := config }

/-- Builds the plugin of a manifest from its module. -/
def instantiate (m : PluginManifest) (module : PluginModule) : Except LoadFault Blueprint :=
  match module.failure with
  | some text => .error (.failed text)
  | none =>
    match module.member m.className with
    | .nothing => .error (.classMissing m.className m.modulePath.text)
    | .other => .error (.notExtending m.className m.definition.pluginType.base.name)
    | .class_ c => m.construct c

/-- Finds the module of a manifest and builds the plugin. Only files whose names end in `.py` are
modules. -/
def load (m : PluginManifest) (tree : Tree PluginFile) : Except LoadFault Blueprint :=
  let path := m.modulePath
  let text := path.text
  let loadable := text.endsWith ".py"
  match tree.find path with
  | .missing => .error (.entryPointMissing text)
  | .tooLong => .error (.nameTooLong text)
  | .directory _ => .error (if loadable then .isDirectory text else .notLoadable text)
  | .file file => if loadable then m.instantiate file.toModule else .error (.notLoadable text)

/-- The factory of the plugin; each call builds a new object. -/
def factory (m : PluginManifest) (tree : Tree PluginFile) : Factory where
  make := (m.load tree).mapError .loading

/-- Reads the manifest at a path. -/
def ofFile [Platform] (tree : Tree PluginFile) (path : Path) : Except Fault PluginManifest :=
  match tree.find path with
  | .file file => ofText path file.content
  | _ => .error (.isDirectory path.text)

end PluginManifest

namespace PluginLoader

/-- The name of the files that hold manifests. -/
def manifestName : String := "plugin.yml"

/-- The paths of the manifests in their order. -/
def manifestPaths (l : PluginLoader) : List Path := l.tree.named manifestName l.directory

/-- Whether there is anything at the path of the directory. -/
def directoryExists (l : PluginLoader) : Bool :=
  match l.tree.find l.directory with
  | .missing => false
  | _ => true

/-- Reads all manifests in the order of their paths; the first that cannot be read counts. -/
def discover [Platform] (l : PluginLoader) : Except PluginManifest.Fault (List PluginManifest) :=
  l.manifestPaths.mapM (PluginManifest.ofFile l.tree)

/-- Registers manifests one after the other. What was registered before a failure stays. -/
def registerAll (tree : Tree PluginFile) (r : Registry Factory) :
    List PluginManifest → Registry Factory × Option RegistryError
  | [] => (r, none)
  | m :: rest =>
    match r.register m.definition (m.factory tree) true with
    | .error error => (r, some error)
    | .ok r => registerAll tree r rest

/-- Registers all plugins of the directory. Nothing is registered if a manifest cannot be read. -/
def populate [Platform] (l : PluginLoader) (r : Registry Factory) :
    Registry Factory × Option PopulateFault :=
  match l.discover with
  | .error fault => (r, some (.manifest fault))
  | .ok manifests =>
    let (r, error) := registerAll l.tree r manifests
    (r, error.map .registry)

end PluginLoader
end VulnScanner
