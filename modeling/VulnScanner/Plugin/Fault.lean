import VulnScanner.Plugin.Matching

/-!
# What goes wrong with plugins

Building a plugin, matching it and running it can fail. A plugin that is loaded from a module
fails only when it is built, never while it is discovered.
-/

namespace VulnScanner

/-- Why a value does not give the entries of a configuration. -/
inductive ConfigFault where
  | notIterable (kind : String)
  | notSequence (index : Nat)
  | badLength (index length : Nat)
  | unhashable (kind : String)
  deriving DecidableEq, Repr

/-- The message of a configuration fault. -/
def ConfigFault.message : ConfigFault → String
  | notIterable kind => s!"\x27{kind}\x27 object is not iterable"
  | notSequence index =>
    s!"cannot convert dictionary update sequence element #{index} to a sequence"
  | badLength index length =>
    s!"dictionary update sequence element #{index} has length {length}; 2 is required"
  | unhashable kind => s!"unhashable type: \x27{kind}\x27"

/-- The kind of a configuration fault. -/
def ConfigFault.kind : ConfigFault → FaultKind
  | badLength _ _ => .value
  | _ => .type

/-- Why a plugin cannot be loaded from its module. -/
inductive LoadFault where
  | entryPointMissing (path : String)
  | notLoadable (path : String)
  | isDirectory (path : String)
  | nameTooLong (path : String)
  | classMissing (name path : String)
  /-- The object named is no class of the category. -/
  | notExtending (name base : String)
  | config (fault : ConfigFault)
  /-- The class leaves methods open. -/
  | incomplete (name : String) (methods : List String)
  /-- The module or the constructor fails. -/
  | failed (text : String)
  deriving DecidableEq, Repr

/-- The message of a load fault. -/
def LoadFault.message : LoadFault → String
  | entryPointMissing path => "Entry point not found: " ++ path
  | notLoadable path => "Cannot load module from " ++ path
  | isDirectory path => s!"[Errno 21] Is a directory: {Text.quoted path}"
  | nameTooLong path => s!"[Errno 36] File name too long: {Text.quoted path}"
  | classMissing name path => s!"Class {name} not found in {path}"
  | notExtending name base => s!"{name} does not extend {base}"
  | config fault => fault.message
  | incomplete name methods =>
    s!"Can\x27t instantiate abstract class {name} with abstract method" ++
      (if methods.length = 1 then " " else "s ") ++ ", ".intercalate methods
  | failed text => text

/-- The kind of a load fault. -/
def LoadFault.kind : LoadFault → FaultKind
  | entryPointMissing _ => .fileMissing
  | notLoadable _ => .moduleMissing
  | isDirectory _ => .isDirectory
  | nameTooLong _ => .system
  | classMissing _ _ => .moduleMissing
  | notExtending _ _ => .type
  | config fault => fault.kind
  | incomplete _ _ => .type
  | failed _ => .runtime

/-- Why an operation on plugins fails. -/
inductive PluginFault where
  /-- The code of a plugin or of its factory fails. -/
  | raised (text : String)
  | definition (error : DefinitionError)
  | comparison (fault : ComparisonFault)
  /-- A factory has built something that does not fit the category of the definition. -/
  | wrongKind (pluginId : String) (pluginType : PluginType) (className : String)
  | loading (fault : LoadFault)
  /-- A report is needed and missing. -/
  | noReport
  deriving Repr

/-- The message of a fault. -/
def PluginFault.message : PluginFault → String
  | raised text => text
  | definition error => error.message
  | comparison fault => fault.message
  | wrongKind pluginId pluginType className =>
    s!"Plugin {pluginId} declared as {pluginType.name} but factory built {className}"
  | loading fault => fault.message
  | noReport => "\x27NoneType\x27 object has no attribute \x27network_services\x27"

/-- The kind of a fault. -/
def PluginFault.kind : PluginFault → FaultKind
  | raised _ => .runtime
  | definition _ => .definition
  | comparison _ => .type
  | wrongKind _ _ _ => .type
  | loading fault => fault.kind
  | noReport => .attribute

end VulnScanner
