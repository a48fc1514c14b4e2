import VulnScanner.Plugin.Definition

/-!
# The plugin registry

Definitions together with the factories of their plugins, in the order of registration. Identifiers
are unique, nothing is ever removed, and a frozen registry does not change.
-/

namespace VulnScanner

/-- Why a registration or a look-up fails. -/
inductive RegistryError where
  | frozen
  | duplicate (pluginId : String)
  | notCallable (pluginId : String)
  | unknown (pluginId : String)
  deriving DecidableEq, Repr

/-- The message of a registry error. -/
def RegistryError.message : RegistryError → String
  | frozen => "Registry is frozen; cannot register new plugins"
  | duplicate pluginId => "Plugin already registered: " ++ pluginId
  | notCallable pluginId => s!"Factory for {pluginId} is not callable"
  | unknown pluginId => "Plugin not registered: " ++ pluginId

/-- A registry of factories of type `F`. -/
structure Registry (F : Type) where
  entries : List (PluginDefinition × F) := []
  isFrozen : Bool := false

namespace Registry

variable {F : Type}

/-- The registry without entries. -/
def empty : Registry F := {}

/-- The identifiers in the order of registration. -/
def ids (r : Registry F) : List String := r.entries.map (·.1.pluginId)

/-- Holds when an identifier is taken. -/
def hasId (r : Registry F) (pluginId : String) : Bool := r.ids.contains pluginId

/-- Adds an entry at the end. Freezing is looked at first, then the identifier, then whether the
factory can be called. -/
def register (r : Registry F) (d : PluginDefinition) (factory : F) (isCallable : Bool) :
    Except RegistryError (Registry F) :=
  if r.isFrozen then .error .frozen
  else if r.hasId d.pluginId then .error (.duplicate d.pluginId)
  else if !isCallable then .error (.notCallable d.pluginId)
  else .ok { r with entries := r.entries ++ [(d, factory)] }

/-- Refuses all further registrations. -/
def freeze (r : Registry F) : Registry F := { r with isFrozen := true }

/-- The entry with an identifier. -/
def get (r : Registry F) (pluginId : String) : Except RegistryError (PluginDefinition × F) :=
  match r.entries.find? (·.1.pluginId == pluginId) with
  | some entry => .ok entry
  | none => .error (.unknown pluginId)

/-- The entries of some categories, in the order of registration. -/
def ofTypes (r : Registry F) (types : List PluginType) : List (PluginDefinition × F) :=
  r.entries.filter fun e ↦ types.contains e.1.pluginType

/-- The entries of a category, in the order of registration. -/
def byType (r : Registry F) (t : PluginType) : List (PluginDefinition × F) :=
  r.entries.filter (·.1.pluginType == t)

end Registry
end VulnScanner
