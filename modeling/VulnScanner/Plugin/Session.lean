import VulnScanner.Plugin.Object
import VulnScanner.Plugin.Registry

/-!
# Sessions

The plugin objects that have been built so far, each known by its number, and the sequence of
calls of factories. A failing operation keeps what has been done before it failed.
-/

namespace VulnScanner

/-- A factory of plugins: what a call gives, and whether all calls give the same object. -/
structure Factory where
  isCallable : Bool := true
  isShared : Bool := false
  make : Except PluginFault Blueprint

/-- The state of a session. -/
structure Session where
  objects : List PluginObject := []
  /-- The objects of shared factories by the identifier of the plugin. -/
  shared : List (String × Nat) := []
  /-- The identifiers of the plugins whose factories were called, in order. -/
  calls : List String := []

/-- An operation of a session. -/
abbrev SessionM := ExceptT PluginFault (StateM Session)

namespace Session

/-- The object with a number. -/
def object? (s : Session) (number : Nat) : Option PluginObject := s.objects[number]?

/-- Changes the object with a number. -/
def update (s : Session) (number : Nat) (change : PluginObject → PluginObject) : Session :=
  { s with objects := s.objects.modify number change }

/-- What the object with a number was built from. -/
def blueprint? (s : Session) (number : Nat) : Option Blueprint :=
  (s.object? number).map (·.blueprint)

/-- An object was built from its blueprint. -/
theorem blueprint?_of_object? {s : Session} {number : Nat} {o : PluginObject}
    (h : s.object? number = some o) : s.blueprint? number = some o.blueprint := by
  rw [blueprint?, h]
  rfl

/-- The plugins that the object with a number offers. -/
def remotePlugins (s : Session) (number : Nat) : List PluginDraft :=
  ((s.blueprint? number).map (·.remotePlugins)).getD []

/-- An object offers the plugins of what it was built from. -/
theorem remotePlugins_of_blueprint? {s : Session} {number : Nat} {b : Blueprint}
    (h : s.blueprint? number = some b) : s.remotePlugins number = b.remotePlugins := by
  rw [remotePlugins, h]
  rfl

/-- The worklist of the object with a number. -/
def worklist (s : Session) (number : Nat) : List MatchedPlugin :=
  ((s.object? number).map (·.worklist)).getD []

end Session

/-- Calls the factory of a plugin; the result is the number of the object. -/
def Factory.call (f : Factory) (pluginId : String) : SessionM Nat := do
  modify fun s ↦ { s with calls := s.calls ++ [pluginId] }
  let s ← get
  match if f.isShared then s.shared.lookup pluginId else none with
  | some number => return number
  | none =>
    match f.make with
    | .error fault => throw fault
    | .ok blueprint =>
      let number := s.objects.length
      set { s with
        objects := s.objects ++ [({ blueprint := blueprint } : PluginObject)]
        shared := if f.isShared then (pluginId, number) :: s.shared else s.shared }
      return number

/-- Builds the plugin of a definition and requires that it is an object of a class. -/
def PluginDefinition.build (d : PluginDefinition) (f : Factory) (base : PluginBase) :
    SessionM Nat := do
  let number ← f.call d.pluginId
  match (← get).object? number with
  | some o =>
    if o.blueprint.kind.isA base then return number
    else throw (.wrongKind d.pluginId d.pluginType o.blueprint.className)
  | none => throw (.wrongKind d.pluginId d.pluginType "")

/-- Carries out a computation that may fail without touching the session. -/
def SessionM.ofExcept {α ε : Type} (wrap : ε → PluginFault) : Except ε α → SessionM α
  | .ok a => return a
  | .error e => throw (wrap e)

end VulnScanner
