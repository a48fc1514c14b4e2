import VulnScanner.Plugin.Object
import VulnScanner.Unicode.Basic
import VulnScanner.Unicode.Identifier

/-!
# Plugin modules

A module is known by a table: what it holds under each name, or that it fails when it is loaded.
Besides what it defines, every module holds a few names of its own.
-/

namespace VulnScanner

/-- A class of a module. Its constructor keeps the configuration that it is given, unless it fails,
and all its objects do the same. -/
structure PluginClass extends PluginBehavior where
  kind : PluginKind
  /-- The methods that are left open; a class with open methods has no objects. -/
  openMethods : List String := []
  /-- The text with which the constructor fails. -/
  failure : Option String := none

/-- What a module holds under a name. -/
inductive ModuleMember where
  | class_ (c : PluginClass)
  | other
  /-- Nothing, which counts as if the name were not there. -/
  | nothing

/-- A module. -/
structure PluginModule where
  /-- The text with which loading the module fails. -/
  failure : Option String := none
  members : List (String × ModuleMember) := []

namespace PluginModule

/-- The names that every module has without defining them. -/
def builtInNames : List String :=
  ["__annotations__", "__builtins__", "__cached__", "__class__", "__delattr__", "__dict__",
   "__dir__", "__eq__", "__file__", "__format__", "__ge__", "__getattribute__", "__getstate__",
   "__gt__", "__hash__", "__init__", "__init_subclass__", "__le__", "__loader__", "__lt__",
   "__name__", "__ne__", "__new__", "__package__", "__reduce__", "__reduce_ex__", "__repr__",
   "__setattr__", "__sizeof__", "__spec__", "__str__", "__subclasshook__"]

/-- What a module holds under a name; what is defined last counts. -/
def member (m : PluginModule) (name : String) : ModuleMember :=
  match m.members.reverse.lookup name with
  | some found => found
  | none => if builtInNames.contains name then .other else .nothing

/-- The module that a text with at most one assignment defines; an assignment of nothing leaves the
name without content. -/
def ofText (text : String) : PluginModule :=
  let (target, value) := text.toList.span (· != '=')
  let name := Unicode.strip target
  match value with
  | '=' :: value =>
    if Unicode.isIdentifier name then
      let isNothing := Unicode.strip value == "None".toList
      { members := [(String.ofList name, if isNothing then .nothing else .other)] }
    else {}
  | _ => {}

end PluginModule

end VulnScanner
