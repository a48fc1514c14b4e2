import VulnScanner.Plugin.Loader

/-!
# Building plugins from modules

What the plugin of a manifest is built from, and what for it is refused. A plugin is an object of
the class that its manifest names, that class extends the one of the category declared, and the
object has the configuration of the manifest. In every other case one reason is given, the first.
-/

namespace VulnScanner

/-! ### Categories of classes -/

/-- The class of one category extends that of another: each extends itself, and remote detectors are
detectors. -/
inductive PluginType.Extends : PluginType → PluginType → Prop
  | refl (t : PluginType) : PluginType.Extends t t
  | remote : PluginType.Extends .remoteVulnDetection .vulnDetection

/-- The category whose class the objects of a kind extend, if they extend any. -/
def PluginKind.category? : PluginKind → Option PluginType
  | portScanner => some .portScan
  | fingerprinter => some .serviceFingerprint
  | detector => some .vulnDetection
  | remoteDetector => some .remoteVulnDetection
  | foreign => none

/-- Holds when the objects of a kind extend the class of a category. -/
def PluginKind.Serves (k : PluginKind) (t : PluginType) : Prop := ∃ u ∈ k.category?, u.Extends t

/-- The objects of the class of a category are those whose kind extends it. -/
theorem PluginKind.isA_base_iff {k : PluginKind} {t : PluginType} :
    k.isA t.base = true ↔ k.Serves t := by
  constructor
  · intro h
    cases k <;> cases t <;>
      first
        | exact ⟨_, rfl, .refl _⟩
        | exact ⟨_, rfl, .remote⟩
        | cases h
  · rintro ⟨u, hu, h⟩
    cases h with
    | refl => cases k <;> cases hu <;> rfl
    | remote =>
      cases k <;> cases hu
      rfl

namespace PluginManifest

variable {m : PluginManifest} {tree : Tree PluginFile} {module : PluginModule} {c : PluginClass}
  {fault : LoadFault} {b : Blueprint}

/-! ### Outcomes -/

/-- The entry point leads to a file that is a module. -/
def FindsModule (m : PluginManifest) (tree : Tree PluginFile) (module : PluginModule) : Prop :=
  ∃ file, tree.find m.modulePath = .file file ∧ m.modulePath.text.endsWith ".py" = true ∧
    file.toModule = module

/-- The module is there and loads, and the name of the class is that of a class. -/
def NamesClass (m : PluginManifest) (tree : Tree PluginFile) (c : PluginClass) : Prop :=
  ∃ module, m.FindsModule tree module ∧ module.failure = none ∧
    module.member m.className = .class_ c

/-- The name of the class is that of a class of the category declared. -/
structure NamesPlugin (m : PluginManifest) (tree : Tree PluginFile) (c : PluginClass) : Prop where
  namesClass : m.NamesClass tree c
  serves : c.kind.Serves m.definition.pluginType

/-- Why no plugin is built: the first of these reasons. -/
inductive Refuses (m : PluginManifest) (tree : Tree PluginFile) : LoadFault → Prop
  | missing (hfind : tree.find m.modulePath = .missing) :
      Refuses m tree (.entryPointMissing m.modulePath.text)
  | tooLong (hfind : tree.find m.modulePath = .tooLong) :
      Refuses m tree (.nameTooLong m.modulePath.text)
  | directory {place : Option (List String)} (hfind : tree.find m.modulePath = .directory place)
      (hname : m.modulePath.text.endsWith ".py" = true) :
      Refuses m tree (.isDirectory m.modulePath.text)
  | notLoadable (hmissing : tree.find m.modulePath ≠ .missing)
      (hlength : tree.find m.modulePath ≠ .tooLong)
      (hname : m.modulePath.text.endsWith ".py" = false) :
      Refuses m tree (.notLoadable m.modulePath.text)
  | moduleFails {module : PluginModule} {text : String} (hmodule : m.FindsModule tree module)
      (hfails : module.failure = some text) : Refuses m tree (.failed text)
  | nothing {module : PluginModule} (hmodule : m.FindsModule tree module)
      (hloads : module.failure = none) (hmember : module.member m.className = .nothing) :
      Refuses m tree (.classMissing m.className m.modulePath.text)
  | noClass {module : PluginModule} (hmodule : m.FindsModule tree module)
      (hloads : module.failure = none) (hmember : module.member m.className = .other) :
      Refuses m tree (.notExtending m.className m.definition.pluginType.base.name)
  | otherCategory {c : PluginClass} (hclass : m.NamesClass tree c)
      (hother : ¬ c.kind.Serves m.definition.pluginType) :
      Refuses m tree (.notExtending m.className m.definition.pluginType.base.name)
  | config {c : PluginClass} {fault : ConfigFault} (hplugin : m.NamesPlugin tree c)
      (hconfig : configOf m.config = .error fault) : Refuses m tree (.config fault)
  | incomplete {c : PluginClass} {config : Value} (hplugin : m.NamesPlugin tree c)
      (hconfig : configOf m.config = .ok config) (hopen : c.openMethods ≠ []) :
      Refuses m tree (.incomplete m.className c.openMethods)
  | constructorFails {c : PluginClass} {config : Value} {text : String}
      (hplugin : m.NamesPlugin tree c) (hconfig : configOf m.config = .ok config)
      (hclosed : c.openMethods = []) (hfails : c.failure = some text) :
      Refuses m tree (.failed text)

/-- What is built: an object of the class named, which does what objects of this class do, with the
configuration of the manifest. -/
inductive Builds (m : PluginManifest) (tree : Tree PluginFile) : Blueprint → Prop
  | intro {c : PluginClass} {config : Value} (hplugin : m.NamesPlugin tree c)
      (hconfig : configOf m.config = .ok config) (hclosed : c.openMethods = [])
      (hworks : c.failure = none) :
      Builds m tree
        { c.toPluginBehavior with className := m.className, kind := c.kind, config := config }

/-! ### Loading -/

private theorem load_of_findsModule (h : m.FindsModule tree module) :
    m.load tree = m.instantiate module := by
  obtain ⟨file, hfind, hname, rfl⟩ := h
  unfold load
  simp only [hfind, hname, if_true]

private theorem load_of_namesClass (h : m.NamesClass tree c) : m.load tree = m.construct c := by
  obtain ⟨module, hmodule, hloads, hmember⟩ := h
  rw [load_of_findsModule hmodule, instantiate, hloads]
  dsimp only
  rw [hmember]

private theorem load_of_namesPlugin (h : m.NamesPlugin tree c) : m.load tree =
    match configOf m.config with
    | .error fault => .error (.config fault)
    | .ok config =>
      if !c.openMethods.isEmpty then .error (.incomplete m.className c.openMethods)
      else match c.failure with
        | some text => .error (.failed text)
        | none =>
          .ok { c.toPluginBehavior with
            className := m.className, kind := c.kind, config := config } := by
  rw [load_of_namesClass h.namesClass, construct, PluginKind.isA_base_iff.mpr h.serves]
  rfl

/-- A plugin that is refused for a reason is not built, for that reason. -/
theorem Refuses.load_eq (h : m.Refuses tree fault) : m.load tree = .error fault := by
  cases h with
  | missing hfind => rw [load, hfind]
  | tooLong hfind => rw [load, hfind]
  | directory hfind hname => simp only [load, hfind, hname, if_true]
  | notLoadable hmissing hlength hname =>
    unfold load
    cases hfind : tree.find m.modulePath with
    | missing => exact absurd hfind hmissing
    | tooLong => exact absurd hfind hlength
    | directory place => simp [hfind, hname]
    | file file => simp [hfind, hname]
  | moduleFails hmodule hfails => rw [load_of_findsModule hmodule, instantiate, hfails]
  | nothing hmodule hloads hmember =>
    rw [load_of_findsModule hmodule, instantiate, hloads]
    dsimp only
    rw [hmember]
  | noClass hmodule hloads hmember =>
    rw [load_of_findsModule hmodule, instantiate, hloads]
    dsimp only
    rw [hmember]
  | otherCategory hclass hother =>
    rw [load_of_namesClass hclass, construct]
    simp [PluginKind.isA_base_iff, hother]
  | config hplugin hconfig => rw [load_of_namesPlugin hplugin, hconfig]
  | incomplete hplugin hconfig hopen =>
    rw [load_of_namesPlugin hplugin, hconfig]
    simp [hopen]
  | constructorFails hplugin hconfig hclosed hfails =>
    rw [load_of_namesPlugin hplugin, hconfig, hclosed, hfails]
    rfl

/-- A plugin for which there is all that it is built from is built. -/
theorem Builds.load_eq (h : m.Builds tree b) : m.load tree = .ok b := by
  cases h with
  | intro hplugin hconfig hclosed hworks =>
    rw [load_of_namesPlugin hplugin, hconfig, hclosed, hworks]
    rfl

/-- Where the name of the class is that of a class, a reason is found or a plugin is built. -/
private theorem refuses_or_builds_of_namesClass (h : m.NamesClass tree c) :
    (∃ fault, m.Refuses tree fault) ∨ ∃ b, m.Builds tree b := by
  by_cases hserves : c.kind.Serves m.definition.pluginType
  case neg => exact .inl ⟨_, .otherCategory h hserves⟩
  have hplugin : m.NamesPlugin tree c := ⟨h, hserves⟩
  cases hconfig : configOf m.config with
  | error fault => exact .inl ⟨_, .config hplugin hconfig⟩
  | ok config =>
    by_cases hclosed : c.openMethods = []
    case neg => exact .inl ⟨_, .incomplete hplugin hconfig hclosed⟩
    cases hfails : c.failure with
    | some text => exact .inl ⟨_, .constructorFails hplugin hconfig hclosed hfails⟩
    | none => exact .inr ⟨_, .intro hplugin hconfig hclosed hfails⟩

/-- A reason is found or a plugin is built, whatever the tree and its modules are. -/
theorem refuses_or_builds (m : PluginManifest) (tree : Tree PluginFile) :
    (∃ fault, m.Refuses tree fault) ∨ ∃ b, m.Builds tree b := by
  cases hname : m.modulePath.text.endsWith ".py" with
  | false =>
    cases hfind : tree.find m.modulePath with
    | missing => exact .inl ⟨_, .missing hfind⟩
    | tooLong => exact .inl ⟨_, .tooLong hfind⟩
    | directory | file => exact .inl ⟨_, .notLoadable (by simp [hfind]) (by simp [hfind]) hname⟩
  | true =>
    cases hfind : tree.find m.modulePath with
    | missing => exact .inl ⟨_, .missing hfind⟩
    | tooLong => exact .inl ⟨_, .tooLong hfind⟩
    | directory place => exact .inl ⟨_, .directory hfind hname⟩
    | file file =>
      have hmodule : m.FindsModule tree file.toModule := ⟨file, hfind, hname, rfl⟩
      cases hfails : file.toModule.failure with
      | some text => exact .inl ⟨_, .moduleFails hmodule hfails⟩
      | none =>
        cases hmember : file.toModule.member m.className with
        | nothing => exact .inl ⟨_, .nothing hmodule hfails hmember⟩
        | other => exact .inl ⟨_, .noClass hmodule hfails hmember⟩
        | class_ c => exact refuses_or_builds_of_namesClass ⟨_, hmodule, hfails, hmember⟩

/-- Loading fails with the reason for which the plugin is refused. -/
theorem load_eq_error_iff : m.load tree = .error fault ↔ m.Refuses tree fault := by
  refine ⟨fun h ↦ ?_, Refuses.load_eq⟩
  rcases m.refuses_or_builds tree with ⟨fault', hrefuses⟩ | ⟨b, hbuilds⟩
  · cases h.symm.trans hrefuses.load_eq
    exact hrefuses
  · cases h.symm.trans hbuilds.load_eq

/-- Loading gives what there is to be built. -/
theorem load_eq_ok_iff : m.load tree = .ok b ↔ m.Builds tree b := by
  refine ⟨fun h ↦ ?_, Builds.load_eq⟩
  rcases m.refuses_or_builds tree with ⟨fault, hrefuses⟩ | ⟨b', hbuilds⟩
  · cases h.symm.trans hrefuses.load_eq
  · cases h.symm.trans hbuilds.load_eq
    exact hbuilds

/-- What is loaded is an object of the class of the category. -/
theorem isA_of_load (h : m.load tree = .ok b) :
    b.kind.isA m.definition.pluginType.base = true := by
  cases load_eq_ok_iff.mp h with
  | intro hplugin => exact PluginKind.isA_base_iff.mpr hplugin.serves

end PluginManifest
end VulnScanner
