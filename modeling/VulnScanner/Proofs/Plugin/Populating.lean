import VulnScanner.Proofs.Files.Alike
import VulnScanner.Proofs.Plugin.Directory
import VulnScanner.Proofs.Plugin.Discovery
import VulnScanner.Proofs.Plugin.Usage

/-!
# Populating a registry

The manifests of a directory are all read before the first is registered, so that one that cannot
be read leaves the registry as it was. Those that can be read are registered behind the entries
there are, up to the first whose identifier is taken. Only the manifests matter for this: what the
modules of the plugins hold is not looked at.
-/

namespace VulnScanner

namespace PluginLoader

variable {l other : PluginLoader} {r left : Registry Factory} {tree : Tree PluginFile}
  {manifests : List PluginManifest} {fault? : Option PopulateFault}

/-- Of manifests that are registered one after the other, either all are new, or there is a first
one whose identifier is taken. -/
private theorem areNew_or_taken (r : Registry Factory) (manifests : List PluginManifest) :
    AreNew r manifests ∨ ∃ before m after, manifests = before ++ m :: after ∧ AreNew r before ∧
      m.definition.pluginId ∈ r.ids ++ before.map (·.definition.pluginId) := by
  induction manifests using List.reverseRecOn with
  | nil => exact .inl ⟨List.nodup_nil, nofun⟩
  | append_singleton manifests m ih =>
    rcases ih with hnew | ⟨before, first, after, rfl, hnew, htaken⟩
    · by_cases hm : m.definition.pluginId ∈ r.ids ++ manifests.map (·.definition.pluginId)
      · exact .inr ⟨manifests, m, [], rfl, hnew, hm⟩
      · exact .inl (areNew_append_singleton_iff.mpr ⟨hnew, hm⟩)
    · exact .inr ⟨before, first, after ++ [m], by simp, hnew, htaken⟩

/-- How populating a registry ends: with the registry that is left, and a fault if there is one. -/
inductive Ends [Platform] (l : PluginLoader) (r : Registry Factory) :
    Registry Factory → Option PopulateFault → Prop
  /-- A manifest cannot be read, and nothing is registered. -/
  | unread {fault : PluginManifest.Fault} (hread : l.discover = .error fault) :
      Ends l r r (some (.manifest fault))
  /-- There is a manifest, but the registry is frozen. -/
  | frozen {first : PluginManifest} {rest : List PluginManifest}
      (hread : l.discover = .ok (first :: rest)) (hfrozen : r.isFrozen = true) :
      Ends l r r (some (.registry .frozen))
  /-- The manifests before the first whose identifier is taken are registered. -/
  | taken {before : List PluginManifest} {m : PluginManifest} {after : List PluginManifest}
      (hread : l.discover = .ok (before ++ m :: after)) (hopen : r.isFrozen = false)
      (hnew : AreNew r before)
      (htaken : m.definition.pluginId ∈ r.ids ++ before.map (·.definition.pluginId)) :
      Ends l r (extended l.tree r before) (some (.registry (.duplicate m.definition.pluginId)))
  /-- All manifests are registered. -/
  | done {manifests : List PluginManifest} (hread : l.discover = .ok manifests)
      (hopen : manifests ≠ [] → r.isFrozen = false) (hnew : AreNew r manifests) :
      Ends l r (extended l.tree r manifests) none

private theorem populate_of_ends [Platform] (h : l.Ends r left fault?) :
    l.populate r = (left, fault?) := by
  cases h with
  | unread hread => rw [populate, hread]
  | @frozen first _ hread hfrozen =>
    have hrefused : r.register first.definition (first.factory l.tree) true = .error .frozen :=
      Registry.register_eq_error_iff.mpr (.inl ⟨hfrozen, rfl⟩)
    rw [populate, hread]
    dsimp only
    rw [registerAll, hrefused]
    rfl
  | @taken before m _ hread hopen hnew htaken =>
    have hrefused : (extended l.tree r before).register m.definition (m.factory l.tree) true =
        .error (.duplicate m.definition.pluginId) :=
      Registry.register_eq_error_iff.mpr (.inr (.inl ⟨hopen, ids_extended ▸ htaken, rfl⟩))
    rw [populate, hread]
    dsimp only
    rw [registerAll_append l.tree hopen hnew, registerAll, hrefused]
    rfl
  | @done manifests hread hopen hnew =>
    rw [populate, hread]
    dsimp only
    cases manifests with
    | nil => simp [registerAll, extended]
    | cons first rest =>
      have hall := registerAll_append l.tree (hopen (List.cons_ne_nil first rest)) hnew []
      rw [List.append_nil] at hall
      rw [hall]
      rfl

/-- Populating a registry ends in one of these ways. -/
private theorem exists_ends [Platform] (l : PluginLoader) (r : Registry Factory) :
    ∃ left fault?, l.Ends r left fault? := by
  cases hread : l.discover with
  | error fault => exact ⟨_, _, .unread hread⟩
  | ok manifests =>
    rcases areNew_or_taken r manifests with hnew | ⟨before, m, after, rfl, hnew, htaken⟩
    · cases manifests with
      | nil => exact ⟨_, _, .done hread (fun h ↦ absurd rfl h) hnew⟩
      | cons first rest =>
        cases hfrozen : r.isFrozen with
        | false => exact ⟨_, _, .done hread (fun _ ↦ hfrozen) hnew⟩
        | true => exact ⟨_, _, .frozen hread hfrozen⟩
    · cases hfrozen : r.isFrozen with
      | false => exact ⟨_, _, .taken hread hfrozen hnew htaken⟩
      | true => cases before <;> exact ⟨_, _, .frozen hread hfrozen⟩

/-- Populating a registry ends in exactly one way. -/
theorem populate_eq_iff [Platform] : l.populate r = (left, fault?) ↔ l.Ends r left fault? := by
  refine ⟨?_, populate_of_ends⟩
  intro h
  obtain ⟨left', fault?', hends⟩ := exists_ends l r
  have hsame := h.symm.trans (populate_of_ends hends)
  cases hsame
  exact hends

/-- The manifests that are discovered do not depend on files of other names. -/
theorem discover_of_agrees [Platform] (hdirectory : other.directory = l.directory)
    (h : other.tree.AgreesAt manifestName l.tree) : other.discover = l.discover := by
  have hpaths : other.manifestPaths = l.manifestPaths := by
    rw [manifestPaths, hdirectory]
    exact h.named_eq
  rw [discover, hpaths]
  apply mapM_congr_of_mem
  intro p hp
  rw [PluginManifest.ofFile, h.find_of_mem_named (by decide) hp]
  rfl

/-- Populating a registry ends alike whatever is in files of other names, except that the plugins
are to be built from these files. -/
theorem Ends.of_agrees [Platform] (hdirectory : other.directory = l.directory)
    (h : other.tree.AgreesAt manifestName l.tree) (hends : l.Ends r left fault?) :
    ∃ left', other.Ends r left' fault? ∧
      left'.entries.map Prod.fst = left.entries.map Prod.fst := by
  have hsame := discover_of_agrees hdirectory h
  have hextended : ∀ manifests, (extended other.tree r manifests).entries.map Prod.fst =
      (extended l.tree r manifests).entries.map Prod.fst := by
    intro manifests
    simp [extended, PluginManifest.entry]
  cases hends with
  | unread hread => exact ⟨r, .unread (hsame.trans hread), rfl⟩
  | frozen hread hfrozen => exact ⟨r, .frozen (hsame.trans hread) hfrozen, rfl⟩
  | taken hread hopen hnew htaken =>
    exact ⟨_, .taken (hsame.trans hread) hopen hnew htaken, hextended _⟩
  | done hread hopen hnew => exact ⟨_, .done (hsame.trans hread) hopen hnew, hextended _⟩

/-- What is there is kept, however populating a registry ends. -/
private theorem Ends.kept [Platform] (h : l.Ends r left fault?) :
    r.entries <+: left.entries ∧ left.isFrozen = r.isFrozen := by
  cases h with
  | unread | frozen => exact ⟨List.prefix_rfl, rfl⟩
  | taken | done => exact ⟨List.prefix_append .., rfl⟩

/-- Populating a registry fails at a manifest exactly if some manifest cannot be read. -/
private theorem Ends.unread_iff [Platform] (h : l.Ends r left fault?) :
    (∃ fault, left = r ∧ fault? = some (.manifest fault)) ↔ ∃ p ∈ l.manifestPaths, ¬ l.Reads p := by
  have hreads : (∃ manifests, l.discover = .ok manifests) ↔ ∀ p ∈ l.manifestPaths, l.Reads p :=
    exists_mapM_eq_ok_iff
  have hunread : (∃ p ∈ l.manifestPaths, ¬ l.Reads p) ↔
      ¬ ∃ manifests, l.discover = .ok manifests := by
    rw [hreads]
    push Not
    rfl
  rw [hunread]
  cases h with
  | unread hread => simp [hread]
  | frozen hread | taken hread | done hread => simp [hread]

/-- What populating a registry does, whatever is in the registry and in the directory. -/
structure Populates [Platform] (l : PluginLoader) (r : Registry Factory) : Prop where
  /-- It ends in exactly one of the ways there are. -/
  populate_eq_iff : ∀ left fault?, l.populate r = (left, fault?) ↔ l.Ends r left fault?
  /-- It leaves the registry as it was and fails at a manifest if one cannot be read, wherever that
  stands and whatever else is wrong. -/
  unread_iff : (∃ fault, l.populate r = (r, some (.manifest fault))) ↔
    ∃ p ∈ l.manifestPaths, ¬ l.Reads p
  /-- The entries that are there stay as they are, in their places. -/
  kept : r.entries <+: (l.populate r).1.entries ∧ (l.populate r).1.isFrozen = r.isFrozen
  /-- It ends with the same fault and the same definitions, whatever is in the modules. -/
  of_modules : ∀ other : PluginLoader, other.directory = l.directory →
    other.tree.AgreesAt manifestName l.tree →
      (other.populate r).2 = (l.populate r).2 ∧
      (other.populate r).1.entries.map Prod.fst = (l.populate r).1.entries.map Prod.fst

/-- Populating a registry registers nothing if a manifest cannot be read, and otherwise what is
discovered, up to the first manifest whose identifier is taken. -/
theorem populates [Platform] (l : PluginLoader) (r : Registry Factory) : l.Populates r := by
  obtain ⟨left, fault?, hends⟩ := exists_ends l r
  have hpopulate := populate_of_ends hends
  constructor
  case populate_eq_iff => exact fun _ _ ↦ populate_eq_iff
  case unread_iff =>
    rw [← hends.unread_iff, hpopulate]
    simp only [Prod.mk.injEq]
  case kept =>
    rw [hpopulate]
    exact hends.kept
  case of_modules =>
    intro other hdirectory h
    obtain ⟨left', hends', hsame⟩ := hends.of_agrees hdirectory h
    rw [hpopulate, populate_of_ends hends']
    exact ⟨rfl, hsame⟩

end PluginLoader
end VulnScanner
