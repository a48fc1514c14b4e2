import VulnScanner.Proofs.Files.Named
import VulnScanner.Proofs.Plugin.Fields
import VulnScanner.Proofs.Plugin.Obstacles

/-!
# Plugins of a directory

A directory whose manifests can be read, under different identifiers, fills a registry. What then
stands in the way of matching is known manifest by manifest: a plugin that is chosen cannot be
built, or target software that is no text cannot be compared with the software of a service.
-/

namespace VulnScanner

namespace PluginLoader

open SessionM

variable {l : PluginLoader} {manifests : List PluginManifest}

/-- The registry that the manifests of a directory fill. -/
def filled (l : PluginLoader) (manifests : List PluginManifest) : Registry Factory where
  entries := manifests.map (·.entry l.tree)

/-- Whether manifests have identifiers that are new to a registry and different from each other. -/
structure AreNew (r : Registry Factory) (manifests : List PluginManifest) : Prop where
  nodup : (manifests.map (·.definition.pluginId)).Nodup
  untaken : ∀ m ∈ manifests, m.definition.pluginId ∉ r.ids

/-- A registry with manifests behind its entries. -/
def extended (tree : Tree PluginFile) (r : Registry Factory) (manifests : List PluginManifest) :
    Registry Factory :=
  { r with entries := r.entries ++ manifests.map (·.entry tree) }

@[simp] theorem isFrozen_extended {tree : Tree PluginFile} {r : Registry Factory} :
    (extended tree r manifests).isFrozen = r.isFrozen := rfl

@[simp] theorem ids_extended {tree : Tree PluginFile} {r : Registry Factory} :
    (extended tree r manifests).ids = r.ids ++ manifests.map (·.definition.pluginId) := by
  simp [extended, Registry.ids, PluginManifest.entry]

/-- One more manifest is new exactly if its identifier is not taken. -/
theorem areNew_append_singleton_iff {r : Registry Factory} {m : PluginManifest} :
    AreNew r (manifests ++ [m]) ↔ AreNew r manifests ∧
      m.definition.pluginId ∉ r.ids ++ manifests.map (·.definition.pluginId) := by
  constructor
  · rintro ⟨hnodup, huntaken⟩
    rw [List.map_append, List.map_singleton, List.nodup_append_comm, List.singleton_append,
      List.nodup_cons] at hnodup
    rw [List.forall_mem_append, List.forall_mem_singleton] at huntaken
    refine ⟨⟨hnodup.2, huntaken.1⟩, ?_⟩
    exact fun hmem ↦ (List.mem_append.mp hmem).elim huntaken.2 hnodup.1
  · rintro ⟨⟨hnodup, huntaken⟩, hm⟩
    rw [List.mem_append, not_or] at hm
    constructor
    · rw [List.map_append, List.map_singleton, List.nodup_append_comm, List.singleton_append,
        List.nodup_cons]
      exact ⟨hm.2, hnodup⟩
    · rw [List.forall_mem_append, List.forall_mem_singleton]
      exact ⟨huntaken, hm.1⟩

/-- New manifests are registered in their order, and what follows is registered behind them. -/
theorem registerAll_append (tree : Tree PluginFile) {r : Registry Factory}
    (hopen : r.isFrozen = false) (hnew : AreNew r manifests) (rest : List PluginManifest) :
    registerAll tree r (manifests ++ rest) = registerAll tree (extended tree r manifests) rest := by
  induction manifests using List.reverseRecOn generalizing rest with
  | nil => simp [extended]
  | append_singleton before m ih =>
    obtain ⟨hbefore, hm⟩ := areNew_append_singleton_iff.mp hnew
    have hregister : (extended tree r before).register m.definition (m.factory tree) true =
        .ok (extended tree r (before ++ [m])) := by
      refine Registry.register_eq_ok_iff.mpr ⟨hopen, ids_extended ▸ hm, rfl, ?_⟩
      simp [extended, PluginManifest.entry]
    rw [List.append_assoc, List.singleton_append, ih hbefore, registerAll, hregister]

/-- Manifests under new identifiers are all registered, in their order. -/
theorem registerAll_eq (tree : Tree PluginFile) {r : Registry Factory} (hopen : r.isFrozen = false)
    (hids : (r.ids ++ manifests.map (·.definition.pluginId)).Nodup) :
    registerAll tree r manifests =
      ({ r with entries := r.entries ++ manifests.map (·.entry tree) }, none) := by
  obtain ⟨-, hnodup, hdisjoint⟩ := List.nodup_append.mp hids
  have hnew : AreNew r manifests :=
    ⟨hnodup, fun m hm hmem ↦ hdisjoint _ hmem _ (List.mem_map_of_mem hm) rfl⟩
  have hall := registerAll_append tree hopen hnew []
  rwa [List.append_nil] at hall

/-- What comes of a directory whose manifests could be read: what it fills a registry with, and what
stands in the way of matching, from any session. -/
structure Matches [Platform] (l : PluginLoader) (manifests : List PluginManifest)
    (web : PluginDefinition.WebRule) : Prop where
  populate_eq : l.populate .empty = (l.filled manifests, none)
  /-- Target names and target software are not there or not empty. -/
  targets : ∀ e ∈ (l.filled manifests).entries,
    e.1.targetNames ≠ some [] ∧ ∀ v ∈ e.1.targetSoftware, v.isTruthy = true
  /-- Only building the fingerprinter that is chosen fails. -/
  fingerprinter_fails_iff : ∀ service s fault,
    (∃ t, (Selector.fingerprinter? ⟨some (l.filled manifests), web⟩ service).Fails s fault t) ↔
      ∃ m, manifests.find? (fun m ↦ m.definition.pluginType == .serviceFingerprint &&
          m.definition.matchesName web service) = some m ∧
        ∃ e, m.load l.tree = .error e ∧ .loading e = fault
  /-- The first obstacle counts. -/
  detectors_fail_iff : ∀ report s fault,
    (∃ t, (Selector.detectors ⟨some (l.filled manifests), web⟩ report).Fails s fault t) ↔
      (manifests.filter (·.definition.pluginType.detects)).findSome?
        (·.obstacle? l.tree web (ReconReport.servicesOf report)) = some fault
  /-- The rules themselves have no answer for target software that cannot be compared. -/
  comparison_iff : ∀ m ∈ manifests, ∀ services,
    (∃ e, m.obstacle? l.tree web services = some (.comparison e)) ↔
      (m.definition.pluginType ≠ .remoteVulnDetection ∧
        ∃ service ∈ services, ¬ m.definition.CanMatch web service) ∨
      (m.definition.pluginType = .remoteVulnDetection ∧
        ∃ b offered, m.load l.tree = .ok b ∧ b.Offers offered ∧
          ∃ d ∈ offered, ∃ service ∈ services, ¬ d.CanMatch web service)
  /-- Where target software is a text, that of plugins on offer too, only building a detector that
  is chosen fails. -/
  unbuilt_of_texts : (∀ m ∈ manifests, m.definition.HasTextTargets ∧
      ∀ b, m.load l.tree = .ok b → b.OffersText) → ∀ report s fault t,
    (Selector.detectors ⟨some (l.filled manifests), web⟩ report).Fails s fault t →
      ∃ m ∈ manifests, m.definition.IsChosen web (ReconReport.servicesOf report) ∧
        m.Unbuilt l.tree fault

private theorem ofTypes_filled :
    (l.filled manifests).ofTypes [.vulnDetection, .remoteVulnDetection] =
      (manifests.filter (·.definition.pluginType.detects)).map (·.entry l.tree) := by
  have hdetects : ∀ t : PluginType,
      [PluginType.vulnDetection, .remoteVulnDetection].contains t = t.detects := by
    intro t
    cases t <;> decide
  simp only [filled, Registry.ofTypes, List.filter_map, hdetects]
  rfl

private theorem exists_fails_detectors_iff {web : PluginDefinition.WebRule}
    {report : Option ReconReport} {s : Session} {fault : PluginFault} :
    (∃ t, (Selector.detectors ⟨some (l.filled manifests), web⟩ report).Fails s fault t) ↔
      (manifests.filter (·.definition.pluginType.detects)).findSome?
        (·.obstacle? l.tree web (ReconReport.servicesOf report)) = some fault := by
  let c : Selector := ⟨some (l.filled manifests), web⟩
  have hfails : ∀ t, (c.detectors report).Fails s fault t ↔ _ :=
    fun t ↦ Selector.fails_detectors_iff rfl
  simp only [ofTypes_filled] at hfails
  refine (exists_congr hfails).trans (PluginManifest.exists_fails_chooseAll_iff ?_)
  exact fun m hm ↦ (List.mem_filter.mp hm).2

private theorem exists_fails_fingerprinter?_iff {web : PluginDefinition.WebRule}
    {service : NetworkService} {s : Session} {fault : PluginFault} :
    (∃ t, (Selector.fingerprinter? ⟨some (l.filled manifests), web⟩ service).Fails s fault t) ↔
      ∃ m, manifests.find? (fun m ↦ m.definition.pluginType == .serviceFingerprint &&
          m.definition.matchesName web service) = some m ∧
        ∃ e, m.load l.tree = .error e ∧ .loading e = fault := by
  let c : Selector := ⟨some (l.filled manifests), web⟩
  have hfind : (c.entries [.serviceFingerprint]).find? (·.1.matchesName web service) =
      (manifests.find? fun m ↦ m.definition.pluginType == .serviceFingerprint &&
        m.definition.matchesName web service).map (·.entry l.tree) := by
    change ((l.filled manifests).ofTypes [.serviceFingerprint]).find? _ = _
    simp only [Registry.ofTypes, filled, List.filter_map, List.find?_map, List.find?_filter]
    congr 2
    funext m
    simp [PluginManifest.entry, beq_eq_decide]
  unfold Selector.fingerprinter?
  rw [hfind]
  cases hfirst : manifests.find? fun m ↦ m.definition.pluginType == .serviceFingerprint &&
      m.definition.matchesName web service with
  | none => simp
  | some m =>
    have htype : m.definition.pluginType = .serviceFingerprint := by
      have hm := List.find?_some hfirst
      simp only [Bool.and_eq_true, beq_iff_eq] at hm
      exact hm.1
    have hbase : m.definition.pluginType.base = .fingerprinter := by rw [htype]; rfl
    simp only [Option.map_some, PluginManifest.entry, fails_bind_iff, not_fails_pure, and_false,
      exists_false, or_false, PluginManifest.exists_fails_build_iff hbase]
    simp

/-- A directory whose manifests can be read under different identifiers fills a registry, and what
stands in the way of matching its plugins is what stands in the way of one of them. -/
theorem matches_of_discover [Platform] (h : l.discover = .ok manifests)
    (hids : (manifests.map (·.definition.pluginId)).Nodup) (web : PluginDefinition.WebRule) :
    l.Matches manifests web := by
  have hdefined : ∀ m ∈ manifests, m.definition.IsDefined := by
    intro m hm
    obtain ⟨_, -, hread⟩ := exists_of_mem_of_mapM_eq_ok h hm
    exact PluginManifest.isDefined_of_ofFile hread
  constructor
  case populate_eq =>
    have hall := registerAll_eq l.tree (r := .empty) rfl hids
    rw [populate, h]
    dsimp only
    rw [hall]
    rfl
  case targets =>
    intro e he
    obtain ⟨m, hm, rfl⟩ := List.mem_map.mp he
    exact (PluginDefinition.isDefined_iff.mp (hdefined m hm)).2
  case fingerprinter_fails_iff => exact fun _ _ _ ↦ exists_fails_fingerprinter?_iff
  case detectors_fail_iff => exact fun _ _ _ ↦ exists_fails_detectors_iff
  case comparison_iff => exact fun m hm _ ↦ PluginManifest.exists_comparison_iff (hdefined m hm)
  case unbuilt_of_texts =>
    intro htexts report s fault t hfails
    obtain ⟨m, hm, hobstacle⟩ :=
      List.exists_of_findSome?_eq_some (exists_fails_detectors_iff.mp ⟨t, hfails⟩)
    obtain ⟨hm, hdetects⟩ := List.mem_filter.mp hm
    exact ⟨m, hm, PluginManifest.isChosen_of_obstacle? (hdefined m hm) (htexts m hm).1
      (htexts m hm).2 hdetects hobstacle⟩

/-- A directory with two plugins without modules, one of them for software that is a number. -/
def numbered : PluginLoader where
  directory := { anchor := "/", names := ["plugins"] }
  tree :=
    { base := { anchor := "/", names := ["plugins"] }
      entries :=
        [(["a", "plugin.yml"], .file (.text
            "id: a\ntype: vuln_detection\nentry_point: a.py\nclass_name: A\ntarget_software: 5\n")),
         (["b", "plugin.yml"], .file (.text
            "id: b\ntype: vuln_detection\nentry_point: b.py\nclass_name: B\n"))] }

private theorem manifestPaths_numbered :
    numbered.manifestPaths = [⟨"/", ["plugins", "a", "plugin.yml"]⟩,
      ⟨"/", ["plugins", "b", "plugin.yml"]⟩] :=
  Tree.named_eq_of_perm rfl (by decide +kernel) (by decide +kernel)

/-- Software that is a number stands in the way of all plugins as soon as a service has software,
and before that only the missing modules do. -/
theorem matches_of_discover_numbered :
    ∃ manifests, numbered.discover = .ok manifests ∧
      (manifests.map (·.definition.pluginId)).Nodup ∧
      numbered.Matches manifests NetworkService.isWeb ∧
      [[{ host := .text "h", port := .int 22, software := { name := "openssh" } }],
        [{ host := .text "h", port := .int 22 }]].map (fun services ↦
          ((manifests.filter (·.definition.pluginType.detects)).findSome?
            (·.obstacle? numbered.tree NetworkService.isWeb services)).map (·.message)) =
        [some "object of type \x27int\x27 has no len()",
          some "Entry point not found: /plugins/a/a.py"] := by
  have hview : numbered.discover.toOption.map (fun manifests ↦
      (manifests.map (·.definition.pluginId),
        [[{ host := .text "h", port := .int 22, software := { name := "openssh" } }],
          [{ host := .text "h", port := .int 22 }]].map (fun services ↦
            ((manifests.filter (·.definition.pluginType.detects)).findSome?
              (·.obstacle? numbered.tree NetworkService.isWeb services)).map (·.message)))) =
      some (["a", "b"], [some "object of type \x27int\x27 has no len()",
        some "Entry point not found: /plugins/a/a.py"]) := by
    rw [discover, manifestPaths_numbered]
    decide +kernel
  cases hread : numbered.discover with
  | error fault =>
    rw [hread] at hview
    cases hview
  | ok manifests =>
    rw [hread] at hview
    obtain ⟨hids, hobstacles⟩ := Prod.mk.inj (Option.some.inj hview)
    have hnodup : (manifests.map (·.definition.pluginId)).Nodup := by
      rw [hids]
      decide
    exact ⟨manifests, rfl, hnodup, matches_of_discover hread hnodup _, hobstacles⟩

end PluginLoader
end VulnScanner
