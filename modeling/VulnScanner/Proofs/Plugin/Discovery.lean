import VulnScanner.Proofs.Files.Named
import VulnScanner.Proofs.Plugin.Fields

/-!
# Discovery of plugins

The manifests below a directory are all read, each once, in the order of the names that lead to
them, and the first that cannot be read is the one that counts. The order in which the files are
listed or come out of a search makes no difference.
-/

namespace VulnScanner

namespace PluginManifest

/-- The order in which a sound tree is listed does not matter for reading a manifest. -/
theorem ofFile_of_perm [Platform] {tree other : Tree PluginFile} (h : tree.IsSound)
    (hbase : other.base = tree.base) (hperm : other.entries.Perm tree.entries) :
    ofFile other = ofFile tree := by
  funext path
  simp only [ofFile, Tree.find_of_perm h hbase hperm]

/-- Reads the manifest that an entry of a tree is, at the path of the entry. -/
def ofEntry [Platform] (path : Path) : TreeEntry PluginFile → Except Fault PluginManifest
  | .directory => .error (.isDirectory path.text)
  | .file file => ofText path file.content

end PluginManifest

namespace PluginLoader

variable {l : PluginLoader} {start : List String}

/-- The path of an entry of the directory. -/
def pathOf (l : PluginLoader) (rest : List String) : Path :=
  ⟨l.directory.anchor, l.directory.names ++ rest⟩

/-- Whether the manifest at a path can be read. -/
def Reads [Platform] (l : PluginLoader) (path : Path) : Prop :=
  ∃ m, PluginManifest.ofFile l.tree path = .ok m

/-- What a loader discovers in its directory, which is at a place of its tree. -/
structure Discovers [Platform] (l : PluginLoader) (start : List String) : Prop where
  /-- The paths are those of all entries with the name of manifests, at any depth. -/
  mem_manifestPaths_iff : ∀ path, path ∈ l.manifestPaths ↔
    ∃ rest, rest.getLast? = some manifestName ∧ (l.tree.entry? (start ++ rest)).isSome ∧
      path = l.pathOf rest
  /-- Each path comes once, in the order of its names. -/
  ascending : l.manifestPaths.Pairwise fun p q ↦ List.lt p.names q.names
  /-- What is read at the path of an entry is the entry. -/
  ofFile_pathOf : ∀ rest entry, l.tree.entry? (start ++ rest) = some entry →
    PluginManifest.ofFile l.tree (l.pathOf rest) = PluginManifest.ofEntry (l.pathOf rest) entry
  /-- Discovery succeeds if all manifests can be read. -/
  succeeds_iff : (∃ manifests, l.discover = .ok manifests) ↔ ∀ p ∈ l.manifestPaths, l.Reads p
  /-- It then gives one manifest for each path. -/
  discover_eq_ok_iff : ∀ manifests, l.discover = .ok manifests ↔
    List.Forall₂ (fun p m ↦ PluginManifest.ofFile l.tree p = .ok m) l.manifestPaths manifests
  /-- Each manifest is that of its own directory. -/
  directories : ∀ manifests, l.discover = .ok manifests →
    manifests.map (·.directory) = l.manifestPaths.map Path.parent
  /-- If discovery fails, it does so with the fault of the first path that cannot be read. -/
  discover_eq_error_iff : ∀ fault, l.discover = .error fault ↔
    ∃ p ∈ l.manifestPaths, PluginManifest.ofFile l.tree p = .error fault ∧
      ∀ q ∈ l.manifestPaths, List.lt q.names p.names → l.Reads q
  /-- It does not matter in which order the paths come out of the search. -/
  of_found : ∀ found : List Path, found.Perm l.manifestPaths →
    (found.mergeSort Path.le).mapM (PluginManifest.ofFile l.tree) = l.discover
  /-- It does not matter in which order the tree is listed. -/
  of_listed : ∀ other : PluginLoader, other.directory = l.directory →
    other.tree.base = l.tree.base → other.tree.entries.Perm l.tree.entries →
      other.discover = l.discover

private theorem directories_of_discover [Platform] {manifests : List PluginManifest}
    (h : l.discover = .ok manifests) :
    manifests.map (·.directory) = l.manifestPaths.map Path.parent := by
  rw [discover, mapM_eq_ok_iff_forall₂] at h
  generalize l.manifestPaths = paths at h ⊢
  induction h with
  | nil => rfl
  | cons hm _ ih => rw [List.map_cons, List.map_cons, PluginManifest.directory_of_ofFile hm, ih]

private theorem discover_eq_error_iff [Platform]
    (hdirectory : l.tree.find l.directory = .directory (some start)) {fault} :
    l.discover = .error fault ↔
      ∃ p ∈ l.manifestPaths, PluginManifest.ofFile l.tree p = .error fault ∧
        ∀ q ∈ l.manifestPaths, List.lt q.names p.names → l.Reads q := by
  have hascending : l.manifestPaths.Pairwise fun p q ↦ List.lt p.names q.names :=
    Tree.pairwise_named hdirectory
  unfold discover
  rw [mapM_eq_error_iff]
  generalize l.manifestPaths = paths at hascending ⊢
  constructor
  · rintro ⟨before, p, after, rfl, hbefore, hp⟩
    refine ⟨p, by simp, hp, ?_⟩
    intro q hq hlt
    rcases List.mem_append.mp hq with hq | hq
    · exact hbefore q hq
    have hafter := (List.pairwise_append.mp hascending).2.1
    rcases List.mem_cons.mp hq with rfl | hq
    · exact absurd hlt (List.lt_irrefl _)
    · exact absurd hlt (List.lt_asymm (List.rel_of_pairwise_cons hafter hq))
  · rintro ⟨p, hmem, hp, hreads⟩
    obtain ⟨before, after, rfl⟩ := List.append_of_mem hmem
    refine ⟨before, p, after, rfl, ?_, hp⟩
    intro q hq
    apply hreads q (List.mem_append_left _ hq)
    exact (List.pairwise_append.mp hascending).2.2 q hq p List.mem_cons_self

/-- A loader discovers the manifests in its directory, whatever the order of the files. -/
theorem discovers [Platform] (h : l.tree.IsSound)
    (hdirectory : l.tree.find l.directory = .directory (some start)) : l.Discovers start where
  mem_manifestPaths_iff path := Tree.mem_named_iff hdirectory
  ascending := Tree.pairwise_named hdirectory
  ofFile_pathOf rest entry hentry := by
    rw [PluginManifest.ofFile, pathOf, Tree.find_append h hdirectory hentry]
    cases entry <;> rfl
  succeeds_iff := exists_mapM_eq_ok_iff
  discover_eq_ok_iff manifests := mapM_eq_ok_iff_forall₂
  directories manifests := directories_of_discover
  discover_eq_error_iff fault := discover_eq_error_iff hdirectory
  of_found found hfound := by
    rw [Tree.mergeSort_eq_named hdirectory hfound]
    rfl
  of_listed other hsame hbase hperm := by
    unfold discover manifestPaths
    rw [PluginManifest.ofFile_of_perm h hbase hperm, Tree.named_of_perm h hbase hperm, hsame]

/-- A directory with three plugins, the names of which are listed in the order of the text of their
paths: a hyphen comes before a slash, but not before the end of a name. -/
def hyphenated : PluginLoader where
  directory := { anchor := "/", names := ["plugins"] }
  tree :=
    { base := { anchor := "/", names := ["plugins"] }
      entries :=
        [(["a-b", "plugin.yml"], .file (.text
            "id: hyphen\ntype: vuln_detection\nentry_point: a.py\nclass_name: A\n")),
         (["a", "plugin.yml"], .file (.text
            "id: plain\ntype: vuln_detection\nentry_point: a.py\nclass_name: A\n")),
         (["plugin.yml"], .file (.text
            "id: top\ntype: vuln_detection\nentry_point: a.py\nclass_name: A\n"))] }

private theorem manifestPaths_hyphenated :
    hyphenated.manifestPaths = [⟨"/", ["plugins", "a", "plugin.yml"]⟩,
      ⟨"/", ["plugins", "a-b", "plugin.yml"]⟩, ⟨"/", ["plugins", "plugin.yml"]⟩] :=
  Tree.named_eq_of_perm rfl (by decide +kernel) (by decide +kernel)

/-- A name comes before all that it is the beginning of. -/
theorem discovers_hyphenated : hyphenated.tree.IsSound ∧
    hyphenated.tree.find hyphenated.directory = .directory (some []) ∧
    hyphenated.Discovers [] ∧
    (hyphenated.discover.toOption.map fun manifests ↦ manifests.map (·.definition.pluginId)) =
      some ["plain", "hyphen", "top"] := by
  have hsound : hyphenated.tree.IsSound := ⟨by decide, by decide, by decide⟩
  have hdirectory : hyphenated.tree.find hyphenated.directory = .directory (some []) := rfl
  refine ⟨hsound, hdirectory, discovers hsound hdirectory, ?_⟩
  rw [discover, manifestPaths_hyphenated]
  decide +kernel

end PluginLoader
end VulnScanner
