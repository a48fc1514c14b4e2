import VulnScanner.Proofs.Plugin.Populating

/-!
# Plugins are what they are declared to be

In a registry that is filled from directories, the plugin of an entry is built as its manifest
declares it, anew each time, or not at all. The category of an object is looked at twice, when it is
built from its module and when it is matched; the first look leaves nothing for the second to find.
-/

namespace VulnScanner

/-! ### Faults of operations -/

/-- Something was built that does not fit the category of its definition. -/
def PluginFault.IsMismatch (fault : PluginFault) : Prop :=
  ∃ pluginId pluginType className, fault = .wrongKind pluginId pluginType className

namespace SessionM

variable {α β ε : Type} {x : SessionM α} {P : PluginFault → Prop}

/-- An operation fails with faults of one sort only, whatever the session is. -/
def FailsOnly (x : SessionM α) (P : PluginFault → Prop) : Prop :=
  ∀ s fault t, x.Fails s fault t → P fault

/-- Doing nothing does not fail. -/
theorem failsOnly_pure {a : α} : (pure a : SessionM α).FailsOnly P :=
  fun _ _ _ h ↦ absurd h not_fails_pure

/-- Looking at the session does not fail. -/
theorem failsOnly_get : (get : SessionM Session).FailsOnly P :=
  fun _ _ _ h ↦ absurd h not_fails_get

/-- Changing the session does not fail. -/
theorem failsOnly_modify {f : Session → Session} : (modify f : SessionM PUnit).FailsOnly P :=
  fun _ _ _ h ↦ absurd h not_fails_modify

/-- A computation outside of the session fails with its own faults. -/
theorem failsOnly_ofExcept {wrap : ε → PluginFault} {r : Except ε α} (h : ∀ e, P (wrap e)) :
    (SessionM.ofExcept wrap r).FailsOnly P := by
  intro s fault t hfails
  obtain ⟨⟨e, -, rfl⟩, -⟩ := fails_ofExcept_iff.mp hfails
  exact h e

/-- A chain fails as its steps do. -/
theorem FailsOnly.bind {f : α → SessionM β} (hx : x.FailsOnly P) (hf : ∀ a, (f a).FailsOnly P) :
    (x >>= f).FailsOnly P := by
  intro s fault t hfails
  rcases fails_bind_iff.mp hfails with hfails | ⟨a, u, -, hfails⟩
  · exact hx s fault t hfails
  · exact hf a u fault t hfails

/-- A list of steps fails as its steps do. -/
theorem FailsOnly.mapM {f : α → SessionM β} {as : List α} (h : ∀ a ∈ as, (f a).FailsOnly P) :
    (as.mapM f).FailsOnly P := by
  induction as with
  | nil => exact fun _ _ _ hfails ↦ absurd hfails not_fails_mapM_nil
  | cons a rest ih =>
    rw [List.forall_mem_cons] at h
    rw [List.mapM_cons]
    exact h.1.bind fun _ ↦ (ih h.2).bind fun _ ↦ failsOnly_pure

end SessionM

open SessionM

/-! ### Registries filled from directories -/

/-- The registries that loaders fill, whether all plugins of their directories are registered or
not. -/
inductive Registry.Filled [Platform] : List PluginLoader → Registry Factory → Prop
  | empty : Filled [] .empty
  | populate {loaders : List PluginLoader} {r : Registry Factory} (hr : Filled loaders r)
      (l : PluginLoader) : Filled (l :: loaders) (l.populate r).1
  | freeze {loaders : List PluginLoader} {r : Registry Factory} (hr : Filled loaders r) :
      Filled loaders r.freeze

/-- Holds when an entry is registered for a manifest that a loader reads. -/
def PluginLoader.Registers [Platform] (l : PluginLoader) (m : PluginManifest)
    (e : PluginDefinition × Factory) : Prop :=
  (∃ path ∈ l.manifestPaths, PluginManifest.ofFile l.tree path = .ok m) ∧ m.entry l.tree = e

/-- What populating adds to a registry is registered for manifests. -/
theorem PluginLoader.Ends.registers [Platform] {l : PluginLoader} {r left : Registry Factory}
    {fault? : Option PopulateFault} (h : l.Ends r left fault?) {e : PluginDefinition × Factory}
    (he : e ∈ left.entries) : e ∈ r.entries ∨ ∃ m, l.Registers m e := by
  have hread : ∀ manifests m, l.discover = .ok manifests → m ∈ manifests →
      l.Registers m (m.entry l.tree) := by
    intro manifests m hdiscover hm
    obtain ⟨path, hpath, hfile⟩ := exists_of_mem_of_mapM_eq_ok hdiscover hm
    exact ⟨⟨path, hpath, hfile⟩, rfl⟩
  cases h with
  | unread | frozen => exact .inl he
  | taken hdiscover =>
    refine (List.mem_append.mp he).imp_right fun he ↦ ?_
    obtain ⟨m, hm, rfl⟩ := List.mem_map.mp he
    exact ⟨m, hread _ m hdiscover (List.mem_append_left _ hm)⟩
  | done hdiscover =>
    refine (List.mem_append.mp he).imp_right fun he ↦ ?_
    obtain ⟨m, hm, rfl⟩ := List.mem_map.mp he
    exact ⟨m, hread _ m hdiscover hm⟩

/-- Every entry of a registry that was filled is registered for a manifest. -/
theorem Registry.Filled.registers [Platform] {loaders : List PluginLoader} {r : Registry Factory}
    (h : Filled loaders r) : ∀ e ∈ r.entries, ∃ l ∈ loaders, ∃ m, l.Registers m e := by
  induction h with
  | empty => exact fun _ he ↦ absurd he List.not_mem_nil
  | @populate _ r _ l ih =>
    intro e he
    have hends := PluginLoader.populate_eq_iff.mp (Prod.eta (l.populate r)).symm
    rcases hends.registers he with he | ⟨m, hm⟩
    · obtain ⟨l', hl', hm⟩ := ih e he
      exact ⟨l', List.mem_cons_of_mem _ hl', hm⟩
    · exact ⟨l, List.mem_cons_self, m, hm⟩
  | freeze _ ih => exact ih

/-! ### Entries -/

/-- An entry whose plugin is built as a manifest declares it, in a directory that a loader reads. -/
structure PluginManifest.Declares [Platform] (m : PluginManifest) (l : PluginLoader)
    (e : PluginDefinition × Factory) : Prop where
  /-- The manifest is that of the definition with the other fields of a file. -/
  fields : ∃ path ∈ l.manifestPaths, ∃ entries, entriesAt? l.tree path = some entries ∧
    ofDefinition path.parent (Value.field? entries) e.1 = .ok m
  /-- The factory gives what is built from the module, as a new object each time. -/
  gives_iff : ∀ s number t, (e.2.call e.1.pluginId).Gives s number t ↔
    ∃ b, m.Builds l.tree b ∧ s.objects.length = number ∧ s.built e.1.pluginId false b = t
  /-- The object has the configuration of the manifest. -/
  config : ∀ b, m.Builds l.tree b →
    configOf m.config = .ok ({ blueprint := b } : PluginObject).config
  /-- Where nothing is built, the factory fails with the reason for that. -/
  fails_iff : ∀ s fault t, (e.2.call e.1.pluginId).Fails s fault t ↔
    ∃ reason, m.Refuses l.tree reason ∧ .loading reason = fault ∧ s.called e.1.pluginId = t
  /-- Looking at the category of what the factory gives changes nothing. -/
  build_eq : ∀ s, (e.1.build e.2 e.1.pluginType.base).run.run s =
    (e.2.call e.1.pluginId).run.run s

/-- A configuration is a mapping. -/
private theorem exists_mapping_of_configOf {v config : Value} (h : configOf v = .ok config) :
    ∃ entries, config = .mapping entries := by
  unfold configOf at h
  split at h
  · cases h
    exact ⟨_, rfl⟩
  split at h
  · cases h
  · obtain ⟨entries, -, h⟩ := bind_eq_ok_iff.mp h
    cases h
    exact ⟨entries, rfl⟩

/-- An object keeps the configuration that it is built with. -/
private theorem config_of_builds {m : PluginManifest} {tree : Tree PluginFile} {b : Blueprint}
    (h : m.Builds tree b) : configOf m.config = .ok ({ blueprint := b } : PluginObject).config := by
  cases h with
  | intro _ hconfig =>
    obtain ⟨entries, rfl⟩ := exists_mapping_of_configOf hconfig
    rw [hconfig]
    cases entries <;> rfl

section

variable {m : PluginManifest} {tree : Tree PluginFile} {pluginId : String} {s t : Session}

private theorem gives_call_factory_iff {number : Nat} :
    ((m.factory tree).call pluginId).Gives s number t ↔
      ∃ b, m.Builds tree b ∧ s.objects.length = number ∧ s.built pluginId false b = t := by
  unfold Gives
  rw [PluginManifest.run_call_factory]
  -- the runs are equal in `Id`, where the lemmas on pairs do not apply
  change @Eq (Except PluginFault Nat × Session) _ _ ↔ _
  simp only [← PluginManifest.load_eq_ok_iff]
  cases m.load tree <;> simp

private theorem fails_call_factory_iff {fault : PluginFault} :
    ((m.factory tree).call pluginId).Fails s fault t ↔
      ∃ reason, m.Refuses tree reason ∧ .loading reason = fault ∧ s.called pluginId = t := by
  unfold Fails
  rw [PluginManifest.run_call_factory]
  change @Eq (Except PluginFault Nat × Session) _ _ ↔ _
  simp only [← PluginManifest.load_eq_error_iff]
  cases m.load tree <;> simp

end

/-- The plugin of an entry is built as its manifest declares it. -/
theorem PluginLoader.Registers.declares [Platform] {l : PluginLoader} {m : PluginManifest}
    {e : PluginDefinition × Factory} (h : l.Registers m e) : m.Declares l e := by
  obtain ⟨⟨path, hpath, hfile⟩, rfl⟩ := h
  constructor
  case fields =>
    obtain ⟨entries, hentries, hfields⟩ := PluginManifest.exists_fields_of_ofFile hfile
    obtain ⟨_, d, -, -, hm⟩ := PluginManifest.ofFields_eq_ok_iff.mp hfields
    rw [← PluginManifest.definition_of_ofDefinition hm] at hm
    exact ⟨path, hpath, entries, hentries, hm⟩
  case gives_iff => exact fun _ _ _ ↦ gives_call_factory_iff
  case config => exact fun _ ↦ config_of_builds
  case fails_iff => exact fun _ _ _ ↦ fails_call_factory_iff
  case build_eq =>
    exact fun s ↦ (m.run_build rfl l.tree s).trans (m.run_call_factory l.tree _ s).symm

/-! ### Matching -/

/-- In a registry that loaders have filled plugins are what they are declared to be. -/
structure Registry.BuildsAsDeclared [Platform] (loaders : List PluginLoader)
    (r : Registry Factory) : Prop where
  /-- The plugin of an entry is built as a manifest declares it that one of them reads. -/
  declares : ∀ e ∈ r.entries, ∃ l ∈ loaders, ∃ m, PluginManifest.Declares m l e
  /-- No module is looked at to fill the registry: this ends alike whatever they are. -/
  of_modules : ∀ l other : PluginLoader, other.directory = l.directory →
    other.tree.AgreesAt PluginLoader.manifestName l.tree →
      other.discover = l.discover ∧ (other.populate r).2 = (l.populate r).2
  /-- No operation of a selector comes to an object that does not fit its definition. -/
  portScanners : ∀ c : Selector, c.registry = some r →
    c.portScanners.FailsOnly (¬ ·.IsMismatch) ∧ c.portScanner?.FailsOnly (¬ ·.IsMismatch)
  fingerprinter? : ∀ c : Selector, c.registry = some r →
    ∀ service, (c.fingerprinter? service).FailsOnly (¬ ·.IsMismatch)
  servicesFor : ∀ c : Selector, c.registry = some r →
    ∀ d services, (c.servicesFor d services).FailsOnly (¬ ·.IsMismatch)
  detectors : ∀ c : Selector, c.registry = some r →
    ∀ report, (c.detectors report).FailsOnly (¬ ·.IsMismatch)

section

variable {c : Selector} {loaders : List PluginLoader} {r : Registry Factory}
  {types : List PluginType}

private theorem mem_of_mem_entries (hc : c.registry = some r) {e : PluginDefinition × Factory}
    (he : e ∈ c.entries types) : e ∈ r.entries ∧ e.1.pluginType ∈ types := by
  rw [Selector.entries, hc] at he
  exact (List.mem_filter.mp he).imp_right List.contains_iff_mem.mp

private theorem failsOnly_build [Platform] (h : Registry.Filled loaders r)
    {e : PluginDefinition × Factory} (he : e ∈ r.entries) {base : PluginBase}
    (hbase : e.1.pluginType.base = base) : (e.1.build e.2 base).FailsOnly (¬ ·.IsMismatch) := by
  obtain ⟨l, -, m, -, rfl⟩ := h.registers e he
  rintro s fault t hfails ⟨_, _, _, rfl⟩
  obtain ⟨_, -, hloading⟩ := (PluginManifest.exists_fails_build_iff hbase).mp ⟨t, hfails⟩
  cases hloading

private theorem failsOnly_servicesFor (c : Selector) (d : PluginDefinition)
    (services : List NetworkService) : (c.servicesFor d services).FailsOnly (¬ ·.IsMismatch) := by
  refine failsOnly_ofExcept fun e ↦ ?_
  rintro ⟨_, _, _, h⟩
  cases h

private theorem failsOnly_remoteDetector (c : Selector) {e : PluginDefinition × Factory}
    (he : (e.1.build e.2 .remoteDetector).FailsOnly (¬ ·.IsMismatch))
    (services : List NetworkService) :
    (c.remoteDetector e.1 e.2 services).FailsOnly (¬ ·.IsMismatch) := by
  have henqueue : ∀ object d, (c.enqueue object services d).FailsOnly (¬ ·.IsMismatch) :=
    fun object d ↦ (failsOnly_servicesFor c d services).bind fun _ ↦
      failsOnly_modify.bind fun _ ↦ failsOnly_pure
  refine he.bind fun object ↦ failsOnly_get.bind fun s ↦ ?_
  refine (FailsOnly.mapM fun draft _ ↦ failsOnly_ofExcept fun error ↦ ?_).bind fun definitions ↦ ?_
  · rintro ⟨_, _, _, h⟩
    cases h
  · exact (FailsOnly.mapM fun d _ ↦ henqueue object d).bind fun _ ↦ failsOnly_pure

private theorem failsOnly_localDetector? (c : Selector) {e : PluginDefinition × Factory}
    (he : (e.1.build e.2 .detector).FailsOnly (¬ ·.IsMismatch)) (services : List NetworkService) :
    (c.localDetector? e.1 e.2 services).FailsOnly (¬ ·.IsMismatch) := by
  refine (failsOnly_servicesFor c e.1 services).bind fun found ↦ ?_
  split
  · exact failsOnly_pure
  · exact he.bind fun _ ↦ failsOnly_pure

private theorem failsOnly_choose (c : Selector) {e : PluginDefinition × Factory}
    (he : (e.1.build e.2 e.1.pluginType.base).FailsOnly (¬ ·.IsMismatch))
    (hdetects : e.1.pluginType ∈ [PluginType.vulnDetection, .remoteVulnDetection])
    (services : List NetworkService) :
    (c.choose services e).FailsOnly (¬ ·.IsMismatch) := by
  unfold Selector.choose
  split
  next hremote =>
    rw [hremote] at he
    exact (failsOnly_remoteDetector c he services).bind fun _ ↦ failsOnly_pure
  next hother =>
    have hlocal : e.1.pluginType = .vulnDetection := by simpa [hother] using hdetects
    rw [hlocal] at he
    exact failsOnly_localDetector? c he services

end

/-- A directory with a remote detector that is declared as a detector and has an empty
configuration, and with a detector that is declared as a port scanner. -/
def misdeclared : PluginLoader where
  directory := { anchor := "/", names := ["plugins"] }
  tree :=
    { base := { anchor := "/", names := ["plugins"] }
      entries :=
        [(["a", "plugin.yml"], .file (.text
            "id: a\ntype: vuln_detection\nentry_point: a.py\nclass_name: A\nconfig:\n")),
         (["a", "a.py"], .file (.module
            { members := [("A", .class_ { kind := .remoteDetector })] })),
         (["b", "plugin.yml"], .file (.text
            "id: b\ntype: port_scan\nentry_point: b.py\nclass_name: B\n")),
         (["b", "b.py"], .file (.module
            { members := [("B", .class_ { kind := .detector })] }))] }

private theorem manifestPaths_misdeclared :
    misdeclared.manifestPaths = [⟨"/", ["plugins", "a", "plugin.yml"]⟩,
      ⟨"/", ["plugins", "b", "plugin.yml"]⟩] :=
  Tree.named_eq_of_perm rfl (by decide +kernel) (by decide +kernel)

/-- The registry that the directory fills, which takes no further plugins. -/
def misdeclaredRegistry : Registry Factory := (misdeclared.populate .empty).1.freeze

/-- The class of the object that an entry gives, or why it gives none. -/
def outcome (e : PluginDefinition × Factory) : String :=
  match (e.1.build e.2 e.1.pluginType.base).run.run {} with
  | (.ok number, s) => ((s.object? number).map (·.blueprint.className)).getD ""
  | (.error fault, _) => fault.message

end VulnScanner
