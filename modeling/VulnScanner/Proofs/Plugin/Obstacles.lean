import VulnScanner.Proofs.Plugin.Building
import VulnScanner.Proofs.Plugin.Comparing
import VulnScanner.Proofs.Plugin.Worklists

/-!
# What stands in the way of a plugin

A plugin of a manifest that is chosen may fail to load, and a remote detector may offer what is no
plugin. Apart from that, services may not be told for target software that is no text: that of a
local detector itself, or that of a plugin that a remote detector offers. Which of these stands in
the way is known without a session.
-/

namespace VulnScanner

open SessionM

/-! ### Plugins on offer -/

/-- Why the services of a definition cannot be told. -/
def PluginDefinition.obstacle? (web : PluginDefinition.WebRule) (services : List NetworkService)
    (d : PluginDefinition) : Option PluginFault :=
  (fault? (d.servicesFor web services)).map .comparison

/-- What stands in the way of handing over the plugins on offer: one that is no plugin, or else the
first whose services cannot be told. -/
def Blueprint.obstacle? (b : Blueprint) (web : PluginDefinition.WebRule)
    (services : List NetworkService) : Option PluginFault :=
  match b.remotePlugins.mapM PluginDraft.define with
  | .error error => some (.definition error)
  | .ok offered => offered.findSome? (·.obstacle? web services)

namespace PluginDefinition

variable {d : PluginDefinition} {web : WebRule} {services : List NetworkService}
  {fault : PluginFault}

/-- The obstacle of a definition is the fault of telling its services. -/
theorem obstacle?_eq_some_iff : d.obstacle? web services = some fault ↔
    ∃ e, d.servicesFor web services = .error e ∧ .comparison e = fault := by
  rw [obstacle?, Option.map_eq_some_iff]
  simp only [fault?_eq_some_iff]

/-- There is an obstacle for a definition exactly if some service cannot be matched with it. -/
theorem exists_obstacle?_iff (hd : d.IsDefined) :
    (∃ fault, d.obstacle? web services = some fault) ↔
      ∃ service ∈ services, ¬ d.CanMatch web service := by
  have hmatch : (∃ found, d.servicesFor web services = .ok found) ↔ _ := exists_servicesFor_iff hd
  simp only [obstacle?_eq_some_iff]
  cases hservices : d.servicesFor web services with
  | error e =>
    have hnot : ¬ ∀ service ∈ services, d.CanMatch web service := by
      rw [← hmatch, hservices]
      rintro ⟨_, h⟩
      cases h
    push Not at hnot
    exact iff_of_true ⟨_, e, rfl, rfl⟩ hnot
  | ok found =>
    have hall := hmatch.mp ⟨found, hservices⟩
    refine iff_of_false ?_ fun ⟨service, hservice, hnot⟩ ↦ hnot (hall service hservice)
    rintro ⟨_, _, h, -⟩
    cases h

end PluginDefinition

namespace Blueprint

variable {b : Blueprint} {offered : List PluginDefinition} {web : PluginDefinition.WebRule}
  {services : List NetworkService} {fault : PluginFault}

/-- Of plugins on offer the first whose services cannot be told stands in the way. -/
theorem Offers.obstacle?_eq (h : b.Offers offered) :
    b.obstacle? web services = offered.findSome? (·.obstacle? web services) := by
  rw [obstacle?, mapM_eq_ok_iff_forall₂.mpr h]

/-- The rules have no answer for the plugins on offer exactly if all are plugins and some service
cannot be matched with one of them. -/
theorem exists_comparison_iff :
    (∃ e, b.obstacle? web services = some (.comparison e)) ↔
      ∃ offered, b.Offers offered ∧
        ∃ d ∈ offered, ∃ service ∈ services, ¬ d.CanMatch web service := by
  constructor
  · rintro ⟨e, he⟩
    cases hdefine : b.remotePlugins.mapM PluginDraft.define with
    | error error =>
      rw [obstacle?, hdefine] at he
      cases he
    | ok offered =>
      have hoffered : b.Offers offered := mapM_eq_ok_iff_forall₂.mp hdefine
      rw [hoffered.obstacle?_eq] at he
      obtain ⟨d, hd, he⟩ := List.exists_of_findSome?_eq_some he
      exact ⟨offered, hoffered, d, hd,
        (PluginDefinition.exists_obstacle?_iff (hoffered.isDefined d hd)).mp ⟨_, he⟩⟩
  · rintro ⟨offered, hoffered, d, hd, hservices⟩
    obtain ⟨fault, hfault⟩ :=
      (PluginDefinition.exists_obstacle?_iff (hoffered.isDefined d hd)).mpr hservices
    rw [hoffered.obstacle?_eq]
    cases hfirst : offered.findSome? (·.obstacle? web services) with
    | none =>
      rw [List.findSome?_eq_none_iff.mp hfirst d hd] at hfault
      cases hfault
    | some fault' =>
      obtain ⟨d', -, hd'⟩ := List.exists_of_findSome?_eq_some hfirst
      obtain ⟨e, -, rfl⟩ := PluginDefinition.obstacle?_eq_some_iff.mp hd'
      exact ⟨e, rfl⟩

/-- Where target software on offer is a text, only something on offer that is no plugin stands in
the way. -/
theorem definition_of_obstacle? (hb : b.OffersText) (h : b.obstacle? web services = some fault) :
    ∃ draft ∈ b.remotePlugins, ∃ e, draft.define = .error e ∧ .definition e = fault := by
  cases hdefine : b.remotePlugins.mapM PluginDraft.define with
  | error error =>
    rw [obstacle?, hdefine] at h
    obtain ⟨before, draft, after, hdrafts, -, herror⟩ := mapM_eq_error_iff.mp hdefine
    refine ⟨draft, ?_, error, herror, Option.some.inj h⟩
    rw [hdrafts]
    exact List.mem_append_right _ List.mem_cons_self
  | ok offered =>
    have hoffered : b.Offers offered := mapM_eq_ok_iff_forall₂.mp hdefine
    rw [hoffered.obstacle?_eq] at h
    obtain ⟨d, hd, h⟩ := List.exists_of_findSome?_eq_some h
    obtain ⟨e, he, -⟩ := PluginDefinition.obstacle?_eq_some_iff.mp h
    rw [PluginDefinition.servicesFor_eq (hoffered.isDefined d hd) (hoffered.hasTextTargets hb d hd)]
      at he
    cases he

end Blueprint

namespace Selector

variable {c : Selector} {services : List NetworkService} {s : Session} {fault : PluginFault}

private theorem exists_fails_enqueue_iff (number : Nat) {d : PluginDefinition} :
    (∃ t, (c.enqueue number services d).Fails s fault t) ↔
      d.obstacle? c.web services = some fault := by
  unfold enqueue servicesFor
  rw [PluginDefinition.obstacle?_eq_some_iff]
  simp only [fails_bind_iff, fails_ofExcept_iff, not_fails_pure, not_fails_modify, and_false,
    exists_false, or_false]
  constructor
  · rintro ⟨_, h, _⟩
    exact h
  · exact fun h ↦ ⟨s, h, rfl⟩

/-- Plugins are not handed over exactly if something stands in the way of one of those on offer. -/
theorem exists_fails_handOver_iff (number : Nat) {b : Blueprint} :
    (∃ t, (((b.remotePlugins.mapM fun draft ↦ SessionM.ofExcept .definition draft.define) >>=
        fun definitions ↦ definitions.mapM (c.enqueue number services)) :
          SessionM (List MatchedPlugin)).Fails s fault t) ↔
      b.obstacle? c.web services = some fault := by
  simp only [fails_bind_iff, gives_mapM_ofExcept_iff, fails_mapM_ofExcept_iff,
    ← mapM_eq_ok_iff_forall₂]
  unfold Blueprint.obstacle?
  cases b.remotePlugins.mapM PluginDraft.define with
  | error error => simp
  | ok offered =>
    rw [← exists_fails_mapM_iff (s := s) fun _ _ _ _ ↦ exists_fails_enqueue_iff number]
    simp

end Selector

/-! ### Manifests -/

namespace PluginManifest

variable {m : PluginManifest} {tree : Tree PluginFile} {base : PluginBase} {s t : Session}
  {fault : PluginFault}

/-- What a manifest is registered as. -/
def entry (tree : Tree PluginFile) (m : PluginManifest) : PluginDefinition × Factory :=
  (m.definition, m.factory tree)

/-- The factory of a manifest gives a new object each time, or fails if the plugin cannot be
loaded. -/
theorem run_call_factory (m : PluginManifest) (tree : Tree PluginFile) (pluginId : String)
    (s : Session) :
    ((m.factory tree).call pluginId).run.run s =
      match m.load tree with
      | .error e => (.error (.loading e), s.called pluginId)
      | .ok b => (.ok s.objects.length, s.built pluginId false b) := by
  have hcall := PluginDefinition.run_call (m.factory tree) pluginId s
  have hmake : (m.factory tree).make = (m.load tree).mapError .loading := rfl
  rw [hcall, hmake]
  cases m.load tree <;> rfl

/-- A plugin of a manifest is built exactly if it can be loaded: what its factory gives is always an
object of the class of the category. -/
theorem run_build (hbase : m.definition.pluginType.base = base) (tree : Tree PluginFile)
    (s : Session) :
    (m.definition.build (m.factory tree) base).run.run s =
      match m.load tree with
      | .error e => (.error (.loading e), s.called m.definition.pluginId)
      | .ok b => (.ok s.objects.length, s.built m.definition.pluginId false b) := by
  have hcall := m.run_call_factory tree m.definition.pluginId s
  cases hload : m.load tree with
  | error e =>
    rw [hload] at hcall
    exact run_bind_of_fails hcall
  | ok b =>
    rw [hload] at hcall
    have hobject : (s.built m.definition.pluginId false b).object? s.objects.length =
        some { blueprint := b } := by
      simp [Session.object?, Session.built]
    rw [PluginDefinition.build, run_bind_of_gives hcall,
      run_bind_of_gives (gives_get_iff.mpr ⟨rfl, rfl⟩)]
    dsimp only
    rw [hobject]
    dsimp only
    rw [if_pos (hbase ▸ isA_of_load hload)]
    rfl

/-- A plugin that is built is what is loaded. -/
theorem blueprint?_of_gives_build (hbase : m.definition.pluginType.base = base) {number : Nat}
    (h : (m.definition.build (m.factory tree) base).Gives s number t) :
    ∃ b, m.load tree = .ok b ∧ t.blueprint? number = some b := by
  have hrun := (m.run_build hbase tree s).symm.trans h
  cases hload : m.load tree with
  | error e =>
    rw [hload] at hrun
    cases hrun
  | ok b =>
    rw [hload] at hrun
    cases hrun
    exact ⟨b, rfl, by simp [Session.blueprint?, Session.object?, Session.built]⟩

/-- A plugin that can be loaded is built. -/
theorem exists_gives_build (hbase : m.definition.pluginType.base = base) {b : Blueprint}
    (hload : m.load tree = .ok b) (s : Session) :
    ∃ number t, (m.definition.build (m.factory tree) base).Gives s number t ∧
      t.blueprint? number = some b := by
  have hrun := m.run_build hbase tree s
  rw [hload] at hrun
  exact ⟨_, _, hrun, by simp [Session.blueprint?, Session.object?, Session.built]⟩

/-- A plugin is not built exactly if it cannot be loaded. -/
theorem exists_fails_build_iff (hbase : m.definition.pluginType.base = base) :
    (∃ t, (m.definition.build (m.factory tree) base).Fails s fault t) ↔
      ∃ e, m.load tree = .error e ∧ .loading e = fault := by
  have hrun := m.run_build hbase tree s
  constructor
  · rintro ⟨t, h⟩
    have hfails := hrun.symm.trans h
    cases hload : m.load tree with
    | error e =>
      rw [hload] at hfails
      cases hfails
      exact ⟨e, rfl, rfl⟩
    | ok b =>
      rw [hload] at hfails
      cases hfails
  · rintro ⟨e, hload, rfl⟩
    rw [hload] at hrun
    exact ⟨_, hrun⟩

/-! ### Obstacles -/

/-- Why a plugin cannot be loaded. -/
def loadObstacle? (m : PluginManifest) (tree : Tree PluginFile) : Option PluginFault :=
  (fault? (m.load tree)).map .loading

/-- What stands in the way of choosing the detector of a manifest. For a remote detector it cannot
be loaded, or something stands in the way of what it offers; for a local one the rules have no
answer for a service, or the plugin is chosen and cannot be loaded. -/
def obstacle? (m : PluginManifest) (tree : Tree PluginFile) (web : PluginDefinition.WebRule)
    (services : List NetworkService) : Option PluginFault :=
  if m.definition.pluginType = .remoteVulnDetection then
    match m.load tree with
    | .error e => some (.loading e)
    | .ok b => b.obstacle? web services
  else match m.definition.servicesFor web services with
    | .error e => some (.comparison e)
    | .ok found =>
      if found.isEmpty && !m.definition.isUnconstrained then none else m.loadObstacle? tree

/-- The plugin that is chosen for a manifest cannot be built: it cannot be loaded, or among what it
offers there is something that is no plugin. -/
inductive Unbuilt (m : PluginManifest) (tree : Tree PluginFile) : PluginFault → Prop
  | loading {e : LoadFault} (h : m.load tree = .error e) : Unbuilt m tree (.loading e)
  | offer {b : Blueprint} {draft : PluginDraft} {e : DefinitionError}
      (hremote : m.definition.pluginType = .remoteVulnDetection) (hload : m.load tree = .ok b)
      (hdraft : draft ∈ b.remotePlugins) (hdefine : draft.define = .error e) :
      Unbuilt m tree (.definition e)

/-- A category of detectors is that of local ones or that of remote ones. -/
private theorem eq_local_of_detects {type : PluginType} (h : type.detects = true)
    (hother : type ≠ .remoteVulnDetection) : type = .vulnDetection := by
  cases type <;> simp_all [PluginType.detects]

theorem loadObstacle?_eq_some_iff :
    m.loadObstacle? tree = some fault ↔ ∃ e, m.load tree = .error e ∧ .loading e = fault := by
  rw [loadObstacle?, Option.map_eq_some_iff]
  simp only [fault?_eq_some_iff]

variable {c : Selector} {services : List NetworkService}

/-- A remote detector is not chosen exactly if it cannot be loaded or something stands in the way of
what it offers. -/
private theorem exists_fails_remoteDetector_iff
    (hremote : m.definition.pluginType = .remoteVulnDetection) :
    (∃ t, (c.remoteDetector m.definition (m.factory tree) services).Fails s fault t) ↔
      m.obstacle? tree c.web services = some fault := by
  have hbase : m.definition.pluginType.base = .remoteDetector := by rw [hremote]; rfl
  rw [obstacle?, if_pos hremote]
  unfold Selector.remoteDetector
  cases hload : m.load tree with
  | error e =>
    dsimp only
    rw [Option.some.injEq]
    constructor
    · rintro ⟨t, h⟩
      rcases fails_bind_iff.mp h with h | ⟨number, u, hbuild, -⟩
      · obtain ⟨_, hload', rfl⟩ := (exists_fails_build_iff hbase).mp ⟨t, h⟩
        cases hload.symm.trans hload'
        rfl
      · obtain ⟨_, hload', -⟩ := blueprint?_of_gives_build hbase hbuild
        cases hload.symm.trans hload'
    · rintro rfl
      obtain ⟨t, h⟩ := (exists_fails_build_iff (s := s) hbase).mpr ⟨e, hload, rfl⟩
      exact ⟨t, fails_bind_iff.mpr (.inl h)⟩
  | ok b =>
    dsimp only
    obtain ⟨number, u, hbuild, hb⟩ := exists_gives_build hbase hload s
    rw [← Selector.exists_fails_handOver_iff number (s := u)]
    refine exists_congr fun t ↦ ?_
    unfold Fails
    rw [run_bind_of_gives hbuild, run_bind_of_gives (gives_get_iff.mpr ⟨rfl, rfl⟩),
      Session.remotePlugins_of_blueprint? hb]
    change Fails _ _ _ _ ↔ Fails _ _ _ _
    simp only [fails_bind_iff, not_fails_pure, and_false, exists_false, or_false]

/-- A local detector is not chosen for the reasons that its services cannot be told, or that it
cannot be loaded and is needed. -/
private theorem exists_fails_localDetector?_iff
    (hlocal : m.definition.pluginType = .vulnDetection) :
    (∃ t, (c.localDetector? m.definition (m.factory tree) services).Fails s fault t) ↔
      m.obstacle? tree c.web services = some fault := by
  have hbase : m.definition.pluginType.base = .detector := by rw [hlocal]; rfl
  unfold Selector.localDetector? obstacle? Selector.servicesFor
  rw [if_neg (by simp [hlocal])]
  simp only [fails_bind_iff, gives_ofExcept_iff, fails_ofExcept_iff]
  cases m.definition.servicesFor c.web services with
  | error e => simp
  | ok found =>
    simp only [reduceCtorEq, false_and, exists_false, false_or, Except.ok.injEq]
    constructor
    · rintro ⟨t, _, _, ⟨rfl, rfl⟩, h⟩
      split at h
      · exact absurd h not_fails_pure
      next hneeded =>
        rcases fails_bind_iff.mp h with hbuild | ⟨_, _, _, h⟩
        · rw [if_neg hneeded, loadObstacle?_eq_some_iff]
          exact (exists_fails_build_iff hbase).mp ⟨t, hbuild⟩
        · exact absurd h not_fails_pure
    · intro h
      split at h
      · cases h
      next hneeded =>
        obtain ⟨t, ht⟩ :=
          (exists_fails_build_iff (s := s) hbase).mpr (loadObstacle?_eq_some_iff.mp h)
        refine ⟨t, found, s, ⟨rfl, rfl⟩, ?_⟩
        rw [if_neg hneeded]
        exact fails_bind_iff.mpr (.inl ht)

/-- The detector of a manifest is not chosen exactly if something stands in the way. -/
theorem exists_fails_choose_iff (hdetects : m.definition.pluginType.detects = true) :
    (∃ t, (c.choose services (m.entry tree)).Fails s fault t) ↔
      m.obstacle? tree c.web services = some fault := by
  unfold Selector.choose
  split
  next hremote =>
    simp only [fails_bind_iff, not_fails_pure, and_false, exists_false, or_false]
    exact exists_fails_remoteDetector_iff hremote
  next hother => exact exists_fails_localDetector?_iff (eq_local_of_detects hdetects hother)

/-- Of several detectors the first that something stands in the way of is the one that counts. -/
theorem exists_fails_chooseAll_iff {manifests : List PluginManifest}
    (hdetects : ∀ m ∈ manifests, m.definition.pluginType.detects = true) :
    (∃ t, ((manifests.map (·.entry tree)).mapM (c.choose services)).Fails s fault t) ↔
      manifests.findSome? (·.obstacle? tree c.web services) = some fault := by
  rw [List.mapM_map]
  exact exists_fails_mapM_iff fun m hm _ _ ↦ exists_fails_choose_iff (hdetects m hm)

/-- The rules have no answer for a manifest exactly if some service cannot be matched: with its
definition if its detector is local, and with a plugin that it offers if it is remote. -/
theorem exists_comparison_iff (hd : m.definition.IsDefined) {web : PluginDefinition.WebRule} :
    (∃ e, m.obstacle? tree web services = some (.comparison e)) ↔
      (m.definition.pluginType ≠ .remoteVulnDetection ∧
        ∃ service ∈ services, ¬ m.definition.CanMatch web service) ∨
      (m.definition.pluginType = .remoteVulnDetection ∧
        ∃ b offered, m.load tree = .ok b ∧ b.Offers offered ∧
          ∃ d ∈ offered, ∃ service ∈ services, ¬ d.CanMatch web service) := by
  unfold obstacle?
  split
  next hremote =>
    rw [or_iff_right (fun h ↦ h.1 hremote), and_iff_right hremote]
    cases m.load tree with
    | error e => simp
    | ok b => simpa using Blueprint.exists_comparison_iff
  next hlocal =>
    rw [or_iff_left (fun h ↦ hlocal h.1), and_iff_right hlocal,
      ← PluginDefinition.exists_obstacle?_iff hd]
    simp only [PluginDefinition.obstacle?_eq_some_iff]
    cases m.definition.servicesFor web services with
    | error e => simp
    | ok found =>
      dsimp only
      split <;> simp [loadObstacle?_eq_some_iff]

/-- Where target software is a text, that of plugins on offer too, all that stands in the way of a
detector is that it is chosen and cannot be built. -/
theorem isChosen_of_obstacle? (hd : m.definition.IsDefined) (ht : m.definition.HasTextTargets)
    (hoffers : ∀ b, m.load tree = .ok b → b.OffersText)
    (hdetects : m.definition.pluginType.detects = true) {web : PluginDefinition.WebRule}
    (h : m.obstacle? tree web services = some fault) :
    m.definition.IsChosen web services ∧ m.Unbuilt tree fault := by
  unfold obstacle? at h
  split at h
  next hremote =>
    refine ⟨.inl hremote, ?_⟩
    cases hload : m.load tree with
    | error e =>
      rw [hload] at h
      cases h
      exact .loading hload
    | ok b =>
      rw [hload] at h
      obtain ⟨draft, hdraft, e, hdefine, rfl⟩ :=
        Blueprint.definition_of_obstacle? (hoffers b hload) h
      exact .offer hremote hload hdraft hdefine
  next hother =>
    have hlocal := eq_local_of_detects hdetects hother
    rw [PluginDefinition.servicesFor_of_local hd ht hlocal] at h
    dsimp only at h
    split at h
    · cases h
    next hneeded =>
      rw [PluginDefinition.isSkipped_iff_of_local hlocal, not_not] at hneeded
      obtain ⟨e, he, rfl⟩ := loadObstacle?_eq_some_iff.mp h
      exact ⟨hneeded, .loading he⟩

end PluginManifest
end VulnScanner
