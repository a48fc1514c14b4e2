import VulnScanner.Plugin.Selection
import VulnScanner.Proofs.Lists
import VulnScanner.Proofs.Plugin.Matching
import VulnScanner.Proofs.Plugin.Running

/-!
# The detectors that are chosen

Which definitions of a registry are chosen for the services of a report, and for which of the
services. Whatever the factories build, the selections of a run are these definitions with these
services, in the order of registration and each once.
-/

namespace VulnScanner

namespace PluginDefinition

variable (web : WebRule) (services : List NetworkService) (d : PluginDefinition)

/-- Remote detectors are always chosen, and local detectors if they have no condition or one of the
services meets a condition. -/
def IsChosen : Prop :=
  d.pluginType = .remoteVulnDetection ∨
    d.pluginType = .vulnDetection ∧ (d.IsUnconditional ∨ ∃ s ∈ services, d.Meets web s)

instance : Decidable (d.IsChosen web services) :=
  inferInstanceAs (Decidable (_ ∨ _ ∧ (_ ∨ ∃ s ∈ services, _)))

/-- The services that a definition is chosen for: those that meet one of its conditions, and all
of them for remote detectors and where there is no condition. -/
def servicesChosen : List NetworkService :=
  if d.pluginType = .remoteVulnDetection ∨ d.IsUnconditional then services
  else services.filter (d.Meets web)

variable {web services d}

/-- A local detector is chosen exactly if it has no condition or is for some service. -/
theorem isChosen_iff_of_local (hlocal : d.pluginType = .vulnDetection) :
    d.IsChosen web services ↔ d.IsUnconditional ∨ d.servicesChosen web services ≠ [] := by
  unfold IsChosen servicesChosen
  simp only [hlocal, true_and, false_or, reduceCtorEq]
  by_cases hd : d.IsUnconditional
  · simp [hd]
  · simp [hd]

/-- A local detector with text targets is for the services that it is chosen for. -/
theorem servicesFor_of_local (hd : d.IsDefined) (ht : d.HasTextTargets)
    (hlocal : d.pluginType = .vulnDetection) :
    d.servicesFor web services = .ok (d.servicesChosen web services) := by
  simp [servicesFor_eq hd ht, servicesChosen, hlocal]

/-- A local detector is passed over exactly if it is not chosen. -/
theorem isSkipped_iff_of_local (hlocal : d.pluginType = .vulnDetection) :
    ((d.servicesChosen web services).isEmpty && !d.isUnconstrained) = true ↔
      ¬ d.IsChosen web services := by
  rw [isChosen_iff_of_local hlocal, ← isUnconstrained_iff]
  simp [and_comm]

end PluginDefinition

/-- What a selection is for: its definition beside the services. -/
def Selection.purpose (x : Selection) : PluginDefinition × List NetworkService :=
  (x.definition, x.services)

namespace Selector

open SessionM

variable {c : Selector} {r : Registry Factory} {report : Option ReconReport}
  {services : List NetworkService} {d : PluginDefinition} {f : Factory}
  {e : PluginDefinition × Factory} {s t : Session} {found : List Selection}

/-- The purpose of a definition, if it is chosen. -/
def purpose? (c : Selector) (services : List NetworkService) (d : PluginDefinition) :
    Option (PluginDefinition × List NetworkService) :=
  if d.IsChosen c.web services then some (d, d.servicesChosen c.web services) else none

/-- Chooses the detector of an entry, or passes over it. -/
def choose (c : Selector) (services : List NetworkService) (e : PluginDefinition × Factory) :
    SessionM (Option Selection) := do
  if e.1.pluginType = .remoteVulnDetection then
    return some (← c.remoteDetector e.1 e.2 services)
  else c.localDetector? e.1 e.2 services

/-- The detectors are chosen entry by entry. -/
theorem detectors_eq (c : Selector) (report : Option ReconReport) :
    c.detectors report = do
      let found ← (c.entries [.vulnDetection, .remoteVulnDetection]).mapM
        (c.choose (ReconReport.servicesOf report))
      return found.filterMap id := rfl

/-- A remote detector is chosen for all services. -/
theorem purpose_of_gives_remoteDetector {chosen : Selection}
    (h : (c.remoteDetector d f services).Gives s chosen t) : chosen.purpose = (d, services) := by
  simp only [remoteDetector, gives_bind_iff, gives_pure_iff] at h
  obtain ⟨_, _, _, _, _, _, _, _, _, _, _, _, rfl, _⟩ := h
  rfl

private theorem purpose_of_gives_localDetector? {chosen? : Option Selection} (hd : d.IsDefined)
    (ht : d.HasTextTargets) (hlocal : d.pluginType = .vulnDetection)
    (h : (c.localDetector? d f services).Gives s chosen? t) :
    chosen?.map (·.purpose) = c.purpose? services d := by
  have hskip : ((d.servicesChosen c.web services).isEmpty && !d.isUnconstrained) = true ↔
      ¬ d.IsChosen c.web services := PluginDefinition.isSkipped_iff_of_local hlocal
  simp only [localDetector?, servicesFor, PluginDefinition.servicesFor_of_local hd ht hlocal,
    gives_bind_iff, gives_ofExcept_iff, Except.ok.injEq] at h
  obtain ⟨_, _, ⟨rfl, rfl⟩, h⟩ := h
  unfold purpose?
  split at h
  next hempty =>
    obtain ⟨rfl, -⟩ := gives_pure_iff.mp h
    rw [if_neg (hskip.mp hempty)]
    rfl
  next hempty =>
    obtain ⟨_, _, -, h⟩ := gives_bind_iff.mp h
    obtain ⟨rfl, -⟩ := gives_pure_iff.mp h
    rw [if_pos (not_not.mp (hskip.not.mp hempty))]
    rfl

/-- What is chosen for an entry is what its definition is for. -/
theorem purpose_of_gives_choose {chosen? : Option Selection} (hd : e.1.IsDefined)
    (ht : e.1.HasTextTargets)
    (htype : e.1.pluginType = .vulnDetection ∨ e.1.pluginType = .remoteVulnDetection)
    (h : (c.choose services e).Gives s chosen? t) :
    chosen?.map (·.purpose) = c.purpose? services e.1 := by
  unfold choose at h
  split at h
  next hremote =>
    obtain ⟨chosen, _, hchosen, h⟩ := gives_bind_iff.mp h
    obtain ⟨rfl, -⟩ := gives_pure_iff.mp h
    rw [Option.map_some, purpose_of_gives_remoteDetector hchosen]
    simp [purpose?, PluginDefinition.IsChosen, PluginDefinition.servicesChosen, hremote]
  next hlocal =>
    exact purpose_of_gives_localDetector? hd ht (htype.resolve_right hlocal) h

/-- What is chosen for an entry has its definition. -/
theorem definition_of_gives_choose {chosen? : Option Selection}
    (h : (c.choose services e).Gives s chosen? t) : ∀ x ∈ chosen?, x.definition = e.1 := by
  intro x hx
  rw [Option.mem_def] at hx
  subst hx
  unfold choose at h
  split at h
  · obtain ⟨chosen, _, hchosen, h⟩ := gives_bind_iff.mp h
    cases (gives_pure_iff.mp h).1
    exact congrArg Prod.fst (purpose_of_gives_remoteDetector hchosen)
  · obtain ⟨_, _, -, h⟩ := gives_bind_iff.mp h
    split at h
    · cases (gives_pure_iff.mp h).1
    · obtain ⟨_, _, -, h⟩ := gives_bind_iff.mp h
      cases (gives_pure_iff.mp h).1
      rfl

private theorem entries_eq (hc : c.registry = some r) (types : List PluginType) :
    c.entries types = r.ofTypes types := by
  rw [entries, hc]
  rfl

/-- Detectors are chosen if every entry of their categories is handled. -/
theorem gives_detectors_iff (hc : c.registry = some r) :
    (c.detectors report).Gives s found t ↔ ∃ chosen,
      ((r.ofTypes [.vulnDetection, .remoteVulnDetection]).mapM
        (c.choose (ReconReport.servicesOf report))).Gives s chosen t ∧
      chosen.filterMap id = found := by
  rw [detectors_eq, entries_eq hc]
  simp only [gives_bind_iff, gives_pure_iff]
  constructor
  · rintro ⟨chosen, _, hchosen, rfl, rfl⟩
    exact ⟨chosen, hchosen, rfl⟩
  · rintro ⟨chosen, hchosen, rfl⟩
    exact ⟨chosen, t, hchosen, rfl, rfl⟩

/-- The choice of detectors fails if that of an entry of their categories does. -/
theorem fails_detectors_iff {fault : PluginFault} (hc : c.registry = some r) :
    (c.detectors report).Fails s fault t ↔
      ((r.ofTypes [.vulnDetection, .remoteVulnDetection]).mapM
        (c.choose (ReconReport.servicesOf report))).Fails s fault t := by
  rw [detectors_eq, entries_eq hc]
  simp only [fails_bind_iff, not_fails_pure, and_false, exists_false, or_false]

/-- No plugin is chosen twice. -/
theorem nodup_ids_of_gives_detectors (hc : c.registry = some r) (hr : r.Reached)
    (h : (c.detectors report).Gives s found t) :
    (found.map (·.definition.pluginId)).Nodup := by
  obtain ⟨chosen, hchosen, rfl⟩ := (gives_detectors_iff hc).mp h
  have hids := sublist_of_forall₂ (k := fun e ↦ e.1.pluginId)
    (forall₂_of_gives_mapM (fun e _ chosen? s t h x hx ↦
      congrArg (·.pluginId) (definition_of_gives_choose h x hx)) hchosen)
  exact hr.nodup_ids.sublist (hids.trans (List.filter_sublist.map _))

private theorem purposes_of_gives_detectors (hc : c.registry = some r) (hr : r.Reached)
    (ht : ∀ e ∈ r.entries, e.1.HasTextTargets) (h : (c.detectors report).Gives s found t) :
    found.map (·.purpose) =
      (r.entries.map (·.1)).filterMap (c.purpose? (ReconReport.servicesOf report)) := by
  obtain ⟨chosen, hchosen, rfl⟩ := (gives_detectors_iff hc).mp h
  have hpurposes : List.Forall₂
      (fun e o ↦ o.map (·.purpose) = c.purpose? (ReconReport.servicesOf report) e.1)
      (r.ofTypes [.vulnDetection, .remoteVulnDetection]) chosen := by
    refine forall₂_of_gives_mapM (fun e he chosen? s t h ↦ ?_) hchosen
    obtain ⟨he, htype⟩ := List.mem_filter.mp he
    exact purpose_of_gives_choose (hr.isDefined e he) (ht e he) (by simpa using htype) h
  rw [map_filterMap_of_forall₂ hpurposes, Registry.ofTypes, List.filterMap_filter,
    List.filterMap_map]
  refine List.filterMap_congr fun e _ ↦ ?_
  split
  · rfl
  next htype =>
    have hskip : ¬ e.1.IsChosen c.web (ReconReport.servicesOf report) := by
      rintro (hremote | ⟨hlocal, -⟩)
      · simp [hremote] at htype
      · simp [hlocal] at htype
    exact (if_neg hskip).symm

/-- The detectors chosen for a report are the remote ones, the local ones without conditions, and
those with a condition that some service meets, in the order of registration and each once.
Detectors with conditions are for the services that meet one, in the order of the report, and
there are such; all others are for all services. -/
theorem detectors_select (hc : c.registry = some r) (hr : r.Reached)
    (ht : ∀ e ∈ r.entries, e.1.HasTextTargets) (h : (c.detectors report).Gives s found t) :
    found.map (·.purpose) =
        ((r.entries.map (·.1)).filter (·.IsChosen c.web (ReconReport.servicesOf report))).map
          (fun d ↦ (d, d.servicesChosen c.web (ReconReport.servicesOf report))) ∧
      (found.map (·.definition.pluginId)).Nodup ∧
      ∀ x ∈ found, x.definition.pluginType = .vulnDetection → ¬ x.definition.IsUnconditional →
        x.services ≠ [] := by
  have hpurposes : found.map (·.purpose) =
      ((r.entries.map (·.1)).filter (·.IsChosen c.web (ReconReport.servicesOf report))).map
        (fun d ↦ (d, d.servicesChosen c.web (ReconReport.servicesOf report))) := by
    rw [purposes_of_gives_detectors hc hr ht h, ← List.filterMap_eq_filter, List.map_filterMap]
    refine List.filterMap_congr fun d _ ↦ ?_
    simp [purpose?, Option.guard]
  refine ⟨hpurposes, nodup_ids_of_gives_detectors hc hr h, fun x hx hlocal hd ↦ ?_⟩
  have hx : x.purpose ∈ found.map (·.purpose) := List.mem_map_of_mem hx
  rw [hpurposes] at hx
  obtain ⟨d, hchosen, he⟩ := List.mem_map.mp hx
  obtain ⟨rfl, hservices⟩ := Prod.mk.inj he
  have hchosen := of_decide_eq_true (List.mem_filter.mp hchosen).2
  rw [← hservices]
  exact ((PluginDefinition.isChosen_iff_of_local hlocal).mp hchosen).resolve_left hd

/-- A frozen registry with a remote detector that has targets, a local one for names and web
services, one for software, and a scanner. -/
def mixedRegistry : Registry Factory where
  entries :=
    [({ pluginId := "mail", pluginType := .vulnDetection, targetNames := some ["smtp"] },
        { make := .error (.raised "never built") }),
     ({ pluginId := "web", pluginType := .vulnDetection, targetNames := some ["SSH", "pop3"],
        forWebService := true },
        { make := .ok { className := "Web", kind := .detector } }),
     ({ pluginId := "ports", pluginType := .portScan },
        { make := .ok { className := "Ports", kind := .portScanner } }),
     ({ pluginId := "far", pluginType := .remoteVulnDetection, targetNames := some ["ftp"] },
        { make := .ok { className := "Far", kind := .remoteDetector } }),
     ({ pluginId := "nginx", pluginType := .vulnDetection, targetSoftware := some (.text "Nginx") },
        { make := .ok { className := "Nginx", kind := .detector } })]
  isFrozen := true

/-- A report with two web services that are alike, one of them without known software. -/
def mixedReport : ReconReport where
  target := .text "t"
  services :=
    [{ host := .text "h", port := .int 80, name := "http", software := { name := "nginX" } },
     { host := .text "h", port := .int 22, name := "ssh", software := { name := "openssh" } },
     { host := .text "h", port := .int 80, name := "http" }]

/-- Detectors of all sorts are chosen from one registry, each for its services. -/
theorem detectors_select_mixed :
    ∃ found t,
      ({ registry := some mixedRegistry : Selector }.detectors mixedReport).Gives {} found t ∧
      found.map (fun x ↦ (x.definition.pluginId, x.services.map (·.name))) =
        [("web", ["http", "ssh", "http"]), ("far", ["http", "ssh", "http"]),
         ("nginx", ["http", "http"])] := by
  let c : Selector := { registry := some mixedRegistry }
  have hruns : ((c.detectors mixedReport).run.run {}).1.isOk = true := by decide +kernel
  have ht : ∀ e ∈ mixedRegistry.entries, e.1.HasTextTargets := by
    simp [mixedRegistry, PluginDefinition.HasTextTargets]
  rcases (c.detectors mixedReport).gives_or_fails {} with ⟨found, t, h⟩ | ⟨fault, t, h⟩
  · have hselect := (detectors_select rfl (by decide +kernel) ht h).1
    refine ⟨found, t, h, ?_⟩
    have hview := congrArg (List.map fun x ↦ (x.1.pluginId, x.2.map (·.name))) hselect
    rw [List.map_map] at hview
    exact hview.trans (by decide +kernel)
  · rw [show (c.detectors mixedReport).run.run {} = _ from h] at hruns
    cases hruns

end Selector
end VulnScanner
