import VulnScanner.Proofs.Plugin.Foresight
import VulnScanner.Proofs.Scan.Tasks

/-!
# Plugins that fail

A detector that fails while it runs keeps no other from running: the run is that of the registry
without it, but for the failure itself. A detector that cannot be built, though, is no failure of
its own: it makes the whole run fail, before any detector has run.
-/

namespace VulnScanner

/-! ### Registries without some plugins -/

namespace Registry

variable {F : Type} {r : Registry F} {ids : List String}

/-- The registry without the entries of some plugins. -/
def without (r : Registry F) (ids : List String) : Registry F :=
  { r with entries := r.entries.filter (·.1.pluginId ∉ ids) }

/-- Without some plugins, a registry is still one that registrations lead to. -/
theorem Reached.without (h : r.Reached) (ids : List String) : (r.without ids).Reached := by
  refine reached_iff.mpr ⟨fun e he ↦ h.isDefined e (List.mem_of_mem_filter he), ?_⟩
  exact h.nodup_ids.sublist (List.filter_sublist.map _)

/-- Leaving out plugins and picking out categories go together. -/
theorem ofTypes_without (types : List PluginType) :
    (r.without ids).ofTypes types = (r.ofTypes types).filter (·.1.pluginId ∉ ids) := by
  unfold ofTypes without
  rw [List.filter_filter, List.filter_filter]
  simp only [Bool.and_comm]

end Registry

namespace Scanner

variable {target : String} {s t : Session} {ids : List String}
  {results : List (String × Outcome)} {x : Selection} {p : Prospect}

/-! ### Results that were told -/

/-- The result of a task with a prospect. -/
def resultTold (target : String) (p : Prospect) : String × Outcome :=
  (p.definition.pluginId,
    match p.core with
    | none => .ok []
    | some core =>
      match core.1.detect target p.services with
      | .error fault => .error fault
      | .ok none => .ok []
      | .ok (some reports) => .ok (core.1.answer core.2 reports))

/-- What tasks come to depends on their prospects alone. -/
theorem map_resultOf (target : String) (t : Session) (tasks : List Selection) :
    tasks.map (resultOf target t) = (tasks.map (·.prospect t)).map (resultTold target) := by
  rw [List.map_map]
  refine List.map_congr_left fun x _ ↦ ?_
  change resultOf target t x = resultTold target (x.prospect t)
  unfold resultOf outcomeOf resultTold Selection.prospect Session.core?
  cases t.object? x.object <;> rfl

/-- A summary without plugins that have failed is the summary without their failures. -/
theorem summaryOf_filter
    (h : ∀ result ∈ results, result.1 ∈ ids → ∃ fault, result.2 = .error fault) :
    summaryOf target (results.filter (·.1 ∉ ids)) =
      { summaryOf target results with
        failed := (summaryOf target results).failed.filter (·.1 ∉ ids) } := by
  unfold summaryOf
  rw [ScanSummary.mk.injEq]
  refine ⟨rfl, ?_, ?_, ?_⟩
  · induction results with
    | nil => rfl
    | cons result rest ih =>
      rw [List.forall_mem_cons] at h
      by_cases hid : result.1 ∈ ids
      · obtain ⟨fault, hfault⟩ := h.1 hid
        simpa [hid, reportsOf, hfault] using ih h.2
      · simpa [hid] using ih h.2
  · rw [List.filterMap_filter, List.filter_filterMap]
    refine List.filterMap_congr fun result _ ↦ ?_
    obtain ⟨pluginId, fault | reports⟩ := result <;> simp [failureOf, Option.filter]
  · rw [List.filterMap_filter]
    refine List.filterMap_congr fun result hresult ↦ ?_
    by_cases hid : result.1 ∈ ids
    · obtain ⟨fault, hfault⟩ := h result hresult hid
      simp [hid, executedOf, hfault]
    · simp [hid]

end Scanner

/-! ### Choosing detectors without some plugins -/

namespace Selector

open SessionM

variable {c : Selector} {services : List NetworkService} {report : Option ReconReport}
  {s t u : Session} {r : Registry Factory} {ids : List String} {found found' : List Selection}
  {e : PluginDefinition × Factory} {p : Prospect} {fault : PluginFault}

private theorem definition_of_foreseen (h : c.foreseen services s e = some p) :
    p.definition = e.1 := by
  unfold foreseen at h
  split at h
  next hforesee =>
    subst h
    unfold foresee at hforesee
    split at hforesee
    · simp only [bind_eq_ok_iff] at hforesee
      obtain ⟨_, _, _, _, _, _, hp⟩ := hforesee
      cases hp
      rfl
    · obtain ⟨found, -, hforesee⟩ := bind_eq_ok_iff.mp hforesee
      split at hforesee
      · cases hforesee
      · obtain ⟨_, _, hp⟩ := bind_eq_ok_iff.mp hforesee
        cases hp
        rfl
  · cases h

/-- If the choice of detectors succeeds, it does without some of the plugins, with the same
prospects but for theirs. -/
theorem exists_gives_detectors_without (hr : r.Reached) (hs : s.Sound)
    (h : ({ c with registry := some r }.detectors report).Gives s found t) (ids : List String) :
    ∃ found' t', ({ c with registry := some (r.without ids) }.detectors report).Gives s found' t' ∧
      found'.map (·.prospect t') =
        (found.map (·.prospect t)).filter (·.definition.pluginId ∉ ids) ∧
      (found'.map (·.object)).Nodup := by
  rcases ({ c with registry := some (r.without ids) } : Selector).detectors report
    |>.gives_or_fails s with ⟨found', t', h'⟩ | hfails
  · obtain ⟨hprospects, -⟩ := prospects_of_gives_detectors rfl hr hs h
    obtain ⟨hprospects', hnodup⟩ := prospects_of_gives_detectors rfl (hr.without ids) hs h'
    refine ⟨found', t', h', ?_, hnodup⟩
    rw [hprospects, hprospects', Registry.ofTypes_without, List.filterMap_filter,
      List.filter_filterMap]
    refine List.filterMap_congr fun e _ ↦ ?_
    change (if _ then c.foreseen (ReconReport.servicesOf report) s e else none) =
      (c.foreseen (ReconReport.servicesOf report) s e).filter _
    cases hp : c.foreseen (ReconReport.servicesOf report) s e with
    | none => simp
    | some p =>
      have hid := congrArg (·.pluginId) (definition_of_foreseen hp)
      simp [Option.filter, hid]
  · obtain ⟨e, he, hfault⟩ := (exists_fails_detectors_iff rfl (hr.without ids) hs).mp hfails
    rw [Registry.ofTypes_without] at he
    have hfails := (exists_fails_detectors_iff (c := { c with registry := some r }) rfl hr hs).mpr
      ⟨e, List.mem_of_mem_filter he, hfault⟩
    obtain ⟨fault, t', hfails⟩ := hfails
    exact absurd hfails h.not_fails

/-- A detector that is chosen and cannot be built makes the choice of all detectors fail. -/
theorem fails_detectors_of_build (hc : c.registry = some r) (hr : r.Reached) (hs : s.Sound)
    (he : e ∈ r.entries) (ht : e.1.HasTextTargets)
    (hchosen : e.1.IsChosen c.web (ReconReport.servicesOf report))
    (h : (e.1.build e.2 e.1.pluginType.base).Fails s fault t) :
    ∃ fault t, (c.detectors report).Fails s fault t := by
  refine (exists_fails_detectors_iff hc hr hs).mpr ⟨e, List.mem_filter.mpr ⟨he, ?_⟩, fault, ?_⟩
  · rcases hchosen with hremote | ⟨hlocal, -⟩
    · simp [hremote]
    · simp [hlocal]
  · have hfault := PluginDefinition.fails_build hs h
    unfold foresee
    split
    next hremote =>
      rw [hremote] at hfault
      rw [show e.1.foresee e.2 .remoteDetector s = _ from hfault, error_bind]
    next hremote =>
      have hlocal := (hchosen.resolve_left hremote).1
      rw [hlocal] at hfault
      have hkept := (PluginDefinition.isSkipped_iff_of_local hlocal).not.mpr (not_not.mpr hchosen)
      rw [PluginDefinition.servicesFor_of_local (hr.isDefined e he) ht hlocal]
      change (if _ then _ else e.1.foresee e.2 .detector s >>= _) = _
      rw [if_neg hkept, show e.1.foresee e.2 .detector s = _ from hfault, error_bind]

end Selector

/-! ### Whole runs -/

namespace Scanner

/-- The scanner without some plugins. -/
def without (scanner : Scanner) (ids : List String) : Scanner :=
  { scanner with registry := scanner.registry.without ids }

variable {scanner : Scanner} {target : String} {report : Option ReconReport} {s t : Session}
  {tasks order : List Selection} {ids : List String}

private theorem failed_of_mem (hids : (tasks.map (·.definition.pluginId)).Nodup)
    (horder : order.Perm tasks)
    (hsub : ids ⊆ (summaryOf target (order.map (resultOf target t))).failed.map Prod.fst) :
    ∀ result ∈ order.map (resultOf target t), result.1 ∈ ids →
      ∃ fault, result.2 = .error fault := by
  have hnodup : ((order.map (resultOf target t)).map Prod.fst).Nodup := by
    rw [List.map_map]
    exact (horder.map _).nodup_iff.mpr hids
  intro result hresult hid
  obtain ⟨⟨pluginId, text⟩, hfailed, rfl⟩ := List.mem_map.mp (hsub hid)
  obtain ⟨fault, hfault, -⟩ := mem_failed_summaryOf_iff.mp hfailed
  exact ⟨fault, congrArg Prod.snd (List.inj_on_of_nodup_map hnodup hresult hfault rfl)⟩

/-- A run fails exactly if the choice of its detectors does, and with the same fault; so a single
detector that is chosen and cannot be built makes it fail as a whole. If all are built, the run
gives a summary, in which exactly the plugins failed whose detectors do; and without any of
those that failed the run is the same but for their failures, up to the order of the entries. -/
theorem detect_failures (hr : scanner.registry.Reached) (hs : s.Sound) {plan plan' : Nat → Schedule}
    (hplan : ∀ count, (plan count).IsComplete count)
    (hplan' : ∀ count, (plan' count).IsComplete count) (target : String)
    (report : Option ReconReport) :
    (∀ fault t, (scanner.detect plan target report).Fails s fault t ↔
      (scanner.selector.detectors report).Fails s fault t) ∧
    (∀ e ∈ scanner.registry.entries, e.1.HasTextTargets →
      e.1.IsChosen NetworkService.isWeb (ReconReport.servicesOf report) →
      (∃ fault t, (e.1.build e.2 e.1.pluginType.base).Fails s fault t) →
        ∃ fault t, (scanner.detect plan target report).Fails s fault t) ∧
    ∀ tasks t, (scanner.selector.detectors report).Gives s tasks t →
      ∃ summary u, (scanner.detect plan target report).Gives s summary u ∧
        Accounts target t tasks summary ∧
        ∀ ids ⊆ summary.failed.map Prod.fst, ∃ summary' u',
          ((scanner.without ids).detect plan' target report).Gives s summary' u' ∧
          summary'.SameUpToOrder
            { summary with failed := summary.failed.filter (·.1 ∉ ids) } := by
  refine ⟨fun _ _ ↦ fails_detect_iff, fun e he ht hchosen hbuild ↦ ?_, fun tasks t htasks ↦ ?_⟩
  · obtain ⟨fault, t, hbuild⟩ := hbuild
    simp only [fails_detect_iff]
    exact Selector.fails_detectors_of_build rfl hr hs he ht hchosen hbuild
  · have hids := Selector.nodup_ids_of_gives_detectors rfl hr htasks
    have hobj := (Selector.prospects_of_gives_detectors rfl hr hs htasks).2
    obtain ⟨order, horder, u, hgives⟩ := exists_gives_detect hr htasks hobj hplan
    refine ⟨_, u, hgives, accounts_summaryOf hids horder, fun ids hsub ↦ ?_⟩
    obtain ⟨tasks', t', htasks', hprospects, hobj'⟩ :=
      Selector.exists_gives_detectors_without (c := scanner.selector) hr hs htasks ids
    have htasks' : ((scanner.without ids).selector.detectors report).Gives s tasks' t' := htasks'
    obtain ⟨order', horder', u', hgives'⟩ :=
      exists_gives_detect (hr.without ids) htasks' hobj' hplan'
    refine ⟨_, u', hgives', ?_⟩
    have hresults : tasks'.map (resultOf target t') =
        (tasks.map (resultOf target t)).filter (·.1 ∉ ids) := by
      rw [map_resultOf, map_resultOf, hprospects, List.filter_map (f := resultTold target)]
      rfl
    rw [← summaryOf_filter (failed_of_mem hids horder hsub)]
    refine summaryOf_perm ((horder'.map _).trans ?_)
    rw [hresults]
    exact ((horder.map _).filter _).symm

/-- A scanner with a detector that fails when it is built and one that fails when it runs, beside
one that finds something. -/
def brokenScanner : Scanner where
  registry :=
    { entries :=
        [({ pluginId := "unbuilt", pluginType := .vulnDetection },
            { make := .error (.raised "factory failed") }),
          ({ pluginId := "failing", pluginType := .vulnDetection },
            { make := .ok (fixedDetector (.error (.raised "boom"))) }),
          ({ pluginId := "good", pluginType := .vulnDetection },
            { make := .ok (fixedDetector (.ok (some []))) })] }

/-- The run fails for the detector that cannot be built; without it the run gives a summary, and
this is the same without the one that fails. -/
theorem detect_failures_broken :
    (∃ fault t, (brokenScanner.detect .sequential "t" none).Fails {} fault t) ∧
      ∃ summary u summary' u',
        ((brokenScanner.without ["unbuilt"]).detect .sequential "t" none).Gives {} summary u ∧
        ("failing", "boom") ∈ summary.failed ∧
        (((brokenScanner.without ["unbuilt"]).without ["failing"]).detect .sequential "t"
          none).Gives {} summary' u' ∧
        summary'.executed.Perm summary.executed := by
  have hcomplete := Schedule.isComplete_sequential
  constructor
  · obtain ⟨-, hbuild, -⟩ := detect_failures (by decide +kernel : brokenScanner.registry.Reached)
      Session.sound_empty hcomplete hcomplete "t" none
    exact hbuild _ List.mem_cons_self (by simp [PluginDefinition.HasTextTargets])
      (by decide) ⟨.raised "factory failed", { calls := ["unbuilt"] }, rfl⟩
  · have htasks : ((brokenScanner.without ["unbuilt"]).selector.detectors none).Gives {}
        ((brokenScanner.without ["unbuilt"]).definitions.zipIdx.map fun e ↦
          { definition := e.1, object := e.2 })
        { objects :=
            [{ blueprint := fixedDetector (.error (.raised "boom")) },
              { blueprint := fixedDetector (.ok (some [])) }]
          calls := ["failing", "good"] } := rfl
    obtain ⟨-, -, hruns⟩ := detect_failures
      (by decide +kernel : (brokenScanner.without ["unbuilt"]).registry.Reached)
      Session.sound_empty hcomplete hcomplete "t" none
    obtain ⟨summary, u, hgives, haccounts, hwithout⟩ := hruns _ _ htasks
    have hfailed : ("failing", "boom") ∈ summary.failed :=
      (haccounts.mem_failed_iff ..).mpr ⟨_, List.mem_of_getElem? (i := 0) rfl, rfl,
        { blueprint := fixedDetector (.error (.raised "boom")) }, .raised "boom", rfl, rfl, rfl⟩
    have hsub : ["failing"] ⊆ summary.failed.map Prod.fst := by
      simpa using ⟨_, hfailed⟩
    obtain ⟨summary', u', hgives', hsame⟩ := hwithout _ hsub
    exact ⟨summary, u, summary', u', hgives, hfailed, hgives', hsame.executed⟩

end Scanner
end VulnScanner
