import Mathlib.Data.List.Find
import VulnScanner.Proofs.Plugin.Calls
import VulnScanner.Scan.Summary

/-!
# Fingerprinting

Each service of a report is refined by itself: by the fingerprinter that was registered first among
those for its name, or not at all. Which one that is does not depend on the software of the service,
nor on anything else in the report; and where a service cannot be refined, the first such service
counts.
-/

namespace VulnScanner

open SessionM

/-! ### The fingerprinter of a service -/

/-- A fingerprinter for a service: it is for the name of the service, which may not be known yet, or
it is for web services and the service is one. -/
def PluginDefinition.Fingerprints (d : PluginDefinition) (service : NetworkService) : Prop :=
  d.pluginType = .serviceFingerprint ∧
    (d.MeetsNames service ∨ d.forWebService = true ∧ service.isWeb = true)

instance (d : PluginDefinition) (service : NetworkService) : Decidable (d.Fingerprints service) :=
  inferInstanceAs (Decidable (_ ∧ (_ ∨ _ ∧ _)))

/-- Whether a fingerprinter is for a service is told by the name and the request methods alone. -/
theorem PluginDefinition.fingerprints_congr {d : PluginDefinition}
    {service service' : NetworkService} (hname : service.name = service'.name)
    (hmethods : service.methods = service'.methods) :
    d.Fingerprints service ↔ d.Fingerprints service' := by
  unfold Fingerprints MeetsNames NetworkService.isWeb
  rw [hname, hmethods]

namespace Registry

variable {F : Type} {r : Registry F} {service : NetworkService} {e : PluginDefinition × F}

/-- The entry that was registered first among those of fingerprinters for a service. -/
def IsFingerprinterOf (r : Registry F) (service : NetworkService) (e : PluginDefinition × F) :
    Prop :=
  e.1.Fingerprints service ∧ ∃ before after, r.entries = before ++ e :: after ∧
    ∀ other ∈ before, ¬ other.1.Fingerprints service

/-- Searches for the fingerprinter of a service. -/
def fingerprinter? (r : Registry F) (service : NetworkService) : Option (PluginDefinition × F) :=
  r.entries.find? (·.1.Fingerprints service)

/-- The search finds the one that was registered first. -/
theorem fingerprinter?_eq_some_iff :
    r.fingerprinter? service = some e ↔ r.IsFingerprinterOf service e := by
  rw [fingerprinter?, List.find?_eq_some_iff_append]
  simp [IsFingerprinterOf]

/-- The search finds nothing exactly if no entry is for the service. -/
theorem fingerprinter?_eq_none_iff :
    r.fingerprinter? service = none ↔ ∀ e ∈ r.entries, ¬ e.1.Fingerprints service := by
  rw [fingerprinter?, List.find?_eq_none]
  simp only [decide_eq_true_eq]

/-- The fingerprinter of a service is one of the entries. -/
theorem IsFingerprinterOf.mem (h : r.IsFingerprinterOf service e) : e ∈ r.entries := by
  obtain ⟨-, before, after, hr, -⟩ := h
  exact hr ▸ List.mem_append_right _ List.mem_cons_self

/-- What a selector searches for among the fingerprinters is the fingerprinter of the service. -/
theorem find?_matchesName {r : Registry Factory} (hr : r.Reached) :
    (Selector.entries { registry := some r } [.serviceFingerprint]).find?
        (fun e ↦ e.1.matchesName NetworkService.isWeb service) = r.fingerprinter? service := by
  change (r.ofTypes [.serviceFingerprint]).find? _ = _
  rw [ofTypes, List.find?_filter, fingerprinter?]
  refine List.find?_congr fun e he ↦ ?_
  rw [Bool.decide_and, Bool.decide_eq_true, Bool.decide_eq_true, Bool.eq_iff_iff,
    Bool.and_eq_true, decide_eq_true_iff, PluginDefinition.matchesName_iff (hr.isDefined e he)]
  simp [PluginDefinition.Fingerprints]

end Registry

/-- What was told of a plugin does not change when it has been built itself. -/
theorem PluginDefinition.foresee_of_gives_build {d : PluginDefinition} {f : Factory}
    {base : PluginBase} {s t : Session} {number : Nat} (h : (d.build f base).Gives s number t)
    (other : PluginBase) : d.foresee f other t = d.foresee f other s := by
  unfold foresee
  rcases gives_call_iff.mp (gives_build_iff.mp h).1 with ⟨-, -, rfl⟩ | ⟨hnew, b, hmake, -, rfl⟩
  · rfl
  cases hshared : f.isShared with
  | false => rfl
  | true =>
    have hlookup : (s.built d.pluginId true b).shared.lookup d.pluginId =
        some s.objects.length := by simp [Session.built]
    simp only [if_true, hlookup, Session.core?_built, hnew hshared, hmake]
    rfl

/-! ### One service -/

namespace Scanner

variable {c : Scanner} {s u v : Session} {target : String} {service new : NetworkService}
  {fault : PluginFault}

/-- What becomes of a service, told from the session before: by which fingerprinter and with which
outcome. -/
inductive Refines (c : Scanner) (s : Session) (target : String) (service : NetworkService) :
    Option PluginDefinition → Except PluginFault NetworkService → Prop
  /-- It stays as it is, if no fingerprinter is for it. -/
  | unmatched (h : ∀ e ∈ c.registry.entries, ¬ e.1.Fingerprints service) :
      Refines c s target service none (.ok service)
  /-- Its fingerprinter cannot be built. -/
  | unbuilt {e : PluginDefinition × Factory} {fault : PluginFault}
      (h : c.registry.IsFingerprinterOf service e)
      (hfault : e.1.foresee e.2 .fingerprinter s = .error fault) :
      Refines c s target service (some e.1) (.error fault)
  /-- Its fingerprinter makes something of it, or fails at it. -/
  | matched {e : PluginDefinition × Factory} {core : PluginCore}
      (h : c.registry.IsFingerprinterOf service e)
      (hcore : e.1.foresee e.2 .fingerprinter s = .ok core) :
      Refines c s target service (some e.1) (core.1.refine target service)

/-- What a service is refined to. -/
def refined (c : Scanner) (s : Session) (target : String) (service : NetworkService) :
    Except PluginFault NetworkService :=
  match c.registry.fingerprinter? service with
  | none => .ok service
  | some (d, f) => d.foresee f .fingerprinter s >>= fun core ↦ core.1.refine target service

/-- What becomes of a service is what it is refined to, by the fingerprinter that is found. -/
theorem refines_iff {d? : Option PluginDefinition} {outcome : Except PluginFault NetworkService} :
    c.Refines s target service d? outcome ↔
      (c.registry.fingerprinter? service).map (·.1) = d? ∧
        c.refined s target service = outcome := by
  unfold refined
  constructor
  · rintro (h | ⟨h, hfault⟩ | ⟨h, hcore⟩)
    · rw [Registry.fingerprinter?_eq_none_iff.mpr h]
      exact ⟨rfl, rfl⟩
    · rw [Registry.fingerprinter?_eq_some_iff.mpr h]
      exact ⟨rfl, by simp only [hfault, error_bind]⟩
    · rw [Registry.fingerprinter?_eq_some_iff.mpr h]
      exact ⟨rfl, by simp only [hcore, ok_bind]⟩
  · rintro ⟨rfl, rfl⟩
    cases hfind : c.registry.fingerprinter? service with
    | none => exact .unmatched (Registry.fingerprinter?_eq_none_iff.mp hfind)
    | some e =>
      have hfirst := Registry.fingerprinter?_eq_some_iff.mp hfind
      dsimp only [Option.map_some]
      cases htold : e.1.foresee e.2 .fingerprinter s with
      | error fault => exact .unbuilt hfirst htold
      | ok core => exact .matched hfirst htold

/-- In a session the plugins of a registry are what they were in another one. -/
structure Stays (c : Scanner) (s u : Session) : Prop where
  sound : u.Sound
  foresee_eq : ∀ e ∈ c.registry.entries, ∀ base, e.1.foresee e.2 base u = e.1.foresee e.2 base s

/-- Building one of the plugins leaves all of them what they were. -/
private theorem Stays.build {e : PluginDefinition × Factory} {base : PluginBase} {number : Nat}
    (hr : c.registry.Reached) (hu : c.Stays s u) (he : e ∈ c.registry.entries)
    (h : (e.1.build e.2 base).Gives u number v) : c.Stays s v := by
  obtain ⟨hgrows, hsound, -⟩ := PluginDefinition.gives_build hu.sound h
  refine ⟨hsound, fun e' he' other ↦ ?_⟩
  rw [← hu.foresee_eq e' he' other]
  by_cases hid : e'.1.pluginId = e.1.pluginId
  · obtain rfl : e' = e := List.inj_on_of_nodup_map hr.nodup_ids he' he hid
    exact PluginDefinition.foresee_of_gives_build h other
  · exact PluginDefinition.foresee_congr hu.sound hgrows (by simpa using hid)

/-- The identifier of the fingerprinter that is built for a service. -/
def builtFor (c : Scanner) (service : NetworkService) : Option String :=
  (c.registry.fingerprinter? service).map (·.1.pluginId)

private theorem selector_fingerprinter?_eq (hr : c.registry.Reached) :
    c.selector.fingerprinter? service =
      match c.registry.fingerprinter? service with
      | none => pure none
      | some e => e.1.build e.2 .fingerprinter >>= fun number ↦
          pure (some { definition := e.1, object := number, services := [service] }) := by
  unfold Selector.fingerprinter? selector
  dsimp only
  rw [Registry.find?_matchesName hr]
  cases c.registry.fingerprinter? service <;> rfl

/-- A service is refined as was told, with one call for its fingerprinter if there is one. -/
theorem gives_refineService (hr : c.registry.Reached) (hu : c.Stays s u)
    (h : (c.refineService target service).Gives u new v) :
    c.refined s target service = .ok new ∧ c.Stays s v ∧
      v.calls = u.calls ++ (c.builtFor service).toList := by
  unfold refineService at h
  rw [selector_fingerprinter?_eq hr] at h
  unfold refined builtFor
  cases hfind : c.registry.fingerprinter? service with
  | none =>
    rw [hfind, pure_bind] at h
    obtain ⟨rfl, rfl⟩ := gives_pure_iff.mp h
    exact ⟨rfl, hu, (List.append_nil _).symm⟩
  | some e =>
    have he := (Registry.fingerprinter?_eq_some_iff.mp hfind).mem
    rw [hfind] at h
    simp only [bind_assoc, pure_bind, gives_bind_iff, gives_get_iff] at h
    obtain ⟨number, w, hbuild, _, _, ⟨rfl, rfl⟩, h⟩ := h
    obtain ⟨-, -, -, core, htold, -, hcore⟩ := PluginDefinition.gives_build hu.sound hbuild
    obtain ⟨o, ho, rfl⟩ := Option.map_eq_some_iff.mp hcore
    rw [ho] at h
    obtain ⟨hrefine, rfl⟩ := gives_ofExcept_iff.mp h
    have hcalls := (tellsCalls_build e.1 e.2 .fingerprinter u number w hbuild).1
    refine ⟨?_, hu.build hr he hbuild, hcalls⟩
    dsimp only
    rw [← hu.foresee_eq e he .fingerprinter, htold, ok_bind, hrefine]

/-- A service that cannot be refined fails as was told. -/
theorem fails_refineService (hr : c.registry.Reached) (hu : c.Stays s u)
    (h : (c.refineService target service).Fails u fault v) :
    c.refined s target service = .error fault := by
  unfold refineService at h
  rw [selector_fingerprinter?_eq hr] at h
  unfold refined
  cases hfind : c.registry.fingerprinter? service with
  | none =>
    rw [hfind, pure_bind] at h
    exact absurd h not_fails_pure
  | some e =>
    have he := (Registry.fingerprinter?_eq_some_iff.mp hfind).mem
    rw [hfind] at h
    simp only [bind_assoc, pure_bind, fails_bind_iff, gives_get_iff, not_fails_get, false_or] at h
    dsimp only
    rw [← hu.foresee_eq e he .fingerprinter]
    rcases h with h | ⟨number, w, hbuild, _, _, ⟨rfl, rfl⟩, h⟩
    · rw [PluginDefinition.fails_build hu.sound h, error_bind]
    · obtain ⟨-, -, -, core, htold, -, hcore⟩ := PluginDefinition.gives_build hu.sound hbuild
      obtain ⟨o, ho, rfl⟩ := Option.map_eq_some_iff.mp hcore
      rw [ho] at h
      obtain ⟨⟨_, hrefine, rfl⟩, -⟩ := fails_ofExcept_iff.mp h
      rw [htold, ok_bind, hrefine]
      rfl

/-! ### All services -/

variable {services news : List NetworkService}

private theorem gives_refineAll (hr : c.registry.Reached) (hu : c.Stays s u)
    (h : (services.mapM (c.refineService target)).Gives u news v) :
    services.mapM (c.refined s target) = .ok news ∧
      v.calls = u.calls ++ services.filterMap c.builtFor := by
  induction services generalizing u news with
  | nil =>
    obtain ⟨rfl, rfl⟩ := gives_mapM_nil_iff.mp h
    exact ⟨rfl, (List.append_nil _).symm⟩
  | cons service rest ih =>
    obtain ⟨new, w, news, hnew, hrest, rfl⟩ := gives_mapM_cons_iff.mp h
    obtain ⟨htold, hw, hcalls⟩ := gives_refineService hr hu hnew
    obtain ⟨htold', hcalls'⟩ := ih hw hrest
    constructor
    · rw [List.mapM_cons, htold, ok_bind, htold', ok_bind]
      rfl
    · rw [hcalls', hcalls, List.append_assoc]
      cases hfind : c.builtFor service <;> simp [hfind]

private theorem fails_refineAll (hr : c.registry.Reached) (hu : c.Stays s u)
    (h : (services.mapM (c.refineService target)).Fails u fault v) :
    services.mapM (c.refined s target) = .error fault := by
  induction services generalizing u with
  | nil => exact absurd h not_fails_mapM_nil
  | cons service rest ih =>
    rw [List.mapM_cons]
    rcases fails_mapM_cons_iff.mp h with h | ⟨new, w, hnew, h⟩
    · rw [fails_refineService hr hu h, error_bind]
    · obtain ⟨htold, hw, -⟩ := gives_refineService hr hu hnew
      rw [htold, ok_bind, ih hw h, error_bind]

/-- What fingerprinting makes of a report, told from the session before. -/
structure Fingerprints (c : Scanner) (s : Session) (target : String) (report : ReconReport) :
    Prop where
  /-- The new report has the target of the old one, and at each position what becomes of the service
  there. One factory is called for each position with a fingerprinter. -/
  gives : ∀ new t, (c.fingerprint target report).Gives s new t →
    ∃ steps : List (Option PluginDefinition × NetworkService),
      List.Forall₂ (fun service x ↦ c.Refines s target service x.1 (.ok x.2))
          report.services steps ∧
        new = ⟨report.target, steps.map (·.2)⟩ ∧ new.services.length = report.services.length ∧
        t.calls = s.calls ++ (steps.filterMap (·.1)).map (·.pluginId)
  /-- It fails as the first service does that cannot be refined. -/
  fails_iff : ∀ fault, (∃ t, (c.fingerprint target report).Fails s fault t) ↔
    ∃ before service after, report.services = before ++ service :: after ∧
      (∀ other ∈ before, ∃ d? new, c.Refines s target other d? (.ok new)) ∧
      ∃ d?, c.Refines s target service d? (.error fault)
  /-- Services of one name and with the same request methods have the same fingerprinter, whatever
  their software is, in whatever reports and sessions. -/
  congr : ∀ s' target' service service' d? d?' outcome outcome',
    service.name = service'.name → service.methods = service'.methods →
    c.Refines s target service d? outcome → c.Refines s' target' service' d?' outcome' → d? = d?'
  /-- Fingerprinters are for names or for web services. -/
  aimed : ∀ service d outcome, c.Refines s target service (some d) outcome →
    d.targetNames ≠ none ∨ d.forWebService = true

private theorem exists_steps
    (h : List.Forall₂ (fun service new ↦ c.refined s target service = .ok new) services news) :
    ∃ steps : List (Option PluginDefinition × NetworkService),
      List.Forall₂ (fun service x ↦ c.Refines s target service x.1 (.ok x.2)) services steps ∧
        steps.map (·.2) = news ∧
        (steps.filterMap (·.1)).map (·.pluginId) = services.filterMap c.builtFor := by
  induction h with
  | nil => exact ⟨[], .nil, rfl, rfl⟩
  | @cons service new _ _ hnew _ ih =>
    obtain ⟨steps, hsteps, rfl, hbuilt⟩ := ih
    refine ⟨((c.registry.fingerprinter? service).map (·.1), new) :: steps,
      .cons (refines_iff.mpr ⟨rfl, hnew⟩) hsteps, rfl, ?_⟩
    have hid : c.builtFor service =
        ((c.registry.fingerprinter? service).map (·.1)).map (·.pluginId) := (Option.map_map ..).symm
    simp only [List.filterMap_cons, hid, ← hbuilt]
    cases c.registry.fingerprinter? service <;> rfl

private theorem fingerprinter?_congr {r : Registry Factory} {service service' : NetworkService}
    (hname : service.name = service'.name) (hmethods : service.methods = service'.methods) :
    r.fingerprinter? service = r.fingerprinter? service' := by
  simp only [Registry.fingerprinter?, PluginDefinition.fingerprints_congr hname hmethods]

private theorem aimed_of_fingerprints {d : PluginDefinition} (h : d.Fingerprints service) :
    d.targetNames ≠ none ∨ d.forWebService = true := by
  obtain ⟨-, ⟨names, hnames, -⟩ | ⟨hweb, -⟩⟩ := h
  · exact .inl (Option.ne_none_iff_exists'.mpr ⟨names, hnames⟩)
  · exact .inr hweb

/-- Fingerprinting refines each service of a report by itself, by the first fingerprinter for it. -/
theorem fingerprints (hr : c.registry.Reached) (hs : s.Sound) (target : String)
    (report : ReconReport) : c.Fingerprints s target report where
  gives new t h := by
    obtain ⟨news, _, hnews, h⟩ := gives_bind_iff.mp h
    obtain ⟨rfl, rfl⟩ := gives_pure_iff.mp h
    obtain ⟨htold, hcalls⟩ := gives_refineAll hr ⟨hs, fun _ _ _ ↦ rfl⟩ hnews
    obtain ⟨steps, hsteps, rfl, hbuilt⟩ := exists_steps (mapM_eq_ok_iff_forall₂.mp htold)
    refine ⟨steps, hsteps, rfl, ?_, by rw [hcalls, hbuilt]⟩
    rw [List.length_map, hsteps.length_eq]
  fails_iff fault := by
    have hfails : (∃ t, (c.fingerprint target report).Fails s fault t) ↔
        report.services.mapM (c.refined s target) = .error fault := by
      simp only [fingerprint, fails_bind_iff, not_fails_pure, and_false, exists_false, or_false]
      constructor
      · rintro ⟨t, h⟩
        exact fails_refineAll hr ⟨hs, fun _ _ _ ↦ rfl⟩ h
      · intro htold
        rcases gives_or_fails (report.services.mapM (c.refineService target)) s with
          ⟨news, t, h⟩ | ⟨fault', t, h⟩
        · rw [(gives_refineAll hr ⟨hs, fun _ _ _ ↦ rfl⟩ h).1] at htold
          cases htold
        · rw [fails_refineAll hr ⟨hs, fun _ _ _ ↦ rfl⟩ h] at htold
          cases htold
          exact ⟨t, h⟩
    rw [hfails, mapM_eq_error_iff]
    simp only [refines_iff, exists_and_right, exists_eq', exists_and_left, true_and]
  congr _ _ _ _ _ _ _ _ hname hmethods h h' := by
    rw [← (refines_iff.mp h).1, ← (refines_iff.mp h').1, fingerprinter?_congr hname hmethods]
  aimed service d outcome h := by
    obtain ⟨e, he, rfl⟩ := Option.map_eq_some_iff.mp (refines_iff.mp h).1
    exact aimed_of_fingerprints (Registry.fingerprinter?_eq_some_iff.mp he).1

/-- A scanner with a fingerprinter for software alone, a shared one for a name, one for web
services, and one that cannot be built behind them. -/
def fingerprintScanner : Scanner where
  registry := {
    entries :=
      [({ pluginId := "nginx", pluginType := .serviceFingerprint,
          targetSoftware := some (.text "nginx") }, { make := .error (.raised "never built") }),
       ({ pluginId := "ssh", pluginType := .serviceFingerprint, targetNames := some ["SSH"] },
        { isShared := true
          make := .ok
            { className := "Ssh"
              kind := .fingerprinter
              refine := fun target s ↦
                .ok { s with name := "ssh", software := { name := target ++ "-sshd" } } } }),
       ({ pluginId := "web", pluginType := .serviceFingerprint, forWebService := true },
        { make := .ok
            { className := "Web"
              kind := .fingerprinter
              refine := fun _ s ↦ .ok { s with software := { name := "httpd" } } } }),
       ({ pluginId := "late", pluginType := .serviceFingerprint,
          targetNames := some ["http", "pop3"] },
        { make := .error (.raised "cannot be built") })] }

/-- A report with services that are refined and one that is not, under names in either case. -/
def fingerprintReport : ReconReport where
  target := .text "found"
  services :=
    [{ host := .text "h", port := .int 80, name := "HTTP", software := { name := "nginx" } },
     { host := .text "h", port := .int 22 },
     { host := .text "h", port := .int 21, name := "ftp", software := { name := "nginx" } },
     { host := .text "h", port := .int 2222, name := "ssh" }]

/-- Each service is refined by the first fingerprinter for it, and that is called once for each. -/
theorem fingerprints_shared :
    fingerprintScanner.registry.Reached ∧ Session.Sound {} ∧
      fingerprintScanner.Fingerprints {} "t" fingerprintReport ∧
      ∃ new t, (fingerprintScanner.fingerprint "t" fingerprintReport).Gives {} new t ∧
        new.services.map (fun s ↦ (s.name, s.software.name)) =
          [("HTTP", "httpd"), ("ssh", "t-sshd"), ("ftp", "nginx"), ("ssh", "t-sshd")] ∧
        t.calls = ["web", "ssh", "ssh"] := by
  have hr : fingerprintScanner.registry.Reached := by decide +kernel
  refine ⟨hr, Session.sound_empty, fingerprints hr Session.sound_empty _ _, ?_⟩
  let x := fingerprintScanner.fingerprint "t" fingerprintReport
  have hview : (x.run.run {}).1.toOption.map
      (fun new ↦ new.services.map fun s ↦ (s.name, s.software.name)) =
        some [("HTTP", "httpd"), ("ssh", "t-sshd"), ("ftp", "nginx"), ("ssh", "t-sshd")] := by
    decide +kernel
  have hcalls : (x.run.run {}).2.calls = ["web", "ssh", "ssh"] := by decide +kernel
  rcases x.gives_or_fails {} with ⟨new, t, h⟩ | ⟨fault, t, h⟩ <;>
    rw [show x.run.run {} = _ from h] at hview hcalls
  · exact ⟨new, t, h, Option.some.inj hview, hcalls⟩
  · cases hview

end Scanner
end VulnScanner
