import VulnScanner.Proofs.Plugin.Matching

/-!
# Definitions tell services apart

A definition that passes its checks and has a condition is for some services and not for others:
every condition can be met, and none is met by all services. So the definitions that are for every
service are just those without any condition.
-/

namespace VulnScanner

/-! ### Services -/

/-- A service of which only the methods are known, by which it is a web service. -/
def unnamedWebService : NetworkService :=
  { host := .text "h", port := .int 80, methods := ["GET"] }

/-- Of any texts another one is longer than each. -/
private theorem exists_longer (texts : List String) :
    ∃ long : String, ∀ s ∈ texts, s.length < long.length := by
  induction texts with
  | nil => exact ⟨"", nofun⟩
  | cons s rest ih =>
    obtain ⟨long, hlong⟩ := ih
    have hlength : (s ++ long ++ "x").length = s.length + long.length + 1 := by
      rw [String.length_append, String.length_append]
      rfl
    refine ⟨s ++ long ++ "x", List.forall_mem_cons.mpr ⟨by omega, fun r hr ↦ ?_⟩⟩
    have hr := hlong r hr
    omega

/-- A text has not the letters of a longer one. -/
private theorem not_sameLetters_of_length_lt {s long : String} (h : s.length < long.length) :
    ¬ Text.SameLetters s long :=
  fun hsame ↦ Nat.ne_of_lt h hsame.length_eq

/-- A service without methods is no web service if its name is longer than those of all of them. -/
private theorem isWeb_of_long {s : NetworkService} (hmethods : s.methods = [])
    (hlong : ∀ name ∈ NetworkService.webNames, name.length < s.name.length) : s.isWeb = false := by
  have hname : Text.asciiLower s.name ∉ NetworkService.webNames := by
    intro hmem
    have hlt := hlong _ hmem
    rw [Text.length_asciiLower] at hlt
    exact Nat.lt_irrefl _ hlt
  simp [NetworkService.isWeb, hmethods, hname]

namespace PluginDefinition

variable {d : PluginDefinition}

/-- While the name and the software of a web service are not known, it meets every condition. -/
theorem meets_unnamedWebService (ht : d.HasTextTargets) (hconditions : ¬ d.IsUnconditional) :
    d.Meets NetworkService.isWeb unnamedWebService := by
  cases hnames : d.targetNames with
  | some names => exact .inl ⟨names, hnames, .inl rfl⟩
  | none =>
    cases hsoftware : d.targetSoftware with
    | some v =>
      obtain ⟨software, rfl⟩ := ht v hsoftware
      refine .inr (.inr ?_)
      rw [MeetsSoftware, hsoftware]
      exact .inl rfl
    | none =>
      cases hweb : d.forWebService with
      | false => exact absurd ⟨hnames, hsoftware, hweb⟩ hconditions
      | true => exact .inr (.inl ⟨hweb, rfl⟩)

/-- A service meets target software if that is a text, and its own is not known or the same. -/
private theorem meetsSoftware_iff {s : NetworkService} : d.MeetsSoftware s ↔
    ∃ software, d.targetSoftware = some (.text software) ∧
      (s.software.name = "" ∨ Text.SameLetters software s.software.name) := by
  unfold MeetsSoftware
  split
  next software hsoftware => simp [hsoftware]
  next hother =>
    refine iff_of_false id ?_
    rintro ⟨software, hsoftware, -⟩
    exact hother software hsoftware

/-- There is a service that meets no condition: its name and its software are too long for that. -/
theorem exists_not_meets (d : PluginDefinition) : ∃ s, ¬ d.Meets NetworkService.isWeb s := by
  -- one text is longer than all that any rule compares with, so no rule finds it the same
  obtain ⟨long, hlong⟩ := exists_longer ("" :: (NetworkService.webNames ++
    d.targetNames.getD [] ++ (d.targetSoftware.map Value.display).toList))
  simp only [List.forall_mem_cons, List.forall_mem_append] at hlong
  obtain ⟨hempty, ⟨hweb, hnames⟩, hsoftware⟩ := hlong
  have hne : long ≠ "" := by
    rintro rfl
    exact Nat.lt_irrefl _ hempty
  refine ⟨{ host := .text "h", port := .int 80, name := long, software := { name := long } }, ?_⟩
  rintro (⟨names, htargets, hname | ⟨name, hmem, hname⟩⟩ | ⟨-, hisWeb⟩ | hmeets)
  · exact hne hname
  · rw [Option.mem_def.mp htargets] at hnames
    exact not_sameLetters_of_length_lt (hnames name hmem) hname
  · rw [isWeb_of_long rfl hweb] at hisWeb
    cases hisWeb
  · obtain ⟨software, htarget, hunknown | hsame⟩ := meetsSoftware_iff.mp hmeets
    · exact hne hunknown
    · rw [htarget] at hsoftware
      exact not_sameLetters_of_length_lt (hsoftware software List.mem_cons_self) hsame

/-- How a definition tells services apart, when web services are known by their methods and
names. -/
structure TellsApart (d : PluginDefinition) : Prop where
  /-- Without a condition it is for every service of every report. -/
  keeps_all : d.isUnconstrained = true →
    ∀ services, d.servicesFor NetworkService.isWeb services = .ok services
  /-- With a condition it is for some service and not for another one. -/
  separates : d.isUnconstrained = false →
    ∃ s s', d.servicesFor NetworkService.isWeb [s] = .ok [s] ∧
      d.servicesFor NetworkService.isWeb [s'] = .ok []
  /-- So the definitions that are for every service are those without a condition. -/
  keeps_all_iff : d.isUnconstrained = true ↔
    ∀ s, d.servicesFor NetworkService.isWeb [s] = .ok [s]

/-- A definition with a condition is for the services that meet one. -/
private theorem servicesFor_of_conditions (hd : d.IsDefined) (ht : d.HasTextTargets)
    (hconditions : ¬ d.IsUnconditional) (services : List NetworkService) :
    d.servicesFor NetworkService.isWeb services =
      .ok (services.filter (d.Meets NetworkService.isWeb)) := by
  rw [servicesFor_eq hd ht, if_neg hconditions]

/-- A definition that has passed its checks tells services apart. -/
theorem TellsApart.of_isDefined (hd : d.IsDefined) (ht : d.HasTextTargets) : d.TellsApart := by
  have hkeeps : d.isUnconstrained = true →
      ∀ services, d.servicesFor NetworkService.isWeb services = .ok services := by
    intro hfree services
    rw [servicesFor_eq hd ht, if_pos (PluginDefinition.isUnconstrained_iff.mp hfree)]
  have hseparates : d.isUnconstrained = false → ∃ s s',
      d.servicesFor NetworkService.isWeb [s] = .ok [s] ∧
        d.servicesFor NetworkService.isWeb [s'] = .ok [] := by
    intro hbound
    have hconditions : ¬ d.IsUnconditional := by
      rw [← PluginDefinition.isUnconstrained_iff, hbound]
      exact Bool.false_ne_true
    obtain ⟨s', hs'⟩ := d.exists_not_meets
    refine ⟨unnamedWebService, s', ?_, ?_⟩
    · rw [servicesFor_of_conditions hd ht hconditions, List.filter_singleton,
        decide_eq_true (meets_unnamedWebService ht hconditions)]
      rfl
    · rw [servicesFor_of_conditions hd ht hconditions, List.filter_singleton,
        decide_eq_false hs']
      rfl
  refine ⟨hkeeps, hseparates, fun hfree s ↦ hkeeps hfree [s], fun hall ↦ ?_⟩
  cases hfree : d.isUnconstrained with
  | true => rfl
  | false =>
    obtain ⟨-, s', -, hs'⟩ := hseparates hfree
    cases (hall s').symm.trans hs'

end PluginDefinition

namespace PluginDraft

variable {draft : PluginDraft}

/-- Target software is a text. -/
def HasTextSoftware (draft : PluginDraft) : Prop :=
  ∀ v, draft.targetSoftware = some v → ∃ software, v = .text software

/-- A draft is refused, for the first reason that there is to refuse it, or there is none and it
becomes a definition that tells services apart: without a condition it is for all of them, and with
one it is for some and not for others. -/
theorem refused_or_tellsApart (ht : draft.HasTextSoftware) :
    (∃ error, draft.define = .error error ∧ draft.IsRefused error) ∨
      (∀ error, ¬ draft.IsRefused error) ∧ ∃ d, draft.define = .ok d ∧ d.TellsApart := by
  cases hdefine : draft.define with
  | error error => exact .inl ⟨error, rfl, define_eq_error_iff.mp hdefine⟩
  | ok d =>
    have htexts : d.HasTextTargets := fun v hv ↦ ht v (targetSoftware_of_define hdefine ▸ hv)
    refine .inr ⟨fun error hrefused ↦ ?_, d, rfl, .of_isDefined ⟨draft, hdefine⟩ htexts⟩
    cases hdefine.symm.trans hrefused.define_eq

/-- A draft for a service with an empty name or some software, or for web services. -/
def forEmptyName : PluginDraft where
  pluginId := "empty"
  pluginType := .text "SERVICE_FINGERPRINT"
  targetNames := some (.one "")
  targetSoftware := some (.text "Nginx")
  forWebService := true

/-- An empty name among the targets makes a definition neither one for all services nor one for
none. -/
theorem refused_or_tellsApart_empty :
    forEmptyName.HasTextSoftware ∧ ∃ d, forEmptyName.define = .ok d ∧ d.TellsApart ∧
      d.isUnconstrained = false := by
  have htext : forEmptyName.HasTextSoftware := by
    rintro _ ⟨⟩
    exact ⟨"Nginx", rfl⟩
  refine ⟨htext, ?_⟩
  rcases refused_or_tellsApart htext with ⟨error, hrefused, -⟩ | ⟨-, d, hd, happart⟩
  · cases hrefused
  · refine ⟨d, hd, happart, ?_⟩
    cases hd
    rfl

end PluginDraft
end VulnScanner
