import Mathlib.Data.List.Forall2
import VulnScanner.Proofs.Plugin.Detectors

/-!
# Matching before services are identified

While the name or the software of a service is not known, the service counts as matching for every
definition that has targets for it. Learning them takes services away from definitions and never
adds one. Only definitions for web services that have no target names are different, since a
service without a name need not count as a web service.
-/

namespace VulnScanner

/-! ### Services of which more is known -/

namespace NetworkService

/-- Holds when a service is the same as another one, except that its name or that of its software
may be filled in where it was empty. -/
structure IdentifiedAs (s s' : NetworkService) : Prop where
  name : s.name = "" ∨ s'.name = s.name
  software : s.software.name = "" ∨ s'.software.name = s.software.name
  rest : s' = { s with name := s'.name, software := { s.software with name := s'.software.name } }

/-- Only a name that is filled in makes a service a web service. -/
theorem IdentifiedAs.isWeb_eq {s s' : NetworkService} (h : s.IdentifiedAs s')
    (hname : s'.name = s.name) : s'.isWeb = s.isWeb := by
  have hmethods : s'.methods = s.methods := by rw [h.rest]
  rw [isWeb, isWeb, hmethods, hname]

end NetworkService

/-- Holds when of two lists of services those that pass a test are found, and those of the second
list stand at positions where the test is passed in the first list, too. -/
structure Narrows (p : NetworkService → Prop) [DecidablePred p]
    (services found services' found' : List NetworkService) : Prop where
  filter_eq : services.filter p = found
  filter_eq' : services'.filter p = found'
  positions : services'.findIdxs p ⊆ services.findIdxs p

namespace PluginDefinition

variable {web : WebRule} {d : PluginDefinition} {s s' : NetworkService}
  {services services' found : List NetworkService}

/-- A definition that is for web services has target names as well. -/
def NamesWebServices (d : PluginDefinition) : Prop := d.forWebService = true → d.targetNames ≠ none

/-- Holds when a service is among those that a definition is for: the definition has no condition,
or the rules say so. -/
def Keeps (web : WebRule) (d : PluginDefinition) (s : NetworkService) : Prop :=
  d.isUnconstrained = true ∨ d.isFor web s = .ok true

instance : DecidablePred (d.Keeps web) := fun s ↦
  inferInstanceAs (Decidable (_ ∨ d.isFor web s = .ok true))

/-- The services that a definition is for are those that it keeps, if the rules have an answer. -/
theorem servicesFor_eq_ok_iff :
    d.servicesFor web services = .ok found ↔
      (d.isUnconstrained = true ∨ ∀ s ∈ services, ∃ b, d.isFor web s = .ok b) ∧
        services.filter (d.Keeps web) = found := by
  unfold servicesFor Keeps
  by_cases hfree : d.isUnconstrained = true
  · simp [hfree]
  rw [if_neg hfree]
  simp only [hfree, Bool.false_eq_true, false_or]
  have hkept (hanswers : ∀ s ∈ services, ∃ b, d.isFor web s = .ok b) :
      services.filterM (d.isFor web) =
        .ok (services.filter fun s ↦ d.isFor web s = .ok true) := by
    refine filterM_eq_ok fun s hs ↦ ?_
    obtain ⟨b, hb⟩ := hanswers s hs
    rw [hb]
    cases b <;> simp
  constructor
  · intro h
    have hanswers := exists_filterM_eq_ok_iff.mp ⟨found, h⟩
    exact ⟨hanswers, Except.ok.inj ((hkept hanswers).symm.trans h)⟩
  · rintro ⟨hanswers, rfl⟩
    exact hkept hanswers

/-- A service meets the names of a definition or is a web service for it, if it does so when more
of it is known. -/
private theorem matchesName_of_identifiedAs (hd : d.IsDefined) (hnames : d.NamesWebServices)
    (h : s.IdentifiedAs s') (hs' : d.matchesName NetworkService.isWeb s' = true) :
    d.matchesName NetworkService.isWeb s = true := by
  rw [matchesName_iff hd] at hs' ⊢
  rcases h.name with hempty | hname
  · -- the name is not known yet, so it is enough that there are target names
    have htargets : d.targetNames ≠ none := by
      rcases hs' with ⟨names, htargets, -⟩ | ⟨hweb, -⟩
      · exact Option.ne_none_iff_exists'.mpr ⟨names, htargets⟩
      · exact hnames hweb
    obtain ⟨names, htargets⟩ := Option.ne_none_iff_exists'.mp htargets
    exact .inl ⟨names, htargets, .inl hempty⟩
  · unfold MeetsNames at hs' ⊢
    rwa [hname, h.isWeb_eq hname] at hs'

/-- The software of a service is not ruled out before more of it is known. -/
private theorem matchesSoftware_of_identifiedAs (hd : d.IsDefined) (h : s.IdentifiedAs s')
    {b' : Bool} (hs' : d.matchesSoftware s' = .ok b') :
    ∃ b, d.matchesSoftware s = .ok b ∧ (b' = true → b = true) := by
  rcases h.software with hempty | hsoftware
  · unfold matchesSoftware at hs' ⊢
    cases htarget : d.targetSoftware with
    | none =>
      rw [htarget] at hs'
      exact ⟨b', hs', id⟩
    | some v =>
      have htruthy := (isDefined_iff.mp hd).2.2 v htarget
      exact ⟨true, by simp [htruthy, hempty], fun _ ↦ rfl⟩
  · unfold matchesSoftware at hs' ⊢
    rw [hsoftware] at hs'
    exact ⟨b', hs', id⟩

/-- If the rules have an answer for a service of which more is known, they have one for the service
before, and it is no narrower. -/
theorem isFor_of_identifiedAs (hd : d.IsDefined) (hnames : d.NamesWebServices)
    (h : s.IdentifiedAs s') {b' : Bool} (hs' : d.isFor NetworkService.isWeb s' = .ok b') :
    ∃ b, d.isFor NetworkService.isWeb s = .ok b ∧ (b' = true → b = true) := by
  unfold isFor at hs' ⊢
  by_cases hname : d.matchesName NetworkService.isWeb s = true
  · exact ⟨true, if_pos hname, fun _ ↦ rfl⟩
  · have hname' := fun hs' ↦ hname (matchesName_of_identifiedAs hd hnames h hs')
    rw [if_neg hname'] at hs'
    rw [if_neg hname]
    exact matchesSoftware_of_identifiedAs hd h hs'

/-- A service is kept if it is when more of it is known. -/
theorem Keeps.of_identifiedAs (hd : d.IsDefined) (hnames : d.NamesWebServices)
    (h : s.IdentifiedAs s') (hs' : d.Keeps NetworkService.isWeb s') :
    d.Keeps NetworkService.isWeb s := by
  refine hs'.imp_right fun hs' ↦ ?_
  obtain ⟨b, hs, hb⟩ := isFor_of_identifiedAs hd hnames h hs'
  rwa [hb rfl] at hs

/-- A service on which a detector is to be run: all of them for remote detectors, and those that
the definition keeps for local ones. -/
def Covers (web : WebRule) (d : PluginDefinition) (s : NetworkService) : Prop :=
  d.pluginType = .remoteVulnDetection ∨ d.Keeps web s

instance : DecidablePred (d.Covers web) := fun _ ↦ inferInstanceAs (Decidable (_ ∨ _))

/-- A service is covered if it is when more of it is known. -/
theorem Covers.of_identifiedAs (hd : d.IsDefined)
    (hnames : d.pluginType ≠ .remoteVulnDetection → d.NamesWebServices) (h : s.IdentifiedAs s')
    (hs' : d.Covers NetworkService.isWeb s') : d.Covers NetworkService.isWeb s := by
  by_cases hremote : d.pluginType = .remoteVulnDetection
  · exact .inl hremote
  · exact .inr (.of_identifiedAs hd (hnames hremote) h (hs'.resolve_left hremote))

end PluginDefinition

/-- A test that is passed more easily before identification is passed at all positions at which it
is afterwards. -/
private theorem narrows_of_imp {p : NetworkService → Prop} [DecidablePred p]
    {services services' : List NetworkService}
    (h : List.Forall₂ (fun s s' ↦ p s' → p s) services services') :
    Narrows p services (services.filter p) services' (services'.filter p) := by
  refine ⟨rfl, rfl, ?_⟩
  intro i hi
  obtain ⟨hlt', hp'⟩ := List.mem_findIdxs_iff_exists_getElem_pos.mp hi
  have hlt : i < services.length := h.length_eq ▸ hlt'
  have hp : p services[i] := h.get hlt hlt' (of_decide_eq_true hp')
  exact List.mem_findIdxs_iff_exists_getElem_pos.mpr ⟨hlt, decide_eq_true hp⟩

namespace PluginDefinition

variable {d : PluginDefinition} {services services' found' : List NetworkService}

/-- The services that a definition is for can be told if they can when more is known, and they
are then at the same positions and perhaps others. -/
private theorem servicesFor_of_identifiedAs (hd : d.IsDefined) (hnames : d.NamesWebServices)
    (h : List.Forall₂ NetworkService.IdentifiedAs services services')
    (hfound' : d.servicesFor NetworkService.isWeb services' = .ok found') :
    ∃ found, d.servicesFor NetworkService.isWeb services = .ok found ∧
      Narrows (d.Keeps NetworkService.isWeb) services found services' found' := by
  obtain ⟨hanswers', rfl⟩ := servicesFor_eq_ok_iff.mp hfound'
  have hanswers : d.isUnconstrained = true ∨
      ∀ s ∈ services, ∃ b, d.isFor NetworkService.isWeb s = .ok b := by
    refine hanswers'.imp_right fun hanswers' s hs ↦ ?_
    obtain ⟨s', hs', hss'⟩ := exists_of_mem_of_forall₂ h hs
    obtain ⟨b', hb'⟩ := hanswers' s' hs'
    obtain ⟨b, hb, -⟩ := isFor_of_identifiedAs hd hnames hss' hb'
    exact ⟨b, hb⟩
  exact ⟨_, servicesFor_eq_ok_iff.mpr ⟨hanswers, rfl⟩,
    narrows_of_imp (h.imp fun _ _ ↦ Keeps.of_identifiedAs hd hnames)⟩

end PluginDefinition

/-! ### Detectors -/

namespace Selector

open SessionM

variable {c : Selector} {e : PluginDefinition × Factory} {services : List NetworkService}
  {s t : Session}

/-- What may come of choosing the detector of an entry. -/
structure Settles (c : Selector) (services : List NetworkService)
    (e : PluginDefinition × Factory) (chosen? : Option Selection) : Prop where
  /-- A detector that is chosen is to be run on the services that its definition covers. -/
  covers : ∀ x ∈ chosen?, x.definition = e.1 ∧ services.filter (e.1.Covers c.web) = x.services
  /-- Only a local detector with conditions is passed over, if there are no such services. -/
  eq_none_iff : chosen? = none ↔ e.1.pluginType ≠ .remoteVulnDetection ∧
    e.1.isUnconstrained = false ∧ ∀ service ∈ services, ¬ e.1.Covers c.web service

/-- One of these comes of choosing the detector of an entry. -/
private theorem settles_of_gives_choose {chosen? : Option Selection}
    (h : (c.choose services e).Gives s chosen? t) : c.Settles services e chosen? := by
  unfold choose at h
  split at h
  next hremote =>
    obtain ⟨chosen, _, hchosen, h⟩ := gives_bind_iff.mp h
    obtain ⟨rfl, -⟩ := gives_pure_iff.mp h
    obtain ⟨hdefinition, hservices⟩ := Prod.mk.inj (purpose_of_gives_remoteDetector hchosen)
    constructor
    · simp [PluginDefinition.Covers, hremote, hdefinition, hservices]
    · simp [hremote]
  next hlocal =>
    have hcovers : e.1.Covers c.web = e.1.Keeps c.web := by
      funext service
      exact propext (or_iff_right hlocal)
    simp only [localDetector?, servicesFor, gives_bind_iff, gives_ofExcept_iff] at h
    obtain ⟨found, _, ⟨hfound, rfl⟩, h⟩ := h
    have hkept : services.filter (e.1.Covers c.web) = found := by
      simp only [hcovers, (PluginDefinition.servicesFor_eq_ok_iff.mp hfound).2]
    have hskip : (found.isEmpty && !e.1.isUnconstrained) = true ↔
        e.1.isUnconstrained = false ∧ ∀ service ∈ services, ¬ e.1.Covers c.web service := by
      simp [← hkept, and_comm]
    split at h
    next hskipped =>
      obtain ⟨rfl, -⟩ := gives_pure_iff.mp h
      exact ⟨fun _ hx ↦ absurd hx (Option.not_mem_none _),
        fun _ ↦ ⟨hlocal, hskip.mp hskipped⟩, fun _ ↦ rfl⟩
    next hneeded =>
      obtain ⟨_, _, -, h⟩ := gives_bind_iff.mp h
      obtain ⟨rfl, -⟩ := gives_pure_iff.mp h
      refine ⟨?_, fun hnone ↦ absurd hnone (Option.some_ne_none _),
        fun hskipped ↦ absurd (hskip.mpr hskipped.2) hneeded⟩
      rintro _ ⟨⟩
      exact ⟨rfl, hkept⟩

/-- A detector that is chosen when more is known is chosen before, for the same positions and
perhaps others. -/
private theorem Settles.exists_of_identifiedAs {services' : List NetworkService}
    {chosen? chosen?' : Option Selection} (h : c.Settles services e chosen?)
    (h' : c.Settles services' e chosen?')
    (hcovers : List.Forall₂ (fun s s' ↦ e.1.Covers c.web s' → e.1.Covers c.web s)
      services services') : ∀ x' ∈ chosen?', ∃ x ∈ chosen?, x'.definition = x.definition ∧
        Narrows (x.definition.Covers c.web) services x.services services' x'.services := by
  intro x' hx'
  obtain ⟨hdefinition', hservices'⟩ := h'.covers x' hx'
  have hsome : chosen? ≠ none := by
    rw [Ne, h.eq_none_iff]
    rintro ⟨hlocal, hconditions, hnone⟩
    have hnone' : chosen?' = none := by
      refine h'.eq_none_iff.mpr ⟨hlocal, hconditions, fun s' hs' hcovered ↦ ?_⟩
      obtain ⟨s, hs, himp⟩ := exists_of_mem_of_forall₂ hcovers.flip hs'
      exact hnone s hs (himp hcovered)
    cases hnone'.symm.trans hx'
  obtain ⟨x, hx⟩ := Option.ne_none_iff_exists'.mp hsome
  obtain ⟨hdefinition, hservices⟩ := h.covers x hx
  refine ⟨x, hx, hdefinition'.trans hdefinition.symm, ?_⟩
  rw [← hservices, ← hservices', hdefinition]
  exact narrows_of_imp hcovers

end Selector

/-- What matching finds in services is no less than what it finds in services of which more is
known. -/
structure Overapproximates (services services' : List NetworkService) : Prop where
  /-- If the services that a definition is for can be told when more is known, they can be told
  before, and then they are at the same positions and perhaps at others. -/
  matched : ∀ d : PluginDefinition, d.IsDefined → d.NamesWebServices → ∀ found',
    d.servicesFor NetworkService.isWeb services' = .ok found' →
      ∃ found, d.servicesFor NetworkService.isWeb services = .ok found ∧
        Narrows (d.Keeps NetworkService.isWeb) services found services' found'
  /-- The detectors that are chosen when more is known are among those that are chosen before, in
  the same order, and each of them is then run at the same positions and perhaps at others. -/
  detectors : ∀ r : Registry Factory, r.Reached →
    (∀ e ∈ r.entries, e.1.pluginType = .vulnDetection → e.1.NamesWebServices) →
    ∀ report report', ReconReport.servicesOf report = services →
      ReconReport.servicesOf report' = services' → ∀ s s' found found' t t',
      (Selector.detectors ⟨some r, NetworkService.isWeb⟩ report).Gives s found t →
      (Selector.detectors ⟨some r, NetworkService.isWeb⟩ report').Gives s' found' t' →
      List.SublistForall₂ (fun x' x ↦ x'.definition = x.definition ∧
        Narrows (x.definition.Covers NetworkService.isWeb) services x.services
          services' x'.services) found' found

/-- Matching before services are identified finds no less than matching after it, as long as the
definitions for web services have target names. -/
theorem overapproximates {services services' : List NetworkService}
    (h : List.Forall₂ NetworkService.IdentifiedAs services services') :
    Overapproximates services services' where
  matched _ hd hnames _ hfound' := PluginDefinition.servicesFor_of_identifiedAs hd hnames h hfound'
  detectors r hr hnames report report' hreport hreport' s s' found found' t t' hfound hfound' := by
    subst hreport hreport'
    let c : Selector := ⟨some r, NetworkService.isWeb⟩
    obtain ⟨chosen, hchosen, rfl⟩ := (Selector.gives_detectors_iff rfl).mp hfound
    obtain ⟨chosen', hchosen', rfl⟩ := (Selector.gives_detectors_iff rfl).mp hfound'
    have hsettles : List.Forall₂ (c.Settles (ReconReport.servicesOf report)) _ chosen :=
      SessionM.forall₂_of_gives_mapM (fun _ _ _ _ _ ↦ Selector.settles_of_gives_choose) hchosen
    have hsettles' : List.Forall₂ (c.Settles (ReconReport.servicesOf report')) _ chosen' :=
      SessionM.forall₂_of_gives_mapM (fun _ _ _ _ _ ↦ Selector.settles_of_gives_choose) hchosen'
    refine sublistForall₂_filterMap hsettles hsettles' fun e he _ _ hchosen hchosen' ↦ ?_
    obtain ⟨he, htype⟩ := List.mem_filter.mp he
    have hlocal : e.1.pluginType ≠ .remoteVulnDetection → e.1.NamesWebServices := by
      intro hne
      refine hnames e he ?_
      cases hcategory : e.1.pluginType <;> simp_all
    exact hchosen.exists_of_identifiedAs hchosen'
      (h.imp fun _ _ hs ↦ .of_identifiedAs (hr.isDefined e he) hlocal hs)

/-- Two services of which only the ports are known. -/
def unidentified : List NetworkService :=
  [{ host := .text "h", port := .int 80 }, { host := .text "h", port := .int 22 }]

/-- The same services when their names and software are known. -/
def identified : List NetworkService :=
  [{ host := .text "h", port := .int 80, name := "http", software := { name := "nginX" } },
   { host := .text "h", port := .int 22, name := "ssh", software := { name := "openssh" } }]

/-- A registry with a detector for names, one for names and web services, and one for software. -/
def partlyForWeb : Registry Factory where
  entries :=
    [({ pluginId := "mail", pluginType := .vulnDetection, targetNames := some ["smtp"] },
        { make := .ok { className := "Mail", kind := .detector } }),
     ({ pluginId := "web", pluginType := .vulnDetection, targetNames := some ["ssh"],
        forWebService := true },
        { make := .ok { className := "Web", kind := .detector } }),
     ({ pluginId := "nginx", pluginType := .vulnDetection, targetSoftware := some (.text "Nginx") },
        { make := .ok { className := "Nginx", kind := .detector } })]

/-- Of detectors that are run on all services before these are identified, one is left out
afterwards and one is run on a single service. -/
theorem overapproximates_identified :
    List.Forall₂ NetworkService.IdentifiedAs unidentified identified ∧
      Overapproximates unidentified identified ∧
      partlyForWeb.Reached ∧
      (∀ e ∈ partlyForWeb.entries, e.1.pluginType = .vulnDetection → e.1.NamesWebServices) ∧
      [unidentified, identified].map (fun services ↦
        ((Selector.detectors ⟨some partlyForWeb, NetworkService.isWeb⟩
          (some ⟨.text "h", services⟩)).run.run {}).1.toOption.map (List.map fun x ↦
            (x.definition.pluginId, x.services.map (·.port.display)))) =
        [some [("mail", ["80", "22"]), ("web", ["80", "22"]), ("nginx", ["80", "22"])],
          some [("web", ["80", "22"]), ("nginx", ["80"])]] := by
  have hidentified : List.Forall₂ NetworkService.IdentifiedAs unidentified identified :=
    .cons ⟨.inl rfl, .inl rfl, rfl⟩ (.cons ⟨.inl rfl, .inl rfl, rfl⟩ .nil)
  refine ⟨hidentified, overapproximates hidentified, by decide +kernel, ?_, by decide +kernel⟩
  simp [partlyForWeb, PluginDefinition.NamesWebServices]

end VulnScanner
