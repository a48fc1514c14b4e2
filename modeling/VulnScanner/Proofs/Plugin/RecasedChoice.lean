import VulnScanner.Proofs.Plugin.Calls
import VulnScanner.Proofs.Plugin.Recasing

/-!
# Choosing plugins in another case

In another case of its definitions, of the plugins on offer and of a report, a registry is chosen
from in the same way: the plugins are the same, so are the positions of the services that each of
them is to be run on, and where the choice fails it fails with the same fault.
-/

namespace VulnScanner

open SessionM
open Text (SameLetters SameNames)

/-! ### Registries and sessions -/

/-- A blueprint in another case of the plugins that it offers. -/
inductive Blueprint.Recased (b : Blueprint) : Blueprint → Prop
  | intro {remotePlugins : List PluginDraft}
      (hoffers : List.Forall₂ PluginDraft.Recased b.remotePlugins remotePlugins) :
      Recased b { b with remotePlugins := remotePlugins }

/-- A factory that makes its objects in another case. -/
inductive Factory.Recased (f : Factory) : Factory → Prop
  | intro {make : Except PluginFault Blueprint}
      (hmake : SameOutcome Blueprint.Recased f.make make) : Recased f { f with make := make }

/-- A registry in another case: entry by entry, each definition and what its factory makes. -/
def Registry.Recased (r r' : Registry Factory) : Prop :=
  List.Forall₂ (fun e e' ↦ e.1.Recased e'.1 ∧ e.2.Recased e'.2) r.entries r'.entries

/-- A plugin on a worklist with its services in another case. -/
structure MatchedPlugin.Recased (pair pair' : MatchedPlugin) : Prop where
  plugin : pair.plugin.Recased pair'.plugin
  services : List.Forall₂ NetworkService.Recased pair.services pair'.services

/-- An object in another case of the plugins that it offers and is to run. -/
inductive PluginObject.Recased (o : PluginObject) : PluginObject → Prop
  | intro {b : Blueprint} {worklist : List MatchedPlugin} (hblueprint : o.blueprint.Recased b)
      (hworklist : List.Forall₂ MatchedPlugin.Recased o.worklist worklist) :
      Recased o { o with blueprint := b, worklist := worklist }

/-- An object is of one kind and of one class in every case. -/
theorem PluginObject.Recased.kind_className_eq {o o' : PluginObject} (h : o.Recased o') :
    o.blueprint.kind = o'.blueprint.kind ∧ o.blueprint.className = o'.blueprint.className := by
  cases h with
  | intro hblueprint =>
    cases hblueprint
    exact ⟨rfl, rfl⟩

/-- An object offers the same plugins in every case. -/
theorem PluginObject.Recased.remotePlugins {o o' : PluginObject} (h : o.Recased o') :
    List.Forall₂ PluginDraft.Recased o.blueprint.remotePlugins o'.blueprint.remotePlugins := by
  cases h with
  | intro hblueprint =>
    cases hblueprint with
    | intro hoffers => exact hoffers

/-- A session in another case of its objects. -/
inductive Session.Recased (s : Session) : Session → Prop
  | intro {objects : List PluginObject}
      (hobjects : List.Forall₂ PluginObject.Recased s.objects objects) :
      Recased s { s with objects := objects }

namespace Session.Recased

variable {s t : Session}

/-- Objects with one number are recased together. -/
theorem object? (h : s.Recased t) (number : Nat) :
    Option.Rel PluginObject.Recased (s.object? number) (t.object? number) := by
  cases h with
  | intro hobjects => exact rel_getElem? hobjects number

/-- Objects with one number offer the same plugins in every case. -/
theorem remotePlugins (h : s.Recased t) (number : Nat) :
    List.Forall₂ PluginDraft.Recased (s.remotePlugins number) (t.remotePlugins number) := by
  have hobject := h.object? number
  unfold Session.remotePlugins Session.blueprint?
  generalize s.object? number = o? at hobject
  generalize t.object? number = o?' at hobject
  cases hobject with
  | none => exact .nil
  | some ho => exact ho.remotePlugins

/-- Factories share the same objects in every case. -/
theorem shared_eq (h : s.Recased t) : s.shared = t.shared := by
  cases h
  rfl

/-- There are as many objects in every case. -/
theorem length_eq (h : s.Recased t) : s.objects.length = t.objects.length := by
  cases h with
  | intro hobjects => exact hobjects.length_eq

/-- A factory is called in the same way in every case. -/
theorem called (h : s.Recased t) (pluginId : String) :
    (s.called pluginId).Recased (t.called pluginId) := by
  cases h with
  | intro hobjects => exact .intro hobjects

/-- A new object stands behind those that there are in every case. -/
theorem built (h : s.Recased t) {b b' : Blueprint} (hb : b.Recased b') (pluginId : String)
    (isShared : Bool) :
    (s.built pluginId isShared b).Recased (t.built pluginId isShared b') := by
  unfold Session.built
  rw [← h.length_eq]
  cases h with
  | intro hobjects =>
    exact .intro (List.rel_append hobjects (.cons (.intro hb .nil) .nil))

/-- Worklists grow in the same way in every case. -/
theorem enqueue (h : s.Recased t) {pair pair' : MatchedPlugin} (hpair : pair.Recased pair')
    (number : Nat) :
    (s.update number (·.enqueue pair)).Recased (t.update number (·.enqueue pair')) := by
  cases h with
  | intro hobjects =>
    refine .intro (forall₂_modify hobjects number fun o o' ho ↦ ?_)
    cases ho with
    | intro hblueprint hworklist =>
      exact .intro hblueprint (List.rel_append hworklist (.cons hpair .nil))

end Session.Recased

/-! ### Building and handing over -/

variable {d d' : PluginDefinition} {f f' : Factory} {services services' : List NetworkService}

/-- Calls of a factory run in parallel in every case. -/
theorem parallel_call (hf : f.Recased f') (pluginId : String) :
    Parallel Session.Recased Eq (f.call pluginId) (f'.call pluginId) := by
  intro s t hst
  cases hf with
  | intro hmake =>
  rw [PluginDefinition.run_call, PluginDefinition.run_call]
  dsimp only
  -- a new object has the number of objects there are, which is the same in both sessions
  rw [hst.shared_eq, hst.length_eq]
  generalize (if f.isShared = true then t.shared.lookup pluginId else none) = number?
  cases number? with
  | some number => exact ⟨.ok rfl, hst.called pluginId⟩
  | none =>
    generalize f.make = made at hmake
    cases hmake with
    | error e => exact ⟨.error e, hst.called pluginId⟩
    | ok hb => exact ⟨.ok rfl, hst.built hb pluginId f.isShared⟩

/-- Building a plugin runs in parallel in every case. -/
theorem parallel_build (hd : d.Recased d') (hf : f.Recased f') (base : PluginBase) :
    Parallel Session.Recased Eq (d.build f base) (d'.build f' base) := by
  unfold PluginDefinition.build
  rw [hd.pluginId_eq, hd.pluginType_eq]
  refine (parallel_call hf d'.pluginId).bind fun number _ hnumber ↦ ?_
  subst hnumber
  refine parallel_get.bind fun s t hst ↦ ?_
  have hobject := hst.object? number
  generalize s.object? number = o? at hobject
  generalize t.object? number = o?' at hobject
  cases hobject with
  | none => exact parallel_throw _
  | some ho =>
    dsimp only
    rw [ho.kind_className_eq.1, ho.kind_className_eq.2]
    split
    · exact parallel_pure rfl
    · exact parallel_throw _

/-- A plugin on a worklist in another case, with services at the same positions of two lists. -/
structure MatchedPlugin.RecasedIn (services services' : List NetworkService)
    (pair pair' : MatchedPlugin) : Prop where
  plugin : pair.plugin.Recased pair'.plugin
  places : SamePlaces (pair.plugin.Keeps NetworkService.isWeb)
    (pair'.plugin.Keeps NetworkService.isWeb) services pair.services services' pair'.services

/-- A plugin is handed over in the same way in every case, with services at the same positions. -/
theorem parallel_enqueue {r r' : Option (Registry Factory)} (hd : d.Recased d')
    (hs : List.Forall₂ NetworkService.Recased services services') (object : Nat) :
    Parallel Session.Recased (MatchedPlugin.RecasedIn services services')
      (Selector.enqueue ⟨r, NetworkService.isWeb⟩ object services d)
      (Selector.enqueue ⟨r', NetworkService.isWeb⟩ object services' d') := by
  unfold Selector.enqueue Selector.servicesFor
  refine (parallel_ofExcept (hd.servicesFor hs)).bind fun found found' hfound ↦ ?_
  refine (parallel_modify fun s t hst ↦ hst.enqueue ⟨hd, hfound.1⟩ object).bind fun _ _ _ ↦ ?_
  exact parallel_pure ⟨hd, hfound.2⟩

/-- A plugin that was chosen in another case: it is the same object, for the services at the same
positions, and so is all that was added to its worklist. -/
structure Selection.RecasedIn (services services' : List NetworkService) (x x' : Selection) :
    Prop where
  definition : x.definition.Recased x'.definition
  object : x.object = x'.object
  places : SamePlaces (x.definition.Covers NetworkService.isWeb)
    (x'.definition.Covers NetworkService.isWeb) services x.services services' x'.services
  queued : List.Forall₂ (MatchedPlugin.RecasedIn services services') x.queued x'.queued

private theorem filter_covers_of_remote (hremote : d.pluginType = .remoteVulnDetection)
    (services : List NetworkService) :
    services.filter (d.Covers NetworkService.isWeb) = services := by
  simp [PluginDefinition.Covers, hremote]

private theorem filter_covers_of_local (hlocal : d.pluginType ≠ .remoteVulnDetection)
    (services : List NetworkService) :
    services.filter (d.Covers NetworkService.isWeb) =
      services.filter (d.Keeps NetworkService.isWeb) := by
  simp [PluginDefinition.Covers, hlocal]

/-- A remote detector is chosen in the same way in every case. -/
theorem parallel_remoteDetector {r r' : Option (Registry Factory)} (hd : d.Recased d')
    (hremote : d.pluginType = .remoteVulnDetection) (hf : f.Recased f')
    (hs : List.Forall₂ NetworkService.Recased services services') :
    Parallel Session.Recased (Selection.RecasedIn services services')
      (Selector.remoteDetector ⟨r, NetworkService.isWeb⟩ d f services)
      (Selector.remoteDetector ⟨r', NetworkService.isWeb⟩ d' f' services') := by
  unfold Selector.remoteDetector
  refine (parallel_build hd hf .remoteDetector).bind fun object _ hobject ↦ ?_
  subst hobject
  refine parallel_get.bind fun s t hst ↦ ?_
  have hoffers := hst.remotePlugins object
  refine (Parallel.mapM hoffers fun _ _ h ↦ parallel_ofExcept h.define).bind fun ds ds' hds ↦ ?_
  refine (Parallel.mapM hds fun _ _ h ↦ parallel_enqueue h hs object).bind fun _ _ hpairs ↦ ?_
  refine parallel_pure ⟨hd, rfl, ?_, hpairs⟩
  have hplaces := samePlaces_of_iff (hs.imp fun _ _ ↦ hd.covers_iff)
  rwa [filter_covers_of_remote hremote, filter_covers_of_remote (hd.pluginType_eq ▸ hremote)]
    at hplaces

/-- A local detector is chosen in the same way in every case. -/
theorem parallel_localDetector? {r r' : Option (Registry Factory)} (hd : d.Recased d')
    (hlocal : d.pluginType ≠ .remoteVulnDetection) (hf : f.Recased f')
    (hs : List.Forall₂ NetworkService.Recased services services') :
    Parallel Session.Recased (Option.Rel (Selection.RecasedIn services services'))
      (Selector.localDetector? ⟨r, NetworkService.isWeb⟩ d f services)
      (Selector.localDetector? ⟨r', NetworkService.isWeb⟩ d' f' services') := by
  unfold Selector.localDetector? Selector.servicesFor
  refine (parallel_ofExcept (hd.servicesFor hs)).bind fun found found' hfound ↦ ?_
  have hempty : found.isEmpty = found'.isEmpty := by
    cases hfound.1 <;> rfl
  rw [hd.isUnconstrained_eq, hempty]
  split
  · exact parallel_pure .none
  refine (parallel_build hd hf .detector).bind fun object _ hobject ↦ ?_
  subst hobject
  refine parallel_pure (.some ⟨hd, rfl, ?_, .nil⟩)
  have hplaces := samePlaces_of_iff (hs.imp fun _ _ ↦ hd.covers_iff)
  rwa [filter_covers_of_local hlocal, filter_covers_of_local (hd.pluginType_eq ▸ hlocal),
    hfound.2.filter_eq, hfound.2.filter_eq'] at hplaces

/-- The choice for an entry is the same in every case. -/
theorem parallel_choose {r r' : Option (Registry Factory)} {e e' : PluginDefinition × Factory}
    (hd : e.1.Recased e'.1) (hf : e.2.Recased e'.2)
    (hs : List.Forall₂ NetworkService.Recased services services') :
    Parallel Session.Recased (Option.Rel (Selection.RecasedIn services services'))
      (Selector.choose ⟨r, NetworkService.isWeb⟩ services e)
      (Selector.choose ⟨r', NetworkService.isWeb⟩ services' e') := by
  unfold Selector.choose
  rw [← hd.pluginType_eq]
  split
  next hremote =>
    exact (parallel_remoteDetector hd hremote hf hs).bind fun _ _ hx ↦ parallel_pure (.some hx)
  next hlocal => exact parallel_localDetector? hd hlocal hf hs

/-! ### Choosing -/

private theorem pluginIds_eq {found found' : List Selection}
    (h : List.Forall₂ (Selection.RecasedIn services services') found found') :
    pluginIds found = pluginIds found' := by
  induction h with
  | nil => rfl
  | cons hx _ ih => exact congrArg₂ List.cons hx.definition.pluginId_eq ih

private theorem entries_recased {r r' : Registry Factory} (h : r.Recased r')
    (types : List PluginType) :
    List.Forall₂ (fun e e' ↦ e.1.Recased e'.1 ∧ e.2.Recased e'.2)
      (Selector.entries ⟨some r, NetworkService.isWeb⟩ types)
      (Selector.entries ⟨some r', NetworkService.isWeb⟩ types) :=
  List.rel_filter (fun _ _ he ↦
    iff_of_eq (congrArg (fun t ↦ types.contains t = true) he.1.pluginType_eq)) h

/-- How two registries are chosen from in the same way for reports that differ in case alone. -/
structure IgnoresCase (r r' : Registry Factory) : Prop where
  /-- The detectors that are chosen are the same, and so are the positions of the services that each
  of them, and each plugin that is handed to it, is to be run on. -/
  detectors : ∀ report report' : Option ReconReport,
    List.Forall₂ NetworkService.Recased (ReconReport.servicesOf report)
      (ReconReport.servicesOf report') →
    Parallel Session.Recased (fun found found' ↦ pluginIds found = pluginIds found' ∧
        List.Forall₂ (Selection.RecasedIn (ReconReport.servicesOf report)
          (ReconReport.servicesOf report')) found found')
      (Selector.detectors ⟨some r, NetworkService.isWeb⟩ report)
      (Selector.detectors ⟨some r', NetworkService.isWeb⟩ report')
  /-- The fingerprinter that is chosen is the same, or there is none. -/
  fingerprinter? : ∀ service service' : NetworkService, service.Recased service' →
    Parallel Session.Recased (Option.Rel fun x x' ↦
        x.definition.pluginId = x'.definition.pluginId ∧ x.object = x'.object ∧
          x.services = [service] ∧ x'.services = [service'])
      (Selector.fingerprinter? ⟨some r, NetworkService.isWeb⟩ service)
      (Selector.fingerprinter? ⟨some r', NetworkService.isWeb⟩ service')

/-- Plugins are chosen in the same way from a registry in every case of its target names and target
software, those of remote plugins among them, and for a report in every case of the names of its
services and of their software. -/
theorem ignoresCase {r r' : Registry Factory} (h : r.Recased r') : IgnoresCase r r' where
  detectors report report' hs := by
    rw [Selector.detectors_eq, Selector.detectors_eq]
    refine (Parallel.mapM (entries_recased h _) fun e e' he ↦ parallel_choose he.1 he.2 hs).bind
      fun chosen chosen' hchosen ↦ ?_
    have hfound := List.rel_filterMap (fun x? x?' hx ↦ hx) hchosen
    exact parallel_pure ⟨pluginIds_eq hfound, hfound⟩
  fingerprinter? service service' hs := by
    unfold Selector.fingerprinter?
    have hfirst := rel_find? (entries_recased h [.serviceFingerprint])
      fun e e' he ↦ he.1.matchesName_eq hs
    dsimp only
    generalize List.find? _ _ = e? at hfirst ⊢
    generalize List.find? _ _ = e?' at hfirst ⊢
    cases hfirst with
    | none => exact parallel_pure .none
    | some he =>
      refine (parallel_build he.1 he.2 .fingerprinter).bind fun object _ hobject ↦ ?_
      exact parallel_pure (.some ⟨he.1.pluginId_eq, hobject, rfl, rfl⟩)

/-- A registry with detectors for web services, for one name and for some software, with a remote
detector that offers one for mail, and with a fingerprinter. -/
def inCase (web : List String) (name mail software : String) : Registry Factory where
  entries :=
    [({ pluginId := "web", pluginType := .vulnDetection, targetNames := some web,
        forWebService := true },
        { make := .ok { className := "Web", kind := .detector } }),
     ({ pluginId := "name", pluginType := .vulnDetection, targetNames := some [name] },
        { make := .ok { className := "Name", kind := .detector } }),
     ({ pluginId := "software", pluginType := .vulnDetection,
        targetSoftware := some (.text software) },
        { make := .ok { className := "Software", kind := .detector } }),
     ({ pluginId := "far", pluginType := .remoteVulnDetection },
        { make := .ok {
            className := "Far"
            kind := .remoteDetector
            remotePlugins :=
              [{ pluginId := "mail", pluginType := .text "VULN_DETECTION",
                 targetNames := some (.one mail) }] } }),
     ({ pluginId := "prints", pluginType := .serviceFingerprint, targetNames := some [name] },
        { make := .ok { className := "Prints", kind := .fingerprinter } })]

/-- Three services whose names and software are given. -/
def servicesInCase (secure mail name software : String) : List NetworkService :=
  [{ host := .text "h", port := .int 443, name := secure },
   { host := .text "h", port := .int 25, name := mail, software := { name := software } },
   { host := .text "h", port := .int 22, name := name, software := { name := software } }]

/-- A registry and services in one case. -/
def quiet : Registry Factory × List NetworkService :=
  (inCase ["pop3", "POP3"] "ssh" "smtp" "nginx", servicesInCase "https" "SMTP" "Ssh" "NGINX")

/-- The same in another case, in which two target names fall together. -/
def loud : Registry Factory × List NetworkService :=
  (inCase ["Pop3"] "SSH" "sMTP" "nGINX", servicesInCase "HTTPS" "smtp" "sSH" "Nginx")

/-- What is to be run where: a plugin with the ports of its services, and the same for each plugin
that is handed to it. -/
def Selection.outline (x : Selection) : (String × List String) × List (String × List String) :=
  ((x.definition.pluginId, x.services.map (·.port.display)),
    x.queued.map fun pair ↦ (pair.plugin.pluginId, pair.services.map (·.port.display)))

/-- All plugins are chosen in the other case as they are in the first: each for services at the same
positions, also where a web service is known by its name alone. -/
theorem ignoresCase_together :
    quiet.1.Recased loud.1 ∧ List.Forall₂ NetworkService.Recased quiet.2 loud.2 ∧
      IgnoresCase quiet.1 loud.1 ∧
      ∀ choice ∈ [quiet, loud],
        ((Selector.detectors ⟨some choice.1, NetworkService.isWeb⟩
            (some ⟨.text "t", choice.2⟩)).run.run {}).1.toOption.map (·.map Selection.outline) =
          some [(("web", ["443"]), []), (("name", ["22"]), []),
            (("software", ["443", "25", "22"]), []),
            (("far", ["443", "25", "22"]), [("mail", ["25"])])] := by
  have hweb : SameNames ["pop3", "POP3"] ["Pop3"] := ⟨by decide +kernel, by decide +kernel⟩
  have hname : SameNames ["ssh"] ["SSH"] := .of_forall₂ (.cons (by decide +kernel) .nil)
  have hmail : SameNames ["smtp"] ["sMTP"] := .of_forall₂ (.cons (by decide +kernel) .nil)
  have hsoftware : SameLetters "nginx" "nGINX" := by decide +kernel
  have hregistry : quiet.1.Recased loud.1 :=
    .cons ⟨.intro (.some hweb) .none, .intro (.ok (.intro .nil))⟩ <|
    .cons ⟨.intro (.some hname) .none, .intro (.ok (.intro .nil))⟩ <|
    .cons ⟨.intro .none (.some (.text hsoftware)), .intro (.ok (.intro .nil))⟩ <|
    .cons ⟨.intro .none .none, .intro (.ok (.intro (.cons (.intro (.some hmail) .none) .nil)))⟩ <|
    .cons ⟨.intro (.some hname) .none, .intro (.ok (.intro .nil))⟩ .nil
  have hservices : List.Forall₂ NetworkService.Recased quiet.2 loud.2 :=
    .cons (.intro (by decide +kernel) (.refl _)) <|
    .cons (.intro (by decide +kernel) (by decide +kernel)) <|
    .cons (.intro (by decide +kernel) (by decide +kernel)) .nil
  exact ⟨hregistry, hservices, ignoresCase hregistry, by decide +kernel⟩

end VulnScanner
