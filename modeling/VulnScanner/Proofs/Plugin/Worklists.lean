import VulnScanner.Proofs.Plugin.Detectors
import VulnScanner.Proofs.Plugin.Growth

/-!
# Worklists of remote detectors

What the choice of detectors does to worklists, however detectors are shared. A worklist only grows
at its end: by the pairs that a selection shows, one for each plugin that the detector offers. If
the choice fails, the detectors before the one that fails have all of their pairs, and that one has
none.
-/

namespace VulnScanner

/-! ### Offers and pairs -/

/-- The target software of the plugins on offer is a text. -/
def Blueprint.OffersText (b : Blueprint) : Prop :=
  ∀ draft ∈ b.remotePlugins, ∀ v, draft.targetSoftware = some v → ∃ software, v = .text software

/-- The plugins that an object offers are those of some definitions. -/
def Blueprint.Offers (b : Blueprint) (offered : List PluginDefinition) : Prop :=
  List.Forall₂ (fun draft d ↦ draft.define = .ok d) b.remotePlugins offered

/-- What is offered is defined. -/
theorem Blueprint.Offers.isDefined {b : Blueprint} {offered : List PluginDefinition}
    (h : b.Offers offered) : ∀ d ∈ offered, d.IsDefined := by
  intro d hd
  obtain ⟨draft, -, hdefine⟩ := exists_of_mem_of_forall₂ h.flip hd
  exact ⟨draft, hdefine⟩

/-- What comes of plugins on offer whose target software is a text has texts as target software. -/
theorem Blueprint.Offers.hasTextTargets {b : Blueprint} {offered : List PluginDefinition}
    (h : b.Offers offered) (hb : b.OffersText) : ∀ d ∈ offered, d.HasTextTargets := by
  intro d hd v hv
  obtain ⟨draft, hdraft, hdefine⟩ := exists_of_mem_of_forall₂ h.flip hd
  exact hb draft hdraft v (PluginDraft.targetSoftware_of_define hdefine ▸ hv)

/-- All objects of a session offer plugins whose target software is a text. -/
def Session.OffersText (s : Session) : Prop := ∀ o ∈ s.objects, o.blueprint.OffersText

/-- A factory that builds objects whose offers have texts as target software. -/
def Factory.OffersText (f : Factory) : Prop := ∀ b, f.make = .ok b → b.OffersText

/-- The pairs for plugins on offer: one for each, in their order, with the services that it is
for. -/
structure Selector.PairsUp (c : Selector) (services : List NetworkService)
    (drafts : List PluginDraft) (pairs : List MatchedPlugin) : Prop where
  plugins : List.Forall₂ (fun draft pair ↦ draft.define = .ok pair.plugin) drafts pairs
  services : ∀ pair ∈ pairs, pair.plugin.servicesFor c.web services = .ok pair.services

/-- What a selection has put on the worklist of an object. -/
def Selection.handedTo (x : Selection) (number : Nat) : List MatchedPlugin :=
  if x.object = number then x.queued else []

/-- What selections have put on the worklist of an object. -/
def handedTo (found : List Selection) (number : Nat) : List MatchedPlugin :=
  found.flatMap (·.handedTo number)

@[simp] theorem handedTo_nil : handedTo [] = fun _ ↦ [] := rfl

@[simp] theorem handedTo_singleton (x : Selection) : handedTo [x] = x.handedTo := by
  funext number
  exact List.flatMap_singleton ..

/-- What later selections put on a worklist stands behind what earlier ones did. -/
theorem handedTo_append (found found' : List Selection) :
    handedTo (found ++ found') = fun number ↦ handedTo found number ++ handedTo found' number := by
  funext number
  exact List.flatMap_append

/-- What a selection shows is what was to be handed over: for a remote detector one pair for each
plugin that it offers, in their order, and for a local detector nothing. -/
structure Selection.IsHandedOver (x : Selection) (c : Selector) (services : List NetworkService)
    (s : Session) : Prop where
  remote : x.definition.pluginType = .remoteVulnDetection → ∃ o, s.object? x.object = some o ∧
    c.PairsUp services o.blueprint.remotePlugins x.queued
  other : x.definition.pluginType ≠ .remoteVulnDetection → x.queued = []

namespace Session

variable {s t u : Session} {handed handed' : Nat → List MatchedPlugin}

/-- One session has become another while detectors were chosen: each worklist has grown at its end
by what was handed to its object, and the objects are what they were. -/
structure Hands (s t : Session) (handed : Nat → List MatchedPlugin) : Prop where
  worklist_eq : ∀ number, t.worklist number = s.worklist number ++ handed number
  blueprint_eq : ∀ number o, s.object? number = some o →
    ∃ o', t.object? number = some o' ∧ o'.blueprint = o.blueprint
  offersText : s.OffersText → t.OffersText

/-- Where nothing is done nothing is handed over. -/
theorem Hands.refl (s : Session) : s.Hands s fun _ ↦ [] where
  worklist_eq _ := (List.append_nil _).symm
  blueprint_eq _ o ho := ⟨o, ho, rfl⟩
  offersText h := h

/-- What is handed over later stands behind what was handed over before. -/
theorem Hands.trans (h : s.Hands t handed) (h' : t.Hands u handed') :
    s.Hands u fun number ↦ handed number ++ handed' number where
  worklist_eq number := by rw [h'.worklist_eq, h.worklist_eq, List.append_assoc]
  blueprint_eq number o ho := by
    obtain ⟨o₁, ho₁, hb₁⟩ := h.blueprint_eq number o ho
    obtain ⟨o₂, ho₂, hb₂⟩ := h'.blueprint_eq number o₁ ho₁
    exact ⟨o₂, ho₂, hb₂.trans hb₁⟩
  offersText hs := h'.offersText (h.offersText hs)

/-- A pair is put at the end of the worklist of its object. -/
theorem hands_enqueue {number : Nat} {o : PluginObject} (ho : s.object? number = some o)
    (pair : MatchedPlugin) :
    s.Hands (s.update number (·.enqueue pair)) fun n ↦ if number = n then [pair] else [] where
  worklist_eq n := by
    unfold worklist update object? at *
    dsimp only
    rw [List.getElem?_modify]
    by_cases hn : number = n
    · subst hn
      simp [ho, PluginObject.enqueue]
    · simp [hn]
  blueprint_eq n o' ho' := by
    unfold update object? at *
    dsimp only
    rw [List.getElem?_modify, ho']
    by_cases hn : number = n <;> simp [hn, PluginObject.enqueue]
  offersText hs o' ho' := by
    obtain ⟨n, hn⟩ := List.mem_iff_getElem?.mp ho'
    unfold update at hn
    dsimp only at hn
    rw [List.getElem?_modify] at hn
    obtain ⟨o₁, ho₁, rfl⟩ := Option.map_eq_some_iff.mp hn
    have hmem := hs o₁ (List.mem_of_getElem? ho₁)
    by_cases hn : number = n
    · simpa [hn, PluginObject.enqueue] using hmem
    · simpa [hn] using hmem

/-- A call of a factory hands nothing over. -/
theorem hands_called {pluginId : String} : s.Hands (s.called pluginId) fun _ ↦ [] where
  worklist_eq _ := (List.append_nil _).symm
  blueprint_eq _ o ho := ⟨o, ho, rfl⟩
  offersText h := h

/-- A new object has an empty worklist. -/
theorem hands_built {pluginId : String} {isShared : Bool} {b : Blueprint} (hb : b.OffersText) :
    s.Hands (s.built pluginId isShared b) fun _ ↦ [] where
  worklist_eq number := by
    unfold worklist object? built
    dsimp only
    rw [List.append_nil, List.getElem?_append]
    split
    · rfl
    next hlt =>
      rw [List.getElem?_eq_none (Nat.not_lt.mp hlt), List.getElem?_singleton]
      split <;> rfl
  blueprint_eq number o ho := by
    refine ⟨o, ?_, rfl⟩
    have hlt := (List.getElem?_eq_some_iff.mp ho).1
    rw [← ho]
    exact List.getElem?_append_left hlt
  offersText hs o ho := by
    rcases List.mem_append.mp ho with ho | ho
    · exact hs o ho
    · rw [List.mem_singleton.mp ho]
      exact hb

end Session

/-- What was to be handed over stays so while more is handed over. -/
theorem Selection.IsHandedOver.of_hands {x : Selection} {c : Selector}
    {services : List NetworkService} {s t : Session} {handed : Nat → List MatchedPlugin}
    (hx : x.IsHandedOver c services s) (h : s.Hands t handed) : x.IsHandedOver c services t where
  remote hremote := by
    obtain ⟨o, ho, hpairs⟩ := hx.remote hremote
    obtain ⟨o', ho', hb⟩ := h.blueprint_eq x.object o ho
    exact ⟨o', ho', hb ▸ hpairs⟩
  other := hx.other

/-! ### Building and handing over -/

section Building

open SessionM

variable {d : PluginDefinition} {f : Factory} {base : PluginBase} {s t : Session} {number : Nat}
  {fault : PluginFault}

private theorem hands_of_run_call {pluginId : String} {r : Except PluginFault Nat}
    (hf : f.OffersText) (h : (f.call pluginId).run.run s = (r, t)) : s.Hands t fun _ ↦ [] := by
  rw [PluginDefinition.run_call] at h
  split at h
  · cases h
    exact Session.hands_called
  · split at h
    · cases h
      exact Session.hands_called
    next b hb =>
      cases h
      exact Session.hands_built (hf b hb)

/-- Building a plugin hands nothing over, and what is built is there. -/
theorem hands_of_gives_build (hf : f.OffersText) (h : (d.build f base).Gives s number t) :
    (s.Hands t fun _ ↦ []) ∧ ∃ o, t.object? number = some o := by
  unfold PluginDefinition.build at h
  simp only [gives_bind_iff, gives_get_iff] at h
  obtain ⟨n, u, hcall, _, _, ⟨rfl, rfl⟩, h⟩ := h
  have hhands := hands_of_run_call hf hcall
  split at h
  next o ho =>
    split at h
    · obtain ⟨rfl, rfl⟩ := gives_pure_iff.mp h
      exact ⟨hhands, o, ho⟩
    · exact absurd h not_gives_throw
  · exact absurd h not_gives_throw

/-- A plugin that cannot be built is handed nothing. -/
theorem hands_of_fails_build (hf : f.OffersText) (h : (d.build f base).Fails s fault t) :
    s.Hands t fun _ ↦ [] := by
  unfold PluginDefinition.build at h
  simp only [fails_bind_iff, gives_get_iff, not_fails_get, false_or] at h
  rcases h with hcall | ⟨n, u, hcall, _, _, ⟨rfl, rfl⟩, h⟩
  · exact hands_of_run_call hf hcall
  have hhands := hands_of_run_call hf hcall
  split at h
  · split at h
    · exact absurd h not_fails_pure
    · obtain ⟨-, rfl⟩ := fails_throw_iff.mp h
      exact hhands
  · obtain ⟨-, rfl⟩ := fails_throw_iff.mp h
    exact hhands

end Building

namespace Selector

open SessionM

section Choosing

variable {c : Selector} {services : List NetworkService} {d : PluginDefinition} {f : Factory}
  {e : PluginDefinition × Factory} {s t : Session} {number : Nat} {fault : PluginFault}

/-- Handing over one plugin puts its pair on the worklist. -/
theorem gives_enqueue_iff {pair : MatchedPlugin} :
    (c.enqueue number services d).Gives s pair t ↔
      pair.plugin = d ∧ pair.plugin.servicesFor c.web services = .ok pair.services ∧
        s.update number (·.enqueue pair) = t := by
  unfold enqueue servicesFor
  simp only [gives_bind_iff, gives_pure_iff, gives_modify_iff, gives_ofExcept_iff]
  constructor
  · rintro ⟨found, _, ⟨hfound, rfl⟩, -, _, rfl, rfl, rfl⟩
    exact ⟨rfl, hfound, rfl⟩
  · rintro ⟨rfl, hfound, rfl⟩
    exact ⟨pair.services, s, ⟨hfound, rfl⟩, ⟨⟩, _, rfl, rfl, rfl⟩

/-- A plugin is not handed over only if its services cannot be told. -/
theorem not_fails_enqueue (hd : d.IsDefined) (ht : d.HasTextTargets) :
    ¬ (c.enqueue number services d).Fails s fault t := by
  intro h
  unfold enqueue servicesFor at h
  simp only [fails_bind_iff, not_fails_pure, not_fails_modify, and_false, exists_false, or_false,
    fails_ofExcept_iff, PluginDefinition.servicesFor_eq hd ht] at h
  obtain ⟨⟨_, h, -⟩, -⟩ := h
  cases h

/-- Handing over plugins puts their pairs on the worklist, one after the other. -/
theorem hands_of_gives_enqueue {ds : List PluginDefinition} {pairs : List MatchedPlugin}
    {o : PluginObject} (ho : s.object? number = some o)
    (h : (ds.mapM (c.enqueue number services)).Gives s pairs t) :
    (s.Hands t fun n ↦ if number = n then pairs else []) ∧ pairs.map (·.plugin) = ds ∧
      ∀ pair ∈ pairs, pair.plugin.servicesFor c.web services = .ok pair.services := by
  induction ds generalizing s o pairs with
  | nil =>
    obtain ⟨rfl, rfl⟩ := gives_mapM_nil_iff.mp h
    simpa using Session.Hands.refl s
  | cons d ds ih =>
    obtain ⟨pair, u, rest, hpair, hrest, rfl⟩ := gives_mapM_cons_iff.mp h
    obtain ⟨rfl, hservices, rfl⟩ := gives_enqueue_iff.mp hpair
    have hfirst := Session.hands_enqueue ho pair
    obtain ⟨o', ho', -⟩ := hfirst.blueprint_eq number o ho
    obtain ⟨hothers, rfl, hpairs⟩ := ih ho' hrest
    refine ⟨?_, rfl, List.forall_mem_cons.mpr ⟨hservices, hpairs⟩⟩
    have hall := hfirst.trans hothers
    have hsame : (fun n ↦ (if number = n then [pair] else []) ++ if number = n then rest else []) =
        fun n ↦ if number = n then pair :: rest else [] := by
      funext n
      split <;> rfl
    rwa [hsame] at hall

private theorem not_fails_enqueueAll {ds : List PluginDefinition}
    (hds : ∀ d ∈ ds, d.IsDefined ∧ d.HasTextTargets) :
    ¬ (ds.mapM (c.enqueue number services)).Fails s fault t := by
  induction ds generalizing s with
  | nil => exact not_fails_mapM_nil
  | cons d ds ih =>
    rw [List.forall_mem_cons] at hds
    rw [fails_mapM_cons_iff]
    rintro (h | ⟨_, _, -, h⟩)
    · exact not_fails_enqueue hds.1.1 hds.1.2 h
    · exact ih hds.2 h

/-- A remote detector that is chosen has been handed the pairs that its selection shows: one for
each plugin that it offers. -/
theorem hands_of_gives_remoteDetector {x : Selection} (hf : f.OffersText)
    (h : (c.remoteDetector d f services).Gives s x t) :
    s.Hands t x.handedTo ∧ x.definition = d ∧ ∃ o, t.object? x.object = some o ∧
      c.PairsUp services o.blueprint.remotePlugins x.queued := by
  unfold remoteDetector at h
  simp only [gives_bind_iff, gives_pure_iff, gives_get_iff] at h
  obtain ⟨object, u, hbuild, _, _, ⟨rfl, rfl⟩, ds, v, hdefine, queued, w, henqueue, rfl, rfl⟩ := h
  obtain ⟨hbuilt, o, ho⟩ := hands_of_gives_build hf hbuild
  rw [Session.remotePlugins_of_blueprint? (Session.blueprint?_of_object? ho),
    gives_mapM_ofExcept_iff] at hdefine
  obtain ⟨hdrafts, rfl⟩ := hdefine
  obtain ⟨hhands, rfl, hpairs⟩ := hands_of_gives_enqueue ho henqueue
  obtain ⟨o', ho', hsame⟩ := hhands.blueprint_eq object o ho
  refine ⟨hbuilt.trans hhands, rfl, o', ho', ?_⟩
  rw [hsame]
  have hplugins : List.Forall₂ (fun draft pair ↦ draft.define = .ok pair.plugin)
      o.blueprint.remotePlugins queued := by simpa using hdrafts
  exact ⟨hplugins, hpairs⟩

/-- A remote detector that is not chosen has been handed nothing. -/
theorem hands_of_fails_remoteDetector (hs : s.OffersText) (hf : f.OffersText)
    (h : (c.remoteDetector d f services).Fails s fault t) : s.Hands t fun _ ↦ [] := by
  unfold remoteDetector at h
  simp only [fails_bind_iff, gives_get_iff, not_fails_get, not_fails_pure, false_or, and_false,
    exists_false, or_false] at h
  rcases h with h | ⟨object, u, hbuild, _, _, ⟨rfl, rfl⟩, h⟩
  · exact hands_of_fails_build hf h
  obtain ⟨hbuilt, o, ho⟩ := hands_of_gives_build hf hbuild
  rw [Session.remotePlugins_of_blueprint? (Session.blueprint?_of_object? ho)] at h
  rcases h with h | ⟨ds, v, hdefine, h⟩
  · rwa [← (fails_mapM_ofExcept_iff.mp h).2]
  -- the pairs themselves can be told, because the targets are texts
  obtain ⟨hdrafts, rfl⟩ := gives_mapM_ofExcept_iff.mp hdefine
  have hoffered : o.blueprint.Offers ds := hdrafts
  have htexts := hoffered.hasTextTargets (hbuilt.offersText hs o (List.mem_of_getElem? ho))
  exact absurd h (not_fails_enqueueAll fun d hd ↦ ⟨hoffered.isDefined d hd, htexts d hd⟩)

/-- A local detector that is chosen is handed nothing. -/
theorem hands_of_gives_localDetector? {x? : Option Selection} (hf : f.OffersText)
    (h : (c.localDetector? d f services).Gives s x? t) :
    (s.Hands t fun _ ↦ []) ∧ ∀ x ∈ x?, x.definition = d ∧ x.queued = [] := by
  unfold localDetector? servicesFor at h
  simp only [gives_bind_iff, gives_ofExcept_iff] at h
  obtain ⟨found, _, ⟨-, rfl⟩, h⟩ := h
  split at h
  · obtain ⟨rfl, rfl⟩ := gives_pure_iff.mp h
    exact ⟨.refl s, by simp⟩
  · obtain ⟨number, u, hbuild, h⟩ := gives_bind_iff.mp h
    obtain ⟨rfl, rfl⟩ := gives_pure_iff.mp h
    exact ⟨(hands_of_gives_build hf hbuild).1, by simp⟩

/-- Nor does one that is not chosen change any worklist. -/
theorem hands_of_fails_localDetector? (hf : f.OffersText)
    (h : (c.localDetector? d f services).Fails s fault t) : s.Hands t fun _ ↦ [] := by
  unfold localDetector? servicesFor at h
  simp only [fails_bind_iff, gives_ofExcept_iff, fails_ofExcept_iff] at h
  rcases h with ⟨-, rfl⟩ | ⟨found, _, ⟨-, rfl⟩, h⟩
  · exact .refl s
  split at h
  · exact absurd h not_fails_pure
  · simp only [fails_bind_iff, not_fails_pure, and_false, exists_false, or_false] at h
    exact hands_of_fails_build hf h

/-! ### Entries -/

variable {es : List (PluginDefinition × Factory)} {x? : Option Selection}
  {xs : List (Option Selection)}

/-- What is chosen for an entry has been handed over, and is what was to be handed over. -/
theorem hands_of_gives_choose (hf : e.2.OffersText) (h : (c.choose services e).Gives s x? t) :
    (s.Hands t (handedTo x?.toList)) ∧ ∀ x ∈ x?, x.IsHandedOver c services t := by
  unfold choose at h
  split at h
  next hremote =>
    obtain ⟨x, u, hx, h⟩ := gives_bind_iff.mp h
    obtain ⟨rfl, rfl⟩ := gives_pure_iff.mp h
    obtain ⟨hhands, hd, hpairs⟩ := hands_of_gives_remoteDetector hf hx
    refine ⟨by rwa [Option.toList_some, handedTo_singleton], ?_⟩
    rintro _ ⟨⟩
    exact ⟨fun _ ↦ hpairs, fun hlocal ↦ absurd (hd ▸ hremote) hlocal⟩
  next hlocal =>
    obtain ⟨hhands, hx⟩ := hands_of_gives_localDetector? hf h
    have hnone : handedTo x?.toList = fun _ ↦ [] := by
      funext n
      cases x? with
      | none => rfl
      | some x => simp [handedTo, Selection.handedTo, (hx x rfl).2]
    rw [hnone]
    exact ⟨hhands, fun x hmem ↦
      ⟨fun hremote ↦ absurd ((hx x hmem).1 ▸ hremote) hlocal, fun _ ↦ (hx x hmem).2⟩⟩

/-- An entry for which no detector can be chosen is handed nothing. -/
theorem hands_of_fails_choose (hs : s.OffersText) (hf : e.2.OffersText)
    (h : (c.choose services e).Fails s fault t) : s.Hands t fun _ ↦ [] := by
  unfold choose at h
  split at h
  · simp only [fails_bind_iff, not_fails_pure, and_false, exists_false, or_false] at h
    exact hands_of_fails_remoteDetector hs hf h
  · exact hands_of_fails_localDetector? hf h

/-- What is chosen for entries has been handed over, entry by entry. -/
theorem hands_of_gives_chooseAll (hf : ∀ e ∈ es, e.2.OffersText)
    (h : (es.mapM (c.choose services)).Gives s xs t) :
    (s.Hands t (handedTo (xs.filterMap id))) ∧
      ∀ x ∈ xs.filterMap id, x.IsHandedOver c services t := by
  induction es generalizing s xs with
  | nil =>
    obtain ⟨rfl, rfl⟩ := gives_mapM_nil_iff.mp h
    exact ⟨.refl s, by simp⟩
  | cons e es ih =>
    rw [List.forall_mem_cons] at hf
    obtain ⟨x?, u, rest, hx, hrest, rfl⟩ := gives_mapM_cons_iff.mp h
    obtain ⟨hfirst, hfirstIs⟩ := hands_of_gives_choose hf.1 hx
    obtain ⟨hothers, hothersAre⟩ := ih hf.2 hrest
    rw [show (x? :: rest).filterMap id = x?.toList ++ rest.filterMap id by cases x? <;> rfl]
    constructor
    · have hall := hfirst.trans hothers
      rwa [← handedTo_append] at hall
    · intro x hmem
      rcases List.mem_append.mp hmem with hmem | hmem
      · exact (hfirstIs x (by simpa using hmem)).of_hands hothers
      · exact hothersAre x hmem

/-- If the choice fails, the entries before the one that it fails at have been handed everything,
and that one nothing. -/
theorem hands_of_fails_chooseAll (hs : s.OffersText) (hf : ∀ e ∈ es, e.2.OffersText)
    (h : (es.mapM (c.choose services)).Fails s fault t) :
    ∃ before e rest xs u, es = before ++ e :: rest ∧
      (before.mapM (c.choose services)).Gives s xs u ∧ (c.choose services e).Fails u fault t ∧
      u.Hands t fun _ ↦ [] := by
  induction es generalizing s with
  | nil => exact absurd h not_fails_mapM_nil
  | cons e es ih =>
    rw [List.forall_mem_cons] at hf
    rcases fails_mapM_cons_iff.mp h with h | ⟨x?, u, hx, h⟩
    · exact ⟨[], e, es, [], s, rfl, gives_mapM_nil_iff.mpr ⟨rfl, rfl⟩, h,
        hands_of_fails_choose hs hf.1 h⟩
    · have hu := (hands_of_gives_choose hf.1 hx).1.offersText hs
      obtain ⟨before, e', rest, xs, v, rfl, hbefore, hfails, hnothing⟩ := ih hu hf.2 h
      exact ⟨e :: before, e', rest, x? :: xs, v, rfl,
        gives_mapM_cons_iff.mpr ⟨x?, u, xs, hx, hbefore, rfl⟩, hfails, hnothing⟩

end Choosing

/-! ### Calls and runs -/

/-- A choice of detectors: who chooses and for which report, from which session, and with which
result. -/
structure Call where
  selector : Selector
  report : Option ReconReport
  before : Session
  result : Except PluginFault (List Selection)
  after : Session

namespace Call

/-- The services of the report. -/
def services (k : Call) : List NetworkService := ReconReport.servicesOf k.report

/-- The entries that detectors are chosen from. -/
def entries (k : Call) : List (PluginDefinition × Factory) :=
  k.selector.entries [.vulnDetection, .remoteVulnDetection]

/-- The result and the session behind it are those of the choice. -/
def TakesPlace (k : Call) : Prop :=
  (k.selector.detectors k.report).run.run k.before = (k.result, k.after)

/-- All plugins on offer, of objects that there are and of those that may be built, have texts as
target software. -/
def OffersText (k : Call) : Prop := k.before.OffersText ∧ ∀ e ∈ k.entries, e.2.OffersText

/-- The selections that a call makes: those of its result, and if there is none those for the
entries before the one that it fails at. That one leaves all worklists as they are. -/
def Makes (k : Call) (made : List Selection) : Prop :=
  match k.result with
  | .ok found => made = found
  | .error fault => ∃ before e rest xs u, k.entries = before ++ e :: rest ∧
      (before.mapM (k.selector.choose k.services)).Gives k.before xs u ∧
      (k.selector.choose k.services e).Fails u fault k.after ∧
      made = xs.filterMap id ∧ ∀ number, k.after.worklist number = u.worklist number

/-- What a call does to worklists: each grows at its end by what the selections made show for its
object, and that is what was to be handed over. -/
structure HandsOver (k : Call) (made : List Selection) : Prop where
  makes : k.Makes made
  hands : k.before.Hands k.after (handedTo made)
  isHandedOver : ∀ x ∈ made, x.IsHandedOver k.selector k.services k.after

/-- Every call hands over what the selections that it makes show. -/
theorem exists_handsOver {k : Call} (h : k.TakesPlace) (ht : k.OffersText) :
    ∃ made, k.HandsOver made := by
  unfold TakesPlace at h
  rw [detectors_eq] at h
  cases hr : k.result with
  | ok found =>
    rw [hr] at h
    obtain ⟨xs, u, hxs, h⟩ := gives_bind_iff.mp h
    obtain ⟨rfl, rfl⟩ := gives_pure_iff.mp h
    obtain ⟨hhands, hare⟩ := hands_of_gives_chooseAll ht.2 hxs
    exact ⟨_, by rw [Makes, hr], hhands, hare⟩
  | error fault =>
    rw [hr] at h
    have h := (fails_bind_iff.mp h).resolve_right fun ⟨_, _, _, h⟩ ↦ not_fails_pure h
    obtain ⟨before, e, rest, xs, u, hentries, hbefore, hfails, hnothing⟩ :=
      hands_of_fails_chooseAll ht.1 ht.2 h
    have htexts : ∀ e ∈ before, e.2.OffersText := fun e he ↦
      ht.2 e (hentries ▸ List.mem_append_left _ he)
    obtain ⟨hhands, hare⟩ := hands_of_gives_chooseAll htexts hbefore
    refine ⟨xs.filterMap id, ?_, ?_, fun x hx ↦ (hare x hx).of_hands hnothing⟩
    · rw [Makes, hr]
      exact ⟨before, e, rest, xs, u, hentries, hbefore, hfails, rfl, fun number ↦
        (hnothing.worklist_eq number).trans (List.append_nil _)⟩
    · simpa using hhands.trans hnothing

end Call

/-- Calls that take place one after the other. Whatever else is done between them to the objects,
to what they offer and to who shares them, worklists are left alone. -/
inductive Run : Session → List Call → Session → Prop
  | done {s t : Session} (h : ∀ number, t.worklist number = s.worklist number) : Run s [] t
  | call {s t : Session} {k : Call} {calls : List Call}
      (h : ∀ number, k.before.worklist number = s.worklist number) (hk : k.TakesPlace)
      (hcalls : Run k.after calls t) : Run s (k :: calls) t

/-- Over a whole run a worklist only grows at its end, call by call. A call with a result extends
it by the pairs of its selections: one for each plugin that a remote detector offers, in their
order, with the services that it is for, and nothing for local detectors. A call that fails does
the same for the entries before the one that it fails at, and hands nothing to that one. -/
theorem worklists_of_run {s t : Session} {calls : List Call} (h : Run s calls t)
    (ht : ∀ k ∈ calls, k.OffersText) :
    ∃ made : List (List Selection), List.Forall₂ Call.HandsOver calls made ∧
      ∀ number, t.worklist number = s.worklist number ++ handedTo made.flatten number := by
  induction h with
  | done h => exact ⟨[], .nil, fun number ↦ (h number).trans (List.append_nil _).symm⟩
  | call h hk _ ih =>
    rw [List.forall_mem_cons] at ht
    obtain ⟨found, hfound⟩ := Call.exists_handsOver hk ht.1
    obtain ⟨made, hmade, hworklist⟩ := ih ht.2
    refine ⟨found :: made, .cons hfound hmade, fun number ↦ ?_⟩
    rw [hworklist, hfound.hands.worklist_eq, h, List.flatten_cons, handedTo_append,
      List.append_assoc]

/-- The call of a selector from a session. -/
def callFrom (c : Selector) (report : Option ReconReport) (s : Session) : Call where
  selector := c
  report := report
  before := s
  result := ((c.detectors report).run.run s).1
  after := ((c.detectors report).run.run s).2

/-- A shared remote detector that offers one plugin twice and one that is for nothing in
`mixedReport`. -/
def sharedEntry : PluginDefinition × Factory :=
  ({ pluginId := "far", pluginType := .remoteVulnDetection },
    { isShared := true
      make := .ok {
        className := "Far"
        kind := .remoteDetector
        remotePlugins :=
          [{ pluginId := "web", pluginType := .text "VULN_DETECTION", forWebService := true },
           { pluginId := "mail", pluginType := .text "VULN_DETECTION",
             targetNames := some (.one "smtp") },
           { pluginId := "web", pluginType := .text "VULN_DETECTION", forWebService := true }] } })

/-- A remote detector whose second plugin is refused. -/
def refusedEntry : PluginDefinition × Factory :=
  ({ pluginId := "bad", pluginType := .remoteVulnDetection },
    { make := .ok {
        className := "Bad"
        kind := .remoteDetector
        remotePlugins :=
          [{ pluginId := "ssh", pluginType := .text "VULN_DETECTION",
             targetSoftware := some (.text "openssh") },
           { pluginId := "none", pluginType := .text "no type" }] } })

/-- A call that succeeds, and one that fails at its last entry. -/
def sharedCalls : List Call :=
  let first := callFrom { registry := some { entries := [sharedEntry] } } mixedReport {}
  [first,
   callFrom { registry := some { entries := [sharedEntry, refusedEntry] } } mixedReport first.after]

/-- The shared detector has the pairs of both calls, and the one that the second call fails at has
none. -/
theorem worklists_of_run_shared :
    ∃ made, List.Forall₂ Call.HandsOver sharedCalls made ∧
      (handedTo made.flatten 0).map (fun p ↦ (p.plugin.pluginId, p.services.map (·.name))) =
        [("web", ["http", "http"]), ("mail", []), ("web", ["http", "http"]),
         ("web", ["http", "http"]), ("mail", []), ("web", ["http", "http"])] ∧
      handedTo made.flatten 1 = [] ∧ sharedCalls.map (·.result.isOk) = [true, false] := by
  obtain ⟨first, second, hcalls⟩ : ∃ first second, sharedCalls = [first, second] := ⟨_, _, rfl⟩
  have hrun : Run {} sharedCalls second.after := by
    cases hcalls
    exact .call (fun _ ↦ rfl) rfl (.call (fun _ ↦ rfl) rfl (.done fun _ ↦ rfl))
  have hshared : sharedEntry.2.OffersText := by
    rintro _ ⟨⟩
    simp [Blueprint.OffersText]
  have hrefused : refusedEntry.2.OffersText := by
    rintro _ ⟨⟩
    simp [Blueprint.OffersText]
  have htexts : ∀ k ∈ sharedCalls, k.OffersText := by
    have hfirst : first.OffersText := by
      cases hcalls
      refine ⟨fun _ h ↦ absurd h List.not_mem_nil, fun e he ↦ ?_⟩
      exact List.mem_singleton.mp he ▸ hshared
    obtain ⟨_, hmade⟩ := Call.exists_handsOver (by cases hcalls; rfl) hfirst
    have hafter := hmade.hands.offersText hfirst.1
    have hsecond : second.OffersText := by
      cases hcalls
      refine ⟨hafter, fun e he ↦ ?_⟩
      rcases List.mem_cons.mp he with rfl | he
      · exact hshared
      · exact List.mem_singleton.mp he ▸ hrefused
    rw [hcalls]
    simp [hfirst, hsecond]
  obtain ⟨made, hmade, hworklist⟩ := worklists_of_run hrun htexts
  have hworklist number : second.after.worklist number = handedTo made.flatten number :=
    hworklist number
  cases hcalls
  refine ⟨made, hmade, ?_, ?_, by decide +kernel⟩
  · rw [← hworklist]
    decide +kernel
  · rw [← hworklist, ← List.isEmpty_iff]
    decide +kernel

end Selector

end VulnScanner
