import VulnScanner.Proofs.Plugin.Worklists

/-!
# Calls of factories

Which factories an operation calls is told by what it gives: one for each plugin that is chosen, in
the order of the choice. No object stands in for a later call, so an operation that is repeated
makes the same calls again. Where a single port scanner is asked for, all of them are built.
-/

namespace VulnScanner

/-! ### What sessions keep -/

namespace Session

variable {s t u : Session} {number : Nat} {pluginId : String} {isShared : Bool} {b : Blueprint}

/-- All that a session has is in another one: the objects with their blueprints, and which of them
factories share. -/
structure KeptIn (s t : Session) : Prop where
  blueprint?_eq : ∀ number b, s.blueprint? number = some b → t.blueprint? number = some b
  lookup_eq : ∀ pluginId number, s.shared.lookup pluginId = some number →
    t.shared.lookup pluginId = some number

/-- A session has what it has. -/
theorem KeptIn.refl (s : Session) : s.KeptIn s := ⟨fun _ _ h ↦ h, fun _ _ h ↦ h⟩

/-- What is kept twice is kept. -/
theorem KeptIn.trans (h : s.KeptIn t) (h' : t.KeptIn u) : s.KeptIn u where
  blueprint?_eq number b hb := h'.blueprint?_eq number b (h.blueprint?_eq number b hb)
  lookup_eq pluginId number hn := h'.lookup_eq pluginId number (h.lookup_eq pluginId number hn)

/-- A call of a factory changes no object. -/
theorem keptIn_called : s.KeptIn (s.called pluginId) := ⟨fun _ _ h ↦ h, fun _ _ h ↦ h⟩

/-- The object that was built last is built from its blueprint. -/
theorem blueprint?_built :
    (s.built pluginId isShared b).blueprint? s.objects.length = some b := by
  simp [blueprint?, object?, built]

/-- A new object takes the place of none, if its factory shared none before. -/
theorem keptIn_built (h : isShared = true → s.shared.lookup pluginId = none) :
    s.KeptIn (s.built pluginId isShared b) where
  blueprint?_eq number b' hb := by
    obtain ⟨o, ho, rfl⟩ := Option.map_eq_some_iff.mp hb
    have hlt := (List.getElem?_eq_some_iff.mp ho).1
    rw [blueprint?, show (s.built pluginId isShared b).object? number = s.object? number from
      List.getElem?_append_left hlt, ho]
    rfl
  lookup_eq other number hn := by
    unfold built
    cases isShared with
    | false => exact hn
    | true =>
      have hother : other ≠ pluginId := by
        rintro rfl
        rw [h rfl] at hn
        cases hn
      simpa [List.lookup_cons, beq_eq_false_iff_ne.mpr hother] using hn

/-- A worklist grows without any object becoming another. -/
theorem keptIn_enqueue (pair : MatchedPlugin) : s.KeptIn (s.update number (·.enqueue pair)) where
  blueprint?_eq n b hb := by
    unfold blueprint? object? update at *
    dsimp only
    obtain ⟨o, ho, rfl⟩ := Option.map_eq_some_iff.mp hb
    rw [List.getElem?_modify, ho]
    by_cases hn : number = n <;> simp [hn, PluginObject.enqueue]
  lookup_eq _ _ hn := hn

end Session

/-! ### Operations whose results tell their calls -/

namespace SessionM

variable {α β ε : Type} {x : SessionM α} {s t : Session}

/-- The results of an operation tell which factories it calls. Whenever it gives a result, it has
called those of the plugins told, in this order; and wherever all is kept that it has left behind,
it can be repeated, with a result that tells the same. -/
def TellsCalls (x : SessionM α) (told : α → List String) : Prop :=
  ∀ s a t, x.Gives s a t → t.calls = s.calls ++ told a ∧ s.KeptIn t ∧
    ∀ u, t.KeptIn u → ∃ b v, x.Gives u b v ∧ told b = told a

/-- The same calls can be told in another way. -/
theorem TellsCalls.congr {told told' : α → List String} (h : x.TellsCalls told)
    (hsame : ∀ s a t, x.Gives s a t → told a = told' a) : x.TellsCalls told' := by
  intro s a t ha
  obtain ⟨hcalls, hkept, hagain⟩ := h s a t ha
  refine ⟨hsame s a t ha ▸ hcalls, hkept, fun u hu ↦ ?_⟩
  obtain ⟨b, v, hb, htold⟩ := hagain u hu
  exact ⟨b, v, hb, by rw [← hsame u b v hb, htold, hsame s a t ha]⟩

/-- Doing nothing calls nothing. -/
theorem tellsCalls_pure {a : α} {told : α → List String} (h : told a = []) :
    (pure a : SessionM α).TellsCalls told := by
  intro s b t hb
  obtain ⟨rfl, rfl⟩ := gives_pure_iff.mp hb
  exact ⟨by rw [h, List.append_nil], .refl s,
    fun u _ ↦ ⟨a, u, gives_pure_iff.mpr ⟨rfl, rfl⟩, rfl⟩⟩

/-- What is made of a result afterwards calls nothing. -/
theorem TellsCalls.bind_pure {g : α → β} {told : β → List String}
    (h : x.TellsCalls fun a ↦ told (g a)) : (x >>= fun a ↦ pure (g a)).TellsCalls told := by
  intro s b t hb
  obtain ⟨a, _, ha, hb⟩ := gives_bind_iff.mp hb
  obtain ⟨rfl, rfl⟩ := gives_pure_iff.mp hb
  obtain ⟨hcalls, hkept, hagain⟩ := h s a _ ha
  refine ⟨hcalls, hkept, fun u hu ↦ ?_⟩
  obtain ⟨a', v, ha', hsame⟩ := hagain u hu
  exact ⟨g a', v, gives_bind_iff.mpr ⟨a', v, ha', gives_pure_iff.mpr ⟨rfl, rfl⟩⟩, hsame⟩

/-- Nor does what is found out beforehand without the session. -/
theorem TellsCalls.ofExcept_bind {wrap : ε → PluginFault} {r : Except ε α} {f : α → SessionM β}
    {told : β → List String} (h : ∀ a, r = .ok a → (f a).TellsCalls told) :
    (SessionM.ofExcept wrap r >>= f).TellsCalls told := by
  intro s b t hb
  obtain ⟨a, _, ha, hb⟩ := gives_bind_iff.mp hb
  obtain ⟨hr, rfl⟩ := gives_ofExcept_iff.mp ha
  obtain ⟨hcalls, hkept, hagain⟩ := h a hr s b t hb
  refine ⟨hcalls, hkept, fun u hu ↦ ?_⟩
  obtain ⟨b', v, hb', hsame⟩ := hagain u hu
  exact ⟨b', v, gives_bind_iff.mpr ⟨a, u, gives_ofExcept_iff.mpr ⟨hr, rfl⟩, hb'⟩, hsame⟩

/-- A list of operations calls what its members call, one after the other. -/
theorem TellsCalls.mapM {f : α → SessionM β} {told : β → List String} {as : List α}
    (h : ∀ a ∈ as, (f a).TellsCalls told) : (as.mapM f).TellsCalls (·.flatMap told) := by
  induction as with
  | nil => exact tellsCalls_pure rfl
  | cons a as ih =>
    rw [List.forall_mem_cons] at h
    intro s bs t hbs
    obtain ⟨b, v, rest, hb, hrest, rfl⟩ := gives_mapM_cons_iff.mp hbs
    obtain ⟨hcalls, hkept, hagain⟩ := h.1 s b v hb
    obtain ⟨hcalls', hkept', hagain'⟩ := ih h.2 v rest t hrest
    dsimp only at hcalls' hagain' ⊢
    simp only [List.flatMap_cons]
    refine ⟨by rw [hcalls', hcalls, List.append_assoc], hkept.trans hkept', fun u hu ↦ ?_⟩
    -- the first member is repeated in a session that keeps what the later ones have left, and
    -- its repetition keeps all of that for them
    obtain ⟨b', w, hb', hsame⟩ := hagain u (hkept'.trans hu)
    obtain ⟨rest', w', hrest', hsame'⟩ := hagain' w (hu.trans (h.1 u b' w hb').2.1)
    refine ⟨b' :: rest', w', gives_mapM_cons_iff.mpr ⟨b', w, rest', hb', hrest', rfl⟩, ?_⟩
    rw [List.flatMap_cons, hsame, hsame']

end SessionM

/-! ### Building -/

section Building

open SessionM

variable {d : PluginDefinition} {f : Factory} {base : PluginBase} {pluginId : String}
  {s t u : Session} {number : Nat}

/-- A factory gives the object that it shares, if there is one, and otherwise a new one. -/
theorem gives_call_iff : (f.call pluginId).Gives s number t ↔
    (f.isShared = true ∧ s.shared.lookup pluginId = some number ∧ s.called pluginId = t) ∨
      (f.isShared = true → s.shared.lookup pluginId = none) ∧
        ∃ b, f.make = .ok b ∧ s.objects.length = number ∧ s.built pluginId f.isShared b = t := by
  unfold Gives
  rw [PluginDefinition.run_call]
  change @Eq (Except PluginFault Nat × Session) _ _ ↔ _
  cases hshared : f.isShared with
  | false => cases f.make <;> simp
  | true =>
    cases s.shared.lookup pluginId with
    | none => cases f.make <;> simp
    | some n => simp

/-- Building is a call of the factory that gives an object of the class. -/
theorem gives_build_iff : (d.build f base).Gives s number t ↔
    (f.call d.pluginId).Gives s number t ∧
      ∃ b, t.blueprint? number = some b ∧ b.kind.isA base = true := by
  unfold PluginDefinition.build Session.blueprint?
  simp only [gives_bind_iff, gives_get_iff]
  constructor
  · rintro ⟨n, v, hcall, _, _, ⟨rfl, rfl⟩, h⟩
    split at h
    next o ho =>
      split at h
      next hisA =>
        obtain ⟨rfl, rfl⟩ := gives_pure_iff.mp h
        exact ⟨hcall, o.blueprint, by rw [ho]; rfl, hisA⟩
      · exact absurd h not_gives_throw
    · exact absurd h not_gives_throw
  · rintro ⟨hcall, b, hb, hisA⟩
    obtain ⟨o, ho, rfl⟩ := Option.map_eq_some_iff.mp hb
    refine ⟨number, t, hcall, t, t, ⟨rfl, rfl⟩, ?_⟩
    rw [ho]
    dsimp only
    rw [if_pos hisA]
    exact gives_pure_iff.mpr ⟨rfl, rfl⟩

/-- Building calls the factory once, and changes no object that is there. -/
private theorem calls_of_gives_build (h : (d.build f base).Gives s number t) :
    t.calls = s.calls ++ [d.pluginId] ∧ s.KeptIn t := by
  rcases gives_call_iff.mp (gives_build_iff.mp h).1 with ⟨-, -, rfl⟩ | ⟨hnew, b, -, -, rfl⟩
  · exact ⟨rfl, Session.keptIn_called⟩
  · exact ⟨rfl, Session.keptIn_built hnew⟩

/-- A plugin that was built can be built again, from the same blueprint. -/
private theorem gives_build_again (h : (d.build f base).Gives s number t) (hu : t.KeptIn u) :
    ∃ n v, (d.build f base).Gives u n v ∧ v.blueprint? n = t.blueprint? number := by
  obtain ⟨hcall, b, hb, hisA⟩ := gives_build_iff.mp h
  have hshares : f.isShared = true → t.shared.lookup d.pluginId = some number := by
    intro hshared
    rcases gives_call_iff.mp hcall with ⟨-, hn, rfl⟩ | ⟨-, _, -, rfl, rfl⟩
    · exact hn
    · simp [Session.built, hshared]
  cases hshared : f.isShared with
  | true =>
    have hn := hu.lookup_eq _ _ (hshares hshared)
    have hb' : (u.called d.pluginId).blueprint? number = some b := hu.blueprint?_eq _ _ hb
    refine ⟨number, u.called d.pluginId, gives_build_iff.mpr ⟨?_, b, hb', hisA⟩, hb'.trans hb.symm⟩
    exact gives_call_iff.mpr (.inl ⟨hshared, hn, rfl⟩)
  | false =>
    have hnever : f.isShared = true → u.shared.lookup d.pluginId = none := by simp [hshared]
    rcases gives_call_iff.mp hcall with ⟨hfalse, -⟩ | ⟨-, b', hmake, rfl, rfl⟩
    · rw [hshared] at hfalse
      cases hfalse
    obtain rfl : b' = b := Option.some.inj (Session.blueprint?_built.symm.trans hb)
    refine ⟨_, _, gives_build_iff.mpr ⟨gives_call_iff.mpr (.inr ⟨hnever, b', hmake, rfl, rfl⟩),
      b', Session.blueprint?_built, hisA⟩, ?_⟩
    rw [hb, Session.blueprint?_built]

/-- Building a plugin calls its factory, each time anew. -/
theorem tellsCalls_build (d : PluginDefinition) (f : Factory) (base : PluginBase) :
    (d.build f base).TellsCalls fun _ ↦ [d.pluginId] := by
  intro s number t h
  obtain ⟨hcalls, hkept⟩ := calls_of_gives_build h
  refine ⟨hcalls, hkept, fun u hu ↦ ?_⟩
  obtain ⟨n, v, hagain, -⟩ := gives_build_again h hu
  exact ⟨n, v, hagain, rfl⟩

end Building

/-! ### Choosing -/

/-- The identifiers of the plugins that were chosen. -/
def pluginIds (found : List Selection) : List String := found.map (·.definition.pluginId)

namespace Selector

open SessionM

variable {c : Selector} {services : List NetworkService} {d : PluginDefinition} {f : Factory}
  {s t : Session} {number : Nat}

private theorem gives_enqueueAll {ds : List PluginDefinition} {pairs : List MatchedPlugin}
    (h : (ds.mapM (c.enqueue number services)).Gives s pairs t) :
    t.calls = s.calls ∧ s.KeptIn t ∧
      ∀ n u, ∃ pairs' v, (ds.mapM (c.enqueue n services)).Gives u pairs' v ∧ u.KeptIn v := by
  induction ds generalizing s pairs with
  | nil =>
    obtain ⟨rfl, rfl⟩ := gives_mapM_nil_iff.mp h
    exact ⟨rfl, .refl s, fun n u ↦ ⟨[], u, gives_mapM_nil_iff.mpr ⟨rfl, rfl⟩, .refl u⟩⟩
  | cons d ds ih =>
    obtain ⟨pair, _, rest, hpair, hrest, rfl⟩ := gives_mapM_cons_iff.mp h
    obtain ⟨rfl, hservices, rfl⟩ := gives_enqueue_iff.mp hpair
    obtain ⟨hcalls, hkept, hagain⟩ := ih hrest
    refine ⟨hcalls, (Session.keptIn_enqueue pair).trans hkept, fun n u ↦ ?_⟩
    obtain ⟨rest', v, hrest', hkept'⟩ := hagain n (u.update n (·.enqueue pair))
    exact ⟨pair :: rest', v, gives_mapM_cons_iff.mpr ⟨pair, _, rest',
      gives_enqueue_iff.mpr ⟨rfl, hservices, rfl⟩, hrest', rfl⟩,
      (Session.keptIn_enqueue pair).trans hkept'⟩

/-- Choosing a remote detector calls its factory; what it offers is the same each time. -/
theorem tellsCalls_remoteDetector :
    (c.remoteDetector d f services).TellsCalls fun x ↦ [x.definition.pluginId] := by
  intro s x t h
  unfold remoteDetector at h ⊢
  simp only [gives_bind_iff, gives_pure_iff, gives_get_iff] at h ⊢
  obtain ⟨n, v, hbuild, _, _, ⟨rfl, rfl⟩, ds, _, hdefine, pairs, _, henqueue, rfl, rfl⟩ := h
  obtain ⟨-, b, hb, -⟩ := gives_build_iff.mp hbuild
  obtain ⟨hcalls, hkept⟩ := calls_of_gives_build hbuild
  rw [Session.remotePlugins_of_blueprint? hb, gives_mapM_ofExcept_iff] at hdefine
  obtain ⟨hdrafts, rfl⟩ := hdefine
  obtain ⟨hcalls', hkept', hagain⟩ := gives_enqueueAll henqueue
  refine ⟨hcalls'.trans hcalls, hkept.trans hkept', fun u hu ↦ ?_⟩
  obtain ⟨n', w, hbuild', hb'⟩ := gives_build_again hbuild (hkept'.trans hu)
  obtain ⟨pairs', w', henqueue', -⟩ := hagain n' w
  refine ⟨_, w',
    ⟨n', w, hbuild', w, w, ⟨rfl, rfl⟩, ds, w, ?_, pairs', w', henqueue', rfl, rfl⟩, rfl⟩
  rw [Session.remotePlugins_of_blueprint? (hb'.trans hb)]
  exact gives_mapM_ofExcept_iff.mpr ⟨hdrafts, rfl⟩

/-- Choosing a local detector calls its factory if it is chosen. -/
theorem tellsCalls_localDetector? :
    (c.localDetector? d f services).TellsCalls fun x? ↦ pluginIds x?.toList := by
  refine .ofExcept_bind fun found _ ↦ ?_
  split
  · exact tellsCalls_pure rfl
  · exact .bind_pure (tellsCalls_build d f .detector)

/-- The choice for an entry calls the factory if something is chosen. -/
theorem tellsCalls_choose (e : PluginDefinition × Factory) :
    (c.choose services e).TellsCalls fun x? ↦ pluginIds x?.toList := by
  unfold choose
  split
  · exact .bind_pure tellsCalls_remoteDetector
  · exact tellsCalls_localDetector?

private theorem flatMap_toList (found : List (Option Selection)) :
    (found.flatMap fun x? ↦ pluginIds x?.toList) = pluginIds (found.filterMap id) := by
  induction found with
  | nil => rfl
  | cons x? found ih =>
    rw [List.flatMap_cons, ih]
    cases x? <;> rfl

/-- The port scanners that are given are all there are. -/
theorem definitions_of_gives_portScanners {found : List Selection}
    (h : c.portScanners.Gives s found t) :
    found.map (·.definition) = (c.entries [.portScan]).map (·.1) := by
  have hall : List.Forall₂ (fun (e : PluginDefinition × Factory) x ↦ e.1 = x.definition)
      (c.entries [.portScan]) found := by
    refine forall₂_of_gives_mapM (fun e _ x s t hx ↦ ?_) h
    obtain ⟨_, _, -, hx⟩ := gives_bind_iff.mp hx
    rw [← (gives_pure_iff.mp hx).1]
  symm
  rwa [← List.forall₂_eq_eq_eq, List.forall₂_map_left_iff, List.forall₂_map_right_iff]

/-- How a selector calls factories. -/
structure CallsFactories (c : Selector) : Prop where
  /-- Each operation calls the factories of the plugins that it gives, in their order and once
  each, and when it is repeated it does so again. -/
  portScanners : c.portScanners.TellsCalls pluginIds
  fingerprinter? : ∀ service, (c.fingerprinter? service).TellsCalls fun x? ↦ pluginIds x?.toList
  detectors : ∀ report, (c.detectors report).TellsCalls pluginIds
  /-- Asked for a single port scanner, the selector calls the factories of all of them. -/
  portScanner? :
    c.portScanner?.TellsCalls fun _ ↦ (c.entries [.portScan]).map (·.1.pluginId)
  portScanner?_eq : ∀ s x? t, c.portScanner?.Gives s x? t →
    x?.map (·.definition) = (c.entries [.portScan]).head?.map (·.1)
  /-- These are the calls for what it gives only where there is no second one. -/
  calls_portScanner?_iff : ∀ s x? t, c.portScanner?.Gives s x? t →
    (t.calls = s.calls ++ pluginIds x?.toList ↔ (c.entries [.portScan]).length ≤ 1)

private theorem tellsCalls_portScanners : c.portScanners.TellsCalls pluginIds := by
  have htold : pluginIds = fun found ↦ found.flatMap fun x ↦ [x.definition.pluginId] := by
    funext found
    exact List.map_eq_flatMap
  rw [htold]
  exact .mapM fun e _ ↦ .bind_pure (tellsCalls_build e.1 e.2 .portScanner)

private theorem tellsCalls_fingerprinter? (service : NetworkService) :
    (c.fingerprinter? service).TellsCalls fun x? ↦ pluginIds x?.toList := by
  unfold fingerprinter?
  split
  · exact tellsCalls_pure rfl
  next d f _ => exact .bind_pure (tellsCalls_build d f .fingerprinter)

private theorem tellsCalls_detectors (report : Option ReconReport) :
    (c.detectors report).TellsCalls pluginIds := by
  rw [detectors_eq]
  refine .bind_pure (.congr (.mapM fun e _ ↦ tellsCalls_choose e) fun _ found _ _ ↦ ?_)
  exact flatMap_toList found

private theorem tellsCalls_portScanner? :
    c.portScanner?.TellsCalls fun _ ↦ (c.entries [.portScan]).map (·.1.pluginId) := by
  refine .bind_pure (.congr tellsCalls_portScanners fun s found t h ↦ ?_)
  have hids := congrArg (List.map (·.pluginId)) (definitions_of_gives_portScanners h)
  rwa [List.map_map, List.map_map] at hids

private theorem portScanner?_eq {x? : Option Selection} (h : c.portScanner?.Gives s x? t) :
    x?.map (·.definition) = (c.entries [.portScan]).head?.map (·.1) := by
  obtain ⟨found, _, hfound, h⟩ := gives_bind_iff.mp h
  obtain ⟨rfl, rfl⟩ := gives_pure_iff.mp h
  rw [← List.head?_map, definitions_of_gives_portScanners hfound, List.head?_map]

/-- A selector calls one factory for each plugin that it gives, in their order, however large the
registry is and whatever the web rule, the services and the session are; and it does so again when
it is asked again. The exception is a single port scanner: for this all port scanners are built, and
all but the first are given up. -/
theorem callsFactories (c : Selector) : c.CallsFactories where
  portScanners := tellsCalls_portScanners
  fingerprinter? := tellsCalls_fingerprinter?
  detectors := tellsCalls_detectors
  portScanner? := tellsCalls_portScanner?
  portScanner?_eq s x? t h := portScanner?_eq h
  calls_portScanner?_iff s x? t h := by
    have hids : pluginIds x?.toList =
        ((c.entries [.portScan]).head?.map (·.1.pluginId)).toList := by
      have hfirst := congrArg (Option.map (·.pluginId)) (portScanner?_eq h)
      rw [Option.map_map, Option.map_map] at hfirst
      rw [pluginIds, ← Option.toList_map]
      exact congrArg Option.toList hfirst
    rw [(tellsCalls_portScanner? s x? t h).1, hids, List.append_cancel_left_eq]
    cases c.entries [.portScan] with
    | nil => simp
    | cons e rest => simp

/-- A selector with two port scanners. -/
def nearAndFar : Selector :=
  let scanner (pluginId : String) : PluginDefinition × Factory :=
    ({ pluginId := pluginId, pluginType := .portScan },
      { make := .ok { className := "Ports", kind := .portScanner } })
  { registry := some { entries := [scanner "near", scanner "far"] } }

/-- The first one is given, and both are built. -/
example :
    (nearAndFar.portScanner?.run.run {}).1.toOption.map (·.map (·.definition.pluginId)) =
        some (some "near") ∧
      (nearAndFar.portScanner?.run.run {}).2.calls = ["near", "far"] := by
  decide +kernel

end Selector
end VulnScanner
