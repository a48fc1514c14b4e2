import VulnScanner.Proofs.Plugin.Detectors
import VulnScanner.Proofs.Plugin.Growth

/-!
# What the choice of detectors will give

What the choice of a detector comes to can be told from the session before it, and it does not
change while others are chosen. So the detectors chosen from a registry are what each entry by
itself was told to give, and they are different objects; and if the choice fails, it was told to
fail for some entry.
-/

namespace VulnScanner

/-! ### One entry -/

/-- What a selection is, apart from the number of its object: the definition, the services and what
the object works with. -/
structure Prospect where
  definition : PluginDefinition
  services : List NetworkService
  core : Option PluginCore

/-- The prospect of a selection. -/
def Selection.prospect (x : Selection) (s : Session) : Prospect :=
  ⟨x.definition, x.services, s.core? x.object⟩

namespace Selector

open SessionM

variable {c : Selector} {services : List NetworkService} {d : PluginDefinition} {f : Factory}
  {e : PluginDefinition × Factory} {es : List (PluginDefinition × Factory)} {s t u : Session}
  {x : Selection} {x? : Option Selection} {xs : List (Option Selection)} {fault : PluginFault}

/-- What handing a plugin to a remote detector will come to. -/
def foreseePlugin (c : Selector) (services : List NetworkService) (d : PluginDefinition) :
    Except PluginFault MatchedPlugin :=
  ((d.servicesFor c.web services).mapError .comparison).map (MatchedPlugin.mk d)

/-- What the choice of the detector of an entry will come to. -/
def foresee (c : Selector) (services : List NetworkService) (s : Session)
    (e : PluginDefinition × Factory) : Except PluginFault (Option Prospect) :=
  if e.1.pluginType = .remoteVulnDetection then do
    let core ← e.1.foresee e.2 .remoteDetector s
    let definitions ← core.1.remotePlugins.mapM fun draft ↦ draft.define.mapError .definition
    let _ ← definitions.mapM (c.foreseePlugin services)
    return some ⟨e.1, services, some core⟩
  else do
    let found ← (e.1.servicesFor c.web services).mapError .comparison
    if found.isEmpty && !e.1.isUnconstrained then return none
    return some ⟨e.1, found, some (← e.1.foresee e.2 .detector s)⟩

section Lists

variable {α β : Type} {step : α → SessionM β} {told : α → Except PluginFault β} {as : List α}
  {bs : List β}

private theorem gives_mapM_told
    (hstep : ∀ a s b t, (step a).Gives s b t → s.Grows [] t ∧ told a = .ok b)
    (h : (as.mapM step).Gives s bs t) : s.Grows [] t ∧ as.mapM told = .ok bs := by
  induction as generalizing s bs with
  | nil =>
    obtain ⟨rfl, rfl⟩ := gives_mapM_nil_iff.mp h
    exact ⟨.refl s, rfl⟩
  | cons a as ih =>
    obtain ⟨b, u, rest, hb, hrest, rfl⟩ := gives_mapM_cons_iff.mp h
    obtain ⟨hgrows, htold⟩ := hstep a s b u hb
    obtain ⟨hgrows', htold'⟩ := ih hrest
    refine ⟨hgrows.trans hgrows', ?_⟩
    rw [List.mapM_cons, htold, ok_bind, htold', ok_bind]
    rfl

private theorem fails_mapM_told
    (hstep : ∀ a s b t, (step a).Gives s b t → s.Grows [] t ∧ told a = .ok b)
    (hfails : ∀ a s t fault, (step a).Fails s fault t → told a = .error fault)
    (h : (as.mapM step).Fails s fault t) : as.mapM told = .error fault := by
  induction as generalizing s with
  | nil => exact absurd h not_fails_mapM_nil
  | cons a as ih =>
    rw [List.mapM_cons]
    rcases fails_mapM_cons_iff.mp h with h | ⟨b, u, hb, h⟩
    · rw [hfails a s t fault h, error_bind]
    · rw [(hstep a s b u hb).2, ok_bind, ih h, error_bind]

end Lists

private theorem gives_ofExcept_told {ε α : Type} {wrap : ε → PluginFault} {r : Except ε α} {a : α}
    (h : (SessionM.ofExcept wrap r).Gives s a t) : s.Grows [] t ∧ r.mapError wrap = .ok a := by
  obtain ⟨rfl, rfl⟩ := gives_ofExcept_iff.mp h
  exact ⟨.refl s, rfl⟩

private theorem fails_ofExcept_told {ε α : Type} {wrap : ε → PluginFault} {r : Except ε α}
    (h : (SessionM.ofExcept wrap r).Fails s fault t) : r.mapError wrap = .error fault := by
  obtain ⟨⟨_, rfl, rfl⟩, -⟩ := fails_ofExcept_iff.mp h
  rfl

private theorem gives_enqueue_told {object : Nat} {plugin : MatchedPlugin}
    (h : (c.enqueue object services d).Gives s plugin t) :
    s.Grows [] t ∧ c.foreseePlugin services d = .ok plugin := by
  unfold enqueue at h
  simp only [gives_bind_iff, gives_pure_iff, gives_modify_iff] at h
  obtain ⟨found, u, hfound, -, v, hmodify, rfl, rfl⟩ := h
  obtain ⟨hgrows, htold⟩ := gives_ofExcept_told hfound
  rw [foreseePlugin, htold, ← hmodify]
  exact ⟨hgrows.trans (Session.grows_enqueue ..), rfl⟩

private theorem fails_enqueue_told {object : Nat}
    (h : (c.enqueue object services d).Fails s fault t) :
    c.foreseePlugin services d = .error fault := by
  unfold enqueue at h
  simp only [fails_bind_iff, not_fails_pure, not_fails_modify, and_false, exists_false,
    or_false] at h
  rw [foreseePlugin, fails_ofExcept_told h]
  rfl

/-- A remote detector is chosen as was told. -/
private theorem gives_remoteDetector (hs : s.Sound) (hremote : d.pluginType = .remoteVulnDetection)
    (h : (c.remoteDetector d f services).Gives s x t) :
    s.Grows [d.pluginId] t ∧ t.Sound ∧ c.foresee services s (d, f) = .ok (some (x.prospect t)) ∧
      x.object < t.objects.length ∧
      (s.objects.length ≤ x.object ∨ s.shared.lookup d.pluginId = some x.object) := by
  unfold remoteDetector at h
  simp only [gives_bind_iff, gives_pure_iff, gives_get_iff] at h
  obtain ⟨object, u, hbuild, _, _, ⟨rfl, rfl⟩, definitions, v, hdefine, queued, w, henqueue, rfl,
    rfl⟩ := h
  obtain ⟨hgrows, hsound, hobject, core, htold, hlt, hcore⟩ :=
    PluginDefinition.gives_build hs hbuild
  rw [Session.remotePlugins_of_blueprint? (Session.blueprint?_of_core? hcore)] at hdefine
  obtain ⟨hgrows', htold'⟩ := gives_mapM_told (fun _ _ _ _ ↦ gives_ofExcept_told) hdefine
  obtain ⟨hgrows'', htold''⟩ := gives_mapM_told (fun _ _ _ _ ↦ gives_enqueue_told) henqueue
  have hlater := hgrows'.trans hgrows''
  refine ⟨hgrows.trans hlater, hsound.of_grows hlater, ?_, ?_, hobject⟩
  · unfold foresee Selection.prospect
    rw [if_pos hremote, htold, ok_bind, htold', ok_bind, htold'', ok_bind,
      hlater.core?_eq object hlt, hcore]
    rfl
  · exact Nat.lt_of_lt_of_le hlt hlater.length_le

/-- A remote detector that is not chosen fails as was told. -/
private theorem fails_remoteDetector (hs : s.Sound)
    (hremote : d.pluginType = .remoteVulnDetection)
    (h : (c.remoteDetector d f services).Fails s fault t) :
    c.foresee services s (d, f) = .error fault := by
  unfold remoteDetector at h
  simp only [fails_bind_iff, gives_get_iff, not_fails_get, not_fails_pure, false_or, and_false,
    exists_false, or_false] at h
  unfold foresee
  rw [if_pos hremote]
  rcases h with h | ⟨object, u, hbuild, _, _, ⟨rfl, rfl⟩, h⟩
  · rw [PluginDefinition.fails_build hs h, error_bind]
  obtain ⟨-, -, -, core, htold, -, hcore⟩ := PluginDefinition.gives_build hs hbuild
  rw [Session.remotePlugins_of_blueprint? (Session.blueprint?_of_core? hcore)] at h
  rw [htold, ok_bind]
  rcases h with h | ⟨definitions, v, hdefine, h⟩
  · rw [fails_mapM_told (fun _ _ _ _ ↦ gives_ofExcept_told) (fun _ _ _ _ ↦ fails_ofExcept_told) h,
      error_bind]
  · rw [(gives_mapM_told (fun _ _ _ _ ↦ gives_ofExcept_told) hdefine).2, ok_bind,
      fails_mapM_told (fun _ _ _ _ ↦ gives_enqueue_told) (fun _ _ _ _ ↦ fails_enqueue_told) h,
      error_bind]

/-- An entry is handled as was told: a detector is chosen with the prospect that was told, or none
is. -/
theorem gives_choose (hs : s.Sound) (h : (c.choose services e).Gives s x? t) :
    s.Grows [e.1.pluginId] t ∧ t.Sound ∧
      c.foresee services s e = .ok (x?.map (·.prospect t)) ∧
      ∀ x ∈ x?, x.object < t.objects.length ∧
        (s.objects.length ≤ x.object ∨ s.shared.lookup e.1.pluginId = some x.object) := by
  unfold choose at h
  split at h
  next hremote =>
    obtain ⟨x, u, hx, h⟩ := gives_bind_iff.mp h
    obtain ⟨rfl, rfl⟩ := gives_pure_iff.mp h
    obtain ⟨hgrows, hsound, htold, hlt, hobject⟩ := gives_remoteDetector hs hremote hx
    refine ⟨hgrows, hsound, htold, ?_⟩
    rintro _ ⟨⟩
    exact ⟨hlt, hobject⟩
  next hlocal =>
    unfold localDetector? at h
    obtain ⟨found, u, hfound, h⟩ := gives_bind_iff.mp h
    obtain ⟨hservices, rfl⟩ := gives_ofExcept_iff.mp hfound
    unfold foresee
    rw [if_neg hlocal, hservices]
    change _ ∧ _ ∧ (if (found.isEmpty && !e.1.isUnconstrained) = true then _ else _) = _ ∧ _
    split at h
    next hempty =>
      obtain ⟨rfl, rfl⟩ := gives_pure_iff.mp h
      rw [if_pos hempty]
      exact ⟨(Session.Grows.refl _).mono (List.nil_subset _), hs, rfl, by simp⟩
    next hempty =>
      obtain ⟨object, v, hbuild, h⟩ := gives_bind_iff.mp h
      obtain ⟨rfl, rfl⟩ := gives_pure_iff.mp h
      obtain ⟨hgrows, hsound, hobject, core, htold, hlt, hcore⟩ :=
        PluginDefinition.gives_build hs hbuild
      rw [if_neg hempty, htold]
      refine ⟨hgrows, hsound, ?_, ?_⟩
      · unfold Selection.prospect
        rw [Option.map_some, hcore]
        rfl
      · rintro _ ⟨⟩
        exact ⟨hlt, hobject⟩

/-- An entry that cannot be handled fails as was told. -/
theorem fails_choose (hs : s.Sound) (h : (c.choose services e).Fails s fault t) :
    c.foresee services s e = .error fault := by
  unfold choose at h
  split at h
  next hremote =>
    simp only [fails_bind_iff, not_fails_pure, and_false, exists_false, or_false] at h
    exact fails_remoteDetector hs hremote h
  next hlocal =>
    unfold localDetector? at h
    unfold foresee
    rw [if_neg hlocal]
    rcases fails_bind_iff.mp h with h | ⟨found, u, hfound, h⟩
    · rw [fails_ofExcept_told h, error_bind]
    obtain ⟨hservices, rfl⟩ := gives_ofExcept_iff.mp hfound
    rw [hservices]
    change (if (found.isEmpty && !e.1.isUnconstrained) = true then _ else _) = _
    split at h
    next hempty => exact absurd h not_fails_pure
    next hempty =>
      simp only [fails_bind_iff, not_fails_pure, and_false, exists_false, or_false] at h
      rw [if_neg hempty, PluginDefinition.fails_build hs h, error_bind]

/-- What was told of an entry does not change while other plugins are built. -/
theorem foresee_congr {ids : List String} (hs : s.Sound) (h : s.Grows ids t)
    (hid : e.1.pluginId ∉ ids) : c.foresee services t e = c.foresee services s e := by
  unfold foresee
  rw [PluginDefinition.foresee_congr hs h hid, PluginDefinition.foresee_congr hs h hid]

/-! ### All entries -/

/-- A selection keeps its prospect while more is built. -/
private theorem prospect_eq {ids : List String} (h : t.Grows ids u)
    (hx : x.object < t.objects.length) : x.prospect u = x.prospect t := by
  unfold Selection.prospect
  rw [h.core?_eq x.object hx]

variable {told : PluginDefinition × Factory → Except PluginFault (Option Prospect)}

private theorem told_of_grows {rest : List (PluginDefinition × Factory)} (hs : s.Sound)
    (hids : e.1.pluginId ∉ rest.map (·.1.pluginId))
    (htold : ∀ e ∈ rest, c.foresee services s e = told e) (h : s.Grows [e.1.pluginId] u) :
    ∀ e ∈ rest, c.foresee services u e = told e := by
  intro e' he'
  rw [← htold e' he']
  refine foresee_congr hs h fun hid ↦ hids ?_
  rw [← List.mem_singleton.mp hid]
  exact List.mem_map_of_mem he'

/-- Entries of different plugins are handled one after the other as was told of each beforehand, and
no two of the selections have the same object. -/
theorem gives_mapM_choose (hs : s.Sound) (hids : (es.map (·.1.pluginId)).Nodup)
    (htold : ∀ e ∈ es, c.foresee services s e = told e)
    (h : (es.mapM (c.choose services)).Gives s xs t) :
    s.Grows (es.map (·.1.pluginId)) t ∧
      List.Forall₂ (fun e x? ↦ told e = .ok (x?.map (·.prospect t))) es xs ∧
      ((xs.filterMap id).map (·.object)).Nodup ∧
      ∀ x ∈ xs.filterMap id, x.definition.pluginId ∈ es.map (·.1.pluginId) ∧
        (s.objects.length ≤ x.object ∨
          s.shared.lookup x.definition.pluginId = some x.object) := by
  induction es generalizing s xs with
  | nil =>
    obtain ⟨rfl, rfl⟩ := gives_mapM_nil_iff.mp h
    exact ⟨.refl s, .nil, List.nodup_nil, by simp⟩
  | cons e rest ih =>
    obtain ⟨x?, u, xs, hx, hrest, rfl⟩ := gives_mapM_cons_iff.mp h
    rw [List.map_cons, List.nodup_cons] at hids
    rw [List.forall_mem_cons] at htold
    obtain ⟨hgrows, hsound, hfirst, hobject⟩ := gives_choose hs hx
    obtain ⟨hgrows', hothers, hnodup, hobjects⟩ :=
      ih hsound hids.2 (told_of_grows hs hids.1 htold.2 hgrows) hrest
    -- seen from the session before, the other selections too have new objects or those that
    -- their own factories share
    have hobjects : ∀ y ∈ xs.filterMap id, y.definition.pluginId ∈ rest.map (·.1.pluginId) ∧
        (u.objects.length ≤ y.object ∨
          s.shared.lookup y.definition.pluginId = some y.object) := by
      intro y hy
      obtain ⟨hid, hy⟩ := hobjects y hy
      have hother : y.definition.pluginId ∉ [e.1.pluginId] := fun he ↦
        hids.1 (List.mem_singleton.mp he ▸ hid)
      rw [hgrows.lookup_eq _ hother] at hy
      exact ⟨hid, hy⟩
    refine ⟨hgrows.trans hgrows', .cons ?_ hothers, ?_, ?_⟩
    · rw [← htold.1, hfirst]
      refine congrArg Except.ok (Option.map_congr fun x hx ↦ ?_)
      exact (prospect_eq hgrows' (hobject x hx).1).symm
    · cases x? with
      | none => exact hnodup
      | some x =>
        obtain ⟨hlt, hnew⟩ := hobject x rfl
        refine List.nodup_cons.mpr ⟨fun hmem ↦ ?_, hnodup⟩
        obtain ⟨y, hy, hsame⟩ := List.mem_map.mp hmem
        replace hsame : y.object = x.object := hsame
        obtain ⟨hid, hy | hy⟩ := hobjects y hy
        · omega
        · have hold := hs.lt_of_lookup _ _ hy
          rcases hnew with hnew | hnew
          · omega
          · rw [hsame] at hy
            exact hids.1 (hs.eq_of_lookup _ _ _ hnew hy ▸ hid)
    · intro y hy
      rw [List.map_cons, List.mem_cons]
      obtain ⟨o, ho, hoy⟩ := List.mem_filterMap.mp hy
      rcases List.mem_cons.mp ho with rfl | ho
      · rw [definition_of_gives_choose hx y hoy]
        exact ⟨.inl rfl, (hobject y hoy).2⟩
      · obtain ⟨hid, hy⟩ := hobjects y (List.mem_filterMap.mpr ⟨o, ho, hoy⟩)
        exact ⟨.inr hid, hy.imp_left (Nat.le_trans hgrows.length_le)⟩

/-- If the entries are not handled, one of them fails as was told. -/
theorem fails_mapM_choose (hs : s.Sound) (hids : (es.map (·.1.pluginId)).Nodup)
    (htold : ∀ e ∈ es, c.foresee services s e = told e)
    (h : (es.mapM (c.choose services)).Fails s fault t) : ∃ e ∈ es, told e = .error fault := by
  induction es generalizing s with
  | nil => exact absurd h not_fails_mapM_nil
  | cons e rest ih =>
    rw [List.map_cons, List.nodup_cons] at hids
    rw [List.forall_mem_cons] at htold
    rcases fails_mapM_cons_iff.mp h with h | ⟨x?, u, hx, h⟩
    · exact ⟨e, List.mem_cons_self, htold.1 ▸ fails_choose hs h⟩
    · obtain ⟨hgrows, hsound, -⟩ := gives_choose hs hx
      obtain ⟨e', he', hfails⟩ :=
        ih hsound hids.2 (told_of_grows hs hids.1 htold.2 hgrows) h
      exact ⟨e', List.mem_cons_of_mem _ he', hfails⟩

/-- The prospect of an entry, if a detector will be chosen for it. -/
def foreseen (c : Selector) (services : List NetworkService) (s : Session)
    (e : PluginDefinition × Factory) : Option Prospect :=
  match c.foresee services s e with
  | .ok p? => p?
  | .error _ => none

variable {r : Registry Factory} {report : Option ReconReport} {found : List Selection}

private theorem nodup_ofTypes (hr : r.Reached) (types : List PluginType) :
    ((r.ofTypes types).map (·.1.pluginId)).Nodup :=
  hr.nodup_ids.sublist (List.filter_sublist.map _)

/-- The choice of detectors fails exactly if it was told to fail for an entry. -/
theorem exists_fails_detectors_iff (hc : c.registry = some r) (hr : r.Reached) (hs : s.Sound) :
    (∃ fault t, (c.detectors report).Fails s fault t) ↔
      ∃ e ∈ r.ofTypes [.vulnDetection, .remoteVulnDetection], ∃ fault,
        c.foresee (ReconReport.servicesOf report) s e = .error fault := by
  simp only [fails_detectors_iff hc]
  constructor
  · rintro ⟨fault, t, h⟩
    obtain ⟨e, he, hfails⟩ := fails_mapM_choose hs (nodup_ofTypes hr _) (fun _ _ ↦ rfl) h
    exact ⟨e, he, fault, hfails⟩
  · rintro ⟨e, he, fault, hfails⟩
    refine (gives_or_fails _ s).resolve_left ?_
    rintro ⟨xs, t, h⟩
    obtain ⟨-, htold, -⟩ := gives_mapM_choose hs (nodup_ofTypes hr _) (fun _ _ ↦ rfl) h
    obtain ⟨x?, -, hx⟩ := exists_of_mem_of_forall₂ htold he
    rw [hfails] at hx
    cases hx

/-- The detectors that are chosen have the prospects that were told entry by entry, and they are
different objects. -/
theorem prospects_of_gives_detectors (hc : c.registry = some r) (hr : r.Reached) (hs : s.Sound)
    (h : (c.detectors report).Gives s found t) :
    found.map (·.prospect t) =
        (r.ofTypes [.vulnDetection, .remoteVulnDetection]).filterMap
          (c.foreseen (ReconReport.servicesOf report) s) ∧
      (found.map (·.object)).Nodup := by
  obtain ⟨xs, hxs, rfl⟩ := (gives_detectors_iff hc).mp h
  obtain ⟨-, htold, hnodup, -⟩ := gives_mapM_choose hs (nodup_ofTypes hr _) (fun _ _ ↦ rfl) hxs
  refine ⟨map_filterMap_of_forall₂ (htold.imp fun e x? hx ↦ ?_), hnodup⟩
  rw [foreseen, hx]

end Selector
end VulnScanner
