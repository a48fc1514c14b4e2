import VulnScanner.Plugin.Definition

/-!
# Drafts of definitions

When a draft is accepted, and what for it is refused. A draft without an identifier, of no known
category, with an empty list of target names or with empty target software is refused, for the first
of these reasons; every other draft becomes a definition with the same content.
-/

namespace VulnScanner

namespace PluginType

variable {v : Value} {t : PluginType}

/-- A category is named by its name alone. -/
theorem ofValue?_eq_some_iff : ofValue? v = some t ↔ v = .text t.name := by
  constructor
  · intro h
    cases v with
    | text s =>
      have hname := List.find?_some h
      rw [beq_iff_eq] at hname
      rw [hname]
    | _ => cases h
  · rintro rfl
    exact ofName?_name t

/-- What is no name of a category names none. -/
theorem ofValue?_eq_none_iff : ofValue? v = none ↔ ∀ t : PluginType, v ≠ .text t.name := by
  simp only [Option.eq_none_iff_forall_ne_some, Ne, ofValue?_eq_some_iff]

end PluginType

namespace PluginDraft

variable {draft : PluginDraft} {d : PluginDefinition} {error : DefinitionError}

/-- The definition of a category with the content of a draft. -/
def toDefinition (draft : PluginDraft) (t : PluginType) : PluginDefinition :=
  { draft with pluginType := t, targetNames := draft.targetNames.map NameTargets.toList }

/-- Why a draft is refused: the first of these reasons. -/
inductive IsRefused (draft : PluginDraft) : DefinitionError → Prop
  | noIdentifier (hid : draft.pluginId = "") : IsRefused draft .noIdentifier
  | unknownType (hid : draft.pluginId ≠ "")
      (htype : ∀ t : PluginType, draft.pluginType ≠ .text t.name) :
      IsRefused draft (.unknownType draft.pluginType draft.pluginId)
  | emptyNames {t : PluginType} (hid : draft.pluginId ≠ "")
      (htype : draft.pluginType = .text t.name)
      (hnames : draft.targetNames.map NameTargets.toList = some []) :
      IsRefused draft (.emptyNames draft.pluginId)
  | emptySoftware {t : PluginType} {v : Value} (hid : draft.pluginId ≠ "")
      (htype : draft.pluginType = .text t.name)
      (hnames : draft.targetNames.map NameTargets.toList ≠ some [])
      (hsoftware : draft.targetSoftware = some v) (hempty : v.isTruthy = false) :
      IsRefused draft (.emptySoftware draft.pluginId)

/-- How a draft becomes a definition: nothing is wrong with it. -/
inductive IsAccepted (draft : PluginDraft) : PluginDefinition → Prop
  | intro {t : PluginType} (hid : draft.pluginId ≠ "") (htype : draft.pluginType = .text t.name)
      (hnames : draft.targetNames.map NameTargets.toList ≠ some [])
      (hsoftware : ∀ v ∈ draft.targetSoftware, v.isTruthy = true) :
      IsAccepted draft (draft.toDefinition t)

private theorem any_not_isTruthy_eq_true_iff {software : Option Value} :
    software.any (!·.isTruthy) = true ↔ ∃ v, software = some v ∧ v.isTruthy = false := by
  cases software <;> simp

private theorem any_not_isTruthy_eq_false_iff {software : Option Value} :
    ¬ software.any (!·.isTruthy) = true ↔ ∀ v ∈ software, v.isTruthy = true := by
  cases software <;> simp

/-- Checking a draft comes to the first reason to refuse it, or to its definition. -/
private theorem define_cases (draft : PluginDraft) :
    (∃ error, draft.define = .error error ∧ draft.IsRefused error) ∨
      ∃ d, draft.define = .ok d ∧ draft.IsAccepted d := by
  unfold define
  split
  next hid => exact .inl ⟨_, rfl, .noIdentifier hid⟩
  next hid =>
  split
  next htype =>
    exact .inl ⟨_, rfl, .unknownType hid (PluginType.ofValue?_eq_none_iff.mp htype)⟩
  next t htype =>
  have htype := PluginType.ofValue?_eq_some_iff.mp htype
  dsimp only
  split
  next hnames => exact .inl ⟨_, rfl, .emptyNames hid htype hnames⟩
  next hnames =>
  split
  next hsoftware =>
    obtain ⟨v, hv, hempty⟩ := any_not_isTruthy_eq_true_iff.mp hsoftware
    exact .inl ⟨_, rfl, .emptySoftware hid htype hnames hv hempty⟩
  next hsoftware =>
    exact .inr ⟨_, rfl, .intro hid htype hnames (any_not_isTruthy_eq_false_iff.mp hsoftware)⟩

/-- A draft that is to be refused for a reason is. -/
theorem IsRefused.define_eq (h : draft.IsRefused error) : draft.define = .error error := by
  unfold define
  cases h with
  | noIdentifier hid => rw [if_pos hid]
  | unknownType hid htype => rw [if_neg hid, PluginType.ofValue?_eq_none_iff.mpr htype]
  | emptyNames hid htype hnames =>
    rw [if_neg hid, PluginType.ofValue?_eq_some_iff.mpr htype]
    exact if_pos hnames
  | emptySoftware hid htype hnames hsoftware hempty =>
    have hany := any_not_isTruthy_eq_true_iff.mpr ⟨_, hsoftware, hempty⟩
    rw [if_neg hid, PluginType.ofValue?_eq_some_iff.mpr htype]
    exact (if_neg hnames).trans (if_pos hany)

/-- A draft that is to be accepted is. -/
theorem IsAccepted.define_eq (h : draft.IsAccepted d) : draft.define = .ok d := by
  unfold define
  cases h with
  | intro hid htype hnames hsoftware =>
    have hany := any_not_isTruthy_eq_false_iff.mpr hsoftware
    rw [if_neg hid, PluginType.ofValue?_eq_some_iff.mpr htype]
    exact (if_neg hnames).trans (if_neg hany)

/-- A draft is refused for one of the reasons and for no other. -/
theorem define_eq_error_iff : draft.define = .error error ↔ draft.IsRefused error := by
  refine ⟨fun h ↦ ?_, IsRefused.define_eq⟩
  rcases define_cases draft with ⟨error', h', hrefused⟩ | ⟨d, h', -⟩
  · cases h.symm.trans h'
    exact hrefused
  · cases h.symm.trans h'

/-- A draft becomes a definition exactly if nothing is wrong with it. -/
theorem define_eq_ok_iff : draft.define = .ok d ↔ draft.IsAccepted d := by
  refine ⟨fun h ↦ ?_, IsAccepted.define_eq⟩
  rcases define_cases draft with ⟨error, h', -⟩ | ⟨d', h', haccepted⟩
  · cases h.symm.trans h'
  · cases h.symm.trans h'
    exact haccepted

/-- A definition has the target software of its draft. -/
theorem targetSoftware_of_define (h : draft.define = .ok d) :
    d.targetSoftware = draft.targetSoftware := by
  cases define_eq_ok_iff.mp h
  rfl

end PluginDraft
end VulnScanner
