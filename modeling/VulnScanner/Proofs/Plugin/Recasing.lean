import VulnScanner.Proofs.Plugin.Identification
import VulnScanner.Proofs.Plugin.Parallel

/-!
# The same definitions and services in another case

What a definition is for does not depend on the case of ASCII letters: neither in the names of
services and of their software, nor in the names and the software that the definition is meant for.
Names of a definition are a set, so some may fall together in another case, and others come apart.
-/

namespace VulnScanner

/-! ### Names -/

namespace Text

variable {a a' : String}

/-- Two lists have the same names up to case, whatever their order and repetitions are. -/
structure SameNames (names names' : List String) : Prop where
  left : ∀ name ∈ names, ∃ name' ∈ names', SameLetters name name'
  right : ∀ name' ∈ names', ∃ name ∈ names, SameLetters name name'

namespace SameNames

variable {names names' : List String}

/-- Recasing the names of a list one by one leaves the same names. -/
theorem of_forall₂ (h : List.Forall₂ SameLetters names names') : SameNames names names' where
  left _ hname := exists_of_mem_of_forall₂ h hname
  right _ hname' := exists_of_mem_of_forall₂ h.flip hname'

/-- There are no names on both sides or on none. -/
theorem eq_nil_iff (h : SameNames names names') : names = [] ↔ names' = [] := by
  simp only [List.eq_nil_iff_forall_not_mem]
  refine ⟨fun hnone name' hname' ↦ ?_, fun hnone name hname ↦ ?_⟩
  · obtain ⟨name, hname, -⟩ := h.right name' hname'
    exact hnone name hname
  · obtain ⟨name', hname', -⟩ := h.left name hname
    exact hnone name' hname'

/-- There are names on both sides or on none. -/
theorem isEmpty_eq (h : SameNames names names') : names.isEmpty = names'.isEmpty := by
  rw [Bool.eq_iff_iff, List.isEmpty_iff, List.isEmpty_iff, h.eq_nil_iff]

/-- The same texts are found among the names, up to case. -/
theorem any_eq (h : SameNames names names') (ha : SameLetters a a') :
    names.any (equalsIgnoringCase · a) = names'.any (equalsIgnoringCase · a') := by
  rw [Bool.eq_iff_iff, List.any_eq_true, List.any_eq_true]
  simp only [equalsIgnoringCase_iff]
  constructor
  · rintro ⟨name, hname, hsame⟩
    obtain ⟨name', hname', hrecased⟩ := h.left name hname
    exact ⟨name', hname', (sameLetters_congr hrecased ha).mp hsame⟩
  · rintro ⟨name', hname', hsame⟩
    obtain ⟨name, hname, hrecased⟩ := h.right name' hname'
    exact ⟨name, hname, (sameLetters_congr hrecased ha).mpr hsame⟩

end SameNames
end Text

open Text (SameLetters SameNames)

/-! ### Services and definitions -/

/-- A value is another one, or both are texts that are the same up to case. -/
inductive Value.Recased : Value → Value → Prop
  | text {a b : String} (h : SameLetters a b) : Value.Recased (.text a) (.text b)
  | same (v : Value) : Value.Recased v v

/-- A value is as empty as it is in another case. -/
theorem Value.Recased.isTruthy_eq {v v' : Value} (h : v.Recased v') : v.isTruthy = v'.isTruthy := by
  cases h with
  | text h => rw [Value.isTruthy, Value.isTruthy, h.isEmpty_eq]
  | same v => rfl

/-- A service in another case of its name and of that of its software. -/
inductive NetworkService.Recased (s : NetworkService) : NetworkService → Prop
  | intro {name software : String} (hname : SameLetters s.name name)
      (hsoftware : SameLetters s.software.name software) :
      Recased s { s with name := name, software := { s.software with name := software } }

/-- A definition in another case of its target names and of its target software. -/
inductive PluginDefinition.Recased (d : PluginDefinition) : PluginDefinition → Prop
  | intro {names? : Option (List String)} {software? : Option Value}
      (hnames : Option.Rel SameNames d.targetNames names?)
      (hsoftware : Option.Rel Value.Recased d.targetSoftware software?) :
      Recased d { d with targetNames := names?, targetSoftware := software? }

/-- A draft of a definition in another case of its targets. -/
inductive PluginDraft.Recased (draft : PluginDraft) : PluginDraft → Prop
  | intro {names? : Option NameTargets} {software? : Option Value}
      (hnames : Option.Rel SameNames (draft.targetNames.map NameTargets.toList)
        (names?.map NameTargets.toList))
      (hsoftware : Option.Rel Value.Recased draft.targetSoftware software?) :
      Recased draft { draft with targetNames := names?, targetSoftware := software? }

private theorem exists_mem_of_rel {α β : Type} {R : α → β → Prop} {a? : Option α} {b? : Option β}
    (h : Option.Rel R a? b?) {b : β} (hb : b ∈ b?) : ∃ a ∈ a?, R a b := by
  cases h with
  | none => cases hb
  | some hab =>
    cases hb
    exact ⟨_, rfl, hab⟩

private theorem eq_some_nil_of_rel {names? names?' : Option (List String)}
    (h : Option.Rel SameNames names? names?') : names? = some [] ↔ names?' = some [] := by
  cases h with
  | none => exact Iff.rfl
  | some h => rw [Option.some_inj, Option.some_inj, h.eq_nil_iff]

/-- In another case a draft is refused for the same reason. -/
theorem PluginDraft.Recased.isRefused {draft draft' : PluginDraft} {error : DefinitionError}
    (h : draft.Recased draft') (hrefused : draft.IsRefused error) : draft'.IsRefused error := by
  cases h with
  | intro hnames hsoftware =>
    have hempty := eq_some_nil_of_rel hnames
    cases hrefused with
    | noIdentifier hid => exact .noIdentifier hid
    | unknownType hid htype => exact .unknownType hid htype
    | emptyNames hid htype hnone => exact .emptyNames hid htype (hempty.mp hnone)
    | emptySoftware hid htype hsome hv hfalsy =>
      rw [hv] at hsoftware
      cases hsoftware with
      | some hrecased =>
        exact .emptySoftware hid htype (hempty.not.mp hsome) rfl
          (hrecased.isTruthy_eq.symm.trans hfalsy)

/-- In another case a draft becomes the definition in that case. -/
theorem PluginDraft.Recased.isAccepted {draft draft' : PluginDraft} {d : PluginDefinition}
    (h : draft.Recased draft') (haccepted : draft.IsAccepted d) :
    ∃ d', draft'.IsAccepted d' ∧ d.Recased d' := by
  cases h with
  | intro hnames hsoftware =>
    cases haccepted with
    | intro hid htype hsome htruthy =>
      refine ⟨_, .intro hid htype ((eq_some_nil_of_rel hnames).not.mp hsome) ?_,
        .intro hnames hsoftware⟩
      intro v' hv'
      obtain ⟨v, hv, hrecased⟩ := exists_mem_of_rel hsoftware hv'
      rw [← hrecased.isTruthy_eq]
      exact htruthy v hv

/-- A draft is accepted in every case of its targets, or refused for the same reason in each. -/
theorem PluginDraft.Recased.define {draft draft' : PluginDraft} (h : draft.Recased draft') :
    SameOutcome PluginDefinition.Recased draft.define draft'.define := by
  cases hdefine : draft.define with
  | error error =>
    rw [(h.isRefused (define_eq_error_iff.mp hdefine)).define_eq]
    exact .error error
  | ok d =>
    obtain ⟨d', haccepted, hrecased⟩ := h.isAccepted (define_eq_ok_iff.mp hdefine)
    rw [haccepted.define_eq]
    exact .ok hrecased

/-! ### Matching -/

namespace NetworkService

variable {s s' : NetworkService}

/-- A service is a web service in every case of its name. -/
theorem Recased.isWeb_eq (h : s.Recased s') : s.isWeb = s'.isWeb := by
  cases h with
  | intro hname => rw [isWeb, isWeb, Text.sameLetters_iff.mp hname]

end NetworkService

/-- A value and a text are compared in the same way in every case. -/
theorem sameUpToCase_congr {v v' : Value} {a a' : String} (h : v.Recased v')
    (ha : SameLetters a a') : sameUpToCase v a = sameUpToCase v' a' := by
  cases h with
  | text h => rw [sameUpToCase, sameUpToCase, Text.equalsIgnoringCase_congr h ha]
  | same v =>
    unfold sameUpToCase
    simp only [Text.equalsIgnoringCase_congr (.refl _) ha, ha.length_eq,
      Text.sameLetters_iff.mp ha]

namespace PluginDefinition.Recased

variable {d d' : PluginDefinition} {s s' : NetworkService}

/-- A definition has conditions in every case of its targets or in none. -/
theorem isUnconstrained_eq (h : d.Recased d') : d.isUnconstrained = d'.isUnconstrained := by
  cases h with
  | intro hnames hsoftware =>
    unfold isUnconstrained
    generalize d.targetNames = names? at hnames
    generalize d.targetSoftware = software? at hsoftware
    cases hnames <;> cases hsoftware <;> rfl

/-- A definition has its identifier in every case of its targets. -/
theorem pluginId_eq (h : d.Recased d') : d.pluginId = d'.pluginId := by
  cases h
  rfl

/-- A definition has its category in every case of its targets. -/
theorem pluginType_eq (h : d.Recased d') : d.pluginType = d'.pluginType := by
  cases h
  rfl

/-- The name rule does not depend on case. -/
theorem matchesName_eq (h : d.Recased d') (hs : s.Recased s') :
    d.matchesName NetworkService.isWeb s = d'.matchesName NetworkService.isWeb s' := by
  cases h with
  | intro hnames hsoftware =>
    unfold matchesName
    rw [hs.isWeb_eq]
    generalize d.targetNames = names? at hnames
    cases hnames with
    | none => rfl
    | some hsame =>
      cases hs with
      | intro hname =>
        have hempty := hsame.isEmpty_eq
        simp only [hname.isEmpty_eq, hempty, hsame.any_eq hname]

/-- The software rule does not depend on case. -/
theorem matchesSoftware_eq (h : d.Recased d') (hs : s.Recased s') :
    d.matchesSoftware s = d'.matchesSoftware s' := by
  cases h with
  | intro hnames hsoftware =>
    unfold matchesSoftware
    generalize d.targetSoftware = software? at hsoftware
    cases hsoftware with
    | none => rfl
    | some hrecased =>
      cases hs with
      | intro hname hsoftware =>
        simp only [hrecased.isTruthy_eq, hsoftware.isEmpty_eq,
          sameUpToCase_congr hrecased hsoftware]

/-- The rules have the same answer in every case. -/
theorem isFor_eq (h : d.Recased d') (hs : s.Recased s') :
    d.isFor NetworkService.isWeb s = d'.isFor NetworkService.isWeb s' := by
  rw [isFor, isFor, h.matchesName_eq hs, h.matchesSoftware_eq hs]

/-- A service is kept in every case or in none. -/
theorem keeps_iff (h : d.Recased d') (hs : s.Recased s') :
    d.Keeps NetworkService.isWeb s ↔ d'.Keeps NetworkService.isWeb s' := by
  rw [Keeps, Keeps, h.isUnconstrained_eq, h.isFor_eq hs]

/-- A service is covered in every case or in none. -/
theorem covers_iff (h : d.Recased d') (hs : s.Recased s') :
    d.Covers NetworkService.isWeb s ↔ d'.Covers NetworkService.isWeb s' := by
  rw [Covers, Covers, h.pluginType_eq, h.keeps_iff hs]

end PluginDefinition.Recased

/-- Of two lists of services those that pass one test or another are found, and they stand at the
same positions. -/
structure SamePlaces (p p' : NetworkService → Prop) [DecidablePred p] [DecidablePred p']
    (services found services' found' : List NetworkService) : Prop where
  filter_eq : services.filter p = found
  filter_eq' : services'.filter p' = found'
  findIdxs_eq : services.findIdxs p = services'.findIdxs p'

section

variable {p p' : NetworkService → Prop} [DecidablePred p] [DecidablePred p']
  {services services' : List NetworkService}

private theorem findIdxs_eq_of_iff (h : List.Forall₂ (fun s s' ↦ p s ↔ p' s') services services')
    (start : Nat) : services.findIdxs p start = services'.findIdxs p' start := by
  induction h generalizing start with
  | nil => rfl
  | cons hiff _ ih => simp only [List.findIdxs_cons, decide_eq_true_iff, hiff, ih]

/-- What passes is at the same positions if the same members pass. -/
theorem samePlaces_of_iff (h : List.Forall₂ (fun s s' ↦ p s ↔ p' s') services services') :
    SamePlaces p p' services (services.filter p) services' (services'.filter p') :=
  ⟨rfl, rfl, findIdxs_eq_of_iff h 0⟩

end

namespace PluginDefinition.Recased

variable {d d' : PluginDefinition} {services services' : List NetworkService}

/-- The services that a definition is for are at the same positions in another case. -/
theorem servicesFor (h : d.Recased d')
    (hs : List.Forall₂ NetworkService.Recased services services') :
    SameOutcome (fun found found' ↦ List.Forall₂ NetworkService.Recased found found' ∧
        SamePlaces (d.Keeps NetworkService.isWeb) (d'.Keeps NetworkService.isWeb)
          services found services' found')
      (d.servicesFor NetworkService.isWeb services)
      (d'.servicesFor NetworkService.isWeb services') := by
  have hfound : SameOutcome (List.Forall₂ NetworkService.Recased)
      (d.servicesFor NetworkService.isWeb services)
      (d'.servicesFor NetworkService.isWeb services') := by
    unfold PluginDefinition.servicesFor
    rw [h.isUnconstrained_eq]
    split
    · exact .ok hs
    · exact .filterM hs fun _ _ ↦ h.isFor_eq
  refine hfound.mono fun found found' hleft hright hrecased ↦ ⟨hrecased, ?_⟩
  rw [← (servicesFor_eq_ok_iff.mp hleft).2, ← (servicesFor_eq_ok_iff.mp hright).2]
  exact samePlaces_of_iff (hs.imp fun _ _ ↦ h.keeps_iff)

end PluginDefinition.Recased

end VulnScanner
