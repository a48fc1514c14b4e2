import VulnScanner.Plugin.Matching
import VulnScanner.Proofs.Plugin.Registration
import VulnScanner.Proofs.Steps
import VulnScanner.Proofs.Text.Case

/-!
# The services that definitions are for

The rules by which a service meets the conditions of a definition, as relations. Where the targets
of a definition are texts, the services found for it are exactly those that meet its conditions,
or all of them if it has none.
-/

namespace VulnScanner.PluginDefinition

variable (web : WebRule) (d : PluginDefinition) (s : NetworkService)

/-- A definition without target names, without target software and not for web services alone. -/
def IsUnconditional : Prop :=
  d.targetNames = none ∧ d.targetSoftware = none ∧ d.forWebService = false

/-- There are target names, and the service has no name yet or that of one of them. -/
def MeetsNames : Prop :=
  ∃ names ∈ d.targetNames, s.name = "" ∨ ∃ name ∈ names, Text.SameLetters name s.name

/-- There is target software, and that of the service is not known yet or the same. -/
def MeetsSoftware : Prop :=
  match d.targetSoftware with
  | some (.text software) => s.software.name = "" ∨ Text.SameLetters software s.software.name
  | _ => False

/-- The service meets one of the conditions of a definition. -/
def Meets : Prop :=
  d.MeetsNames s ∨ (d.forWebService = true ∧ web s = true) ∨ d.MeetsSoftware s

/-- Target software is a text. -/
def HasTextTargets : Prop := ∀ v, d.targetSoftware = some v → ∃ software, v = .text software

variable {web d s}

/-- The definition fits every service exactly if it has no condition. -/
theorem isUnconstrained_iff : d.isUnconstrained = true ↔ d.IsUnconditional := by
  unfold isUnconstrained IsUnconditional
  simp only [Bool.and_eq_true, Option.isNone_iff_eq_none, Bool.not_eq_true', and_assoc]

instance : Decidable d.IsUnconditional := decidable_of_iff _ isUnconstrained_iff

instance : Decidable (d.MeetsNames s) :=
  inferInstanceAs (Decidable (∃ names ∈ d.targetNames, _ ∨ ∃ name ∈ names, _))

instance : Decidable (d.MeetsSoftware s) := by
  unfold MeetsSoftware
  split <;> infer_instance

instance : Decidable (d.Meets web s) := inferInstanceAs (Decidable (_ ∨ (_ ∧ _) ∨ _))

/-- The name rule holds of the services that meet the names, and of web services for those that
are for them. -/
theorem matchesName_iff (hd : d.IsDefined) :
    d.matchesName web s = true ↔ d.MeetsNames s ∨ (d.forWebService = true ∧ web s = true) := by
  unfold matchesName MeetsNames
  rw [Bool.or_eq_true, Bool.and_eq_true]
  refine or_congr_left ?_
  cases hnames : d.targetNames with
  | none => simp
  | some names =>
    have hne : names ≠ [] := by
      rintro rfl
      exact (isDefined_iff.mp hd).2.1 hnames
    simp [hne, Text.equalsIgnoringCase_iff]

/-- The software rule holds of the services that meet the software. -/
theorem matchesSoftware_eq_ok_iff (hd : d.IsDefined) (ht : d.HasTextTargets) {b : Bool} :
    d.matchesSoftware s = .ok b ↔ (b = true ↔ d.MeetsSoftware s) := by
  unfold matchesSoftware MeetsSoftware
  cases hsoftware : d.targetSoftware with
  | none => cases b <;> simp
  | some v =>
    obtain ⟨software, rfl⟩ := ht v hsoftware
    have htruthy := (isDefined_iff.mp hd).2.2 _ hsoftware
    simp only [htruthy]
    by_cases hempty : s.software.name = ""
    · cases b <;> simp [hempty]
    · simp only [hempty, false_or, ← Text.equalsIgnoringCase_iff]
      cases b <;> simp [hempty, sameUpToCase]

/-- A definition with text targets is for the services that meet one of its conditions. -/
theorem isFor_eq (hd : d.IsDefined) (ht : d.HasTextTargets) :
    d.isFor web s = .ok (decide (d.Meets web s)) := by
  unfold isFor
  split
  next hname =>
    have hmeets : d.Meets web s := or_assoc.mp (.inl ((matchesName_iff hd).mp hname))
    simp [hmeets]
  next hname =>
    rw [matchesName_iff hd] at hname
    rw [matchesSoftware_eq_ok_iff hd ht, decide_eq_true_iff, Meets, ← or_assoc]
    exact or_iff_right hname

/-- A definition with text targets is for all services if it has no condition, and otherwise for
those that meet one, in their order. -/
theorem servicesFor_eq (hd : d.IsDefined) (ht : d.HasTextTargets) (services : List NetworkService) :
    d.servicesFor web services =
      .ok (if d.IsUnconditional then services else services.filter (d.Meets web)) := by
  unfold servicesFor
  simp only [← isUnconstrained_iff]
  split
  · rfl
  · exact filterM_eq_ok fun s _ ↦ isFor_eq hd ht

end VulnScanner.PluginDefinition
