import VulnScanner.Proofs.Plugin.Matching

/-!
# Target software that is no text

Target software may be any value. Which values can be compared with the software of a service, and
so for which services a definition can be matched at all.
-/

namespace VulnScanner

namespace Value

/-- A text that can be put in lower case as one of several parts: outside of the capital letters
every text, and between them single characters only. -/
def IsLowerable (v : Value) : Prop :=
  ∃ s, v = .text s ∧ ("A" ≤ s → s ≤ "Z" → s.length = 1)

/-- A value that can be compared with texts of some length: it can be gone through, and if it has
that many parts, all of them can be put in lower case. -/
def IsComparable (v : Value) (length : Nat) : Prop :=
  ∃ parts, v.iterate? = some parts ∧ (parts.length = length → ∀ part ∈ parts, part.IsLowerable)

/-- A text can be compared with texts of any length. -/
theorem isComparable_text (s : String) (length : Nat) : (text s).IsComparable length := by
  refine ⟨_, rfl, fun _ part hpart ↦ ?_⟩
  obtain ⟨c, -, rfl⟩ := List.mem_map.mp hpart
  exact ⟨_, rfl, fun _ _ ↦ by simp⟩

end Value

variable {v : Value} {s : String}

/-- A part has a form in lower case exactly if it can be put in lower case. -/
theorem exists_lowerPart_iff : (∃ lower, lowerPart v = .ok lower) ↔ v.IsLowerable := by
  unfold Value.IsLowerable lowerPart
  split
  next s =>
    simp only [Value.text.injEq, exists_eq_left']
    split
    next hcapital =>
      split
      next hlength => simp [hlength]
      next hlength => simp [hlength, hcapital]
    next hcapital => exact iff_of_true ⟨s, rfl⟩ fun h h' ↦ absurd ⟨h, h'⟩ hcapital
  next hne => exact iff_of_false (fun ⟨_, h⟩ ↦ by cases h) fun ⟨s, hs, _⟩ ↦ hne s hs

/-- A value is compared with a text exactly if it can be compared with texts of its length. -/
theorem exists_sameUpToCase_iff :
    (∃ same, sameUpToCase v s = .ok same) ↔ v.IsComparable s.length := by
  unfold sameUpToCase
  split
  next t => exact iff_of_true ⟨_, rfl⟩ (Value.isComparable_text t s.length)
  · unfold Value.IsComparable
    cases v.iterate? with
    | none => simp
    | some parts =>
      simp only [Option.some.injEq, exists_eq_left', ne_eq, ite_not]
      split
      next hlength =>
        simp only [hlength, forall_const, ← exists_lowerPart_iff, ← exists_mapM_eq_ok_iff]
        constructor
        · rintro ⟨_, h⟩
          obtain ⟨lowered, hlowered, -⟩ := bind_eq_ok_iff.mp h
          exact ⟨lowered, hlowered⟩
        · rintro ⟨lowered, hlowered⟩
          rw [hlowered]
          exact ⟨_, rfl⟩
      next hlength => simp [hlength]

namespace PluginDefinition

variable {web : WebRule} {d : PluginDefinition} {service : NetworkService}

/-- A service that a definition can be matched with: its name decides, its software is not known
yet, or the target software can be compared with it. -/
def CanMatch (web : WebRule) (d : PluginDefinition) (service : NetworkService) : Prop :=
  (d.MeetsNames service ∨ (d.forWebService = true ∧ web service = true)) ∨
    service.software.name = "" ∨ ∀ v ∈ d.targetSoftware, v.IsComparable service.software.name.length

/-- The software rule has an answer if the software is not known yet or can be compared. -/
theorem exists_matchesSoftware_iff (hd : d.IsDefined) :
    (∃ b, d.matchesSoftware service = .ok b) ↔ service.software.name = "" ∨
      ∀ v ∈ d.targetSoftware, v.IsComparable service.software.name.length := by
  unfold matchesSoftware
  cases hsoftware : d.targetSoftware with
  | none => simp
  | some v =>
    have htruthy := (isDefined_iff.mp hd).2.2 v hsoftware
    simp only [htruthy, Option.mem_some_iff, forall_eq', ← exists_sameUpToCase_iff]
    by_cases hempty : service.software.name = "" <;> simp [hempty]

/-- The rules for one service have an answer exactly if it can be matched. -/
theorem exists_isFor_iff (hd : d.IsDefined) :
    (∃ b, d.isFor web service = .ok b) ↔ d.CanMatch web service := by
  unfold isFor CanMatch
  rw [← matchesName_iff hd, ← exists_matchesSoftware_iff hd]
  split
  next hname => simp [hname]
  next hname => simp [hname]

/-- The services that a definition is for can be told exactly if it can be matched with each. -/
theorem exists_servicesFor_iff (hd : d.IsDefined) {services : List NetworkService} :
    (∃ found, d.servicesFor web services = .ok found) ↔
      ∀ service ∈ services, d.CanMatch web service := by
  unfold servicesFor
  split
  next hfree =>
    refine iff_of_true ⟨services, rfl⟩ fun _ _ ↦ .inr (.inr fun v hv ↦ ?_)
    rw [(isUnconstrained_iff.mp hfree).2.1] at hv
    cases hv
  · simp only [exists_filterM_eq_ok_iff, exists_isFor_iff hd]

end PluginDefinition
end VulnScanner
