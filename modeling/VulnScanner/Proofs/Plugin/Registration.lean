import Mathlib.Data.List.Induction
import Mathlib.Data.List.Nodup
import VulnScanner.Plugin.Registry
import VulnScanner.Proofs.Plugin.Drafts

/-!
# Registries that are reached

What holds of every registry that is filled by registering definitions: no identifier stands twice,
and each definition has passed the checks of definitions. Every such registry is reached.
-/

namespace VulnScanner

/-! ### Definitions that have been checked -/

namespace PluginDefinition

variable {d : PluginDefinition}

/-- A definition that a draft was accepted as. -/
def IsDefined (d : PluginDefinition) : Prop := ∃ draft : PluginDraft, draft.define = .ok d

/-- The definitions that are accepted have an identifier, no empty list of target names and no empty
target software. -/
theorem isDefined_iff :
    d.IsDefined ↔ d.pluginId ≠ "" ∧ d.targetNames ≠ some [] ∧
      ∀ v ∈ d.targetSoftware, v.isTruthy = true := by
  constructor
  · rintro ⟨draft, h⟩
    obtain ⟨hid, -, hnames, hsoftware⟩ := PluginDraft.define_eq_ok_iff.mp h
    exact ⟨hid, hnames, hsoftware⟩
  · rintro ⟨hid, hnames, hsoftware⟩
    let draft : PluginDraft :=
      { d with
        pluginType := .text d.pluginType.name
        targetNames := d.targetNames.map .many }
    have hmany : draft.targetNames.map NameTargets.toList = d.targetNames :=
      (Option.map_map ..).trans (Option.map_id' ..)
    have haccepted : draft.IsAccepted (draft.toDefinition d.pluginType) :=
      .intro hid rfl (hmany ▸ hnames) hsoftware
    have hsame : draft.toDefinition d.pluginType = d := by
      rw [PluginDraft.toDefinition, hmany]
    exact ⟨draft, hsame ▸ haccepted.define_eq⟩

instance : Decidable d.IsDefined := decidable_of_iff _ isDefined_iff.symm

end PluginDefinition

/-! ### Registrations -/

namespace Registry

variable {F : Type} {r r' : Registry F} {d : PluginDefinition} {factory : F} {isCallable : Bool}

/-- A registration succeeds exactly if the registry is not frozen, the identifier is new and the
factory can be called; it adds the entry at the end. -/
theorem register_eq_ok_iff :
    r.register d factory isCallable = .ok r' ↔
      r.isFrozen = false ∧ d.pluginId ∉ r.ids ∧ isCallable = true ∧
        { r with entries := r.entries ++ [(d, factory)] } = r' := by
  unfold register hasId
  cases r.isFrozen with
  | true => simp
  | false =>
    by_cases hid : d.pluginId ∈ r.ids
    · simp [hid]
    · cases isCallable <;> simp [hid]

/-- The registries that registrations of checked definitions and freezing lead to. -/
inductive Reached : Registry F → Prop
  | empty : Reached empty
  | register {r r' : Registry F} {d : PluginDefinition} {factory : F} {isCallable : Bool}
      (hr : Reached r) (hd : d.IsDefined) (h : r.register d factory isCallable = .ok r') :
      Reached r'
  | freeze {r : Registry F} (hr : Reached r) : Reached r.freeze

/-- The definitions of a registry have been checked. -/
theorem Reached.isDefined (h : r.Reached) : ∀ e ∈ r.entries, e.1.IsDefined := by
  induction h with
  | empty =>
    intro e he
    cases he
  | register _ hd h ih =>
    obtain ⟨-, -, -, rfl⟩ := register_eq_ok_iff.mp h
    intro e he
    rcases List.mem_append.mp he with he | he
    · exact ih e he
    · rw [List.mem_singleton.mp he]
      exact hd
  | freeze _ ih => exact ih

/-- No identifier stands twice in a registry. -/
theorem Reached.nodup_ids (h : r.Reached) : r.ids.Nodup := by
  induction h with
  | empty => exact List.nodup_nil
  | @register r _ d factory _ _ _ h ih =>
    obtain ⟨-, hnew, -, rfl⟩ := register_eq_ok_iff.mp h
    have hids : ids { r with entries := r.entries ++ [(d, factory)] } = r.ids ++ [d.pluginId] := by
      simp [ids]
    rw [hids, List.nodup_append_comm]
    exact List.nodup_cons.mpr ⟨hnew, ih⟩
  | freeze _ ih => exact ih

/-- Registrations lead to the registries of checked definitions with different identifiers. -/
theorem reached_iff : r.Reached ↔ (∀ e ∈ r.entries, e.1.IsDefined) ∧ r.ids.Nodup := by
  constructor
  · exact fun h ↦ ⟨h.isDefined, h.nodup_ids⟩
  rintro ⟨hd, hids⟩
  obtain ⟨entries, isFrozen⟩ := r
  have hopen : Reached { entries := entries } := by
    induction entries using List.reverseRecOn with
    | nil => exact .empty
    | append_singleton entries e ih =>
      rw [List.forall_mem_append, List.forall_mem_singleton] at hd
      unfold ids at hids
      rw [List.map_append, List.map_singleton, List.nodup_append_comm, List.singleton_append,
        List.nodup_cons] at hids
      have hentry : ({ entries := entries } : Registry F).register e.1 e.2 true =
          .ok { entries := entries ++ [e] } := register_eq_ok_iff.mpr ⟨rfl, hids.1, rfl, rfl⟩
      exact .register (ih hd.1 hids.2) hd.2 hentry
  cases isFrozen with
  | false => exact hopen
  | true => exact hopen.freeze

instance : Decidable r.Reached := decidable_of_iff _ reached_iff.symm

end Registry
end VulnScanner
