import VulnScanner.Proofs.Plugin.Running
import VulnScanner.Proofs.Steps

/-!
# Building a plugin

What building a plugin gives can be told from the session before it: from its factory, or from the
object that the factory shares. Building only adds to a session, so what was told of one
plugin stays true while others are built.
-/

namespace VulnScanner

/-! ### Sessions that grow -/

/-- What an object works with: its blueprint and the reports that it has made. -/
abbrev PluginCore := Blueprint × List DetectionReport

namespace Session

variable {s t u : Session} {ids ids' : List String} {number : Nat}

/-- What the object with a number works with. -/
def core? (s : Session) (number : Nat) : Option PluginCore :=
  (s.object? number).map fun o ↦ (o.blueprint, o.results)

/-- An object works with what it was built from. -/
theorem blueprint?_of_core? {core : PluginCore} (h : s.core? number = some core) :
    s.blueprint? number = some core.1 := by
  obtain ⟨o, ho, rfl⟩ := Option.map_eq_some_iff.mp h
  exact blueprint?_of_object? ho

/-- The objects of shared factories exist, and each is that of one plugin. -/
structure Sound (s : Session) : Prop where
  lt_of_lookup : ∀ pluginId n, s.shared.lookup pluginId = some n → n < s.objects.length
  eq_of_lookup : ∀ pluginId pluginId' n, s.shared.lookup pluginId = some n →
    s.shared.lookup pluginId' = some n → pluginId = pluginId'

/-- One session has grown out of another: the objects of the old one work with what they did, and
plugins other than some have the shared objects that they had. -/
structure Grows (ids : List String) (s t : Session) : Prop where
  length_le : s.objects.length ≤ t.objects.length
  core?_eq : ∀ n < s.objects.length, t.core? n = s.core? n
  lookup_eq : ∀ pluginId ∉ ids, t.shared.lookup pluginId = s.shared.lookup pluginId

/-- The session at the beginning is sound. -/
theorem sound_empty : Sound {} := ⟨by simp, by simp⟩

/-- A session grows out of itself. -/
theorem Grows.refl (s : Session) : Grows [] s s := ⟨Nat.le_refl _, fun _ _ ↦ rfl, fun _ _ ↦ rfl⟩

/-- Growing goes on. -/
theorem Grows.trans (h : Grows ids s t) (h' : Grows ids' t u) : Grows (ids ++ ids') s u where
  length_le := Nat.le_trans h.length_le h'.length_le
  core?_eq n hn :=
    (h'.core?_eq n (Nat.lt_of_lt_of_le hn h.length_le)).trans (h.core?_eq n hn)
  lookup_eq pluginId hid := by
    rw [List.mem_append, not_or] at hid
    exact (h'.lookup_eq _ hid.2).trans (h.lookup_eq _ hid.1)

/-- Growing without some plugins is growing without others more. -/
theorem Grows.mono (h : Grows ids s t) (hids : ids ⊆ ids') : Grows ids' s t :=
  ⟨h.length_le, h.core?_eq, fun pluginId hid ↦ h.lookup_eq pluginId fun hmem ↦ hid (hids hmem)⟩

/-- A session that has grown without new shared objects is as sound as it was. -/
theorem Sound.of_grows (hs : s.Sound) (h : Grows [] s t) : t.Sound := by
  have hlookup := fun pluginId ↦ h.lookup_eq pluginId List.not_mem_nil
  refine ⟨fun pluginId n hn ↦ ?_, fun pluginId pluginId' n hn hn' ↦ ?_⟩
  · exact Nat.lt_of_lt_of_le (hs.lt_of_lookup pluginId n (hlookup _ ▸ hn)) h.length_le
  · exact hs.eq_of_lookup pluginId pluginId' n (hlookup _ ▸ hn) (hlookup _ ▸ hn')

/-- Putting a plugin on a worklist leaves all that objects work with. -/
theorem grows_enqueue (s : Session) (number : Nat) (plugin : MatchedPlugin) :
    Grows [] s (s.update number (·.enqueue plugin)) where
  length_le := Nat.le_of_eq (List.length_modify ..).symm
  core?_eq n _ := by
    unfold core? object? update
    dsimp only
    rw [List.getElem?_modify]
    cases s.objects[n]? with
    | none => rfl
    | some o =>
      by_cases hn : number = n <;> simp [hn, PluginObject.enqueue]
  lookup_eq _ _ := rfl

/-- The session after the factory of a plugin was called. -/
def called (s : Session) (pluginId : String) : Session :=
  { s with calls := s.calls ++ [pluginId] }

/-- The session after a new object was built. -/
def built (s : Session) (pluginId : String) (isShared : Bool) (blueprint : Blueprint) :
    Session where
  objects := s.objects ++ [{ blueprint := blueprint }]
  shared := if isShared then (pluginId, s.objects.length) :: s.shared else s.shared
  calls := s.calls ++ [pluginId]

variable {pluginId : String} {isShared : Bool} {blueprint : Blueprint}

/-- A call of a factory builds nothing by itself. -/
theorem grows_called : Grows [] s (s.called pluginId) :=
  ⟨Nat.le_refl _, fun _ _ ↦ rfl, fun _ _ ↦ rfl⟩

/-- A new object leaves the others as they are. -/
theorem grows_built : Grows [pluginId] s (s.built pluginId isShared blueprint) where
  length_le := by simp [built]
  core?_eq n hn := by simp [core?, object?, built, List.getElem?_append_left hn]
  lookup_eq other hother := by
    rw [List.mem_singleton] at hother
    unfold built
    cases isShared with
    | false => rfl
    | true => simp [List.lookup_cons, beq_eq_false_iff_ne.mpr hother]

/-- The new object stands behind the others. -/
theorem core?_built : (s.built pluginId isShared blueprint).core? s.objects.length =
    some (blueprint, []) := by
  simp [core?, object?, built]

/-- A new object is that of one plugin. -/
theorem Sound.built (hs : s.Sound) : (s.built pluginId isShared blueprint).Sound := by
  have hlt : ∀ id n, s.shared.lookup id = some n → n < s.objects.length + 1 := fun id n hn ↦
    Nat.lt_succ_of_lt (hs.lt_of_lookup id n hn)
  unfold Session.built
  cases isShared with
  | false => exact ⟨by simpa using hlt, hs.eq_of_lookup⟩
  | true =>
    have hlookup : ∀ id n, ((pluginId, s.objects.length) :: s.shared).lookup id = some n →
        id = pluginId ∧ n = s.objects.length ∨ s.shared.lookup id = some n := by
      intro id n hn
      rw [List.lookup_cons] at hn
      by_cases hid : id = pluginId
      · subst hid
        exact .inl ⟨rfl, by simpa using hn.symm⟩
      · rw [beq_eq_false_iff_ne.mpr hid] at hn
        exact .inr hn
    refine ⟨fun id n hn ↦ ?_, fun id id' n hn hn' ↦ ?_⟩
    · rcases hlookup id n hn with ⟨-, rfl⟩ | hn
      · simp
      · simpa using hlt id n hn
    · rcases hlookup id n hn with ⟨rfl, hnew⟩ | hold <;>
      rcases hlookup id' n hn' with ⟨rfl, hnew'⟩ | hold'
      · rfl
      · exact absurd (hs.lt_of_lookup id' n hold') (Nat.not_lt.mpr (Nat.le_of_eq hnew.symm))
      · exact absurd (hs.lt_of_lookup id n hold) (Nat.not_lt.mpr (Nat.le_of_eq hnew'.symm))
      · exact hs.eq_of_lookup id id' n hold hold'

end Session

/-! ### One plugin -/

namespace PluginDefinition

/-- What an object works with, if it is an object of a class. -/
def accept (d : PluginDefinition) (base : PluginBase) :
    Option PluginCore → Except PluginFault PluginCore
  | none => .error (.wrongKind d.pluginId d.pluginType "")
  | some core =>
    if core.1.kind.isA base then .ok core
    else .error (.wrongKind d.pluginId d.pluginType core.1.className)

/-- What building a plugin will give: the object that its factory shares, or a new one. -/
def foresee (d : PluginDefinition) (f : Factory) (base : PluginBase) (s : Session) :
    Except PluginFault PluginCore :=
  match if f.isShared then s.shared.lookup d.pluginId else none with
  | some number => d.accept base (s.core? number)
  | none => f.make >>= fun blueprint ↦ d.accept base (some (blueprint, []))

variable {d : PluginDefinition} {f : Factory} {base : PluginBase} {s t : Session}
  {ids : List String} {number : Nat} {core : PluginCore} {fault : PluginFault}

/-- What is accepted is there. -/
theorem eq_some_of_accept {core? : Option PluginCore} (h : d.accept base core? = .ok core) :
    core? = some core := by
  cases core? with
  | none => cases h
  | some core' =>
    unfold accept at h
    dsimp only at h
    split at h
    · rw [Except.ok.inj h]
    · cases h

/-- A call of a factory is counted first; then it gives the shared object or a new one, or fails. -/
theorem run_call (f : Factory) (pluginId : String) (s : Session) :
    (f.call pluginId).run.run s =
      match if f.isShared then s.shared.lookup pluginId else none with
      | some number => (.ok number, s.called pluginId)
      | none =>
        match f.make with
        | .error fault => (.error fault, s.called pluginId)
        | .ok blueprint => (.ok s.objects.length, s.built pluginId f.isShared blueprint) := by
  have hrun : (f.call pluginId).run.run s =
      (match if f.isShared then s.shared.lookup pluginId else none with
        | some number => pure number
        | none =>
          match f.make with
          | .error fault => throw fault
          | .ok blueprint => do
            set (s.built pluginId f.isShared blueprint)
            return s.objects.length : SessionM Nat).run.run (s.called pluginId) := rfl
  rw [hrun]
  split
  · rfl
  · split <;> rfl

/-- Building accepts what the factory gives. -/
private theorem run_build_of_gives (h : (f.call d.pluginId).Gives s number t) :
    (d.build f base).run.run s = ((d.accept base (t.core? number)).map fun _ ↦ number, t) := by
  rw [build, SessionM.run_bind_of_gives h,
    SessionM.run_bind_of_gives (SessionM.gives_get_iff.mpr ⟨rfl, rfl⟩)]
  unfold accept Session.core?
  cases t.object? number with
  | none => rfl
  | some o =>
    dsimp only [Option.map_some]
    split <;> rfl

/-- Building gives what was told, or fails as was told. It only adds to a session, and what is built
is a new object or the one that the factory shares. -/
private theorem run_build_eq (d : PluginDefinition) (f : Factory) (base : PluginBase)
    (hs : s.Sound) :
    ∃ number t, (d.build f base).run.run s = ((d.foresee f base s).map fun _ ↦ number, t) ∧
      s.Grows [d.pluginId] t ∧ t.Sound ∧
      (s.objects.length ≤ number ∨ s.shared.lookup d.pluginId = some number) ∧
      ∀ core, d.foresee f base s = .ok core →
        number < t.objects.length ∧ t.core? number = some core := by
  have hgrows : s.Grows [] (s.called d.pluginId) := Session.grows_called
  have hcalled := hgrows.mono (List.nil_subset [d.pluginId])
  have hcall := run_call f d.pluginId s
  unfold foresee
  cases hshared : if f.isShared then s.shared.lookup d.pluginId else none with
  | some n =>
    rw [hshared] at hcall
    have hlookup := (Option.ite_none_right_eq_some.mp hshared).2
    have hlt := hs.lt_of_lookup _ _ hlookup
    refine ⟨n, s.called d.pluginId, run_build_of_gives hcall, hcalled, hs.of_grows hgrows,
      .inr hlookup, ?_⟩
    exact fun core h ↦ ⟨hlt, eq_some_of_accept h⟩
  | none =>
    cases hmake : f.make with
    | error fault =>
      rw [hshared, hmake] at hcall
      exact ⟨s.objects.length, s.called d.pluginId, SessionM.run_bind_of_fails hcall, hcalled,
        hs.of_grows hgrows, .inl (Nat.le_refl _), by simp⟩
    | ok blueprint =>
      rw [hshared, hmake] at hcall
      refine ⟨s.objects.length, s.built d.pluginId f.isShared blueprint, ?_, Session.grows_built,
        hs.built, .inl (Nat.le_refl _), fun core h ↦ ⟨?_, ?_⟩⟩
      · rw [run_build_of_gives hcall, Session.core?_built]
        rfl
      · simp [Session.built]
      · rw [Session.core?_built]
        exact eq_some_of_accept h

/-- A plugin that is built works with what was told, and building it only adds to a session: what is
built is a new object, or the one that its factory shares. -/
theorem gives_build (hs : s.Sound) (h : (d.build f base).Gives s number t) :
    s.Grows [d.pluginId] t ∧ t.Sound ∧
      (s.objects.length ≤ number ∨ s.shared.lookup d.pluginId = some number) ∧
      ∃ core, d.foresee f base s = .ok core ∧
        number < t.objects.length ∧ t.core? number = some core := by
  obtain ⟨n, u, hrun, hgrows, hsound, hnumber, hcore⟩ := run_build_eq d f base hs
  have hresult := hrun.symm.trans h
  cases hforesee : d.foresee f base s with
  | error fault =>
    rw [hforesee] at hresult
    cases hresult
  | ok core =>
    rw [hforesee] at hresult
    cases hresult
    exact ⟨hgrows, hsound, hnumber, core, rfl, hcore core hforesee⟩

/-- A plugin that is not built fails as was told. -/
theorem fails_build (hs : s.Sound) (h : (d.build f base).Fails s fault t) :
    d.foresee f base s = .error fault := by
  obtain ⟨_, _, hrun, -⟩ := run_build_eq d f base hs
  have hresult := hrun.symm.trans h
  cases hforesee : d.foresee f base s with
  | error fault' =>
    rw [hforesee] at hresult
    cases hresult
    rfl
  | ok core =>
    rw [hforesee] at hresult
    cases hresult

/-- What was told does not change while other plugins are built. -/
theorem foresee_congr (hs : s.Sound) (h : s.Grows ids t) (hid : d.pluginId ∉ ids) :
    d.foresee f base t = d.foresee f base s := by
  unfold foresee
  rw [h.lookup_eq _ hid]
  split
  next number hshared =>
    have hlookup := (Option.ite_none_right_eq_some.mp hshared).2
    rw [h.core?_eq number (hs.lt_of_lookup _ _ hlookup)]
  · rfl

end PluginDefinition

end VulnScanner
