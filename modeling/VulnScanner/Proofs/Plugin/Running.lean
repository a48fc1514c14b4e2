import VulnScanner.Plugin.Session
import VulnScanner.Proofs.Steps

/-!
# Running operations of a session

An operation that is run from a session gives a result or fails, and in both cases it leaves a
session. A chain gives a result exactly if each of its steps does, and it fails at its first step
that fails.
-/

namespace VulnScanner

variable {α β ε : Type}

namespace SessionM

variable {x : SessionM α} {s t u : Session} {a : α} {b : β} {e : PluginFault}

/-- Run from a session, an operation gives a result and leaves a session. -/
def Gives (x : SessionM α) (s : Session) (a : α) (t : Session) : Prop := x.run.run s = (.ok a, t)

/-- Run from a session, an operation fails and leaves a session. -/
def Fails (x : SessionM α) (s : Session) (e : PluginFault) (t : Session) : Prop :=
  x.run.run s = (.error e, t)

/-- An operation gives a result or fails. -/
theorem gives_or_fails (x : SessionM α) (s : Session) :
    (∃ a t, x.Gives s a t) ∨ ∃ e t, x.Fails s e t := by
  unfold Gives Fails
  rcases x.run.run s with ⟨e | a, t⟩
  · exact .inr ⟨e, t, rfl⟩
  · exact .inl ⟨a, t, rfl⟩

/-- An operation that gives a result does not fail. -/
theorem Gives.not_fails (h : x.Gives s a t) : ¬ x.Fails s e u := by
  intro hf
  cases h.symm.trans hf

/-- An operation gives one result. -/
theorem Gives.unique {a' : α} (h : x.Gives s a t) (h' : x.Gives s a' u) : a = a' ∧ t = u := by
  have he := h.symm.trans h'
  exact ⟨Except.ok.inj (Prod.mk.inj he).1, (Prod.mk.inj he).2⟩

/-! ### Single steps -/

/-- Doing nothing gives its result. -/
@[simp] theorem gives_pure_iff {a' : α} : (pure a' : SessionM α).Gives s a t ↔ a' = a ∧ s = t := by
  change (Except.ok a', s) = (Except.ok a, t) ↔ _
  rw [Prod.mk.injEq, Except.ok.injEq]

/-- Doing nothing does not fail. -/
@[simp] theorem not_fails_pure {a' : α} : ¬ (pure a' : SessionM α).Fails s e t := by
  intro h
  cases h

/-- Throwing gives nothing. -/
@[simp] theorem not_gives_throw : ¬ (throw e : SessionM α).Gives s a t := by
  intro h
  cases h

/-- Throwing fails. -/
@[simp] theorem fails_throw_iff {e' : PluginFault} :
    (throw e' : SessionM α).Fails s e t ↔ e' = e ∧ s = t := by
  change (Except.error e', s) = (Except.error e, t) ↔ _
  rw [Prod.mk.injEq, Except.error.injEq]

/-- Looking at the session gives the session. -/
@[simp] theorem gives_get_iff {r : Session} :
    (get : SessionM Session).Gives s r t ↔ s = r ∧ s = t := by
  change (Except.ok s, s) = (Except.ok r, t) ↔ _
  rw [Prod.mk.injEq, Except.ok.injEq]

/-- Looking at the session does not fail. -/
@[simp] theorem not_fails_get : ¬ (get : SessionM Session).Fails s e t := by
  intro h
  cases h

/-- Changing the session leaves the changed one. -/
@[simp] theorem gives_modify_iff {f : Session → Session} {a : PUnit} :
    (modify f : SessionM PUnit).Gives s a t ↔ f s = t := by
  change (Except.ok PUnit.unit, f s) = (Except.ok a, t) ↔ _
  simp only [Prod.mk.injEq, true_and]

/-- Changing the session does not fail. -/
@[simp] theorem not_fails_modify {f : Session → Session} :
    ¬ (modify f : SessionM PUnit).Fails s e t := by
  intro h
  cases h

/-- A computation gives its result and leaves the session as it is. -/
@[simp] theorem gives_ofExcept_iff {wrap : ε → PluginFault} {r : Except ε α} :
    (SessionM.ofExcept wrap r).Gives s a t ↔ r = .ok a ∧ s = t := by
  cases r with
  | error e => simp [SessionM.ofExcept]
  | ok a' => simp [SessionM.ofExcept]

/-- A computation fails as it does by itself. -/
@[simp] theorem fails_ofExcept_iff {wrap : ε → PluginFault} {r : Except ε α} :
    (SessionM.ofExcept wrap r).Fails s e t ↔ (∃ e', r = .error e' ∧ wrap e' = e) ∧ s = t := by
  cases r with
  | error e' => simp [SessionM.ofExcept]
  | ok a' => simp [SessionM.ofExcept]

/-- An operation that cannot fail gives what it gives as such. -/
@[simp] theorem gives_liftM_iff {x : StateM Session α} :
    (liftM x : SessionM α).Gives s a t ↔ x.run s = (a, t) := by
  change (Except.ok (x.run s).1, (x.run s).2) = (Except.ok a, t) ↔ _
  rw [Prod.mk.injEq, Except.ok.injEq]
  constructor
  · rintro ⟨rfl, rfl⟩
    rfl
  · intro h
    rw [h]
    exact ⟨rfl, rfl⟩

/-- An operation that cannot fail does not fail. -/
@[simp] theorem not_fails_liftM {x : StateM Session α} : ¬ (liftM x : SessionM α).Fails s e t := by
  intro h
  cases h

/-! ### Chains -/

/-- Behind a result, a chain goes on with it. -/
theorem run_bind_of_gives {f : α → SessionM β} (h : x.Gives s a t) :
    (x >>= f).run.run s = (f a).run.run t := by
  rw [ExceptT.run_bind, StateT.run_bind, show x.run.run s = _ from h]
  rfl

/-- A chain whose first step fails is at its end. -/
theorem run_bind_of_fails {f : α → SessionM β} (h : x.Fails s e t) :
    (x >>= f).run.run s = (.error e, t) := by
  rw [ExceptT.run_bind, StateT.run_bind, show x.run.run s = _ from h]
  rfl

/-- A chain of two steps gives what the second gives behind the first. -/
theorem gives_bind_iff {f : α → SessionM β} :
    (x >>= f).Gives s b u ↔ ∃ a t, x.Gives s a t ∧ (f a).Gives t b u := by
  constructor
  · intro h
    rcases x.gives_or_fails s with ⟨a, t, ha⟩ | ⟨e, t, he⟩
    · exact ⟨a, t, ha, (run_bind_of_gives ha).symm.trans h⟩
    · cases (run_bind_of_fails he).symm.trans h
  · rintro ⟨a, t, ha, hb⟩
    exact (run_bind_of_gives ha).trans hb

/-- A chain of two steps fails if the first does, or if the second does behind it. -/
theorem fails_bind_iff {f : α → SessionM β} :
    (x >>= f).Fails s e u ↔ x.Fails s e u ∨ ∃ a t, x.Gives s a t ∧ (f a).Fails t e u := by
  constructor
  · intro h
    rcases x.gives_or_fails s with ⟨a, t, ha⟩ | ⟨e', t, he⟩
    · exact .inr ⟨a, t, ha, (run_bind_of_gives ha).symm.trans h⟩
    · have hsame := (run_bind_of_fails he).symm.trans h
      cases hsame
      exact .inl he
  · rintro (he | ⟨a, t, ha, he⟩)
    · exact run_bind_of_fails he
    · exact (run_bind_of_gives ha).trans he

/-- A list of steps without members gives nothing. -/
@[simp] theorem gives_mapM_nil_iff {f : α → SessionM β} {bs : List β} :
    (([] : List α).mapM f).Gives s bs t ↔ bs = [] ∧ s = t := by
  rw [List.mapM_nil, gives_pure_iff, eq_comm]

/-- A list of steps gives the results of its steps, each run behind those before it. -/
theorem gives_mapM_cons_iff {f : α → SessionM β} {as : List α} {bs : List β} :
    ((a :: as).mapM f).Gives s bs u ↔
      ∃ b t rest, (f a).Gives s b t ∧ (as.mapM f).Gives t rest u ∧ bs = b :: rest := by
  simp only [List.mapM_cons, gives_bind_iff, gives_pure_iff]
  constructor
  · rintro ⟨b, t, hb, rest, _, hrest, rfl, rfl⟩
    exact ⟨b, t, rest, hb, hrest, rfl⟩
  · rintro ⟨b, t, rest, hb, hrest, rfl⟩
    exact ⟨b, t, hb, rest, u, hrest, rfl, rfl⟩

/-- What every step of a list does holds between the members and the results. -/
theorem forall₂_of_gives_mapM {f : α → SessionM β} {R : α → β → Prop} {as : List α} {bs : List β}
    (hf : ∀ a ∈ as, ∀ b s t, (f a).Gives s b t → R a b) (h : (as.mapM f).Gives s bs t) :
    List.Forall₂ R as bs := by
  induction as generalizing s bs with
  | nil =>
    rw [(gives_mapM_nil_iff.mp h).1]
    exact .nil
  | cons a as ih =>
    rw [List.forall_mem_cons] at hf
    obtain ⟨b, u, rest, hb, hrest, rfl⟩ := gives_mapM_cons_iff.mp h
    exact .cons (hf.1 b s u hb) (ih hf.2 hrest)

/-- A list of steps without members does not fail. -/
@[simp] theorem not_fails_mapM_nil {f : α → SessionM β} :
    ¬ (([] : List α).mapM f).Fails s e t := by
  rw [List.mapM_nil]
  exact not_fails_pure

/-- A list of steps fails at its first step that fails. -/
theorem fails_mapM_cons_iff {f : α → SessionM β} {as : List α} :
    ((a :: as).mapM f).Fails s e u ↔
      (f a).Fails s e u ∨ ∃ b t, (f a).Gives s b t ∧ (as.mapM f).Fails t e u := by
  simp only [List.mapM_cons, fails_bind_iff, not_fails_pure, and_false, exists_false, or_false]

/-- A list of computations gives their results and leaves the session as it is. -/
theorem gives_mapM_ofExcept_iff {wrap : ε → PluginFault} {f : α → Except ε β} {as : List α}
    {bs : List β} : (as.mapM fun a ↦ SessionM.ofExcept wrap (f a)).Gives s bs t ↔
      List.Forall₂ (fun a b ↦ f a = .ok b) as bs ∧ s = t := by
  induction as generalizing s bs with
  | nil => simp
  | cons a as ih =>
    simp only [gives_mapM_cons_iff, gives_ofExcept_iff, ih, List.forall₂_cons_left_iff]
    constructor
    · rintro ⟨b, _, rest, ⟨hb, rfl⟩, ⟨hrest, rfl⟩, rfl⟩
      exact ⟨⟨b, rest, hb, hrest, rfl⟩, rfl⟩
    · rintro ⟨⟨b, rest, hb, hrest, rfl⟩, rfl⟩
      exact ⟨b, s, rest, ⟨hb, rfl⟩, ⟨hrest, rfl⟩, rfl⟩

/-- A list of computations fails as it does by itself. -/
theorem fails_mapM_ofExcept_iff {wrap : ε → PluginFault} {f : α → Except ε β} {as : List α} :
    (as.mapM fun a ↦ SessionM.ofExcept wrap (f a)).Fails s e t ↔
      (∃ e', as.mapM f = .error e' ∧ wrap e' = e) ∧ s = t := by
  induction as with
  | nil =>
    refine iff_of_false not_fails_mapM_nil ?_
    rintro ⟨⟨_, h, -⟩, -⟩
    cases h
  | cons a as ih =>
    rw [fails_mapM_cons_iff, List.mapM_cons]
    simp only [gives_ofExcept_iff, fails_ofExcept_iff]
    cases f a with
    | error e' => simp
    | ok b =>
      simp only [ok_bind, reduceCtorEq, false_and, exists_false, false_or, Except.ok.injEq]
      cases hrest : as.mapM f with
      | error e' => simpa [hrest] using ih
      | ok bs => simpa [hrest, pure, Except.pure] using ih

/-- A list of steps of which each fails for a reason of its own, whatever the session is, fails for
the first of these reasons. -/
theorem exists_fails_mapM_iff {f : α → SessionM β} {reason? : α → Option PluginFault} {as : List α}
    (h : ∀ a ∈ as, ∀ s e, (∃ t, (f a).Fails s e t) ↔ reason? a = some e) :
    (∃ t, (as.mapM f).Fails s e t) ↔ as.findSome? reason? = some e := by
  induction as generalizing s with
  | nil => simp
  | cons a rest ih =>
    rw [List.forall_mem_cons] at h
    obtain ⟨ha, h⟩ := h
    simp only [fails_mapM_cons_iff, List.findSome?_cons]
    cases hreason : reason? a with
    | some e' =>
      obtain ⟨u, hu⟩ := (ha s e').mpr hreason
      constructor
      · rintro ⟨t, hfails | ⟨_, _, hgives, -⟩⟩
        · exact hreason.symm.trans ((ha s e).mp ⟨t, hfails⟩)
        · exact absurd hu hgives.not_fails
      · rintro ⟨⟩
        exact ⟨u, .inl hu⟩
    | none =>
      obtain ⟨b, u, hb⟩ := ((f a).gives_or_fails s).resolve_right fun ⟨e, t, hfails⟩ ↦ by
        rw [(ha s e).mp ⟨t, hfails⟩] at hreason
        cases hreason
      rw [← ih (s := u) h]
      refine exists_congr fun t ↦ ⟨?_, fun hfails ↦ .inr ⟨b, u, hb, hfails⟩⟩
      rintro (hfails | ⟨_, _, hgives, hfails⟩)
      · exact absurd hfails hb.not_fails
      · obtain ⟨-, rfl⟩ := hb.unique hgives
        exact hfails

end SessionM
end VulnScanner
