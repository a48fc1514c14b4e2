import VulnScanner.Proofs.Plugin.Running

/-!
# Operations side by side

Two computations have the same outcome if both fail with one fault or both give results, and the
results are related. Operations run in parallel if they have the same outcome from all sessions that
are related, and leave related sessions. Both properties are kept by chains and by lists of steps,
so two operations of one shape run in parallel as soon as their single steps do.
-/

namespace VulnScanner

variable {α β γ δ ε : Type} {R : α → β → Prop} {P : γ → δ → Prop}

/-- Two computations fail with the same fault or give results that are related. -/
inductive SameOutcome (R : α → β → Prop) : Except ε α → Except ε β → Prop
  | ok {a : α} {b : β} (h : R a b) : SameOutcome R (.ok a) (.ok b)
  | error (e : ε) : SameOutcome R (.error e) (.error e)

namespace SameOutcome

variable {x : Except ε α} {y : Except ε β}

/-- Results that are related are related in weaker ways. -/
theorem mono {S : α → β → Prop} (h : SameOutcome R x y)
    (hmono : ∀ a b, x = .ok a → y = .ok b → R a b → S a b) : SameOutcome S x y := by
  cases h with
  | ok hab => exact .ok (hmono _ _ rfl rfl hab)
  | error e => exact .error e

/-- Chains have the same outcome if their steps do. -/
theorem bind {f : α → Except ε γ} {g : β → Except ε δ} (h : SameOutcome R x y)
    (hfg : ∀ a b, R a b → SameOutcome P (f a) (g b)) : SameOutcome P (x >>= f) (y >>= g) := by
  cases h with
  | ok hab => exact hfg _ _ hab
  | error e => exact .error e

/-- Tests that have the same answers for related members select related members. -/
theorem filterM {p : α → Except ε Bool} {q : β → Except ε Bool} {as : List α} {bs : List β}
    (h : List.Forall₂ R as bs) (hpq : ∀ a b, R a b → p a = q b) :
    SameOutcome (List.Forall₂ R) (as.filterM p) (bs.filterM q) := by
  -- members selected so far are kept in reverse, and are related all the way
  have haux : ∀ done done', List.Forall₂ R done done' →
      SameOutcome (List.Forall₂ R) (as.filterAuxM p done) (bs.filterAuxM q done') := by
    induction h with
    | nil => exact fun _ _ hdone ↦ .ok hdone
    | @cons a b _ _ hab _ ih =>
      intro done done' hdone
      rw [List.filterAuxM, List.filterAuxM, hpq a b hab]
      cases q b with
      | error e => exact .error e
      | ok passed =>
        cases passed with
        | false => exact ih done done' hdone
        | true => exact ih _ _ (.cons hab hdone)
  exact (haux [] [] .nil).bind fun _ _ hfound ↦ .ok (List.forall₂_reverse_iff.mpr hfound)

end SameOutcome

namespace SessionM

variable {S : Session → Session → Prop} {x : SessionM α} {y : SessionM β}

/-- From sessions that are related, two operations have the same outcome, and they leave sessions
that are related. -/
def Parallel (S : Session → Session → Prop) (R : α → β → Prop) (x : SessionM α)
    (y : SessionM β) : Prop :=
  ∀ s t, S s t → SameOutcome R (x.run.run s).1 (y.run.run t).1 ∧ S (x.run.run s).2 (y.run.run t).2

/-- Doing nothing runs in parallel with doing nothing. -/
theorem parallel_pure {a : α} {b : β} (h : R a b) :
    Parallel S R (pure a : SessionM α) (pure b : SessionM β) :=
  fun _ _ hst ↦ ⟨.ok h, hst⟩

/-- Failures with one fault run in parallel. -/
theorem parallel_throw (e : PluginFault) :
    Parallel S R (throw e : SessionM α) (throw e : SessionM β) :=
  fun _ _ hst ↦ ⟨.error e, hst⟩

/-- Looking at the sessions gives related sessions. -/
theorem parallel_get : Parallel S S (get : SessionM Session) (get : SessionM Session) :=
  fun _ _ hst ↦ ⟨.ok hst, hst⟩

/-- Changes that keep sessions related run in parallel. -/
theorem parallel_modify {f g : Session → Session} (h : ∀ s t, S s t → S (f s) (g t)) :
    Parallel S (fun _ _ ↦ True) (modify f : SessionM PUnit) (modify g : SessionM PUnit) :=
  fun s t hst ↦ ⟨.ok trivial, h s t hst⟩

/-- Computations with the same outcome run in parallel. -/
theorem parallel_ofExcept {wrap : ε → PluginFault} {r : Except ε α} {r' : Except ε β}
    (h : SameOutcome R r r') :
    Parallel S R (SessionM.ofExcept wrap r) (SessionM.ofExcept wrap r') := by
  cases h with
  | ok hab => exact parallel_pure hab
  | error e => exact parallel_throw (wrap e)

/-- Chains run in parallel if their steps do. -/
theorem Parallel.bind {f : α → SessionM γ} {g : β → SessionM δ} (h : Parallel S R x y)
    (hfg : ∀ a b, R a b → Parallel S P (f a) (g b)) : Parallel S P (x >>= f) (y >>= g) := by
  intro s t hst
  obtain ⟨houtcome, hleft⟩ := h s t hst
  rcases hx : x.run.run s with ⟨r, s'⟩
  rcases hy : y.run.run t with ⟨r', t'⟩
  rw [hx, hy] at houtcome hleft
  cases houtcome with
  | @ok a b hab =>
    rw [run_bind_of_gives hx, run_bind_of_gives hy]
    exact hfg a b hab s' t' hleft
  | error e =>
    rw [run_bind_of_fails hx, run_bind_of_fails hy]
    exact ⟨.error e, hleft⟩

/-- Lists of steps run in parallel if the steps for related members do. -/
theorem Parallel.mapM {f : α → SessionM γ} {g : β → SessionM δ} {as : List α} {bs : List β}
    (h : List.Forall₂ R as bs) (hfg : ∀ a b, R a b → Parallel S P (f a) (g b)) :
    Parallel S (List.Forall₂ P) (as.mapM f) (bs.mapM g) := by
  induction h with
  | nil => exact parallel_pure .nil
  | cons hab _ ih =>
    rw [List.mapM_cons, List.mapM_cons]
    exact (hfg _ _ hab).bind fun _ _ hfirst ↦ ih.bind fun _ _ hrest ↦
      parallel_pure (.cons hfirst hrest)

end SessionM
end VulnScanner
