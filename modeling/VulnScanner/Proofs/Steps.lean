import Mathlib.Data.List.Forall2

/-!
# Steps that can fail

When a chain of steps succeeds: exactly if every step of it does. It fails at its first step that
fails. Tests that all give an answer select as tests that cannot fail.
-/

namespace VulnScanner

variable {ε ε' α β : Type}

/-- A result is handed on. -/
@[simp] theorem ok_bind (a : α) (f : α → Except ε β) : (Except.ok a >>= f) = f a := rfl

/-- A fault ends a chain. -/
@[simp] theorem error_bind (e : ε) (f : α → Except ε β) : (Except.error e >>= f) = .error e := rfl

/-- A chain of two steps succeeds exactly if both do. -/
theorem bind_eq_ok_iff {x : Except ε α} {f : α → Except ε β} {b : β} :
    (x >>= f) = .ok b ↔ ∃ a, x = .ok a ∧ f a = .ok b := by
  cases x with
  | error e =>
    rw [error_bind]
    constructor
    · intro h
      cases h
    · rintro ⟨_, h, _⟩
      cases h
  | ok a =>
    rw [ok_bind]
    constructor
    · exact fun h ↦ ⟨a, rfl, h⟩
    · rintro ⟨_, ha, h⟩
      cases ha
      exact h

/-- A chain of two steps fails exactly if the first does or the second does behind it. -/
theorem bind_eq_error_iff {x : Except ε α} {f : α → Except ε β} {e : ε} :
    (x >>= f) = .error e ↔ x = .error e ∨ ∃ a, x = .ok a ∧ f a = .error e := by
  cases x with
  | error e' =>
    rw [error_bind, Except.error.injEq, Except.error.injEq]
    constructor
    · exact .inl
    · rintro (h | ⟨_, h, _⟩)
      · exact h
      · cases h
  | ok a =>
    rw [ok_bind]
    constructor
    · exact fun h ↦ .inr ⟨a, rfl, h⟩
    · rintro (h | ⟨_, ha, h⟩)
      · cases h
      · cases ha
        exact h

/-- Another wording of the faults leaves a result as it is. -/
@[simp] theorem mapError_ok (f : ε → ε') (a : α) : (Except.ok a).mapError f = .ok a := rfl

/-- Another wording of the faults is that of the fault there is. -/
@[simp] theorem mapError_error (f : ε → ε') (e : ε) :
    (Except.error e : Except ε α).mapError f = .error (f e) := rfl

/-- Another wording of the faults does not change when a step succeeds. -/
theorem mapError_eq_ok_iff {x : Except ε α} {f : ε → ε'} {a : α} :
    x.mapError f = .ok a ↔ x = .ok a := by
  cases x with
  | error e =>
    constructor <;>
    · intro h
      cases h
  | ok b => rw [mapError_ok, Except.ok.injEq, Except.ok.injEq]

/-- Forgetting the fault does not change when a step succeeds. -/
theorem toOption_eq_some_iff {x : Except ε α} {a : α} : x.toOption = some a ↔ x = .ok a := by
  cases x with
  | error e =>
    constructor <;>
    · intro h
      cases h
  | ok b => rw [Except.toOption, Option.some.injEq, Except.ok.injEq]

/-- The fault of a step that fails. -/
def fault? : Except ε α → Option ε
  | .ok _ => none
  | .error e => some e

/-- The fault of a step is there exactly if the step fails with it. -/
theorem fault?_eq_some_iff {x : Except ε α} {e : ε} : fault? x = some e ↔ x = .error e := by
  cases x with
  | error e' => rw [fault?, Option.some.injEq, Except.error.injEq]
  | ok a =>
    constructor <;>
    · intro h
      cases h

private theorem filterAuxM_eq_ok {p : α → Except ε Bool} {q : α → Bool} {as : List α}
    (h : ∀ a ∈ as, p a = .ok (q a)) (done : List α) :
    as.filterAuxM p done = .ok ((as.filter q).reverse ++ done) := by
  induction as generalizing done with
  | nil => rfl
  | cons a rest ih =>
    rw [List.forall_mem_cons] at h
    rw [List.filterAuxM, h.1, ok_bind, ih h.2]
    cases hq : q a <;> simp [hq]

/-- If every test gives an answer, those that pass are kept in their order. -/
theorem filterM_eq_ok {p : α → Except ε Bool} {q : α → Bool} {as : List α}
    (h : ∀ a ∈ as, p a = .ok (q a)) : as.filterM p = .ok (as.filter q) := by
  rw [List.filterM, filterAuxM_eq_ok h, ok_bind, List.append_nil, List.reverse_reverse]
  rfl

private theorem exists_filterAuxM_eq_ok_iff {p : α → Except ε Bool} {as : List α}
    (done : List α) : (∃ bs, as.filterAuxM p done = .ok bs) ↔ ∀ a ∈ as, ∃ b, p a = .ok b := by
  induction as generalizing done with
  | nil => exact ⟨fun _ _ h ↦ absurd h List.not_mem_nil, fun _ ↦ ⟨done, rfl⟩⟩
  | cons a rest ih =>
    rw [List.forall_mem_cons, List.filterAuxM]
    cases p a with
    | error e => simp
    | ok b =>
      rw [ok_bind, ih]
      exact (and_iff_right ⟨b, rfl⟩).symm

/-- A list can be tested exactly if every test gives an answer. -/
theorem exists_filterM_eq_ok_iff {p : α → Except ε Bool} {as : List α} :
    (∃ bs, as.filterM p = .ok bs) ↔ ∀ a ∈ as, ∃ b, p a = .ok b := by
  rw [← exists_filterAuxM_eq_ok_iff []]
  unfold List.filterM
  cases as.filterAuxM p [] with
  | error e => rw [error_bind]
  | ok done => exact ⟨fun _ ↦ ⟨done, rfl⟩, fun _ ↦ ⟨done.reverse, rfl⟩⟩

/-- A list of steps succeeds exactly if every step does. -/
theorem exists_mapM_eq_ok_iff {f : α → Except ε β} {as : List α} :
    (∃ bs, as.mapM f = .ok bs) ↔ ∀ a ∈ as, ∃ b, f a = .ok b := by
  induction as with
  | nil => exact ⟨fun _ _ h ↦ absurd h List.not_mem_nil, fun _ ↦ ⟨[], rfl⟩⟩
  | cons a rest ih =>
    rw [List.forall_mem_cons, ← ih, List.mapM_cons]
    cases f a with
    | error e => simp
    | ok b =>
      rw [ok_bind]
      cases rest.mapM f with
      | error e =>
        rw [error_bind]
        simp
      | ok bs => exact ⟨fun _ ↦ ⟨⟨b, rfl⟩, bs, rfl⟩, fun _ ↦ ⟨b :: bs, rfl⟩⟩

/-- A list of steps succeeds with the results of its steps. -/
theorem mapM_eq_ok_iff_forall₂ {f : α → Except ε β} {as : List α} {bs : List β} :
    as.mapM f = .ok bs ↔ List.Forall₂ (fun a b ↦ f a = .ok b) as bs := by
  induction as generalizing bs with
  | nil => exact ⟨fun h ↦ by cases h; exact .nil, fun h ↦ by cases h; rfl⟩
  | cons a rest ih =>
    rw [List.mapM_cons, bind_eq_ok_iff, List.forall₂_cons_left_iff]
    simp only [bind_eq_ok_iff, ih, pure, Except.pure, Except.ok.injEq]
    constructor
    · rintro ⟨b, hb, cs, hcs, rfl⟩
      exact ⟨b, cs, hb, hcs, rfl⟩
    · rintro ⟨b, cs, hb, hcs, rfl⟩
      exact ⟨b, hb, cs, hcs, rfl⟩

/-- A list of steps fails exactly at the first of its steps that fails. -/
theorem mapM_eq_error_iff {f : α → Except ε β} {as : List α} {e : ε} :
    as.mapM f = .error e ↔ ∃ before a after, as = before ++ a :: after ∧
      (∀ b ∈ before, ∃ c, f b = .ok c) ∧ f a = .error e := by
  induction as with
  | nil => simp [pure, Except.pure]
  | cons a rest ih =>
    rw [List.mapM_cons]
    constructor
    · intro h
      rcases bind_eq_error_iff.mp h with h | ⟨b, hb, h⟩
      · exact ⟨[], a, rest, rfl, nofun, h⟩
      rcases bind_eq_error_iff.mp h with h | ⟨bs, -, h⟩
      · obtain ⟨before, c, after, rfl, hbefore, hc⟩ := ih.mp h
        refine ⟨a :: before, c, after, rfl, ?_, hc⟩
        exact List.forall_mem_cons.mpr ⟨⟨b, hb⟩, hbefore⟩
      · cases h
    · rintro ⟨before, c, after, heq, hbefore, hc⟩
      cases before with
      | nil =>
        cases heq
        rw [hc, error_bind]
      | cons b before =>
        cases heq
        rw [List.forall_mem_cons] at hbefore
        obtain ⟨⟨d, hd⟩, hbefore⟩ := hbefore
        rw [hd, ok_bind, ih.mpr ⟨before, c, after, rfl, hbefore, hc⟩, error_bind]

/-- Steps that do the same for every member do the same for the list. -/
theorem mapM_congr_of_mem {f g : α → Except ε β} {as : List α} (h : ∀ a ∈ as, f a = g a) :
    as.mapM f = as.mapM g := by
  induction as with
  | nil => rfl
  | cons a rest ih =>
    rw [List.forall_mem_cons] at h
    rw [List.mapM_cons, List.mapM_cons, h.1, ih h.2]

/-- Each result of a list of steps is the result of one of them. -/
theorem exists_of_mem_of_mapM_eq_ok {f : α → Except ε β} {as : List α} {bs : List β} {b : β}
    (h : as.mapM f = .ok bs) (hb : b ∈ bs) : ∃ a ∈ as, f a = .ok b := by
  induction as generalizing bs with
  | nil =>
    cases h
    cases hb
  | cons a rest ih =>
    rw [List.mapM_cons] at h
    obtain ⟨c, hc, h⟩ := bind_eq_ok_iff.mp h
    obtain ⟨cs, hcs, h⟩ := bind_eq_ok_iff.mp h
    cases h
    rcases List.mem_cons.mp hb with rfl | hb
    · exact ⟨a, List.mem_cons_self, hc⟩
    · obtain ⟨a', ha', hf⟩ := ih hcs hb
      exact ⟨a', List.mem_cons_of_mem a ha', hf⟩

end VulnScanner
