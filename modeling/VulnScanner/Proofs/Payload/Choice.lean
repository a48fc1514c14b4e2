import VulnScanner.Proofs.Payload.Freshness

/-!
# The choice of a payload

Which definition a payload is made from. The candidates for a request are the definitions of the
catalog for its environments and its vulnerability, in their order. If callbacks are wanted and can
be used, it is the first candidate with a callback, or the first of all if none has one; else it is
the first without a callback, as if there were no others in the catalog.
-/

namespace VulnScanner

/-! ### Candidates -/

/-- A definition is a candidate for a request: it is for any environments or for those of the
request, and its vulnerabilities are among those that it is for. -/
structure PayloadRequest.Admits (r : PayloadRequest) (d : PayloadDefinition) : Prop where
  interpretation : d.interpretation = .any ∨ d.interpretation = r.interpretation
  execution : d.execution = .any ∨ d.execution = r.execution
  vulnerability : r.vulnerability ∈ d.vulnerabilities

/-- Candidates are the definitions that support the request. -/
theorem PayloadRequest.admits_iff {r : PayloadRequest} {d : PayloadDefinition} :
    r.Admits d ↔ d.supports r.interpretation r.execution r.vulnerability = true := by
  unfold PayloadDefinition.supports
  simp only [Bool.and_eq_true, Bool.or_eq_true, decide_eq_true_eq, List.contains_eq_mem]
  constructor
  · rintro ⟨hi, he, hv⟩
    exact ⟨⟨hi, he⟩, hv⟩
  · rintro ⟨⟨hi, he⟩, hv⟩
    exact ⟨hi, he, hv⟩

namespace PayloadCatalog

variable {c : PayloadCatalog} {P Q : PayloadDefinition → Prop} {d : PayloadDefinition}

/-- The first definition of a catalog with a property. -/
def IsFirst (c : PayloadCatalog) (P : PayloadDefinition → Prop) (d : PayloadDefinition) : Prop :=
  P d ∧ ∃ before after, c.payloads = before ++ d :: after ∧ ∀ other ∈ before, ¬ P other

/-- The definitions that do not use the callback server. -/
def withoutCallbacks (c : PayloadCatalog) : PayloadCatalog :=
  ⟨c.payloads.filter (!·.usesCallback)⟩

/-- The first definition with a property is in the catalog. -/
theorem IsFirst.mem (hd : c.IsFirst P d) : d ∈ c.payloads := by
  obtain ⟨-, before, after, hc, -⟩ := hd
  exact hc ▸ List.mem_append_right _ List.mem_cons_self

/-- What is the first with a property is the first with one that comes to the same in the
catalog. -/
theorem IsFirst.congr (h : ∀ d ∈ c.payloads, (P d ↔ Q d)) (hd : c.IsFirst P d) :
    c.IsFirst Q d := by
  have hmem := hd.mem
  obtain ⟨hp, before, after, hc, hbefore⟩ := hd
  refine ⟨(h d hmem).mp hp, before, after, hc, fun other hother hq ↦ hbefore other hother ?_⟩
  exact (h other (hc ▸ List.mem_append_left _ hother)).mpr hq

end PayloadCatalog

namespace Generator

variable {g : Generator} {r : PayloadRequest} {d : PayloadDefinition}
  {P : PayloadDefinition → Bool}

/-- What is found among the candidates is the first definition of the catalog that is one and has
the property. -/
theorem find?_candidates_eq_some_iff :
    (g.candidates r).find? P = some d ↔ g.catalog.IsFirst (fun d ↦ r.Admits d ∧ P d = true) d := by
  rw [candidates, PayloadCatalog.select, List.find?_filter, List.find?_eq_some_iff_append]
  simp only [PayloadCatalog.IsFirst, PayloadRequest.admits_iff, ← Bool.and_eq_true,
    Bool.decide_eq_true, Bool.not_eq_true', Bool.not_eq_true]

/-- Nothing is found exactly if no candidate has the property. -/
theorem find?_candidates_eq_none_iff :
    (g.candidates r).find? P = none ↔
      ∀ d ∈ g.catalog.payloads, r.Admits d → P d = false := by
  rw [candidates, PayloadCatalog.select, List.find?_filter, List.find?_eq_none]
  simp [PayloadRequest.admits_iff]

/-! ### The rule -/

/-- Callbacks are wanted, and there is a server for them. -/
def PrefersCallback (g : Generator) (r : PayloadRequest) : Prop :=
  r.useCallback = true ∧ ∃ client, g.client = some client

/-- A candidate of a kind that a payload may be made from. -/
def Allows (g : Generator) (r : PayloadRequest) (d : PayloadDefinition) : Prop :=
  r.Admits d ∧ (d.usesCallback = true → g.PrefersCallback r)

/-- What a payload is made from. -/
inductive Chooses (g : Generator) (r : PayloadRequest) : Option PayloadDefinition → Prop
  /-- The first candidate with a callback, if callbacks are preferred. -/
  | callback {d : PayloadDefinition} (hc : g.PrefersCallback r)
      (h : g.catalog.IsFirst (fun d ↦ r.Admits d ∧ d.usesCallback = true) d) :
      Chooses g r (some d)
  /-- The first candidate, if callbacks are preferred and none has one. -/
  | fallback {d : PayloadDefinition} (hc : g.PrefersCallback r)
      (hnone : ∀ d ∈ g.catalog.payloads, r.Admits d → d.usesCallback = false)
      (h : g.catalog.IsFirst r.Admits d) : Chooses g r (some d)
  /-- The first candidate without a callback, if callbacks are not preferred. -/
  | alone {d : PayloadDefinition} (hc : ¬ g.PrefersCallback r)
      (h : g.catalog.IsFirst (fun d ↦ r.Admits d ∧ d.usesCallback = false) d) :
      Chooses g r (some d)
  /-- Nothing, if there is no candidate of an allowed kind. -/
  | nothing (h : ∀ d ∈ g.catalog.payloads, ¬ g.Allows r d) : Chooses g r none

/-- With callbacks preferred, the candidates are searched twice. -/
theorem choose?_of_prefers (h : g.PrefersCallback r) :
    g.choose? r = ((g.candidates r).find? (·.usesCallback)).or
      ((g.candidates r).find? (!·.usesCallback)) := by
  obtain ⟨huse, client, hclient⟩ := h
  simp [choose?, isCallbackEnabled, huse, hclient]

/-- Without, only candidates without a callback are looked at. -/
theorem choose?_of_not_prefers (h : ¬ g.PrefersCallback r) :
    g.choose? r = (g.candidates r).find? (!·.usesCallback) := by
  have hdisabled : (r.useCallback && g.isCallbackEnabled) = false := by
    rw [Bool.eq_false_iff, ne_eq, Bool.and_eq_true, isCallbackEnabled, Option.isSome_iff_exists]
    exact h
  simp [choose?, hdisabled]

/-- What is chosen is chosen by the rule. -/
theorem chooses_choose? (g : Generator) (r : PayloadRequest) : g.Chooses r (g.choose? r) := by
  by_cases hc : g.PrefersCallback r
  · rw [choose?_of_prefers hc]
    cases hcallback : (g.candidates r).find? (·.usesCallback) with
    | some d => exact .callback hc (find?_candidates_eq_some_iff.mp hcallback)
    | none =>
      have hnone := find?_candidates_eq_none_iff.mp hcallback
      cases hlocal : (g.candidates r).find? (!·.usesCallback) with
      | some d =>
        refine .fallback hc hnone ((find?_candidates_eq_some_iff.mp hlocal).congr fun d hd ↦ ?_)
        simp only [Bool.not_eq_true', and_iff_left_iff_imp]
        exact hnone d hd
      | none =>
        refine .nothing fun d hd hallows ↦ ?_
        have huses := find?_candidates_eq_none_iff.mp hlocal d hd hallows.1
        rw [hnone d hd hallows.1] at huses
        cases huses
  · rw [choose?_of_not_prefers hc]
    cases hlocal : (g.candidates r).find? (!·.usesCallback) with
    | some d =>
      refine .alone hc ((find?_candidates_eq_some_iff.mp hlocal).congr fun d _ ↦ ?_)
      rw [Bool.not_eq_true']
    | none =>
      refine .nothing fun d hd hallows ↦ hc (hallows.2 ?_)
      simpa using find?_candidates_eq_none_iff.mp hlocal d hd hallows.1

/-- What the rule chooses is a candidate of an allowed kind. -/
theorem Chooses.allows (h : g.Chooses r (some d)) : d ∈ g.catalog.payloads ∧ g.Allows r d := by
  cases h with
  | callback hc h => exact ⟨h.mem, h.1.1, fun _ ↦ hc⟩
  | fallback hc _ h => exact ⟨h.mem, h.1, fun _ ↦ hc⟩
  | alone _ h => exact ⟨h.mem, h.1.1, fun huses ↦ by rw [h.1.2] at huses; cases huses⟩

/-- The rule gives what is chosen and nothing else. -/
theorem chooses_iff {d? : Option PayloadDefinition} : g.Chooses r d? ↔ g.choose? r = d? := by
  refine ⟨fun h ↦ ?_, fun h ↦ h ▸ g.chooses_choose? r⟩
  cases h with
  | callback hc h => rw [choose?_of_prefers hc, find?_candidates_eq_some_iff.mpr h, Option.some_or]
  | fallback hc hnone h =>
    rw [choose?_of_prefers hc, find?_candidates_eq_none_iff.mpr hnone, Option.none_or,
      find?_candidates_eq_some_iff]
    refine h.congr fun d hd ↦ ?_
    simp only [Bool.not_eq_true', iff_self_and]
    exact hnone d hd
  | alone hc h =>
    rw [choose?_of_not_prefers hc, find?_candidates_eq_some_iff]
    exact h.congr fun d _ ↦ by rw [Bool.not_eq_true']
  | nothing h =>
    rw [Option.eq_none_iff_forall_ne_some]
    intro d hd
    have hallows := (hd ▸ g.chooses_choose? r : g.Chooses r (some d)).allows
    exact h d hallows.1 hallows.2

/-- Nothing is chosen exactly if there is no candidate of an allowed kind. -/
theorem choose?_eq_none_iff :
    g.choose? r = none ↔ ∀ d ∈ g.catalog.payloads, ¬ g.Allows r d := by
  rw [← chooses_iff]
  constructor
  · intro h
    cases h with
    | nothing h => exact h
  · exact .nothing

/-! ### Catalogs without callbacks -/

private theorem find?_local_withoutCallbacks (g : Generator) (r : PayloadRequest)
    (client? : Option Callback.Client) (useCallback : Bool) :
    ((Generator.mk g.catalog.withoutCallbacks client?).candidates { r with useCallback }).find?
        (!·.usesCallback) =
      (g.candidates r).find? (!·.usesCallback) := by
  unfold candidates PayloadCatalog.select PayloadCatalog.withoutCallbacks
  rw [List.find?_filter, List.find?_filter, List.find?_filter]
  congr 1
  funext d
  cases d.usesCallback <;> simp

/-- If callbacks are not preferred, the choice is the one in the catalog without the definitions
that use them, with a server or without and whether callbacks are wanted or not. -/
theorem choose?_withoutCallbacks (h : ¬ g.PrefersCallback r) (client? : Option Callback.Client)
    (useCallback : Bool) :
    (Generator.mk g.catalog.withoutCallbacks client?).choose? { r with useCallback } =
      g.choose? r := by
  have hlocal := g.find?_local_withoutCallbacks r client? useCallback
  rw [choose?_of_not_prefers h]
  by_cases hc : (Generator.mk g.catalog.withoutCallbacks client?).PrefersCallback
      { r with useCallback }
  · rw [choose?_of_prefers hc, hlocal, find?_candidates_eq_none_iff.mpr, Option.none_or]
    intro d hd _
    simpa using (List.mem_filter.mp hd).2
  · rw [choose?_of_not_prefers hc, hlocal]

/-- So is what is made. -/
theorem generate_withoutCallbacks (h : ¬ g.PrefersCallback r) (client? : Option Callback.Client)
    (useCallback : Bool) (source : TokenSource) (createdAt : Binary64) (drawn : Nat) :
    (Generator.mk g.catalog.withoutCallbacks client?).generate source createdAt
        { r with useCallback } drawn =
      g.generate source createdAt r drawn := by
  have hchoice := choose?_withoutCallbacks h client? useCallback
  cases hd : g.choose? r with
  | none =>
    rw [hd] at hchoice
    rw [g.generate_of_choose?_none source createdAt hd,
      generate_of_choose?_none _ source createdAt hchoice]
  | some d =>
    rw [hd] at hchoice
    have hallows := (chooses_iff.mpr hd).allows.2
    have hlocal : d.usesCallback = false := Bool.eq_false_iff.mpr fun huses ↦ h (hallows.2 huses)
    rw [g.generate_of_choose? source createdAt hd,
      generate_of_choose? _ source createdAt hchoice,
      g.render_local source createdAt hlocal, render_local _ source createdAt hlocal]

/-! ### Requests -/

/-- What is made for a request is rendered from its definition, and has a secret and an address
exactly if the definition uses the callback server. -/
theorem render_of_generate {source : TokenSource} {createdAt : Binary64} {drawn : Nat}
    {p : Payload} (h : (g.generate source createdAt r drawn).1 = .ok (some p)) :
    (g.render source createdAt p.definition drawn).1 = .ok p ∧
      p.callbackSecret.isSome = p.definition.usesCallback ∧
      p.callbackUrl.isSome = p.definition.usesCallback := by
  obtain ⟨d, -, hr⟩ := PayloadCatalog.exists_render_of_generate h
  rcases render_cases hr with ⟨hd, rfl⟩ | ⟨hd, client, -, rfl⟩
  · exact ⟨hr, hd.symm, hd.symm⟩
  · exact ⟨hr, hd.symm, hd.symm⟩

/-- How a request is answered. -/
structure AnswersByRule (g : Generator) (source : TokenSource) (createdAt : Binary64)
    (r : PayloadRequest) (drawn : Nat) (made : Option Payload) : Prop where
  /-- There is no lack of a server. -/
  generated : (g.generate source createdAt r drawn).1 = .ok made
  /-- The definition of the payload is what the rule chooses, and the rule chooses nothing else. -/
  chooses : ∀ d?, g.Chooses r d? ↔ d? = made.map (·.definition)
  /-- Nothing is made exactly if there is no candidate of an allowed kind. -/
  nothing : made = none ↔ ∀ d ∈ g.catalog.payloads, ¬ g.Allows r d
  /-- A payload is rendered from its definition, -/
  rendered : ∀ p ∈ made, (g.render source createdAt p.definition drawn).1 = .ok p
  /-- and has a secret and an address exactly if its definition uses the callback server. -/
  secret : ∀ p ∈ made, p.callbackSecret.isSome = p.definition.usesCallback
  url : ∀ p ∈ made, p.callbackUrl.isSome = p.definition.usesCallback
  /-- If callbacks are not preferred, the definitions that use them might as well be missing, and
  the server too. -/
  withoutCallbacks : ¬ g.PrefersCallback r → ∀ client? useCallback,
    (Generator.mk g.catalog.withoutCallbacks client?).generate source createdAt
      { r with useCallback } drawn = g.generate source createdAt r drawn

/-- Every request is answered by the rule. -/
theorem exists_answersByRule (g : Generator) (source : TokenSource) (createdAt : Binary64)
    (r : PayloadRequest) (drawn : Nat) :
    ∃ made, g.AnswersByRule source createdAt r drawn made := by
  obtain ⟨made, hmade, hanswers, -⟩ := g.exists_answers source createdAt r drawn
  have hchoice : g.choose? r = made.map (·.definition) := by
    cases made with
    | none => exact hanswers
    | some p =>
      obtain ⟨d, hd, hp⟩ := hanswers
      rw [hd, ← hp.definition_eq, Option.map_some]
  have hgenerated : (g.generate source createdAt r drawn).1 = .ok made := by rw [hmade]
  have hrender : ∀ p ∈ made, (g.generate source createdAt r drawn).1 = .ok (some p) := by
    rintro p rfl
    exact hgenerated
  exact ⟨made, {
    generated := hgenerated
    chooses := fun d? ↦ by rw [chooses_iff, hchoice, eq_comm]
    nothing := by rw [← choose?_eq_none_iff, hchoice, Option.map_eq_none_iff]
    rendered := fun p hp ↦ (render_of_generate (hrender p hp)).1
    secret := fun p hp ↦ (render_of_generate (hrender p hp)).2.1
    url := fun p hp ↦ (render_of_generate (hrender p hp)).2.2
    withoutCallbacks := fun h client? useCallback ↦
      generate_withoutCallbacks h client? useCallback source createdAt drawn }⟩

end Generator
end VulnScanner
