import VulnScanner.Proofs.Regex.Reading
import VulnScanner.Proofs.Text.Occurrence

/-!
# What a matcher reaches

What a matcher reaches is described by a relation between spots, which composes along a sequence:
a word reaches the spot behind it, and any text reaches every spot further on. A search succeeds
where some spot on its way is the start of a match.
-/

namespace VulnScanner.Regex

/-! ### Spots -/

/-- The second spot is the one behind the word that stands at the first. -/
structure Spot.Behind (s : Spot) (word : List Char) (t : Spot) : Prop where
  after : s.after = word ++ t.after
  before : t.before = word.reverse ++ s.before
  position : t.position = s.position + word.length
  starts : t.starts = s.starts
  ends : t.ends = s.ends

/-- Behind the empty word is the same spot. -/
theorem Spot.behind_nil_iff {s t : Spot} : s.Behind [] t ↔ t = s := by
  constructor
  · rintro ⟨ha, hb, hp, hs, he⟩
    cases s
    cases t
    simp_all
  · rintro rfl
    exact ⟨rfl, rfl, rfl, rfl, rfl⟩

/-- Behind a word is behind its rest, one character further. -/
theorem Spot.behind_cons_iff {s t : Spot} {c : Char} {word : List Char} :
    s.Behind (c :: word) t ↔ ∃ next, s.step? = some (c, next) ∧ next.Behind word t := by
  constructor
  · rintro ⟨ha, hb, hp, hs, he⟩
    refine ⟨{ s with
        before := c :: s.before
        after := word ++ t.after
        position := s.position + 1 }, by rw [Spot.step?, ha]; rfl, rfl, ?_, ?_, hs, he⟩
    · rw [hb, List.reverse_cons, List.append_assoc, List.singleton_append]
    · rw [hp, List.length_cons, Nat.add_assoc, Nat.add_comm 1]
  · rintro ⟨next, hn, h⟩
    cases ha : s.after with
    | nil => simp [Spot.step?, ha] at hn
    | cons d rest =>
      simp only [Spot.step?, ha, Option.some.injEq, Prod.mk.injEq] at hn
      obtain ⟨rfl, rfl⟩ := hn
      refine ⟨?_, ?_, ?_, h.starts, h.ends⟩
      · rw [ha, show rest = word ++ t.after from h.after, List.cons_append]
      · rw [h.before, List.reverse_cons, List.append_assoc, List.singleton_append]
      · rw [h.position, List.length_cons, Nat.add_assoc, Nat.add_comm 1]

/-- There is a spot behind every word that a text begins with. -/
theorem Spot.exists_behind {s : Spot} {word rest : List Char} (h : s.after = word ++ rest) :
    ∃ t, s.Behind word t ∧ t.after = rest :=
  ⟨{ s with
      before := word.reverse ++ s.before, after := rest, position := s.position + word.length },
    ⟨h, rfl, rfl, rfl, rfl⟩, rfl⟩

/-! ### What a matcher reaches -/

/-- Running succeeds exactly if the continuation does at a spot that is reached. -/
def Reaches (run : Runner) (reached : Spot → Spot → Prop) : Prop :=
  ∀ s k, (run s k).isSome = true ↔ ∃ t, reached s t ∧ (k t).isSome = true

variable {groups : List (Option Width)} {flags : Flags}

/-- No nodes reach the spot itself. -/
theorem reaches_nil : Reaches (runSequence groups flags []) fun s t ↦ t = s := by
  intro s k
  rw [runSequence]
  simp

/-- Joined sequences run one after the other. -/
theorem runSequence_append (first second : List Node) (s : Spot) (k : Continuation) :
    runSequence groups flags (first ++ second) s k =
      runSequence groups flags first s fun t ↦ runSequence groups flags second t k := by
  induction first generalizing s with
  | nil => rw [List.nil_append, runSequence]
  | cons n rest ih =>
    simp only [List.cons_append, runSequence, ih]

/-- Joined sequences reach what their relations compose to. -/
theorem reaches_append {first second : List Node} {p q : Spot → Spot → Prop}
    (hf : Reaches (runSequence groups flags first) p)
    (hs : Reaches (runSequence groups flags second) q) :
    Reaches (runSequence groups flags (first ++ second)) fun s t ↦ ∃ u, p s u ∧ q u t := by
  intro s k
  rw [runSequence_append, hf]
  constructor
  · rintro ⟨u, hu, h⟩
    obtain ⟨t, ht, h⟩ := (hs u k).mp h
    exact ⟨t, ⟨u, hu, ht⟩, h⟩
  · rintro ⟨t, ⟨u, hu, ht⟩, h⟩
    exact ⟨u, hu, (hs u k).mpr ⟨t, ht, h⟩⟩

/-- A node alone reaches what it reaches. -/
theorem reaches_single {n : Node} {p : Spot → Spot → Prop} (h : Reaches (n.run groups flags) p) :
    Reaches (runSequence groups flags [n]) p := by
  intro s k
  simp only [runSequence]
  exact h s k

/-- A letter that passes exactly one character reaches the spot behind it. -/
theorem reaches_letter {test : Char → Bool} {c : Char} (h : ∀ d, test d = true ↔ d = c) :
    Reaches (runLetter test) fun s t ↦ s.Behind [c] t := by
  intro s k
  simp only [Spot.behind_cons_iff, Spot.behind_nil_iff]
  cases hs : s.step? with
  | none => simp [runLetter, hs]
  | some step =>
    obtain ⟨d, next⟩ := step
    by_cases hd : d = c
    · subst hd
      simp [runLetter, hs, (h d).mpr rfl]
    · have ht : test d = false := by
        rw [Bool.eq_false_iff]
        exact fun e ↦ hd ((h d).mp e)
      simp [runLetter, hs, ht, hd]

/-- The literals of a word reach the spot behind it. -/
theorem reaches_literals (hf : flags.ignoreCase = false) (word : List Char) :
    Reaches (runSequence groups flags (literals word)) fun s t ↦ s.Behind word t := by
  induction word with
  | nil =>
    intro s k
    simp only [Spot.behind_nil_iff]
    exact reaches_nil s k
  | cons c rest ih =>
    have hc : Reaches ((Node.code c.toNat).run groups flags) fun s t ↦ s.Behind [c] t := by
      rw [Node.run]
      apply reaches_letter
      intro d
      simp [literalHolds, hf, Char.toNat_inj]
    intro s k
    rw [literals, List.map_cons, ← List.singleton_append]
    refine (reaches_append (reaches_single hc) ih s k).trans ?_
    refine exists_congr fun t ↦ and_congr_left fun _ ↦ ?_
    constructor
    · rintro ⟨u, hu, h⟩
      obtain ⟨next, hn, hu⟩ := Spot.behind_cons_iff.mp hu
      rw [Spot.behind_nil_iff.mp hu] at h
      exact Spot.behind_cons_iff.mpr ⟨next, hn, h⟩
    · intro h
      obtain ⟨next, hn, h⟩ := Spot.behind_cons_iff.mp h
      exact ⟨next, Spot.behind_cons_iff.mpr ⟨next, hn, Spot.behind_nil_iff.mpr rfl⟩, h⟩

private theorem runGreedy_any (steps count : Nat) (last : Option Nat) (s : Spot) (k : Continuation)
    (hs : s.after.length < steps) (hl : ∀ p, last = some p → p < s.position) :
    (runGreedy (runLetter fun _ ↦ true) 0 none steps count last s k).isSome = true ↔
      ∃ t, (∃ word, s.Behind word t) ∧ (k t).isSome = true := by
  induction steps generalizing count last s with
  | zero => exact absurd hs (Nat.not_lt_zero _)
  | succ steps ih =>
    have hturn : mayTurn none count last s = true := by
      have hp : last ≠ some s.position := fun e ↦ Nat.lt_irrefl _ (hl _ e)
      simp [mayTurn, hp]
    rw [runGreedy, if_neg (Nat.not_lt_zero count), if_pos hturn]
    cases ha : s.after with
    | nil =>
      have hstep : s.step? = none := by rw [Spot.step?, ha]
      have hword : ∀ word t, s.Behind word t ↔ word = [] ∧ t = s := by
        intro word t
        cases word with
        | nil => simp [Spot.behind_nil_iff]
        | cons c rest => simp [Spot.behind_cons_iff, hstep]
      simp [runLetter, hstep, hword]
    | cons c rest =>
      have hstep : s.step? = some (c, { s with
          before := c :: s.before, after := rest, position := s.position + 1 }) := by
        rw [Spot.step?, ha]
      simp only [runLetter, hstep, if_true, Option.orElse_eq_orElse, Option.orElse_eq_or,
        Option.isSome_or, Bool.or_eq_true]
      rw [ih _ _ _ (by rw [ha, List.length_cons] at hs; exact Nat.lt_of_succ_lt_succ hs)
        (by rintro p ⟨⟩; exact Nat.lt_succ_self _)]
      constructor
      · rintro (⟨t, ⟨word, h⟩, hk⟩ | hk)
        · exact ⟨t, ⟨c :: word, Spot.behind_cons_iff.mpr ⟨_, hstep, h⟩⟩, hk⟩
        · exact ⟨s, ⟨[], Spot.behind_nil_iff.mpr rfl⟩, hk⟩
      · rintro ⟨t, ⟨word, h⟩, hk⟩
        cases word with
        | nil =>
          rw [Spot.behind_nil_iff.mp h] at hk
          exact Or.inr hk
        | cons d rest' =>
          obtain ⟨next, hn, h⟩ := Spot.behind_cons_iff.mp h
          rw [hstep] at hn
          obtain ⟨-, rfl⟩ := Prod.mk.inj (Option.some.inj hn)
          exact Or.inl ⟨t, ⟨rest', h⟩, hk⟩

/-- Any number of any characters, as an expression reads it behind a dot. -/
def anyText : Node := .repeated .greedy 0 none [.any]

/-- Any text reaches every spot further on. -/
theorem reaches_anyText (hf : flags.dotAll = true) :
    Reaches (anyText.run groups flags) fun s t ↦ ∃ word, s.Behind word t := by
  have hbody : runSequence groups flags [.any] = runLetter fun _ ↦ true := by
    funext s k
    rw [runSequence, Node.run]
    simp only [hf, Bool.true_or, runSequence]
  intro s k
  rw [anyText, Node.run, hbody]
  exact runGreedy_any _ _ _ _ _ (by omega) (by rintro p ⟨⟩)

/-! ### Searches -/

/-- A search succeeds at every spot from which a match can be reached. -/
theorem searchFrom_of_match {nodes : List Node} {steps : Nat} {s : Spot}
    (h : (runSequence groups flags nodes s some).isSome = true) :
    searchFrom groups flags nodes steps s = true := by
  cases steps with
  | zero => exact h
  | succ steps => rw [searchFrom, h, Bool.true_or]

/-- A search succeeds only if there is a match somewhere behind its start. -/
theorem exists_match_of_searchFrom {nodes : List Node} {steps : Nat} {s : Spot}
    (h : searchFrom groups flags nodes steps s = true) :
    ∃ word t, s.Behind word t ∧ (runSequence groups flags nodes t some).isSome = true := by
  induction steps generalizing s with
  | zero => exact ⟨[], s, Spot.behind_nil_iff.mpr rfl, h⟩
  | succ steps ih =>
    rw [searchFrom, Bool.or_eq_true] at h
    rcases h with h | h
    · exact ⟨[], s, Spot.behind_nil_iff.mpr rfl, h⟩
    · cases hs : s.step? with
      | none => simp [hs] at h
      | some step =>
        obtain ⟨c, next⟩ := step
        simp only [hs] at h
        obtain ⟨word, t, ht, hm⟩ := ih h
        exact ⟨c :: word, t, Spot.behind_cons_iff.mpr ⟨next, hs, ht⟩, hm⟩

end VulnScanner.Regex
