import VulnScanner.Proofs.Regex.Reading
import VulnScanner.Proofs.Regex.Searching

/-!
# A word with any text around it

The expression that lets a dot match line breaks and puts any text in front of and behind a word is
read as intended, and it matches exactly the texts in which the word occurs.
-/

namespace VulnScanner.Regex

/-- An expression with any text around it. -/
def surrounded (e : List Char) : List Char :=
  '(' :: '?' :: 's' :: ')' :: '.' :: '*' :: (e ++ ['.', '*'])

/-- The nodes of a word with any text around it. -/
def surroundedNodes (word : List Char) : List Node := anyText :: (literals word ++ [anyText])

/-- A spelling is at least as long as its word. -/
theorem Spells.length_le {e w : List Char} (h : Spells e w) : w.length ≤ e.length := by
  induction h with
  | nil => exact Nat.le_refl _
  | plain _ _ ih => exact Nat.succ_le_succ ih
  | escaped _ _ ih => exact Nat.le_succ_of_le (Nat.succ_le_succ ih)

private theorem spliceGroups_surrounded (word : List Char) :
    spliceGroups (surroundedNodes word) = surroundedNodes word := by
  have hword : spliceGroups (literals word) = literals word := by
    induction word with
    | nil => rfl
    | cons c rest ih => exact congrArg (Node.code c.toNat :: ·) ih
  unfold spliceGroups at hword ⊢
  rw [surroundedNodes, List.flatMap_cons, List.flatMap_append, hword]
  rfl

private theorem tokenOf_spells_ne {e w : List Char} {c : Char} (h : Spells e w)
    (hc : isPlain c = false) (hd : c ≠ '.') : tokenOf (e ++ ['.', '*']) ≠ [c] := by
  cases h with
  | nil =>
    intro ht
    exact hd (List.cons.inj ht).1.symm
  | @plain d e w hp h =>
    have hb : d ≠ '\\' := by rintro rfl; cases hp
    rw [List.cons_append, tokenOf_cons _ hb]
    rintro ⟨⟩
    rw [hp] at hc
    cases hc
  | escaped _ _ =>
    intro ht
    cases (List.cons.inj ht).2

private theorem anyText_items (w : List Char) :
    (anyText :: ((literals w).reverse ++ [anyText])).reverse = surroundedNodes w := by
  simp [surroundedNodes]

/-- A surrounded spelling is read as the nodes of its word. -/
theorem readSequence_surrounded {e w : List Char} (h : Spells e w) (steps : Nat) {r : Reader}
    (hr : r.rest = surrounded e) (hv : r.flags.verbose = false) :
    (readSequence (steps + w.length + 6) true false []).run r =
      .ok (surroundedNodes w,
        { r.skip (e.length + 8) with flags := r.flags.union { dotAll := true } }) := by
  have htail : e ++ ['.', '*'] ≠ ['\\'] := h.append_ne (by decide)
  let r₁ : Reader := { r.skip 4 with flags := r.flags.union { dotAll := true } }
  have h₁ : r₁.rest = '.' :: '*' :: (e ++ ['.', '*']) := by
    show r.rest.drop 4 = _
    rw [hr]
    rfl
  have h₂ : (r₁.skip 1).rest = '*' :: (e ++ ['.', '*']) := by rw [Reader.rest_skip, h₁]; rfl
  have h₃ : (r₁.skip 2).rest = e ++ ['.', '*'] := by rw [Reader.rest_skip, h₁]; rfl
  have h₄ : (r₁.skip (2 + e.length)).rest = ['.', '*'] := by
    rw [← Reader.skip_skip, Reader.rest_skip, h₃, List.drop_left]
  have h₅ : (r₁.skip (3 + e.length)).rest = ['*'] := by
    rw [show 3 + e.length = 2 + e.length + 1 by omega, ← Reader.skip_skip, Reader.rest_skip, h₄]
    rfl
  have h₆ : (r₁.skip (4 + e.length)).rest = [] := by
    rw [show 4 + e.length = 2 + e.length + 2 by omega, ← Reader.skip_skip, Reader.rest_skip, h₄]
    rfl
  have hend : r₁.skip (4 + e.length) =
      { r.skip (e.length + 8) with flags := r.flags.union { dotAll := true } } := by
    simp only [r₁, Reader.skip, List.drop_drop, Reader.mk.injEq, and_true]
    exact ⟨congrArg (List.drop · r.rest) (by omega), by omega⟩
  have hread := calc
    (readSequence (steps + w.length + 6) true false []).run r
    _ = (readSequence (steps + w.length + 5) true false []).run r₁ := by
      rw [readSequence_dotAll (steps + w.length + 4) hr (by simp), hv]
    _ = (readSequence (steps + w.length + 3) true false [anyText]).run (r₁.skip 2) := by
      rw [readSequence_any _ _ _ h₁ (by simp), readSequence_star _ _ _ h₂ htail
        (tokenOf_spells_ne h rfl (by decide)) (tokenOf_spells_ne h rfl (by decide)) rfl rfl,
        Reader.skip_skip]
      rfl
    _ = (readSequence (steps + 3) true false ((literals w).reverse ++ [anyText])).run
          (r₁.skip (2 + e.length)) := by
      rw [show steps + w.length + 3 = steps + 3 + w.length by omega,
        readSequence_spells h (by decide) _ _ _ h₃, Reader.skip_skip]
    _ = (readSequence (steps + 1) true false (anyText :: ((literals w).reverse ++ [anyText]))).run
          (r₁.skip (4 + e.length)) := by
      rw [readSequence_any _ _ _ h₄ (by decide), Reader.skip_skip,
        show 2 + e.length + 1 = 3 + e.length by omega,
        readSequence_star _ _ _ h₅ (by decide) (by decide) (by decide) rfl rfl, Reader.skip_skip,
        show 3 + e.length + 1 = 4 + e.length by omega]
      rfl
    _ = .ok (surroundedNodes w, r₁.skip (4 + e.length)) := by
      rw [readSequence_end _ _ _ h₆, anyText_items, spliceGroups_surrounded]
  rw [hread, hend]

private theorem surroundedCheck (groups : List (Option Width)) {flags : Flags} (word : List Char)
    (hf : flags.template = false) :
    sequenceCheck groups flags (surroundedNodes word) = .ok () := by
  have hany : anyText.check groups flags = .ok () := by
    simp [anyText, Node.check, sequenceCheck, hf]
  have hword : sequenceCheck groups flags (literals word ++ [anyText]) = .ok () := by
    induction word with
    | nil => simp [literals, sequenceCheck, hany]
    | cons c rest ih =>
      rw [literals, List.map_cons, List.cons_append, sequenceCheck, Node.check]
      exact ih
  rw [surroundedNodes, sequenceCheck, hany]
  exact hword

/-- The pattern for a surrounded spelling of a word. -/
def surroundedPattern (e word : List Char) : Pattern :=
  ⟨surrounded e, surroundedNodes word, { dotAll := true, unicode := true }, [none]⟩

private theorem readAlternatives_single (steps : Nat) (isWhole verbose : Bool) {r s : Reader}
    {nodes : List Node} (h : (readSequence steps isWhole verbose []).run r = .ok (nodes, s))
    (hs : s.rest = []) : (readAlternatives (steps + 2) isWhole verbose).run r = .ok (nodes, s) := by
  have hbar := run_accept_of_ne (r := s) (c := '|') (by rw [hs]; simp [tokenOf])
  rw [readAlternatives, readBranches]
  simp only [StateT.run_bind, h, ok_bind, hbar]
  rfl

private theorem readExpression_of_run [Platform] (flags : Flags) {text : List Char}
    {nodes : List Node} {r : Reader} (hl : text ≠ ['\\'])
    (hr : (readAlternatives (6 * text.length + 6) true flags.verbose).run
      (Reader.start flags text) = .ok (nodes, r))
    (ha : r.flags.ascii = false) (he : r.rest = []) (hm : r.mentions = []) :
    readExpression flags text = .ok ⟨nodes, { r.flags with unicode := true }, r.widths⟩ := by
  have hlone : refuseLoneEscape text 0 = .ok () := if_neg hl
  unfold readExpression
  rw [hlone, ok_bind]
  simp only [hr, ok_bind, Reader.finish, Reader.missing?, ha, he, hm]
  rfl

/-- A surrounded spelling is an expression, whether or not dots match line breaks from the start. -/
theorem compile_surrounded [Platform] {e w : List Char} (h : Spells e w) (dotAll : Bool) :
    Pattern.compile { dotAll := dotAll } (surrounded e) = .ok (surroundedPattern e w) := by
  have hlength : (surrounded e).length = e.length + 8 := by
    simp [surrounded]
  let start := Reader.start { dotAll := dotAll } (surrounded e)
  have hsteps : 6 * (surrounded e).length + 6 =
      6 * e.length + 46 - w.length + w.length + 6 + 2 := by
    have := h.length_le
    omega
  have hread := readSequence_surrounded h (6 * e.length + 46 - w.length) (r := start) rfl rfl
  have hrest : (surrounded e).drop (e.length + 8) = [] :=
    List.drop_eq_nil_of_le (Nat.le_of_eq hlength)
  have hall := readAlternatives_single _ _ _ hread hrest
  have hflags : start.flags.union { dotAll := true } = { dotAll := true } := by
    simp [start, Reader.start, Flags.union]
  rw [← hsteps, hflags] at hall
  have hexpr := readExpression_of_run { dotAll := dotAll } (by simp [surrounded]) hall rfl hrest rfl
  have hcheck : sequenceCheck [none] { dotAll := true, unicode := true } (surroundedNodes w) =
    .ok () := surroundedCheck [none] w rfl
  unfold Pattern.compile
  rw [hexpr, ok_bind]
  simp only [show (start.skip (e.length + 8)).widths = [none] from rfl, hcheck]
  rfl

/-- Any text, a word, and any text again match exactly where the word occurs further on. -/
theorem match_surrounded_iff (hd : flags.dotAll = true) (hi : flags.ignoreCase = false)
    (word : List Char) (s : Spot) :
    (runSequence groups flags (anyText :: (literals word ++ [anyText])) s some).isSome = true ↔
      word <:+: s.after := by
  have hany := reaches_single (@reaches_anyText groups flags hd)
  have hrun := reaches_append hany (reaches_append (reaches_literals hi word) hany)
  rw [← List.singleton_append, hrun]
  constructor
  · rintro ⟨t, ⟨u, ⟨lead, hu⟩, v, hv, rest, ht⟩, -⟩
    rw [hu.after, hv.after, ht.after, ← List.append_assoc]
    exact List.infix_append _ _ _
  · rintro ⟨lead, rest, h⟩
    have hafter : s.after = lead ++ (word ++ rest) := by rw [← h, List.append_assoc]
    obtain ⟨u, hu, hau⟩ := Spot.exists_behind hafter
    obtain ⟨v, hv, hav⟩ := Spot.exists_behind hau
    exact ⟨v, ⟨u, ⟨lead, hu⟩, v, hv, [], Spot.behind_nil_iff.mpr rfl⟩, rfl⟩

/-- A surrounded spelling matches exactly the texts in which its word occurs. -/
theorem occursIn_surroundedPattern (e word text : List Char) :
    (surroundedPattern e word).occursIn text = true ↔ word <:+: text := by
  have hmatch := @match_surrounded_iff [none] { dotAll := true, unicode := true } rfl rfl word
  constructor
  · intro h
    obtain ⟨lead, t, ht, hm⟩ := exists_match_of_searchFrom h
    have hinfix := (hmatch t).mp hm
    rw [show text = lead ++ t.after from ht.after]
    exact hinfix.trans (List.suffix_append lead t.after).isInfix
  · intro h
    exact searchFrom_of_match ((hmatch (Spot.start text)).mpr h)

end VulnScanner.Regex
