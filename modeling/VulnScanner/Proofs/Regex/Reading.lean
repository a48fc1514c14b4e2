import VulnScanner.Proofs.Steps
import VulnScanner.Regex.Pattern

/-!
# Reading step by step

What the elementary steps of reading an expression give on a text whose head is known. A text of
plain characters and escaped signs is read as the word that it spells.
-/

namespace VulnScanner.Regex

/-! ### Elementary steps -/

/-- The reader behind some more characters. -/
def Reader.skip (n : Nat) (r : Reader) : Reader :=
  { r with rest := r.rest.drop n, position := r.position + n }

/-- Skipping drops characters of what is left. -/
@[simp] theorem Reader.rest_skip (n : Nat) (r : Reader) : (r.skip n).rest = r.rest.drop n := rfl

/-- Skipping keeps the settings. -/
@[simp] theorem Reader.flags_skip (n : Nat) (r : Reader) : (r.skip n).flags = r.flags := rfl

/-- Skipping twice is skipping once. -/
@[simp] theorem Reader.skip_skip (m n : Nat) (r : Reader) :
    (r.skip m).skip n = r.skip (m + n) := by
  simp [Reader.skip, List.drop_drop, Nat.add_assoc]

/-- Looking at the next token consumes nothing. -/
@[simp] theorem run_peek (r : Reader) : peek.run r = .ok (tokenOf r.rest, r) := rfl

/-- The position is that of the reader. -/
@[simp] theorem run_position (r : Reader) : position.run r = .ok (r.position, r) := rfl

/-- A token is one character unless it begins with a backslash. -/
theorem tokenOf_cons {c : Char} (rest : List Char) (h : c ≠ '\\') : tokenOf (c :: rest) = [c] := by
  unfold tokenOf
  split
  · next he => cases he
  · next he => exact absurd (List.cons.inj he).1 h
  · next he => rw [(List.cons.inj he).1]

/-- A token is consumed unless a lone backslash is left behind it. -/
theorem run_take {r : Reader} {token : List Char} (ht : tokenOf r.rest = token)
    (h : r.rest.drop token.length ≠ ['\\']) :
    take.run r = .ok (token, r.skip token.length) := by
  subst ht
  unfold take refuseLoneEscape
  simp only [StateT.run_bind, StateT.run_get, pure_bind, h, if_false]
  rfl

/-- Consuming a character. -/
theorem run_take_cons {r : Reader} {c : Char} {rest : List Char} (hr : r.rest = c :: rest)
    (hc : c ≠ '\\') (hl : rest ≠ ['\\']) : take.run r = .ok ([c], r.skip 1) := by
  apply run_take
  · rw [hr, tokenOf_cons rest hc]
  · rw [hr]
    exact hl

/-- Another token is not accepted. -/
theorem run_accept_of_ne {r : Reader} {c : Char} (h : tokenOf r.rest ≠ [c]) :
    (accept c).run r = .ok (false, r) := by
  simp only [accept, StateT.run_bind, run_peek, ok_bind, h, if_false]
  rfl

/-- The character that is asked for is accepted. -/
theorem run_accept_cons {r : Reader} {c : Char} {rest : List Char} (hr : r.rest = c :: rest)
    (hc : c ≠ '\\') (hl : rest ≠ ['\\']) : (accept c).run r = .ok (true, r.skip 1) := by
  simp only [accept, StateT.run_bind, run_peek, ok_bind, hr, tokenOf_cons rest hc, if_true,
    run_take_cons hr hc hl]
  rfl

/-! ### Words -/

/-- A character that stands for itself behind a backslash. -/
def isSign (c : Char) : Bool := !isDecimal c && !isAsciiLetter c

/-- An expression that stands for a word: plain characters, and signs behind a backslash. -/
inductive Spells : List Char → List Char → Prop
  | nil : Spells [] []
  | plain {c : Char} {e w : List Char} (hc : isPlain c = true) (h : Spells e w) :
      Spells (c :: e) (c :: w)
  | escaped {c : Char} {e w : List Char} (hc : isSign c = true) (h : Spells e w) :
      Spells ('\\' :: c :: e) (c :: w)

/-- The literals of a word. -/
def literals (word : List Char) : List Node := word.map fun c ↦ .code c.toNat

/-- Plain characters spell themselves. -/
theorem Spells.of_plain {word : List Char} (h : ∀ c ∈ word, isPlain c = true) :
    Spells word word := by
  induction word with
  | nil => exact .nil
  | cons c rest ih =>
    exact .plain (h c List.mem_cons_self) (ih fun d hd ↦ h d (List.mem_cons_of_mem _ hd))

/-- Spellings one after the other. -/
theorem Spells.append {e w e' w' : List Char} (h : Spells e w) (h' : Spells e' w') :
    Spells (e ++ e') (w ++ w') := by
  induction h with
  | nil => exact h'
  | plain hc _ ih => exact .plain hc ih
  | escaped hc _ ih => exact .escaped hc ih

/-- A spelling leaves no lone backslash. -/
theorem Spells.append_ne {e w tail : List Char} (h : Spells e w) (ht : tail ≠ ['\\']) :
    e ++ tail ≠ ['\\'] := by
  cases h with
  | nil => exact ht
  | plain hc h =>
    intro he
    rw [(List.cons.inj he).1] at hc
    cases hc
  | escaped hc h =>
    intro he
    cases (List.cons.inj he).2

/-- A sign is no character of another kind. -/
theorem ne_of_isSign {c d : Char} (hc : isSign c = true) (hd : isSign d = false) : c ≠ d := by
  rintro rfl
  rw [hc] at hd
  cases hd

private theorem lookup_sign {α : Type} {c : Char} (table : List (Char × α)) (hc : isSign c = true)
    (ht : ∀ e ∈ table, isSign e.1 = true → e.1 = '\\') (hb : c ≠ '\\') :
    table.lookup c = none := by
  rw [List.lookup_eq_none_iff]
  intro e he
  rw [bne_iff_ne]
  rintro rfl
  exact hb (ht e he hc)

/-- A sign behind a backslash is a literal. -/
theorem run_readEscape_sign {c : Char} (hc : isSign c = true) (r : Reader) :
    (readEscape c).run r = .ok (.code c.toNat, r) := by
  by_cases hb : c = '\\'
  · subst hb
    rfl
  · have hplace : placeEscapes.lookup c = none := lookup_sign _ hc (by decide) hb
    have hclass : classEscapes.lookup c = none := lookup_sign _ hc (by decide) hb
    have hcontrol : controlEscapes.lookup c = none := lookup_sign _ hc (by decide) hb
    have hcode : readCodeEscape? c = pure none := by
      simp [readCodeEscape?, ne_of_isSign hc (d := 'x') rfl, ne_of_isSign hc (d := 'u') rfl,
        ne_of_isSign hc (d := 'U') rfl, ne_of_isSign hc (d := 'N') rfl]
    have hzero : c ≠ '0' := ne_of_isSign hc rfl
    simp only [isSign, Bool.and_eq_true, Bool.not_eq_true'] at hc
    simp [readEscape, hplace, hclass, hcontrol, hcode, hc.1, hc.2, hzero]
    rfl

/-- A plain character is read as a literal. -/
theorem readSequence_plain (steps : Nat) (isFirst : Bool) (items : List Node) {r : Reader}
    {c : Char} {rest : List Char} (hr : r.rest = c :: rest) (hc : isPlain c = true)
    (hl : rest ≠ ['\\']) :
    (readSequence (steps + 1) isFirst false items).run r =
      (readSequence steps isFirst false (.code c.toNat :: items)).run (r.skip 1) := by
  simp only [isPlain, Bool.not_eq_true', List.contains_eq_mem, decide_eq_false_iff_not,
    List.mem_cons, List.not_mem_nil, not_or, or_false] at hc
  have ht := tokenOf_cons rest hc.1
  have htake := run_take_cons hr hc.1 hl
  rw [readSequence]
  simp [hr, ht, htake, hc, readItem, isQuantifier]

/-- An escaped sign is read as a literal. -/
theorem readSequence_escaped (steps : Nat) (isFirst : Bool) (items : List Node) {r : Reader}
    {c : Char} {rest : List Char} (hr : r.rest = '\\' :: c :: rest) (hc : isSign c = true)
    (hl : rest ≠ ['\\']) :
    (readSequence (steps + 1) isFirst false items).run r =
      (readSequence steps isFirst false (.code c.toNat :: items)).run (r.skip 2) := by
  have ht : tokenOf r.rest = ['\\', c] := by rw [hr, tokenOf]
  have htake := run_take ht (by rw [hr]; exact hl)
  rw [readSequence]
  simp [ht, htake, readItem, run_readEscape_sign hc]

/-- A spelling is read as the literals of its word, one step for each. -/
theorem readSequence_spells {e w tail : List Char} (h : Spells e w) (ht : tail ≠ ['\\'])
    (steps : Nat) (isFirst : Bool) (items : List Node) {r : Reader} (hr : r.rest = e ++ tail) :
    (readSequence (steps + w.length) isFirst false items).run r =
      (readSequence steps isFirst false ((literals w).reverse ++ items)).run
        (r.skip e.length) := by
  induction h generalizing items r with
  | nil => rfl
  | @plain c e w hc h ih =>
    rw [List.length_cons, ← Nat.add_assoc, readSequence_plain _ _ _ hr hc (h.append_ne ht),
      ih _ (r := r.skip 1) (by rw [Reader.rest_skip, hr]; rfl)]
    simp [literals, Nat.add_comm]
  | @escaped c e w hc h ih =>
    rw [List.length_cons, ← Nat.add_assoc, readSequence_escaped _ _ _ hr hc (h.append_ne ht),
      ih _ (r := r.skip 2) (by rw [Reader.rest_skip, hr]; rfl)]
    simp [literals, Nat.add_comm, Nat.add_left_comm]

/-! ### Stars and settings -/

/-- A dot stands for any character. -/
theorem readSequence_any (steps : Nat) (isFirst : Bool) (items : List Node) {r : Reader}
    {rest : List Char} (hr : r.rest = '.' :: rest) (hl : rest ≠ ['\\']) :
    (readSequence (steps + 1) isFirst false items).run r =
      (readSequence steps isFirst false (.any :: items)).run (r.skip 1) := by
  have ht := tokenOf_cons rest (c := '.') (by decide)
  have htake := run_take_cons hr (by decide) hl
  rw [readSequence]
  simp [hr, ht, htake, readItem]

/-- A star repeats the item before it, unless a mark behind it changes its style. -/
theorem readSequence_star (steps : Nat) (isFirst : Bool) (items : List Node) {item : Node}
    {r : Reader} {rest : List Char} (hr : r.rest = '*' :: rest) (hl : rest ≠ ['\\'])
    (hq : tokenOf rest ≠ ['?']) (hp : tokenOf rest ≠ ['+'])
    (ha : item.isAnchor = false) (hi : item.isRepeated = false) :
    (readSequence (steps + 1) isFirst false (item :: items)).run r =
      (readSequence steps isFirst false
        (.repeated .greedy 0 none (item.plainBody?.getD [item]) :: items)).run (r.skip 1) := by
  have ht := tokenOf_cons rest (c := '*') (by decide)
  have htake := run_take_cons hr (by decide) hl
  have hrest : (r.skip 1).rest = rest := by rw [Reader.rest_skip, hr]; rfl
  have hq' := run_accept_of_ne (r := r.skip 1) (c := '?') (by rw [hrest]; exact hq)
  have hp' := run_accept_of_ne (r := r.skip 1) (c := '+') (by rw [hrest]; exact hp)
  rw [readSequence]
  simp [hr, ht, htake, readItem, isQuantifier, readRepetition, readQuantifier, readStyle, ha, hi,
    hq', hp']

/-- At the end of the text the items are put in order. -/
theorem readSequence_end (steps : Nat) (isFirst : Bool) (items : List Node) {r : Reader}
    (hr : r.rest = []) :
    (readSequence (steps + 1) isFirst false items).run r = .ok (spliceGroups items.reverse, r) := by
  rw [readSequence]
  simp [hr, tokenOf]
  rfl

/-- A setting at the start that lets the dot match line breaks is put in force. -/
theorem readSequence_dotAll (steps : Nat) {r : Reader} {rest : List Char}
    (hr : r.rest = '(' :: '?' :: 's' :: ')' :: rest) (hl : rest ≠ ['\\']) :
    (readSequence (steps + 2) true false []).run r =
      (readSequence (steps + 1) true r.flags.verbose []).run
        { r.skip 4 with flags := r.flags.union { dotAll := true } } := by
  have hr1 : (r.skip 1).rest = '?' :: 's' :: ')' :: rest := by rw [Reader.rest_skip, hr]; rfl
  have hr2 : (r.skip 2).rest = 's' :: ')' :: rest := by rw [Reader.rest_skip, hr]; rfl
  have hr3 : (r.skip 3).rest = ')' :: rest := by rw [Reader.rest_skip, hr]; rfl
  have hopen := run_take_cons hr (by decide) (by simp)
  have haccept := run_accept_cons hr1 (by decide) (by simp)
  have hletter := run_take_cons hr2 (by decide) (by simp)
  have hclose := run_take_cons hr3 (by decide) hl
  have hflags : Flags.none.union { dotAll := true } = { dotAll := true } := rfl
  have hverbose : (r.flags.union { dotAll := true }).verbose = r.flags.verbose := Bool.or_false _
  rw [readSequence]
  simp [hr, tokenOf, hopen, readParenthesized, haccept, hletter, isFlagLetter,
    flagOf?, readFlags, readFlagsOn, hclose, Flags.setsRepertoire, hflags, hverbose]

end VulnScanner.Regex
