import VulnScanner.Proofs.Regex.Alike
import VulnScanner.Proofs.Regex.Checking

/-!
# Readers in step

An expression is still one when some of its zeros give way to other characters that stand for
themselves: of two readers in texts that are read alike, the second succeeds where the first does.
-/

namespace VulnScanner.Regex

/-! ### Two readers side by side -/

/-- Two readers that have got equally far in texts that are read alike. -/
structure Beside (r s : Reader) : Prop where
  rest : ReadAlike r.rest s.rest
  position : s.position = r.position
  flags : s.flags = r.flags
  widths : s.widths.length = r.widths.length
  mentions : s.mentions = r.mentions
  noMentions : r.mentions = []
  room : s.room = r.room

/-- Readers side by side stay so behind their next tokens. -/
theorem Beside.skip {r s : Reader} (h : Beside r s) :
    Beside (r.skip (tokenOf r.rest).length) (s.skip (tokenOf r.rest).length) where
  rest := h.rest.drop
  position := congrArg (· + _) h.position
  flags := h.flags
  widths := h.widths
  mentions := h.mentions
  noMentions := h.noMentions
  room := h.room

/-- If the first step succeeds, so does the second, with a result that is related. -/
def FollowsAt {α : Type} (x y : ReadM α) (Q : α → α → Prop) (r s : Reader) : Prop :=
  ∀ a r', x.run r = .ok (a, r') → ∃ b s', y.run s = .ok (b, s') ∧ Q a b ∧ Beside r' s'

/-- The second step succeeds where the first does, for all readers side by side. -/
def Follows {α : Type} (x y : ReadM α) (Q : α → α → Prop) : Prop :=
  ∀ r s, Beside r s → FollowsAt x y Q r s

namespace FollowsAt

variable {α β : Type} {x y : ReadM α} {Q : α → α → Prop} {R : β → β → Prop} {r s : Reader}

/-- Results without a step. -/
theorem pure {a b : α} (h : Q a b) (hb : Beside r s) :
    FollowsAt (Pure.pure a) (Pure.pure b) Q r s := by
  rintro _ _ ⟨⟩
  exact ⟨b, s, rfl, h, hb⟩

/-- One step after the other. -/
theorem bind {f g : α → ReadM β} (h : FollowsAt x y Q r s)
    (hn : ∀ a b, Q a b → Follows (f a) (g b) R) : FollowsAt (x >>= f) (y >>= g) R r s := by
  intro c r'' hrun
  obtain ⟨⟨a, r'⟩, hx, hf⟩ := bind_eq_ok_iff.mp hrun
  obtain ⟨b, s', hy, hq, hb⟩ := h a r' hx
  obtain ⟨d, s'', hg, hr, hb'⟩ := hn a b hq r' s' hb c r'' hf
  exact ⟨d, s'', bind_eq_ok_iff.mpr ⟨(b, s'), hy, hg⟩, hr, hb'⟩

/-- Looking at the next tokens. -/
theorem peek {f g : List Char → ReadM β}
    (h : FollowsAt (f (tokenOf r.rest)) (g (tokenOf s.rest)) R r s) :
    FollowsAt (Regex.peek >>= f) (Regex.peek >>= g) R r s := h

/-- Asking for the positions. -/
theorem position {f g : Nat → ReadM β} (h : FollowsAt (f r.position) (g s.position) R r s) :
    FollowsAt (Regex.position >>= f) (Regex.position >>= g) R r s := h

/-- Asking for the readers. -/
theorem get {f g : Reader → ReadM β} (h : FollowsAt (f r) (g s) R r s) :
    FollowsAt (MonadState.get >>= f) (MonadState.get >>= g) R r s := h

/-- Consuming the next tokens, which never leaves a lone backslash. -/
theorem take {f g : List Char → ReadM β} (hb : Beside r s)
    (h : FollowsAt (f (tokenOf r.rest)) (g (tokenOf s.rest)) R
      (r.skip (tokenOf r.rest).length) (s.skip (tokenOf r.rest).length)) :
    FollowsAt (Regex.take >>= f) (Regex.take >>= g) R r s := by
  have hr := run_take (r := r) rfl hb.skip.rest.ne_lone.1
  have hs := run_take (r := s) rfl (by rw [hb.rest.token_length]; exact hb.skip.rest.ne_lone.2)
  rw [hb.rest.token_length] at hs
  intro c r' hrun
  rw [StateT.run_bind, hr, ok_bind] at hrun
  rw [StateT.run_bind, hs, ok_bind]
  exact h c r' hrun

/-- Nothing is asked of the second step when the first fails. -/
theorem failAt {fault : Fault} {place : Nat} : FollowsAt (Regex.failAt fault place) y Q r s := by
  rintro _ _ ⟨⟩

/-- Nothing is asked of the second step when the first fails some characters back. -/
theorem failBack {fault : Fault} {back : Nat} : FollowsAt (Regex.failBack fault back) y Q r s := by
  rintro _ _ ⟨⟩

/-- What would come behind a fault does not matter. -/
theorem failAt_bind {fault : Fault} {place : Nat} {f : β → ReadM α} :
    FollowsAt (Regex.failAt fault place >>= f) y Q r s := by
  rintro _ _ ⟨⟩

/-- What would come behind a fault some characters back does not matter. -/
theorem failBack_bind {fault : Fault} {back : Nat} {f : β → ReadM α} :
    FollowsAt (Regex.failBack fault back >>= f) y Q r s := by
  rintro _ _ ⟨⟩

/-- The same decision on both sides. -/
theorem ite {c d : Prop} [Decidable c] [Decidable d] {x' y' : ReadM α} (hcd : d ↔ c)
    (h : c → FollowsAt x y Q r s) (h' : ¬ c → FollowsAt x' y' Q r s) :
    FollowsAt (if c then x else x') (if d then y else y') Q r s := by
  by_cases hc : c
  · rw [if_pos hc, if_pos (hcd.mpr hc)]
    exact h hc
  · rw [if_neg hc, if_neg fun hd ↦ hc (hcd.mp hd)]
    exact h' hc

/-- The same decision on both sides, before another step. -/
theorem iteBind {c d : Prop} [Decidable c] [Decidable d] {x' y' : ReadM α} {f g : α → ReadM β}
    (hcd : d ↔ c) (h : c → FollowsAt x y Q r s) (h' : ¬ c → FollowsAt x' y' Q r s)
    (hn : ∀ a b, Q a b → Follows (f a) (g b) R) :
    FollowsAt (if c then x >>= f else x' >>= f) (if d then y >>= g else y' >>= g) R r s :=
  .ite hcd (fun hc ↦ .bind (h hc) hn) fun hc ↦ .bind (h' hc) hn

/-- A fault under a condition. -/
theorem refuse {c d : Prop} [Decidable c] [Decidable d] {fault : Fault} {back : Nat}
    {f : PUnit → ReadM α} {y' : ReadM α} (hcd : d ↔ c) (h : FollowsAt (f ()) y Q r s) :
    FollowsAt (if c then Regex.failBack fault back >>= f else f ()) (if d then y' else y) Q r s :=
  .ite hcd (fun _ ↦ .failBack_bind) fun _ ↦ h

end FollowsAt

private theorem tokenOf_eq_iff {r s : Reader} (hb : Beside r s) {c : Char}
    (hc : isInert c = false) : tokenOf s.rest = [c] ↔ tokenOf r.rest = [c] := by
  apply hb.rest.token.eq_iff [c]
  rintro d hd he
  rw [← (List.cons.inj he).1, hc] at hd
  cases hd

/-- Asking for a character that is not inert. -/
theorem FollowsAt.accept {β : Type} {R : β → β → Prop} {r s : Reader} {c : Char}
    {f g : Bool → ReadM β} (hc : isInert c = false) (hb : Beside r s)
    (h : tokenOf r.rest = [c] → Beside (r.skip 1) (s.skip 1) →
      FollowsAt (f true) (g true) R (r.skip 1) (s.skip 1))
    (h' : tokenOf r.rest ≠ [c] → FollowsAt (f false) (g false) R r s) :
    FollowsAt (Regex.accept c >>= f) (Regex.accept c >>= g) R r s := by
  unfold Regex.accept
  rw [bind_assoc, bind_assoc]
  refine .peek ?_
  by_cases ht : tokenOf r.rest = [c]
  · rw [if_pos ht, if_pos ((tokenOf_eq_iff hb hc).mpr ht), bind_assoc, bind_assoc]
    have hskip := hb.skip
    rw [ht] at hskip
    refine .take hb ?_
    rw [ht]
    exact h ht hskip
  · rw [if_neg ht, if_neg fun he ↦ ht ((tokenOf_eq_iff hb hc).mp he)]
    exact h' ht

/-! ### Elementary steps -/

private theorem follows_pure {α : Type} {Q : α → α → Prop} {a b : α} (h : Q a b) :
    Follows (pure a) (pure b) Q := fun _ _ hb ↦ .pure h hb

private theorem follows_take : Follows take take TokenAlike := by
  intro r s hb
  rw [← bind_pure take]
  exact .take hb (.pure hb.rest.token hb.skip)

private theorem follows_accept {c : Char} (hc : isInert c = false) :
    Follows (accept c) (accept c) Eq := by
  intro r s hb
  rw [← bind_pure (accept c)]
  exact .accept hc hb (fun _ hskip ↦ .pure rfl hskip) fun _ ↦ .pure rfl hb

private theorem follows_skipLine (steps : Nat) :
    Follows (skipLine steps) (skipLine steps) fun _ _ ↦ True := by
  induction steps with
  | zero => exact follows_pure trivial
  | succ steps ih =>
    intro r s hb
    refine .bind (follows_take r s hb) fun a b hab r s hb ↦ .ite ?_ (fun _ ↦ .pure trivial hb)
      fun _ ↦ ih r s hb
    have hend := hab.eq_iff [] (by simp)
    have hbreak := hab.eq_iff ['\n'] (by rintro d hd ⟨⟩; cases hd)
    simp only [Bool.or_eq_true, decide_eq_true_eq, hend, hbreak]

private theorem follows_skipComment (start start' steps : Nat) :
    Follows (skipComment start steps) (skipComment start' steps) fun _ _ ↦ True := by
  induction steps with
  | zero => exact follows_pure trivial
  | succ steps ih =>
    intro r s hb
    have hend := hb.rest.token.eq_iff [] (by simp)
    refine .peek (.ite hend (fun _ ↦ .failAt_bind) fun _ ↦ ?_)
    refine .bind (follows_take r s hb) fun a b hab r s hb ↦ .ite ?_ (fun _ ↦ .pure trivial hb)
      fun _ ↦ ih r s hb
    exact hab.eq_iff [')'] (by rintro d hd ⟨⟩; cases hd)

/-! ### Settings -/

private theorem follows_readFlagsOn (steps : Nat) (on : Flags) (c : Char) :
    Follows (readFlagsOn steps on c) (readFlagsOn steps on c) Eq := by
  induction steps generalizing on c with
  | zero => exact follows_pure rfl
  | succ steps ih =>
    intro r s hb
    unfold readFlagsOn
    cases flagOf? c with
    | none => exact .failBack
    | some flag =>
      refine .ite Iff.rfl (fun _ ↦ .failBack_bind) fun _ ↦ ?_
      refine .bind (follows_take r s hb) fun a b hab r s hb ↦ ?_
      rcases hab with rfl | ⟨rfl, -⟩
      · split
        · exact .failBack
        · refine .ite Iff.rfl (fun _ ↦ .pure rfl hb) fun _ ↦ ?_
          exact .ite Iff.rfl (fun _ ↦ ih _ _ r s hb) fun _ ↦ .failBack
        · exact .failBack
      · exact .failBack

private theorem follows_readFlagsOff (steps : Nat) (off : Flags) (c : Char) :
    Follows (readFlagsOff steps off c) (readFlagsOff steps off c) Eq := by
  induction steps generalizing off c with
  | zero => exact follows_pure rfl
  | succ steps ih =>
    intro r s hb
    unfold readFlagsOff
    cases flagOf? c with
    | none => exact .failBack
    | some flag =>
      refine .ite Iff.rfl (fun _ ↦ .failBack_bind) fun _ ↦ ?_
      refine .bind (follows_take r s hb) fun a b hab r s hb ↦ ?_
      rcases hab with rfl | ⟨rfl, -⟩
      · split
        · exact .failBack
        · refine .ite Iff.rfl (fun _ ↦ .pure rfl hb) fun _ ↦ ?_
          exact .ite Iff.rfl (fun _ ↦ ih _ _ r s hb) fun _ ↦ .failBack
        · exact .failBack
      · exact .failBack

private theorem follows_readFlagsBehindMinus :
    Follows readFlagsBehindMinus readFlagsBehindMinus Eq := by
  intro r s hb
  refine .bind (follows_take r s hb) fun a b hab r s hb ↦ ?_
  rcases hab with rfl | ⟨rfl, -⟩
  · split
    · exact .failBack
    · refine .ite Iff.rfl (fun _ ↦ .get ?_) fun _ ↦ .failBack
      rw [hb.rest.length_eq]
      exact follows_readFlagsOff _ _ _ r s hb
    · exact .failBack
  · exact .failBack

private theorem follows_modify {f : Reader → Reader} (h : ∀ r s, Beside r s → Beside (f r) (f s)) :
    Follows (modify f) (modify f) fun _ _ ↦ True := by
  rintro r s hb _ _ ⟨⟩
  exact ⟨(), f s, rfl, trivial, h r s hb⟩

private theorem follows_readFlags (c : Char) : Follows (readFlags c) (readFlags c) Eq := by
  intro r s hb
  refine .get (.iteBind Iff.rfl (fun _ ↦ .pure rfl hb) (fun _ ↦ ?_) ?_)
  · rw [hb.rest.length_eq]
    exact follows_readFlagsOn _ _ _ r s hb
  rintro p _ rfl r s hb
  refine .ite Iff.rfl (fun _ ↦ ?_) fun _ ↦ .refuse Iff.rfl ?_
  · refine .bind (follows_modify (fun r s hb ↦ ?_) r s hb) fun _ _ _ ↦ follows_pure rfl
    exact { hb with flags := congrArg (Flags.union · p.1) hb.flags }
  refine .iteBind Iff.rfl (fun _ ↦ follows_readFlagsBehindMinus r s hb) (fun _ ↦ .pure rfl hb) ?_
  rintro off _ rfl r s hb
  exact .refuse Iff.rfl (.refuse Iff.rfl (.pure rfl hb))

/-! ### Items -/

private theorem run_readEscape_of_isLoneEscape {c : Char} (hc : isLoneEscape c = true) :
    (∃ n, NodeAlike n n ∧ ∀ r, (readEscape c).run r = .ok (n, r)) ∨
      ∀ r a r', (readEscape c).run r ≠ .ok (a, r') := by
  simp only [isLoneEscape, Bool.and_eq_true, Bool.not_eq_true', List.contains_eq_mem,
    decide_eq_false_iff_not, List.mem_cons, List.not_mem_nil, not_or, or_false] at hc
  obtain ⟨hdecimal, hx, hu, hU, hN⟩ := hc
  have hcode : readCodeEscape? c = pure none := by
    simp only [readCodeEscape?, hx, hu, hU, hN, if_false]
  have hzero : c ≠ '0' := by
    rintro rfl
    cases hdecimal
  unfold readEscape
  rw [hcode, pure_bind]
  cases placeEscapes.lookup c with
  | some place => exact .inl ⟨.anchor place, .of_isLeaf (fun _ _ ↦ rfl) rfl, fun _ ↦ rfl⟩
  | none =>
    cases classEscapes.lookup c with
    | some member =>
      exact .inl ⟨.oneOf false [member], .of_isLeaf (fun _ _ ↦ rfl) rfl, fun _ ↦ rfl⟩
    | none =>
      cases controlEscapes.lookup c with
      | some n => exact .inl ⟨.code n, .of_isLeaf (fun _ _ ↦ rfl) rfl, fun _ ↦ rfl⟩
      | none =>
        simp only [hzero, hdecimal, if_false, Bool.false_eq_true]
        cases isAsciiLetter c with
        | true =>
          right
          rintro r a r' ⟨⟩
        | false =>
          exact .inl ⟨.code c.toNat, .of_isLeaf (fun _ _ ↦ rfl) rfl, fun _ ↦ rfl⟩

private theorem follows_readEscape {c : Char} (hc : isLoneEscape c = true) :
    Follows (readEscape c) (readEscape c) NodeAlike := by
  intro r s hb a r' hrun
  rcases run_readEscape_of_isLoneEscape hc with ⟨n, hn, hr⟩ | hfail
  · rw [hr r] at hrun
    cases hrun
    exact ⟨a, s, hr s, hn, hb⟩
  · exact absurd hrun (hfail r a r')

private theorem follows_readStyle : Follows readStyle readStyle Eq := by
  intro r s hb
  refine .bind (follows_accept (by decide) r s hb) ?_
  rintro a _ rfl r s hb
  refine .ite Iff.rfl (fun _ ↦ .pure rfl hb) fun _ ↦ ?_
  refine .bind (follows_accept (by decide) r s hb) ?_
  rintro a _ rfl r s hb
  exact .ite Iff.rfl (fun _ ↦ .pure rfl hb) fun _ ↦ .pure rfl hb

private theorem follows_readQuantifier {c : Char} (hq : isQuantifier c = true) (hc : c ≠ '\x7b') :
    Follows (readQuantifier c) (readQuantifier c) Eq := by
  intro r s hb
  refine .ite Iff.rfl (fun _ ↦ .pure rfl hb) fun hmark ↦ ?_
  refine .ite Iff.rfl (fun _ ↦ .pure rfl hb) fun hstar ↦ ?_
  refine .ite Iff.rfl (fun _ ↦ .pure rfl hb) fun hplus ↦ ?_
  simp [isQuantifier, hmark, hstar, hplus, hc] at hq

private theorem follows_readRepetition {c : Char} (hq : isQuantifier c = true) (hc : c ≠ '\x7b')
    (start : Nat) {items items' : List Node} (hi : ItemsAlike items items') :
    Follows (readRepetition c start items) (readRepetition c start items') ItemsAlike := by
  intro r s hb
  refine .bind (follows_readQuantifier hq hc r s hb) ?_
  rintro counts _ rfl r s hb
  cases counts with
  | none => exact .pure (.cons ⟨rfl, rfl, fun _ _ _ _ ↦ rfl⟩ hi) hb
  | some counts =>
    cases hi with
    | nil => exact .failAt
    | cons hn hi =>
      refine .ite (by rw [hn.isAnchor]) (fun _ ↦ .failAt_bind) fun _ ↦ ?_
      refine .ite (by rw [hn.isRepeated]) (fun _ ↦ .failAt_bind) fun _ ↦ ?_
      refine .bind (follows_readStyle r s hb) ?_
      rintro style _ rfl
      exact follows_pure (.cons (.repeated _ _ _ hn.body) hi)

private theorem readItem_of_isInert (verbose : Bool) {c : Char} (hc : isInert c = true)
    (start : Nat) (items : List Node) :
    readItem verbose [c] start items = pure (.code c.toNat :: items) := by
  simp only [isInert, isPlain, Bool.and_eq_true, Bool.not_eq_true', List.contains_eq_mem,
    decide_eq_false_iff_not, List.mem_cons, List.not_mem_nil, not_or, or_false, bne_iff_ne] at hc
  obtain ⟨⟨hplain, hlayout⟩, hhash⟩ := hc
  simp [readItem, hlayout, hhash, hplain, isQuantifier]

private theorem follows_readItem (verbose : Bool) (start : Nat) {token token' : List Char}
    (ht : ItemAlike token token') {items items' : List Node} (hi : ItemsAlike items items') :
    Follows (readItem verbose token start items) (readItem verbose token' start items')
      ItemsAlike := by
  intro r s hb
  cases ht with
  | escaped hc =>
    exact .bind (follows_readEscape hc r s hb) fun _ _ hn ↦ follows_pure (.cons hn hi)
  | @same c hc =>
    have hset : c ≠ '[' := by rintro rfl; cases hc
    have hbrace : c ≠ '\x7b' := by rintro rfl; cases hc
    refine .ite Iff.rfl (fun _ ↦ .pure hi hb) fun _ ↦ .ite Iff.rfl (fun _ ↦ ?_) fun _ ↦ ?_
    · refine .get ?_
      rw [hb.rest.length_eq]
      exact .bind (follows_skipLine _ r s hb) fun _ _ _ ↦ follows_pure hi
    refine .ite Iff.rfl (fun h ↦ absurd h hset) fun _ ↦ ?_
    refine .ite Iff.rfl (fun _ ↦ ?_) fun _ ↦ .ite Iff.rfl (fun _ ↦ ?_) fun _ ↦
      .ite Iff.rfl (fun _ ↦ ?_) fun _ ↦ .ite Iff.rfl (fun hq ↦ ?_) fun _ ↦ ?_
    · exact .pure (.cons (.of_isLeaf (fun _ _ ↦ rfl) rfl) hi) hb
    · exact .pure (.cons (.of_isLeaf (fun _ _ ↦ rfl) rfl) hi) hb
    · exact .pure (.cons (.of_isLeaf (fun _ _ ↦ rfl) rfl) hi) hb
    · exact follows_readRepetition hq hbrace start hi r s hb
    · exact .pure (.cons (.code _ _) hi) hb
  | zero hd =>
    rw [readItem_of_isInert verbose (by decide), readItem_of_isInert verbose hd]
    exact .pure (.cons (.code _ _) hi) hb

/-! ### Groups -/

/-- What two parentheses are read as. -/
inductive ParenthesizedAlike : Parenthesized → Parenthesized → Prop
  | node {a b : Node} (h : NodeAlike a b) : ParenthesizedAlike (.node a) (.node b)
  | skipped (verbose : Bool) : ParenthesizedAlike (.skipped verbose) (.skipped verbose)

private theorem follows_closeParenthesis (start : Nat) :
    Follows (closeParenthesis start) (closeParenthesis start) fun _ _ ↦ True := by
  intro r s hb
  refine .bind (follows_accept (by decide) r s hb) ?_
  rintro a _ rfl r s hb
  exact .ite Iff.rfl (fun _ ↦ .failAt) fun _ ↦ .pure trivial hb

/-- Both readers enter the group or neither does, as they have the same room. -/
private theorem follows_inGroup {α : Type} {x y : ReadM α} {Q : α → α → Prop}
    (h : Follows x y Q) : Follows (inGroup x) (inGroup y) Q := by
  intro r s hb
  refine .get ?_
  rw [hb.room]
  refine .ite Iff.rfl (fun _ ↦ ?_) fun _ ↦ ?_
  · rintro _ _ ⟨⟩
  have hroom : ∀ room, Follows (modify fun r ↦ { r with room := room } : ReadM PUnit)
      (modify fun r ↦ { r with room := room }) fun _ _ ↦ True :=
    fun _ ↦ follows_modify fun _ _ hb ↦ { hb with room := rfl }
  refine .bind (hroom _ r s hb) fun _ _ _ r s hb ↦ ?_
  refine .bind (h r s hb) fun _ _ hab r s hb ↦ ?_
  exact .bind (hroom _ r s hb) fun _ _ _ ↦ follows_pure hab

private theorem follows_openGroup : Follows (openGroup none) (openGroup none) Eq := by
  rintro r s hb _ _ ⟨⟩
  refine ⟨s.widths.length, _, rfl, hb.widths.symm, ?_⟩
  exact { hb with widths := by simp [hb.widths] }

private theorem follows_closeGroup (number : Nat) (xs ys : List Node) :
    Follows (closeGroup number xs) (closeGroup number ys) fun _ _ ↦ True := by
  rintro r s hb _ _ ⟨⟩
  exact ⟨(), _, rfl, trivial, { hb with widths := by simp [hb.widths] }⟩

/-- The functions that read expressions, with so many steps. -/
structure ReadsInStep (steps : Nat) : Prop where
  alternatives : ∀ isWhole verbose, Follows (readAlternatives steps isWhole verbose)
    (readAlternatives steps isWhole verbose) ChecksAlike
  branches : ∀ isWhole isFirst verbose, Follows (readBranches steps isWhole isFirst verbose)
    (readBranches steps isWhole isFirst verbose) (List.Forall₂ ChecksAlike)
  sequence : ∀ isFirst verbose items items', ItemsAlike items items' →
    Follows (readSequence steps isFirst verbose items) (readSequence steps isFirst verbose items')
      ChecksAlike
  parenthesized : ∀ start flagsAllowed verbose r s, Beside r s → OpensUnnamed r.rest →
    FollowsAt (readParenthesized steps start flagsAllowed verbose)
      (readParenthesized steps start flagsAllowed verbose) ParenthesizedAlike r s
  group : ∀ start verbose, Follows (readGroup steps start none verbose)
    (readGroup steps start none verbose) NodeAlike
  bracketed : ∀ start on off verbose, Follows (readBracketed steps start on off verbose)
    (readBracketed steps start on off verbose) NodeAlike
  look : ∀ start negated verbose, Follows (readLook steps start false negated verbose)
    (readLook steps start false negated verbose) ParenthesizedAlike

private theorem rest_eq_cons {text : List Char} {c : Char} (hc : c ≠ '\\')
    (h : tokenOf text = [c]) : ∃ tail, text = c :: tail := by
  unfold tokenOf at h
  split at h
  · cases h
  · cases h
  · exact ⟨_, by rw [(List.cons.inj h).1]⟩

section

variable {steps : Nat} (h : ReadsInStep steps)

include h

private theorem follows_readAlternatives (isWhole verbose : Bool) :
    Follows (readAlternatives (steps + 1) isWhole verbose)
      (readAlternatives (steps + 1) isWhole verbose) ChecksAlike := by
  intro r s hb
  rw [readAlternatives]
  refine .bind (h.branches _ _ _ r s hb) fun bs cs hbs ↦ ?_
  exact follows_pure (.choose hbs)

private theorem follows_readBranches (isWhole isFirst verbose : Bool) :
    Follows (readBranches (steps + 1) isWhole isFirst verbose)
      (readBranches (steps + 1) isWhole isFirst verbose) (List.Forall₂ ChecksAlike) := by
  intro r s hb
  rw [readBranches]
  refine .bind (h.sequence _ _ _ _ .nil r s hb) fun xs ys hxy r s hb ↦ ?_
  refine .bind (follows_accept (by decide) r s hb) ?_
  rintro a _ rfl r s hb
  refine .ite Iff.rfl (fun _ ↦ .get ?_) fun _ ↦ .pure (.cons hxy .nil) hb
  rw [hb.flags]
  exact .bind (h.branches _ _ _ r s hb) fun bs cs hbs ↦ follows_pure (.cons hxy hbs)

private theorem follows_readGroup (start : Nat) (verbose : Bool) :
    Follows (readGroup (steps + 1) start none verbose)
      (readGroup (steps + 1) start none verbose) NodeAlike := by
  intro r s hb
  rw [readGroup]
  refine .bind (follows_openGroup r s hb) ?_
  rintro number _ rfl r s hb
  refine .bind (follows_inGroup (h.alternatives _ _) r s hb) fun xs ys hxy r s hb ↦ ?_
  refine .bind (follows_closeParenthesis _ r s hb) fun _ _ _ r s hb ↦ ?_
  refine .bind (follows_closeGroup _ _ _ r s hb) fun _ _ _ ↦ ?_
  exact follows_pure (.group _ _ _ hxy)

private theorem follows_readBracketed (start : Nat) (on off : Flags) (verbose : Bool) :
    Follows (readBracketed (steps + 1) start on off verbose)
      (readBracketed (steps + 1) start on off verbose) NodeAlike := by
  intro r s hb
  rw [readBracketed]
  refine .bind (follows_inGroup (h.alternatives _ _) r s hb) fun xs ys hxy r s hb ↦ ?_
  refine .bind (follows_closeParenthesis _ r s hb) fun _ _ _ ↦ ?_
  exact follows_pure (.group _ _ _ hxy)

private theorem follows_readLook (start : Nat) (negated verbose : Bool) :
    Follows (readLook (steps + 1) start false negated verbose)
      (readLook (steps + 1) start false negated verbose) ParenthesizedAlike := by
  intro r s hb
  rw [readLook]
  refine .bind (follows_inGroup (h.alternatives _ _) r s hb) fun xs ys hxy r s hb ↦ ?_
  refine .bind (follows_closeParenthesis _ r s hb) fun _ _ _ ↦ ?_
  exact follows_pure (.node (.look _ hxy))

private theorem followsAt_readParenthesized (start : Nat) (flagsAllowed verbose : Bool)
    {r s : Reader} (hb : Beside r s) (ho : OpensUnnamed r.rest) :
    FollowsAt (readParenthesized (steps + 1) start flagsAllowed verbose)
      (readParenthesized (steps + 1) start flagsAllowed verbose) ParenthesizedAlike r s := by
  rw [readParenthesized]
  refine .accept (by decide) hb (fun hmark hb ↦ .take hb ?_) fun _ ↦ ?_
  · obtain ⟨rest, hrest⟩ := rest_eq_cons (by decide) hmark
    have hnext : (r.skip 1).rest = rest := by rw [Reader.rest_skip, hrest]; rfl
    have hne : ∀ c, c ≠ '\\' → ¬ ['?', c] <+: r.rest → tokenOf (r.skip 1).rest ≠ [c] := by
      intro c hc hnot ht
      obtain ⟨tail, htail⟩ := rest_eq_cons hc ht
      exact hnot ⟨tail, by rw [hrest, ← hnext, htail]; rfl⟩
    have hname := hne 'P' (by decide) ho.1
    have hcondition := hne '(' (by decide) ho.2.1
    have hbehind := hne '<' (by decide) ho.2.2
    have hskip := hb.skip
    rcases hb.rest.token with he | ⟨he, d, -, -⟩
    · rw [← he]
      split
      · exact .failBack
      · next ht => exact absurd ht hname
      · exact .bind (h.bracketed _ _ _ _ _ _ hskip) fun a b hab ↦ follows_pure (.node hab)
      · refine .get ?_
        rw [hskip.rest.length_eq]
        exact .bind (follows_skipComment _ _ _ _ _ hskip) fun _ _ _ ↦ follows_pure (.skipped _)
      · exact h.look _ _ _ _ _ hskip
      · exact h.look _ _ _ _ _ hskip
      · next ht => exact absurd ht hbehind
      · next ht => exact absurd ht hcondition
      · refine .bind (follows_inGroup (h.alternatives _ _) _ _ hskip) fun xs ys hxy r s hb ↦ ?_
        refine .bind (follows_closeParenthesis _ r s hb) fun _ _ _ ↦ ?_
        exact follows_pure (.node (.atomic hxy))
      · dsimp only
        split
        · exact .failBack
        refine .bind (follows_readFlags _ _ _ hskip) ?_
        rintro flags _ rfl r s hb
        cases flags with
        | none =>
          refine .ite Iff.rfl (fun _ ↦ .failAt_bind) fun _ ↦ .get ?_
          rw [hb.flags]
          exact .pure (.skipped _) hb
        | some flags =>
          exact .bind (h.bracketed _ _ _ _ r s hb) fun a b hab ↦ follows_pure (.node hab)
    · -- a zero begins no extension
      rw [he]
      exact .failBack
  · exact .bind (h.group _ _ r s hb) fun a b hab ↦ follows_pure (.node hab)

private theorem follows_readSequence (isFirst verbose : Bool) {items items' : List Node}
    (hi : ItemsAlike items items') :
    Follows (readSequence (steps + 1) isFirst verbose items)
      (readSequence (steps + 1) isFirst verbose items') ChecksAlike := by
  intro r s hb
  rw [readSequence, readSequence]
  have hend := hb.rest.token.eq_iff [] (by simp)
  have hbar := tokenOf_eq_iff hb (c := '|') (by decide)
  have hclose := tokenOf_eq_iff hb (c := ')') (by decide)
  refine .peek (.ite (by simp only [Bool.or_eq_true, decide_eq_true_eq, hend, hbar, hclose])
    (fun _ ↦ .pure (.spliceGroups (List.forall₂_reverse_iff.mpr hi)) hb) fun hgo ↦ ?_)
  refine .position (.take hb ?_)
  rw [hb.position]
  have hempty : items'.isEmpty = items.isEmpty := by cases hi <;> rfl
  rcases hb.rest.token_cases with hnil | ⟨hopen, ho⟩ | ⟨hopen, hitem⟩
  · simp [hnil] at hgo
  · have hskip := hb.skip
    rw [if_pos hopen, if_pos ((tokenOf_eq_iff hb (by decide)).mpr hopen), hempty]
    rw [hopen] at hskip ⊢
    refine .bind (h.parenthesized _ _ _ _ _ hskip ho) fun a b hab ↦ ?_
    cases hab with
    | node hn => exact h.sequence _ _ _ _ (.cons hn hi)
    | skipped verbose => exact h.sequence _ _ _ _ hi
  · rw [if_neg hopen, if_neg fun he ↦ hopen ((tokenOf_eq_iff hb (by decide)).mp he)]
    refine .bind (follows_readItem _ _ hitem hi _ _ hb.skip) fun _ _ hi ↦ ?_
    exact h.sequence _ _ _ _ hi

end

private theorem readsInStep (steps : Nat) : ReadsInStep steps := by
  induction steps with
  | zero =>
    exact ⟨fun _ _ ↦ follows_pure fun _ _ _ _ ↦ rfl, fun _ _ _ ↦ follows_pure .nil,
      fun _ _ _ _ _ ↦ follows_pure fun _ _ _ _ ↦ rfl, fun _ _ _ _ _ hb _ ↦ .pure (.skipped _) hb,
      fun _ _ ↦ follows_pure (.of_isLeaf (fun _ _ ↦ rfl) rfl),
      fun _ _ _ _ ↦ follows_pure (.of_isLeaf (fun _ _ ↦ rfl) rfl),
      fun _ _ _ ↦ follows_pure (.skipped _)⟩
  | succ steps ih =>
    exact ⟨follows_readAlternatives ih, follows_readBranches ih,
      fun _ _ _ _ hi ↦ follows_readSequence ih _ _ hi,
      fun _ _ _ _ _ hb ho ↦ followsAt_readParenthesized ih _ _ _ hb ho, follows_readGroup ih,
      follows_readBracketed ih, follows_readLook ih⟩

/-! ### Expressions -/

/-- What two readers side by side have read. -/
theorem Beside.finish {r s : Reader} (hb : Beside r s) {xs : List Node} (ys : List Node)
    {e : Expression} (he : r.finish xs = .ok e) :
    e.nodes = xs ∧ ∃ e', s.finish ys = .ok e' ∧ e'.flags = e.flags ∧ e'.nodes = ys := by
  have hrest : s.rest.isEmpty = r.rest.isEmpty := hb.rest.isEmpty_eq
  have hmissing : s.missing? = none := by rw [Reader.missing?, hb.mentions, hb.noMentions]; rfl
  have hmissing' : r.missing? = none := by rw [Reader.missing?, hb.noMentions]; rfl
  unfold Reader.finish at he ⊢
  rw [hb.flags, hrest, hmissing]
  rw [hmissing'] at he
  cases hf : r.flags.ascii && r.flags.unicode with
  | true =>
    rw [hf] at he
    cases he
  | false =>
    cases hr : r.rest.isEmpty with
    | false =>
      rw [hf, hr] at he
      cases he
    | true =>
      rw [hf, hr] at he
      cases he
      exact ⟨rfl, _, rfl, rfl, rfl⟩

/-- If an expression compiles, so does one that is read alike. -/
theorem exists_compile_of_readAlike [Platform] {s t : List Char} (h : ReadAlike s t) {flags : Flags}
    (hs : ∃ p, Pattern.compile flags s = .ok p) : ∃ q, Pattern.compile flags t = .ok q := by
  obtain ⟨p, hp⟩ := hs
  obtain ⟨e, he, hp⟩ := bind_eq_ok_iff.mp hp
  obtain ⟨_, hcheck, -⟩ := bind_eq_ok_iff.mp hp
  obtain ⟨_, -, he⟩ := bind_eq_ok_iff.mp he
  obtain ⟨⟨xs, r⟩, hread, he⟩ := bind_eq_ok_iff.mp he
  have hstart : Beside (Reader.start flags s) (Reader.start flags t) :=
    ⟨h, rfl, rfl, rfl, rfl, rfl, congrArg Platform.groupLevels h.outline_eq⟩
  obtain ⟨ys, r', hread', hxy, hb⟩ :=
    (readsInStep (6 * s.length + 6)).alternatives true flags.verbose _ _ hstart xs r hread
  obtain ⟨hnodes, e', he', hflags, hnodes'⟩ := hb.finish ys he
  have hlone : refuseLoneEscape t 0 = .ok () := if_neg h.ne_lone.2
  have hexpr : readExpression flags t = .ok e' := by
    unfold readExpression
    rw [hlone, ok_bind, h.length_eq]
    simp only [hread', ok_bind]
    exact he'
  have hcheck' : sequenceCheck e'.groups e'.flags e'.nodes = .ok () := by
    rw [hflags, hnodes']
    exact hxy e.groups _ _ (hnodes ▸ hcheck)
  refine ⟨⟨t, e'.nodes, e'.flags, e'.groups⟩, ?_⟩
  unfold Pattern.compile
  rw [hexpr, ok_bind, hcheck']
  rfl

end VulnScanner.Regex
