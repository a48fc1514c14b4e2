import VulnScanner.Proofs.Steps
import VulnScanner.Regex.Pattern

/-!
# Dots and line breaks

Whether dots match line breaks matters to matching alone: an expression is read and checked in the
same way, with the same nodes or the same fault, with the setting and without it.
-/

namespace VulnScanner.Regex

/-- The settings with dots that match line breaks. -/
def Flags.dotted (f : Flags) : Flags := { f with dotAll := true }

/-- The reader with dots that match line breaks. -/
def Reader.dotted (r : Reader) : Reader := { r with flags := r.flags.dotted }

/-- The first step does with dots that match line breaks what the second does without. -/
def Mirrors {α : Type} (dotted plain : ReadM α) : Prop :=
  ∀ r, dotted.run r.dotted = (plain.run r).map fun (a, s) ↦ (a, s.dotted)

/-- A step that does the same whether or not dots match line breaks. -/
def IgnoresDots {α : Type} (step : ReadM α) : Prop := Mirrors step step

/-! ### Steps put together -/

namespace Mirrors

variable {α β : Type} {x x' y y' : ReadM α}

/-- A result without a step. -/
theorem pure (a : α) : Mirrors (Pure.pure a) (Pure.pure a) := fun _ ↦ rfl

/-- One step after the other. -/
theorem bind {f g : α → ReadM β} (h : Mirrors x x') (hn : ∀ a, Mirrors (f a) (g a)) :
    Mirrors (x >>= f) (x' >>= g) := by
  intro r
  rw [StateT.run_bind, StateT.run_bind, h r]
  cases x'.run r with
  | error e => rfl
  | ok p => exact hn p.1 p.2

/-- A step that depends on the reader. -/
theorem get {f g : Reader → ReadM β} (h : ∀ r, Mirrors (f r.dotted) (g r)) :
    Mirrors (MonadState.get >>= f) (MonadState.get >>= g) := fun r ↦ h r r

/-- A step that depends on the reader but not on its settings. -/
theorem read {f g : Reader → ReadM β} (h : ∀ r, f r.dotted = g r) (hn : ∀ r, IgnoresDots (g r)) :
    Mirrors (MonadState.get >>= f) (MonadState.get >>= g) :=
  .get fun r ↦ h r ▸ hn r

/-- Putting a reader in place. -/
theorem set {r s : Reader} (h : s = r.dotted) :
    Mirrors (MonadStateOf.set s : ReadM PUnit) (MonadStateOf.set r) := by
  subst h
  exact fun _ ↦ rfl

/-- A change of the reader. -/
theorem modify {f g : Reader → Reader} (h : ∀ r, f r.dotted = (g r).dotted) :
    Mirrors (modifyGet fun r ↦ ((), f r)) (modifyGet fun r ↦ ((), g r)) := by
  intro r
  show Except.ok ((), f r.dotted) = _
  rw [h r]
  rfl

/-- A decision. -/
theorem ite {c : Prop} [Decidable c] (hx : Mirrors x x') (hy : Mirrors y y') :
    Mirrors (if c then x else y) (if c then x' else y') := by
  split
  · exact hx
  · exact hy

/-- A decision before another step. -/
theorem iteBind {c : Prop} [Decidable c] {f g : α → ReadM β} (hx : Mirrors x x')
    (hy : Mirrors y y') (hn : ∀ a, Mirrors (f a) (g a)) :
    Mirrors (if c then x >>= f else y >>= f) (if c then x' >>= g else y' >>= g) :=
  .ite (.bind hx hn) (.bind hy hn)

/-- A fault under a condition. -/
theorem refuse {c : Prop} [Decidable c] {fault fault' : ReadM PUnit} {f g : PUnit → ReadM α}
    (hf : Mirrors fault fault') (hn : Mirrors (f ()) (g ())) :
    Mirrors (if c then fault >>= f else f ()) (if c then fault' >>= g else g ()) :=
  .ite (.bind hf fun _ ↦ hn) hn

end Mirrors

/-! ### Tokens -/

private theorem ignoresDots_peek : IgnoresDots peek := fun _ ↦ rfl

private theorem ignoresDots_position : IgnoresDots position := fun _ ↦ rfl

private theorem ignoresDots_failAt {α : Type} (fault : Fault) (place : Nat) :
    IgnoresDots (failAt fault place : ReadM α) := fun _ ↦ rfl

private theorem ignoresDots_failBack {α : Type} (fault : Fault) (back : Nat) :
    IgnoresDots (failBack fault back : ReadM α) := fun _ ↦ rfl

private theorem ignoresDots_take : IgnoresDots take := by
  intro r
  simp only [take, StateT.run_bind, StateT.run_get, pure_bind, refuseLoneEscape, Reader.dotted]
  split <;> rfl

private theorem ignoresDots_accept (c : Char) : IgnoresDots (accept c) := by
  refine .bind ignoresDots_peek fun token ↦ .ite ?_ (.pure _)
  exact .bind ignoresDots_take fun _ ↦ .pure _

private theorem ignoresDots_takeWhile (isMember : Char → Bool) (count : Nat) :
    IgnoresDots (takeWhile isMember count) := by
  induction count with
  | zero => exact .pure _
  | succ count ih =>
    refine .bind ignoresDots_peek fun token ↦ ?_
    split
    · exact .ite (.bind ignoresDots_take fun _ ↦ .bind ih fun _ ↦ .pure _) (.pure _)
    · exact .pure _

private theorem ignoresDots_takeAll (isMember : Char → Bool) : IgnoresDots (takeAll isMember) :=
  .get fun _ ↦ ignoresDots_takeWhile _ _

private theorem ignoresDots_takeUntil (terminator : Char) (what : String) (steps : Nat)
    (read : List Char) : IgnoresDots (takeUntil terminator what steps read) := by
  induction steps generalizing read with
  | zero => exact .pure _
  | succ steps ih =>
    refine .bind ignoresDots_take fun token ↦ ?_
    split
    · exact .ite (ignoresDots_failBack _ _) (ignoresDots_failBack _ _)
    · exact .ite (.ite (ignoresDots_failBack _ _) (.pure _)) (ih _)

private theorem ignoresDots_takeName (terminator : Char) (what : String) :
    IgnoresDots (takeName terminator what) :=
  .get fun _ ↦ ignoresDots_takeUntil _ _ _ _

/-! ### Escapes and sets -/

private theorem ignoresDots_readHexEscape (letter : Char) (width : Nat) :
    IgnoresDots (readHexEscape letter width) := by
  refine .bind (ignoresDots_takeWhile _ _) fun digits ↦ ?_
  exact .refuse (ignoresDots_failBack _ _) (.refuse (ignoresDots_failBack _ _) (.pure _))

private theorem ignoresDots_readNamedEscape : IgnoresDots readNamedEscape := by
  refine .bind (ignoresDots_accept _) fun _ ↦ .refuse (ignoresDots_failBack _ _) ?_
  refine .bind (ignoresDots_takeName _ _) fun name ↦ .read (fun _ ↦ rfl) fun r ↦ ?_
  split
  · exact .pure _
  · exact ignoresDots_failBack _ _

private theorem ignoresDots_readCodeEscape? (c : Char) : IgnoresDots (readCodeEscape? c) := by
  unfold readCodeEscape?
  refine .ite (.bind (ignoresDots_readHexEscape _ _) fun _ ↦ .pure _) ?_
  refine .ite (.bind (ignoresDots_readHexEscape _ _) fun _ ↦ .pure _) ?_
  refine .ite (.bind (ignoresDots_readHexEscape _ _) fun _ ↦ .pure _) ?_
  exact .ite (.bind ignoresDots_readNamedEscape fun _ ↦ .pure _) (.pure _)

private theorem ignoresDots_octalCode (digits : List Char) : IgnoresDots (octalCode digits) := by
  unfold octalCode
  exact .refuse (ignoresDots_failBack _ _) (.pure _)

private theorem ignoresDots_readSetEscape (c : Char) : IgnoresDots (readSetEscape c) := by
  unfold readSetEscape
  split
  · exact .pure _
  split
  · exact .pure _
  refine .bind (ignoresDots_readCodeEscape? _) fun n ↦ ?_
  split
  · exact .pure _
  refine .ite (.bind (ignoresDots_takeWhile _ _) fun _ ↦ ?_) ?_
  · exact .bind (ignoresDots_octalCode _) fun _ ↦ .pure _
  · exact .refuse (ignoresDots_failBack _ _) (.pure _)

private theorem ignoresDots_checkBehind (number : Nat) : IgnoresDots (checkBehind number) := by
  refine .read (fun _ ↦ rfl) fun r ↦ ?_
  split
  · exact .refuse (ignoresDots_failBack _ _) (.refuse (ignoresDots_failBack _ _) (.pure _))
  · exact .pure _

private theorem ignoresDots_readReferenceDigits (c : Char) :
    IgnoresDots (readReferenceDigits c) := by
  refine .bind ignoresDots_peek fun token ↦ ?_
  split
  · exact .ite (.bind ignoresDots_take fun _ ↦ .pure _) (.pure _)
  · exact .pure _

private theorem ignoresDots_referTo (digits : List Char) : IgnoresDots (referTo digits) := by
  refine .get fun r ↦ .ite ?_ (ignoresDots_failBack _ _)
  refine .refuse (ignoresDots_failBack _ _) ?_
  exact .bind (ignoresDots_checkBehind _) fun _ ↦ .pure _

private theorem ignoresDots_readReference (c : Char) : IgnoresDots (readReference c) := by
  refine .bind (ignoresDots_readReferenceDigits _) fun digits ↦ ?_
  refine .ite (.bind ignoresDots_peek fun token ↦ ?_) (ignoresDots_referTo _)
  split
  · refine .ite (.bind ignoresDots_take fun _ ↦ ?_) (ignoresDots_referTo _)
    exact .bind (ignoresDots_octalCode _) fun _ ↦ .pure _
  · exact ignoresDots_referTo _

private theorem ignoresDots_readEscape (c : Char) : IgnoresDots (readEscape c) := by
  unfold readEscape
  split
  · exact .pure _
  split
  · exact .pure _
  split
  · exact .pure _
  refine .bind (ignoresDots_readCodeEscape? _) fun n ↦ ?_
  split
  · exact .pure _
  refine .ite (.bind (ignoresDots_takeWhile _ _) fun _ ↦ ?_) ?_
  · exact .bind (ignoresDots_octalCode _) fun _ ↦ .pure _
  · exact .ite (ignoresDots_readReference _) (.ite (ignoresDots_failBack _ _) (.pure _))

private theorem ignoresDots_readMember (token : List Char) : IgnoresDots (readMember token) := by
  unfold readMember
  split
  · exact ignoresDots_readSetEscape _
  · exact .pure _

private theorem ignoresDots_readMembers (start steps : Nat) (members : List Member) :
    IgnoresDots (readMembers start steps members) := by
  induction steps generalizing members with
  | zero => exact .pure _
  | succ steps ih =>
    refine .bind ignoresDots_take fun this ↦ .ite (ignoresDots_failAt _ _) (.ite (.pure _) ?_)
    refine .bind (ignoresDots_readMember _) fun low ↦ .bind (ignoresDots_accept _) fun _ ↦ ?_
    refine .ite (.bind ignoresDots_take fun that ↦ ?_) (ih _)
    refine .ite (ignoresDots_failAt _ _) (.ite (.pure _) ?_)
    refine .bind (ignoresDots_readMember _) fun high ↦ ?_
    dsimp only
    split
    · exact .ite (ignoresDots_failBack _ _) (ih _)
    · exact ignoresDots_failBack _ _

private theorem ignoresDots_readSet : IgnoresDots readSet := by
  refine .bind ignoresDots_position fun _ ↦ .bind (ignoresDots_accept _) fun _ ↦ .get fun _ ↦ ?_
  refine .bind (ignoresDots_readMembers _ _ _) fun _ ↦ ?_
  dsimp only
  split
  · exact .pure _
  · exact .pure _

/-! ### Settings and groups -/

private theorem ignoresDots_readFlagsOn (steps : Nat) (on : Flags) (c : Char) :
    IgnoresDots (readFlagsOn steps on c) := by
  induction steps generalizing on c with
  | zero => exact .pure _
  | succ steps ih =>
    unfold readFlagsOn
    split
    · exact ignoresDots_failBack _ _
    refine .refuse (ignoresDots_failBack _ _) (.bind ignoresDots_take fun token ↦ ?_)
    split
    · exact ignoresDots_failBack _ _
    · exact .ite (.pure _) (.ite (ih _ _) (ignoresDots_failBack _ _))
    · exact ignoresDots_failBack _ _

private theorem ignoresDots_readFlagsOff (steps : Nat) (off : Flags) (c : Char) :
    IgnoresDots (readFlagsOff steps off c) := by
  induction steps generalizing off c with
  | zero => exact .pure _
  | succ steps ih =>
    unfold readFlagsOff
    split
    · exact ignoresDots_failBack _ _
    refine .refuse (ignoresDots_failBack _ _) (.bind ignoresDots_take fun token ↦ ?_)
    split
    · exact ignoresDots_failBack _ _
    · exact .ite (.pure _) (.ite (ih _ _) (ignoresDots_failBack _ _))
    · exact ignoresDots_failBack _ _

private theorem ignoresDots_readFlagsBehindMinus : IgnoresDots readFlagsBehindMinus := by
  refine .bind ignoresDots_take fun token ↦ ?_
  split
  · exact ignoresDots_failBack _ _
  · exact .ite (.get fun _ ↦ ignoresDots_readFlagsOff _ _ _) (ignoresDots_failBack _ _)
  · exact ignoresDots_failBack _ _

private theorem ignoresDots_readFlags (c : Char) : IgnoresDots (readFlags c) := by
  refine .get fun r ↦ .iteBind (.pure _) (ignoresDots_readFlagsOn _ _ _) fun on ↦ .ite ?_ ?_
  · exact .bind (.modify fun _ ↦ rfl) fun _ ↦ .pure _
  · refine .refuse (ignoresDots_failBack _ _) ?_
    refine .iteBind ignoresDots_readFlagsBehindMinus (.pure _) fun off ↦ ?_
    exact .refuse (ignoresDots_failBack _ _) (.refuse (ignoresDots_failBack _ _) (.pure _))

private theorem ignoresDots_checkGroupName (name : List Char) :
    IgnoresDots (checkGroupName name) := by
  unfold checkGroupName
  exact .ite (ignoresDots_failBack _ _) (.pure _)

private theorem ignoresDots_groupNamed (name : List Char) : IgnoresDots (groupNamed name) := by
  refine .read (fun _ ↦ rfl) fun r ↦ ?_
  split
  · exact .pure _
  · exact ignoresDots_failBack _ _

private theorem ignoresDots_nameGroup (number : Nat) (name : List Char) :
    IgnoresDots (nameGroup number name) := by
  refine .read (fun _ ↦ rfl) fun r ↦ ?_
  dsimp only
  split
  · exact .bind (ignoresDots_failBack _ _) fun _ ↦ .modify fun _ ↦ rfl
  · exact .modify fun _ ↦ rfl

private theorem ignoresDots_openGroup (name : Option (List Char)) :
    IgnoresDots (openGroup name) := by
  refine .get fun r ↦ .bind (.set rfl) fun _ ↦ ?_
  cases name with
  | none => exact .pure _
  | some name => exact .bind (ignoresDots_nameGroup _ _) fun _ ↦ .pure _

private theorem ignoresDots_closeGroup (number : Nat) (body : List Node) :
    IgnoresDots (closeGroup number body) :=
  .modify fun _ ↦ rfl

private theorem ignoresDots_conditionNumber (name : List Char) :
    IgnoresDots (conditionNumber name) := by
  unfold conditionNumber
  extract_lets back
  refine .ite (ignoresDots_groupNamed _) ?_
  split
  · refine .refuse (ignoresDots_failBack _ _) (.refuse (ignoresDots_failBack _ _) ?_)
    refine .bind ignoresDots_position fun _ ↦ .bind (.modify fun r ↦ ?_) fun _ ↦ .pure _
    rw [apply_ite Reader.dotted]
    rfl
  · exact ignoresDots_failBack _ _

private theorem ignoresDots_readCondition : IgnoresDots readCondition :=
  .bind (ignoresDots_takeName _ _) fun _ ↦ .bind (ignoresDots_conditionNumber _) fun _ ↦
    .bind (ignoresDots_checkBehind _) fun _ ↦ .pure _

private theorem ignoresDots_readCount (digits : List Char) : IgnoresDots (readCount digits) := by
  unfold readCount
  exact .ite (.pure _) (.refuse (fun _ ↦ rfl) (.refuse (fun _ ↦ rfl) (.pure _)))

private theorem ignoresDots_readCounts : IgnoresDots readCounts := by
  refine .get fun start ↦ .bind ignoresDots_peek fun _ ↦ .ite (.pure _) ?_
  refine .bind (ignoresDots_takeAll _) fun low ↦ .bind (ignoresDots_accept _) fun _ ↦ ?_
  refine .iteBind (ignoresDots_takeAll _) (.pure _) fun high ↦ ?_
  refine .bind (ignoresDots_accept _) fun _ ↦ .ite (.bind (.set rfl) fun _ ↦ .pure _) ?_
  refine .bind (ignoresDots_readCount _) fun least ↦ .bind (ignoresDots_readCount _) fun most ↦ ?_
  dsimp only
  split
  · exact .ite (.bind (ignoresDots_failAt _ _) fun _ ↦ .pure _) (.pure _)
  · exact .pure _

private theorem ignoresDots_readQuantifier (c : Char) : IgnoresDots (readQuantifier c) := by
  unfold readQuantifier
  exact .ite (.pure _) (.ite (.pure _) (.ite (.pure _) ignoresDots_readCounts))

private theorem ignoresDots_readStyle : IgnoresDots readStyle :=
  .bind (ignoresDots_accept _) fun _ ↦ .ite (.pure _) <|
    .bind (ignoresDots_accept _) fun _ ↦ .ite (.pure _) (.pure _)

private theorem ignoresDots_readRepetition (c : Char) (start : Nat) (items : List Node) :
    IgnoresDots (readRepetition c start items) := by
  refine .bind (ignoresDots_readQuantifier _) fun counts ↦ ?_
  split
  · exact .pure _
  split
  · exact ignoresDots_failAt _ _
  refine .refuse (ignoresDots_failAt _ _) (.refuse (ignoresDots_failAt _ _) ?_)
  exact .bind ignoresDots_readStyle fun _ ↦ .pure _

private theorem ignoresDots_skipLine (steps : Nat) : IgnoresDots (skipLine steps) := by
  induction steps with
  | zero => exact .pure _
  | succ steps ih => exact .bind ignoresDots_take fun _ ↦ .ite (.pure _) ih

private theorem ignoresDots_skipComment (start steps : Nat) :
    IgnoresDots (skipComment start steps) := by
  induction steps with
  | zero => exact .pure _
  | succ steps ih =>
    refine .bind ignoresDots_peek fun _ ↦ .refuse (ignoresDots_failAt _ _) ?_
    exact .bind ignoresDots_take fun _ ↦ .ite (.pure _) ih

private theorem ignoresDots_readItem (verbose : Bool) (token : List Char) (start : Nat)
    (items : List Node) : IgnoresDots (readItem verbose token start items) := by
  unfold readItem
  split
  · exact .bind (ignoresDots_readEscape _) fun _ ↦ .pure _
  · refine .ite (.pure _) (.ite ?_ (.ite ?_ (.ite (.pure _) (.ite (.pure _) (.ite (.pure _) ?_)))))
    · exact .get fun _ ↦ .bind (ignoresDots_skipLine _) fun _ ↦ .pure _
    · exact .bind ignoresDots_readSet fun _ ↦ .pure _
    · exact .ite (ignoresDots_readRepetition _ _ _) (.pure _)
  · exact .pure _

private theorem ignoresDots_closeParenthesis (start : Nat) :
    IgnoresDots (closeParenthesis start) := by
  refine .bind (ignoresDots_accept _) fun _ ↦ ?_
  exact .ite (ignoresDots_failAt _ _) (.pure _)

private theorem ignoresDots_inLookBehind {α : Type} {step : ReadM α} (h : IgnoresDots step) :
    IgnoresDots (inLookBehind step) := by
  refine .get fun r ↦ .refuse (.modify fun _ ↦ rfl) (.bind h fun result ↦ ?_)
  exact .refuse (.modify fun _ ↦ rfl) (.pure _)

private theorem ignoresDots_inGroup {α : Type} {step : ReadM α} (h : IgnoresDots step) :
    IgnoresDots (inGroup step) := by
  refine .get fun r ↦ .refuse (fun _ ↦ rfl) (.bind (.modify fun _ ↦ rfl) fun _ ↦ ?_)
  exact .bind h fun _ ↦ .bind (.modify fun _ ↦ rfl) fun _ ↦ .pure _

/-! ### Expressions -/

/-- The functions that read expressions, with so many steps. -/
structure ReadsIgnoringDots (steps : Nat) : Prop where
  alternatives : ∀ isWhole verbose, IgnoresDots (readAlternatives steps isWhole verbose)
  branches : ∀ isWhole isFirst verbose, IgnoresDots (readBranches steps isWhole isFirst verbose)
  sequence : ∀ isFirst verbose items, IgnoresDots (readSequence steps isFirst verbose items)
  parenthesized : ∀ start flagsAllowed verbose,
    IgnoresDots (readParenthesized steps start flagsAllowed verbose)
  group : ∀ start name verbose, IgnoresDots (readGroup steps start name verbose)
  bracketed : ∀ start on off verbose, IgnoresDots (readBracketed steps start on off verbose)
  look : ∀ start behind negated verbose, IgnoresDots (readLook steps start behind negated verbose)
  conditional : ∀ start verbose, IgnoresDots (readConditional steps start verbose)

variable {steps : Nat} (h : ReadsIgnoringDots steps)

include h

private theorem ignoresDots_readBranches (isWhole isFirst verbose : Bool) :
    IgnoresDots (readBranches (steps + 1) isWhole isFirst verbose) := by
  rw [readBranches]
  refine .bind (h.sequence _ _ _) fun branch ↦ .bind (ignoresDots_accept _) fun _ ↦ .ite ?_ ?_
  · exact .get fun _ ↦ .bind (h.branches _ _ _) fun _ ↦ .pure _
  · exact .pure _

private theorem ignoresDots_readSequence (isFirst verbose : Bool) (items : List Node) :
    IgnoresDots (readSequence (steps + 1) isFirst verbose items) := by
  rw [readSequence]
  refine .bind ignoresDots_peek fun token ↦ .ite (.pure _) ?_
  refine .bind ignoresDots_position fun start ↦ .bind ignoresDots_take fun _ ↦ .ite ?_ ?_
  · refine .bind (h.parenthesized _ _ _) fun read ↦ ?_
    cases read with
    | node node => exact h.sequence _ _ _
    | skipped verbose => exact h.sequence _ _ _
  · exact .bind (ignoresDots_readItem _ _ _ _) fun _ ↦ h.sequence _ _ _

private theorem ignoresDots_readParenthesized (start : Nat) (flagsAllowed verbose : Bool) :
    IgnoresDots (readParenthesized (steps + 1) start flagsAllowed verbose) := by
  rw [readParenthesized]
  refine .bind (ignoresDots_accept _) fun _ ↦ .ite (.bind (h.group _ _ _) fun _ ↦ .pure _) ?_
  refine .bind ignoresDots_take fun token ↦ ?_
  split
  · exact ignoresDots_failBack _ _
  · refine .bind (ignoresDots_accept _) fun _ ↦ .ite ?_ ?_
    · refine .bind (ignoresDots_takeName _ _) fun name ↦ ?_
      refine .bind (ignoresDots_checkGroupName _) fun _ ↦ ?_
      exact .bind (h.group _ _ _) fun _ ↦ .pure _
    refine .bind (ignoresDots_accept _) fun _ ↦ .ite ?_ ?_
    · refine .bind (ignoresDots_takeName _ _) fun name ↦ ?_
      refine .bind (ignoresDots_checkGroupName _) fun _ ↦ ?_
      refine .bind (ignoresDots_groupNamed _) fun number ↦ .get fun _ ↦ ?_
      refine .refuse (ignoresDots_failBack _ _) ?_
      exact .bind (ignoresDots_checkBehind _) fun _ ↦ .pure _
    · refine .bind ignoresDots_take fun token ↦ ?_
      split
      · exact ignoresDots_failBack _ _
      · exact ignoresDots_failBack _ _
  · exact .bind (h.bracketed _ _ _ _) fun _ ↦ .pure _
  · exact .get fun _ ↦ .bind (ignoresDots_skipComment _ _) fun _ ↦ .pure _
  · exact h.look _ _ _ _
  · exact h.look _ _ _ _
  · refine .bind ignoresDots_take fun token ↦ ?_
    split
    · exact ignoresDots_failBack _ _
    · exact ignoresDots_inLookBehind (h.look _ _ _ _)
    · exact ignoresDots_inLookBehind (h.look _ _ _ _)
    · exact ignoresDots_failBack _ _
  · exact h.conditional _ _
  · refine .bind (ignoresDots_inGroup (h.alternatives _ _)) fun body ↦ ?_
    exact .bind (ignoresDots_closeParenthesis _) fun _ ↦ .pure _
  · dsimp only
    split
    · exact ignoresDots_failBack _ _
    refine .bind (ignoresDots_readFlags _) fun flags ↦ ?_
    split
    · refine .refuse (ignoresDots_failAt _ _) (.get fun _ ↦ .pure _)
    · exact .bind (h.bracketed _ _ _ _) fun _ ↦ .pure _

private theorem ignoresDots_readGroup (start : Nat) (name : Option (List Char)) (verbose : Bool) :
    IgnoresDots (readGroup (steps + 1) start name verbose) := by
  rw [readGroup]
  refine .bind (ignoresDots_openGroup _) fun number ↦ ?_
  refine .bind (ignoresDots_inGroup (h.alternatives _ _)) fun body ↦ ?_
  refine .bind (ignoresDots_closeParenthesis _) fun _ ↦ ?_
  exact .bind (ignoresDots_closeGroup _ _) fun _ ↦ .pure _

private theorem ignoresDots_readBracketed (start : Nat) (on off : Flags) (verbose : Bool) :
    IgnoresDots (readBracketed (steps + 1) start on off verbose) := by
  rw [readBracketed]
  refine .bind (ignoresDots_inGroup (h.alternatives _ _)) fun body ↦ ?_
  exact .bind (ignoresDots_closeParenthesis _) fun _ ↦ .pure _

private theorem ignoresDots_readLook (start : Nat) (behind negated verbose : Bool) :
    IgnoresDots (readLook (steps + 1) start behind negated verbose) := by
  rw [readLook]
  refine .bind (ignoresDots_inGroup (h.alternatives _ _)) fun body ↦ ?_
  exact .bind (ignoresDots_closeParenthesis _) fun _ ↦ .pure _

private theorem ignoresDots_readConditional (start : Nat) (verbose : Bool) :
    IgnoresDots (readConditional (steps + 1) start verbose) := by
  rw [readConditional]
  refine .bind ignoresDots_readCondition fun number ↦ ?_
  refine .bind (ignoresDots_inGroup (h.sequence _ _ _)) fun yes ↦ ?_
  have hclose : ∀ no : List Node, IgnoresDots (do
      closeParenthesis start
      return Parenthesized.node (.conditional number yes no)) :=
    fun _ ↦ .bind (ignoresDots_closeParenthesis _) fun _ ↦ .pure _
  refine .bind (ignoresDots_accept _) fun _ ↦ .ite ?_ (.bind (.pure _) hclose)
  refine .bind (ignoresDots_inGroup (h.sequence _ _ _)) fun no ↦ .bind ignoresDots_peek fun _ ↦ ?_
  exact .refuse (ignoresDots_failBack _ _) (.bind (.pure _) hclose)

omit h

private theorem readsIgnoringDots (steps : Nat) : ReadsIgnoringDots steps := by
  induction steps with
  | zero =>
    exact ⟨fun _ _ ↦ .pure _, fun _ _ _ ↦ .pure _, fun _ _ _ ↦ .pure _, fun _ _ _ ↦ .pure _,
      fun _ _ _ ↦ .pure _, fun _ _ _ _ ↦ .pure _, fun _ _ _ _ ↦ .pure _, fun _ _ ↦ .pure _⟩
  | succ steps ih =>
    refine ⟨fun isWhole verbose ↦ ?_, ignoresDots_readBranches ih, ignoresDots_readSequence ih,
      ignoresDots_readParenthesized ih, ignoresDots_readGroup ih, ignoresDots_readBracketed ih,
      ignoresDots_readLook ih, ignoresDots_readConditional ih⟩
    rw [readAlternatives]
    exact .bind (ih.branches _ _ _) fun _ ↦ .pure _

/-- What reading gives, with dots that match line breaks. -/
def Expression.dotted (e : Expression) : Expression := { e with flags := e.flags.dotted }

private theorem finish_dotted (r : Reader) (nodes : List Node) :
    r.dotted.finish nodes = (r.finish nodes).map Expression.dotted := by
  have hmissing : r.dotted.missing? = r.missing? := rfl
  have hflags : (r.dotted.flags.ascii && r.dotted.flags.unicode) =
    (r.flags.ascii && r.flags.unicode) := rfl
  have hrest : r.dotted.rest = r.rest := rfl
  unfold Reader.finish
  rw [hmissing, hflags, hrest]
  cases r.flags.ascii && r.flags.unicode with
  | true => rfl
  | false =>
    cases r.rest.isEmpty with
    | false => rfl
    | true => cases r.missing? <;> rfl

/-- Reading an expression does not depend on whether dots match line breaks. -/
theorem readExpression_dotted [Platform] (flags : Flags) (text : List Char) :
    readExpression flags.dotted text = (readExpression flags text).map Expression.dotted := by
  unfold readExpression
  cases refuseLoneEscape text 0 with
  | error e => rfl
  | ok u =>
    rw [ok_bind, ok_bind]
    have hread : (readAlternatives (6 * text.length + 6) true flags.dotted.verbose).run
        (Reader.start flags.dotted text) = _ :=
      (readsIgnoringDots (6 * text.length + 6)).alternatives true flags.verbose
        (Reader.start flags text)
    simp only [hread]
    cases (readAlternatives (6 * text.length + 6) true flags.verbose).run
      (Reader.start flags text) with
    | error e => rfl
    | ok p => exact finish_dotted p.2 p.1

/-! ### Checks -/

section

variable {groups : List (Option Width)}

private theorem template_within {f g : Flags} (h : f.template = g.template) (on off : Flags) :
    (f.within on off).template = (g.within on off).template := by
  unfold Flags.within
  cases on.ascii || on.unicode <;> simp [Flags.union, Flags.minus, h]

mutual

private theorem check_eq_of_template {f g : Flags} (h : f.template = g.template) :
    (n : Node) → n.check groups f = n.check groups g
  | .group _ on off body => sequenceCheck_eq_of_template (template_within h on off) body
  | .repeated _ _ _ body => by
    rw [Node.check, Node.check, h, sequenceCheck_eq_of_template h body]
  | .either branches => branchesCheck_eq_of_template h branches
  | .conditional _ yes no => by
    rw [Node.check, Node.check, sequenceCheck_eq_of_template h yes,
      sequenceCheck_eq_of_template h no]
  | .look _ _ body => by rw [Node.check, Node.check, sequenceCheck_eq_of_template h body]
  | .atomic body => sequenceCheck_eq_of_template h body
  | .code _ => rfl
  | .otherThan _ => rfl
  | .any => rfl
  | .oneOf _ _ => rfl
  | .anchor _ => rfl
  | .backref _ => rfl

private theorem sequenceCheck_eq_of_template {f g : Flags} (h : f.template = g.template) :
    (nodes : List Node) → sequenceCheck groups f nodes = sequenceCheck groups g nodes
  | [] => rfl
  | n :: rest => by
    rw [sequenceCheck, sequenceCheck, check_eq_of_template h n, sequenceCheck_eq_of_template h rest]

private theorem branchesCheck_eq_of_template {f g : Flags} (h : f.template = g.template) :
    (branches : List (List Node)) →
      branchesCheck groups f branches = branchesCheck groups g branches
  | [] => rfl
  | b :: rest => by
    rw [branchesCheck, branchesCheck, sequenceCheck_eq_of_template h b,
      branchesCheck_eq_of_template h rest]

end

end

/-- A pattern in which dots match line breaks. -/
def Pattern.dotted (p : Pattern) : Pattern := { p with flags := p.flags.dotted }

/-- An expression is usable, or has its fault, whether or not dots match line breaks. -/
theorem compile_dotted [Platform] (flags : Flags) (source : List Char) :
    Pattern.compile flags.dotted source = (Pattern.compile flags source).map Pattern.dotted := by
  unfold Pattern.compile
  rw [readExpression_dotted]
  cases readExpression flags source with
  | error e => rfl
  | ok e =>
    have hcheck : sequenceCheck e.groups e.flags.dotted e.nodes =
        sequenceCheck e.groups e.flags e.nodes :=
      sequenceCheck_eq_of_template (f := e.flags.dotted) (g := e.flags) rfl e.nodes
    show (sequenceCheck e.groups e.flags.dotted e.nodes >>= fun _ ↦ _) = _
    rw [hcheck, ok_bind]
    cases sequenceCheck e.groups e.flags e.nodes with
    | error e => rfl
    | ok u => rfl

end VulnScanner.Regex
