import VulnScanner.Yaml.Token.Lexer

/-!
# What goes wrong between characters and tokens

A text is cut into tokens until it breaks a rule of YAML, until an escape in a quoted scalar names a
code point beyond the last, or until a version number has too many digits. Nothing else goes wrong
on the way: every step through the text fails in one of these ways, if it fails. There is a lemma
for each step, and a step is a chain of others, of which the lemmas are tagged for `grind`.
-/

namespace VulnScanner.Yaml

/-- The errors of cutting a text into tokens. -/
inductive Error.IsLexical : Error → Prop
  | malformed : IsLexical .malformed
  | codePoint {n : Nat} (h : 0x10ffff < n) : IsLexical (.codePoint n)
  | version {digits : Nat} (h : Number.digitLimit < digits) : IsLexical (.integer (.tooLong digits))

namespace Scan

variable {α β : Type} {x : ScanM α}

/-- A step through a text fails with errors of this kind only. -/
def IsLexical (x : ScanM α) : Prop := ∀ s e, x.run s = .error e → e.IsLexical

/-! ### Chains of steps -/

@[grind ←] theorem isLexical_pure (a : α) : IsLexical (pure a) := fun _ _ h ↦ nomatch h

@[grind ←] theorem isLexical_get : IsLexical (get : ScanM Cursor) := fun _ _ h ↦ nomatch h

@[grind ←] theorem isLexical_set (s : Cursor) : IsLexical (set s : ScanM Unit) :=
  fun _ _ h ↦ nomatch h

@[grind ←] theorem isLexical_modify (f : Cursor → Cursor) : IsLexical (modify f : ScanM Unit) :=
  fun _ _ h ↦ nomatch h

@[grind ←] theorem isLexical_malformed : IsLexical (malformed : ScanM α) := by
  intro s e h
  cases h
  exact .malformed

/-- A chain of steps fails in one of its steps. -/
@[grind ←] theorem isLexical_bind {f : α → ScanM β} (hx : IsLexical x)
    (hf : ∀ a, IsLexical (f a)) : IsLexical (x >>= f) := by
  intro s e h
  rw [StateT.run_bind] at h
  cases hs : x.run s with
  | error e' =>
    rw [hs] at h
    cases h
    exact hx s _ hs
  | ok result =>
    rw [hs] at h
    exact hf _ _ _ h

theorem isLexical_ite {c : Prop} [Decidable c] {y : ScanM α} (hx : IsLexical x)
    (hy : IsLexical y) : IsLexical (if c then x else y) := by
  split
  · exact hx
  · exact hy

/-! ### Moving -/

@[grind ←] theorem isLexical_require (condition : Bool) : IsLexical (require condition) := by
  unfold require
  grind

@[grind ←] theorem isLexical_peek : IsLexical peek := by
  unfold peek
  grind

@[grind ←] theorem isLexical_peekAt (n : Nat) : IsLexical (peekAt n) := by
  unfold peekAt
  grind

@[grind ←] theorem isLexical_forward (n : Nat) : IsLexical (forward n) := isLexical_modify _

@[grind ←] theorem isLexical_takeWhile (p : Char → Bool) : IsLexical (takeWhile p) := by
  unfold takeWhile
  grind

@[grind ←] theorem isLexical_skipSpaces : IsLexical skipSpaces := by
  unfold skipSpaces
  grind

@[grind ←] theorem isLexical_skipComment : IsLexical skipComment := by
  unfold skipComment
  grind

@[grind ←] theorem isLexical_takeBreak : IsLexical takeBreak := by
  unfold takeBreak
  grind

@[grind ←] theorem isLexical_finishLine : IsLexical finishLine := by
  unfold finishLine
  grind

@[grind ←] theorem isLexical_atSeparator : IsLexical atSeparator := by
  unfold atSeparator
  grind

@[grind ←] theorem isLexical_emit (token : Token) : IsLexical (emit token) := isLexical_modify _

@[grind ←] theorem isLexical_unwind (column : Int) : IsLexical (unwind column) := by
  unfold unwind
  grind

@[grind ←] theorem isLexical_openBlock (column : Nat) : IsLexical (openBlock column) := by
  unfold openBlock
  grind

@[grind ←] theorem isLexical_dropStale : IsLexical dropStale := by
  unfold dropStale
  grind

@[grind ←] theorem isLexical_dropPending : IsLexical dropPending := by
  unfold dropPending
  grind

@[grind ←] theorem isLexical_savePending : IsLexical savePending := by
  unfold savePending
  grind

@[grind ←] theorem isLexical_allowKey (allowed : Bool) : IsLexical (allowKey allowed) :=
  isLexical_modify _

@[grind ←] theorem isLexical_insertToken (number : Nat) (token : Token) :
    IsLexical (insertToken number token) := isLexical_modify _

@[grind ←] theorem isLexical_enoughSteps : IsLexical enoughSteps := by
  unfold enoughSteps
  grind

/-! ### Names, tags and directives -/

@[grind ←] theorem isLexical_takeName : IsLexical takeName := by
  unfold takeName
  grind

@[grind ←] theorem isLexical_takeOctets (steps : Nat) : IsLexical (takeOctets steps) := by
  induction steps with
  | zero => exact isLexical_pure _
  | succ steps ih =>
    unfold takeOctets
    grind

@[grind ←] theorem isLexical_takeTagText (steps : Nat) : IsLexical (takeTagText steps) := by
  induction steps with
  | zero => exact isLexical_pure _
  | succ steps ih =>
    unfold takeTagText
    grind

@[grind ←] theorem isLexical_takeTagTail : IsLexical takeTagTail := by
  unfold takeTagTail
  grind

@[grind ←] theorem isLexical_takeTagHandle : IsLexical takeTagHandle := by
  unfold takeTagHandle
  refine isLexical_bind isLexical_peek fun _ ↦ isLexical_bind (isLexical_require _) fun _ ↦
    isLexical_bind (isLexical_forward 1) fun _ ↦ ?_
  grind

@[grind ←] theorem isLexical_takeTag : IsLexical takeTag := by
  unfold takeTag
  refine isLexical_bind (isLexical_peekAt 1) fun next ↦ ?_
  extract_lets finish
  -- the step that all branches share, of which they need no more than this
  have hfinish : ∀ token, IsLexical (finish token) := by grind
  clear_value finish
  split
  · refine isLexical_bind (isLexical_forward 2) fun _ ↦ isLexical_bind isLexical_takeTagTail
      fun _ ↦ ?_
    grind
  · split
    · grind
    · refine isLexical_bind isLexical_get fun s ↦ ?_
      grind

/-- A version number that is there has too many digits at worst. -/
@[grind ←] theorem isLexical_takeVersionPart : IsLexical takeVersionPart := by
  unfold takeVersionPart
  refine isLexical_bind (isLexical_takeWhile _) fun digits ↦ isLexical_bind (isLexical_require _)
    fun _ ↦ ?_
  split
  next hlong =>
    intro s e h
    cases h
    exact .version hlong
  · grind

@[grind ←] theorem isLexical_takeDirective : IsLexical takeDirective := by
  unfold takeDirective
  refine isLexical_bind (isLexical_forward 1) fun _ ↦ isLexical_bind (isLexical_takeWhile _)
    fun name ↦ isLexical_bind isLexical_peek fun _ ↦ isLexical_bind (isLexical_require _) fun _ ↦ ?_
  extract_lets finish
  have hfinish : ∀ directive, IsLexical (finish directive) := by grind
  clear_value finish
  split
  · refine isLexical_bind isLexical_skipSpaces fun _ ↦ isLexical_bind isLexical_takeVersionPart
      fun _ ↦ isLexical_bind isLexical_peek fun _ ↦ isLexical_bind (isLexical_require _) fun _ ↦ ?_
    grind
  · split
    · refine isLexical_bind isLexical_skipSpaces fun _ ↦
        isLexical_bind isLexical_takeTagHandle fun _ ↦
          isLexical_bind isLexical_peek fun _ ↦ isLexical_bind (isLexical_require _) fun _ ↦ ?_
      grind
    · grind

/-! ### Scalars -/

@[grind ←] theorem isLexical_takeChomping? : IsLexical takeChomping? := by
  unfold takeChomping?
  grind

@[grind ←] theorem isLexical_takeIncrement? : IsLexical takeIncrement? := by
  unfold takeIncrement?
  grind

@[grind ←] theorem isLexical_takeHeader : IsLexical takeHeader := by
  unfold takeHeader
  refine isLexical_bind (isLexical_forward 1) fun _ ↦ isLexical_bind isLexical_takeChomping?
    fun first ↦ isLexical_bind isLexical_takeIncrement? fun increment ↦ ?_
  grind

@[grind ←] theorem isLexical_takeIndentation (steps : Nat) (breaks : List Char) (deepest : Nat) :
    IsLexical (takeIndentation steps breaks deepest) := by
  induction steps generalizing breaks deepest with
  | zero => exact isLexical_pure _
  | succ steps ih =>
    unfold takeIndentation
    grind

@[grind ←] theorem isLexical_skipIndent (column : Nat) : IsLexical (skipIndent column) := by
  unfold skipIndent
  grind

@[grind ←] theorem isLexical_takeBreaks (column steps : Nat) :
    IsLexical (takeBreaks column steps) := by
  induction steps with
  | zero => exact isLexical_pure _
  | succ steps ih =>
    unfold takeBreaks
    grind

@[grind ←] theorem isLexical_takeLines (isFolded : Bool) (column steps : Nat) (tail : BlockTail) :
    IsLexical (takeLines isFolded column steps tail) := by
  induction steps generalizing tail with
  | zero => exact isLexical_pure _
  | succ steps ih =>
    unfold takeLines
    refine isLexical_bind isLexical_get fun s ↦ ?_
    split
    · exact isLexical_pure _
    · refine isLexical_bind isLexical_peek fun _ ↦ isLexical_bind (isLexical_takeWhile _)
        fun _ ↦ isLexical_bind isLexical_takeBreak fun _ ↦
          isLexical_bind (isLexical_takeBreaks _ _) fun _ ↦ ?_
      grind

@[grind ←] theorem isLexical_takeBlockScalar (isFolded : Bool) :
    IsLexical (takeBlockScalar isFolded) := by
  unfold takeBlockScalar
  refine isLexical_bind isLexical_takeHeader fun header ↦ isLexical_bind isLexical_get fun s ↦
    isLexical_bind isLexical_enoughSteps fun steps ↦ ?_
  grind

@[grind ←] theorem isLexical_takeQuotedBreaks (steps : Nat) :
    IsLexical (takeQuotedBreaks steps) := by
  induction steps with
  | zero => exact isLexical_pure _
  | succ steps ih =>
    unfold takeQuotedBreaks
    grind

/-- An escape is malformed, or names a code point that there is not. -/
@[grind ←] theorem isLexical_takeEscape (steps : Nat) : IsLexical (takeEscape steps) := by
  unfold takeEscape
  refine isLexical_bind isLexical_peek fun next ↦ ?_
  split
  · exact isLexical_malformed
  · split
    · grind
    · refine isLexical_bind (isLexical_forward 1) fun _ ↦ isLexical_bind isLexical_get fun s ↦ ?_
      split
      · refine isLexical_bind isLexical_get fun s ↦ isLexical_bind (isLexical_require _) fun _ ↦ ?_
        split
        next hlarge =>
          intro s e h
          cases h
          exact .codePoint hlarge
        · grind
      · exact isLexical_malformed
    · grind

@[grind ←] theorem isLexical_takeQuotedWord (isDouble : Bool) (steps : Nat) :
    IsLexical (takeQuotedWord isDouble steps) := by
  induction steps with
  | zero => exact isLexical_pure _
  | succ steps ih =>
    unfold takeQuotedWord
    refine isLexical_bind isLexical_get fun s ↦ ?_
    grind

@[grind ←] theorem isLexical_takeQuotedGap (steps : Nat) : IsLexical (takeQuotedGap steps) := by
  unfold takeQuotedGap
  grind

@[grind ←] theorem isLexical_takeQuotedRest (isDouble : Bool) (steps : Nat) (text : List Char) :
    IsLexical (takeQuotedRest isDouble steps text) := by
  induction steps generalizing text with
  | zero => exact isLexical_pure _
  | succ steps ih =>
    unfold takeQuotedRest
    grind

@[grind ←] theorem isLexical_takeQuoted (isDouble : Bool) : IsLexical (takeQuoted isDouble) := by
  unfold takeQuoted
  grind

@[grind ←] theorem isLexical_takePlainBreaks (steps : Nat) (breaks : List Char) :
    IsLexical (takePlainBreaks steps breaks) := by
  induction steps generalizing breaks with
  | zero => exact isLexical_pure _
  | succ steps ih =>
    unfold takePlainBreaks
    grind

@[grind ←] theorem isLexical_takePlainGap (steps : Nat) : IsLexical (takePlainGap steps) := by
  unfold takePlainGap
  refine isLexical_bind (isLexical_takeWhile _) fun _ ↦ isLexical_bind isLexical_peek fun _ ↦ ?_
  split
  · refine isLexical_bind isLexical_takeBreak fun _ ↦ isLexical_bind (isLexical_allowKey _)
      fun _ ↦ isLexical_bind isLexical_atSeparator fun _ ↦ ?_
    grind
  · exact isLexical_pure _

@[grind ←] theorem isLexical_takePlainWords (indent : Int) (steps : Nat) (text gap : List Char) :
    IsLexical (takePlainWords indent steps text gap) := by
  induction steps generalizing text gap with
  | zero => exact isLexical_pure _
  | succ steps ih =>
    unfold takePlainWords
    refine isLexical_bind isLexical_get fun s ↦ isLexical_bind isLexical_peek fun _ ↦ ?_
    grind

@[grind ←] theorem isLexical_takePlain : IsLexical takePlain := by
  unfold takePlain
  grind

/-! ### Tokens -/

@[grind ←] theorem isLexical_skipToToken (steps : Nat) : IsLexical (skipToToken steps) := by
  induction steps with
  | zero => exact isLexical_pure _
  | succ steps ih =>
    unfold skipToToken
    grind

@[grind ←] theorem isLexical_closeAll : IsLexical closeAll := by
  unfold closeAll
  grind

@[grind ←] theorem isLexical_openFlow (token : Token) : IsLexical (openFlow token) := by
  unfold openFlow
  grind

@[grind ←] theorem isLexical_closeFlow (token : Token) : IsLexical (closeFlow token) := by
  unfold closeFlow
  grind

@[grind ←] theorem isLexical_beginBlock (token : Token) : IsLexical (beginBlock token) := by
  unfold beginBlock
  grind

@[grind ←] theorem isLexical_takeBlockEntry : IsLexical takeBlockEntry := by
  unfold takeBlockEntry
  grind

@[grind ←] theorem isLexical_takeKey : IsLexical takeKey := by
  unfold takeKey
  grind

@[grind ←] theorem isLexical_takeValue : IsLexical takeValue := by
  unfold takeValue
  refine isLexical_bind isLexical_get fun s ↦ ?_
  extract_lets finish
  have hfinish : ∀ u, IsLexical (finish u) := by grind
  clear_value finish
  split
  · refine isLexical_bind (isLexical_set _) fun _ ↦ isLexical_bind (isLexical_insertToken _ _)
      fun _ ↦ ?_
    grind
  · grind

@[grind ←] theorem isLexical_takeNode {read : ScanM Token} (h : IsLexical read) :
    IsLexical (takeNode read) := by
  unfold takeNode
  grind

@[grind ←] theorem isLexical_takeToken : IsLexical takeToken := by
  unfold takeToken
  refine isLexical_bind isLexical_get fun s ↦ ?_
  extract_lets more start
  have hmore : ∀ u, IsLexical (more u) := fun _ ↦ isLexical_pure true
  clear_value more
  have hstart : ∀ u, IsLexical (start u) := by
    intro u
    refine isLexical_bind isLexical_enoughSteps fun _ ↦ isLexical_bind (isLexical_skipToToken _)
      fun _ ↦ isLexical_bind isLexical_dropStale fun _ ↦ isLexical_bind isLexical_get fun _ ↦
        isLexical_bind (isLexical_unwind _) fun _ ↦ isLexical_bind isLexical_get fun s ↦ ?_
    extract_lets inFlow next
    split
    · grind
    next c _ _ =>
      apply isLexical_ite
      · grind
      · refine isLexical_bind isLexical_atSeparator fun _ ↦ ?_
        -- one goal for each kind of token
        repeat' apply isLexical_ite
        all_goals grind
  clear_value start
  grind

/-- What ends the tokens of a text too early. -/
theorem isLexical_of_takeTokens {steps : Nat} {s : Cursor} {e : Error}
    (h : (takeTokens steps s).2 = some e) : e.IsLexical := by
  induction steps generalizing s with
  | zero =>
    cases h
    exact .malformed
  | succ steps ih =>
    unfold takeTokens at h
    split at h
    next heq =>
      cases h
      exact isLexical_takeToken s _ heq
    next => exact ih h
    next => cases h

end Scan

/-- The tokens of a text end early only at such an error. -/
theorem Token.isLexical_of_scan {text : List Char} {e : Error} (h : (scan text).2 = some e) :
    e.IsLexical := Scan.isLexical_of_takeTokens h

end VulnScanner.Yaml
