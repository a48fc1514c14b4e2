import VulnScanner.Proofs.Steps
import VulnScanner.Proofs.Yaml.Scanning
import VulnScanner.Yaml.Document

/-!
# What goes wrong between tokens and values

Tokens that form no document are malformed, and so is a document with a key that is a collection or
with a tag that its node does not fit. Collections may nest too deep. Apart from that only scalars
go wrong: a text that was cut off at a wrong escape, and a text that does not have the form that its
tag announces.
-/

namespace VulnScanner.Yaml

namespace Build

variable {α β : Type} {x : BuildM α}

/-- A step of building keeps the error behind the last token, and fails with it or for a document
that is malformed or nests too deep. -/
def KeepsEnding (x : BuildM α) : Prop := ∀ b,
  (∀ e, x.run b = .error e → e = .malformed ∨ e = .tooDeep ∨ b.ending = some e) ∧
    ∀ a b', x.run b = .ok (a, b') → b'.ending = b.ending

/-! ### Chains of steps -/

@[grind ←] theorem keepsEnding_pure (a : α) : KeepsEnding (pure a) := by
  intro b
  constructor
  · intro _ h
    cases h
  · intro _ _ h
    cases h
    rfl

@[grind ←] theorem keepsEnding_get : KeepsEnding (get : BuildM Builder) := by
  intro b
  constructor
  · intro _ h
    cases h
  · intro _ _ h
    cases h
    rfl

theorem keepsEnding_modify {f : Builder → Builder} (h : ∀ b, (f b).ending = b.ending) :
    KeepsEnding (modify f : BuildM Unit) := by
  intro b
  constructor
  · intro _ hrun
    cases hrun
  · intro _ _ hrun
    cases hrun
    exact h b

@[grind ←] theorem keepsEnding_malformed : KeepsEnding (throw .malformed : BuildM α) := by
  intro b
  constructor
  · intro _ h
    cases h
    exact .inl rfl
  · intro _ _ h
    cases h

theorem keepsEnding_tooDeep : KeepsEnding (throw .tooDeep : BuildM α) := by
  intro b
  constructor
  · intro _ h
    cases h
    exact .inr (.inl rfl)
  · intro _ _ h
    cases h

/-- A chain of steps fails in one of its steps. -/
@[grind ←] theorem keepsEnding_bind {f : α → BuildM β} (hx : KeepsEnding x)
    (hf : ∀ a, KeepsEnding (f a)) : KeepsEnding (x >>= f) := by
  intro b
  rw [StateT.run_bind]
  cases hb : x.run b with
  | error e =>
    constructor
    · intro _ h
      cases h
      exact (hx b).1 e hb
    · intro _ _ h
      cases h
  | ok result =>
    rw [← (hx b).2 _ _ hb]
    exact hf _ _

theorem keepsEnding_ite {c : Prop} [Decidable c] {y : BuildM α} (hx : KeepsEnding x)
    (hy : KeepsEnding y) : KeepsEnding (if c then x else y) := by
  split
  · exact hx
  · exact hy

/-! ### Tokens -/

@[grind ←] theorem keepsEnding_peek : KeepsEnding peek := by
  intro b
  unfold peek
  rw [StateT.run_bind, StateT.run_get, pure_bind]
  split
  · exact keepsEnding_pure _ b
  · constructor
    · intro _ h
      cases h
      cases b.ending with
      | none => exact .inl rfl
      | some e => exact .inr (.inr rfl)
    · intro _ _ h
      cases h

@[grind ←] theorem keepsEnding_advance : KeepsEnding advance := keepsEnding_modify fun _ ↦ rfl

@[grind ←] theorem keepsEnding_accept (token : Token) : KeepsEnding (accept token) := by
  unfold accept
  grind

@[grind ←] theorem keepsEnding_expect (token : Token) : KeepsEnding (expect token) := by
  unfold expect
  grind

@[grind ←] theorem keepsEnding_nextIs (tokens : List Token) : KeepsEnding (nextIs tokens) := by
  unfold nextIs
  grind

@[grind ←] theorem keepsEnding_readProperties : KeepsEnding readProperties := by
  unfold readProperties
  refine keepsEnding_bind keepsEnding_peek fun token ↦ ?_
  split
  · refine keepsEnding_bind keepsEnding_advance fun _ ↦ keepsEnding_bind keepsEnding_peek fun _ ↦ ?_
    grind
  · refine keepsEnding_bind keepsEnding_advance fun _ ↦ keepsEnding_bind keepsEnding_peek fun _ ↦ ?_
    grind
  · exact keepsEnding_pure _

@[grind ←] theorem keepsEnding_resolveTag (written : Option (Option String × String)) :
    KeepsEnding (resolveTag written) := by
  unfold resolveTag
  grind

@[grind ←] theorem keepsEnding_declare (anchor : Option String) : KeepsEnding (declare anchor) := by
  unfold declare
  split
  · exact keepsEnding_pure _
  next name =>
    refine keepsEnding_bind keepsEnding_get fun _ ↦ ?_
    extract_lets finish
    have hfinish : ∀ u, KeepsEnding (finish u) := fun _ ↦ keepsEnding_modify fun _ ↦ rfl
    clear_value finish
    grind

@[grind ←] theorem keepsEnding_record (node : Node) : KeepsEnding (record node) := by
  unfold record
  extract_lets finish
  have hfinish : ∀ u, KeepsEnding (finish u) := fun _ ↦ keepsEnding_pure _
  split
  · exact keepsEnding_bind (keepsEnding_modify fun _ ↦ rfl) hfinish
  · exact hfinish ()

@[grind ←] theorem keepsEnding_inside (hx : KeepsEnding x) : KeepsEnding (inside x) := by
  unfold inside
  refine keepsEnding_bind keepsEnding_get fun b ↦ ?_
  refine keepsEnding_ite (keepsEnding_bind keepsEnding_tooDeep fun _ ↦ ?_) ?_ <;>
    exact keepsEnding_bind (keepsEnding_modify fun _ ↦ rfl) fun _ ↦ keepsEnding_bind hx fun _ ↦
      keepsEnding_bind (keepsEnding_modify fun _ ↦ rfl) fun _ ↦ keepsEnding_pure _

/-! ### Nodes -/

@[grind ←] theorem keepsEnding_emptyNode (anchor tag : Option String) :
    KeepsEnding (emptyNode anchor tag) := by
  unfold emptyNode
  grind

/-- All readers of nodes with a bound on their steps keep the ending. -/
private structure ReadersKeep (steps : Nat) : Prop where
  node : ∀ isBlock indentless, KeepsEnding (readNode steps isBlock indentless)
  blockItems : KeepsEnding (readBlockItems steps)
  indentless : KeepsEnding (readIndentless steps)
  blockEntries : KeepsEnding (readBlockEntries steps)
  flowItems : ∀ isFirst, KeepsEnding (readFlowItems steps isFirst)
  flowEntries : ∀ isFirst, KeepsEnding (readFlowEntries steps isFirst)

variable {steps : Nat}

private theorem keepsEnding_readBlockItems (h : ReadersKeep steps) :
    KeepsEnding (readBlockItems (steps + 1)) := by
  obtain ⟨hnode, hblockItems, -, -, -, -⟩ := h
  unfold readBlockItems
  grind

private theorem keepsEnding_readIndentless (h : ReadersKeep steps) :
    KeepsEnding (readIndentless (steps + 1)) := by
  obtain ⟨hnode, -, hindentless, -, -, -⟩ := h
  unfold readIndentless
  grind

private theorem keepsEnding_readBlockEntries (h : ReadersKeep steps) :
    KeepsEnding (readBlockEntries (steps + 1)) := by
  obtain ⟨hnode, -, -, hentries, -, -⟩ := h
  unfold readBlockEntries
  refine keepsEnding_bind (keepsEnding_accept _) fun _ ↦ ?_
  apply keepsEnding_ite (keepsEnding_pure _)
  refine keepsEnding_bind (keepsEnding_accept _) fun _ ↦ ?_
  extract_lets withKey
  -- the key is read or left out, and what follows is the same
  have hkey : ∀ key, KeepsEnding (withKey key) := by
    intro key
    refine keepsEnding_bind (keepsEnding_accept _) fun _ ↦ ?_
    grind
  clear_value withKey
  grind

private theorem keepsEnding_readFlowItems (h : ReadersKeep steps) (isFirst : Bool) :
    KeepsEnding (readFlowItems (steps + 1) isFirst) := by
  obtain ⟨hnode, -, -, -, hitems, -⟩ := h
  unfold readFlowItems
  refine keepsEnding_bind (keepsEnding_accept _) fun _ ↦ ?_
  apply keepsEnding_ite (keepsEnding_pure _)
  extract_lets withKey rest
  have hkey : ∀ key, KeepsEnding (withKey key) := by
    intro key
    refine keepsEnding_bind (keepsEnding_accept _) fun _ ↦ ?_
    grind
  clear_value withKey
  have hrest : ∀ u, KeepsEnding (rest u) := by
    intro u
    refine keepsEnding_bind (keepsEnding_accept _) fun _ ↦ ?_
    grind
  clear_value rest
  grind

private theorem keepsEnding_readFlowEntries (h : ReadersKeep steps) (isFirst : Bool) :
    KeepsEnding (readFlowEntries (steps + 1) isFirst) := by
  obtain ⟨hnode, -, -, -, -, hentries⟩ := h
  unfold readFlowEntries
  refine keepsEnding_bind (keepsEnding_accept _) fun _ ↦ ?_
  apply keepsEnding_ite (keepsEnding_pure _)
  extract_lets withKey rest
  have hkey : ∀ key, KeepsEnding (withKey key) := by
    intro key
    refine keepsEnding_bind (keepsEnding_accept _) fun _ ↦ ?_
    grind
  clear_value withKey
  have hrest : ∀ u, KeepsEnding (rest u) := by
    intro u
    refine keepsEnding_bind (keepsEnding_accept _) fun _ ↦ ?_
    grind
  clear_value rest
  grind

private theorem keepsEnding_readNode_succ (h : ReadersKeep steps) (isBlock indentless : Bool) :
    KeepsEnding (readNode (steps + 1) isBlock indentless) := by
  obtain ⟨-, hblockItems, hindentless, hblockEntries, hflowItems, hflowEntries⟩ := h
  unfold readNode
  refine keepsEnding_bind keepsEnding_peek fun token ↦ ?_
  split
  · grind
  · refine keepsEnding_bind keepsEnding_readProperties fun properties ↦
      keepsEnding_bind (keepsEnding_resolveTag _) fun tag ↦ keepsEnding_bind keepsEnding_peek
        fun next ↦ ?_
    apply keepsEnding_ite
    · grind
    · split <;> grind

private theorem readersKeep (steps : Nat) : ReadersKeep steps := by
  -- the readers call each other with one step less, so all of them go through one induction
  induction steps with
  | zero =>
    constructor <;> intros <;> exact keepsEnding_malformed
  | succ steps ih =>
    exact ⟨keepsEnding_readNode_succ ih, keepsEnding_readBlockItems ih,
      keepsEnding_readIndentless ih, keepsEnding_readBlockEntries ih,
      keepsEnding_readFlowItems ih, keepsEnding_readFlowEntries ih⟩

@[grind ←] theorem keepsEnding_readNode (steps : Nat) (isBlock indentless : Bool) :
    KeepsEnding (readNode steps isBlock indentless) := (readersKeep steps).node isBlock indentless

/-! ### Documents -/

@[grind ←] theorem keepsEnding_readDirectives (steps : Nat) (preamble : Preamble) :
    KeepsEnding (readDirectives steps preamble) := by
  induction steps generalizing preamble with
  | zero => exact keepsEnding_pure _
  | succ steps ih =>
    unfold readDirectives
    refine keepsEnding_bind keepsEnding_peek fun token ↦ ?_
    split
    · refine keepsEnding_bind keepsEnding_advance fun _ ↦ ?_
      split <;> grind
    · exact keepsEnding_pure _

@[grind ←] theorem keepsEnding_skipEnds (steps : Nat) : KeepsEnding (skipEnds steps) := by
  induction steps with
  | zero => exact keepsEnding_pure _
  | succ steps ih =>
    unfold skipEnds
    grind

@[grind ←] theorem keepsEnding_contentIsMissing : KeepsEnding contentIsMissing := by
  unfold contentIsMissing
  refine keepsEnding_bind keepsEnding_peek fun token ↦ ?_
  split <;> exact keepsEnding_pure _

@[grind ←] theorem keepsEnding_readContent (steps : Nat) : KeepsEnding (readContent steps) := by
  unfold readContent
  refine keepsEnding_bind keepsEnding_contentIsMissing fun _ ↦ ?_
  grind

@[grind ←] theorem keepsEnding_readDocument (steps : Nat) : KeepsEnding (readDocument steps) := by
  unfold readDocument
  refine keepsEnding_bind keepsEnding_peek fun token ↦ ?_
  extract_lets content
  have hcontent : ∀ isExplicit, KeepsEnding (content isExplicit) := by
    intro isExplicit
    apply keepsEnding_ite
    · refine keepsEnding_bind (keepsEnding_readDirectives _ _) fun _ ↦
        keepsEnding_bind (keepsEnding_expect _) fun _ ↦
          keepsEnding_bind (keepsEnding_modify fun _ ↦ rfl) fun _ ↦ ?_
      grind
    · grind
  clear_value content
  split <;> grind

end Build

/-- Reading a document fails for a text that is malformed or nests too deep, or at a wrong escape in
it. -/
theorem Document.isLexical_of_read [Platform] {text : List Char} {e : Error}
    (h : read text = .error e) : e.IsLexical ∨ e = .tooDeep := by
  unfold read at h
  dsimp only at h
  split at h
  · cases h
    exact .inl .malformed
  rcases bind_eq_error_iff.mp h with h | ⟨_, -, h⟩
  · rcases (Build.keepsEnding_readDocument _ _).1 e h with rfl | rfl | h
    · exact .inl .malformed
    · exact .inr rfl
    · exact .inl (Token.isLexical_of_scan h)
  · cases h

/-! ### Values -/

/-- The errors of single scalars: the text does not fit the tag, or what stands for a scalar is a
mapping that is no timestamp. -/
inductive Error.IsOfScalar : Error → Prop
  | value {tag : Tag} {text : String} {e : Error}
      (htag : tag = .bool ∨ tag = .int ∨ tag = .float ∨ tag = .timestamp)
      (h : Scalar.value tag text = .error e) : IsOfScalar e
  | timestampMapping : IsOfScalar .timestampMapping

namespace Document

variable {α β : Type} {x : Except Error α}

/-- A step of looking at values fails for a document that is malformed or nests too deep, or at a
scalar. -/
def FailsAtScalar (x : Except Error α) : Prop :=
  ∀ e, x = .error e → e = .malformed ∨ e = .tooDeep ∨ e.IsOfScalar

@[grind ←] theorem failsAtScalar_ok (a : α) : FailsAtScalar (.ok a) := fun _ h ↦ nomatch h

@[grind ←] theorem failsAtScalar_pure (a : α) : FailsAtScalar (pure a) := fun _ h ↦ nomatch h

@[grind ←] theorem failsAtScalar_malformed :
    FailsAtScalar (.error .malformed : Except Error α) := by
  intro e h
  cases h
  exact .inl rfl

@[grind ←] theorem failsAtScalar_throw : FailsAtScalar (throw .malformed : Except Error α) :=
  failsAtScalar_malformed

theorem failsAtScalar_tooDeep : FailsAtScalar (.error .tooDeep : Except Error α) := by
  intro _ h
  cases h
  exact .inr (.inl rfl)

@[grind ←] theorem failsAtScalar_timestampMapping :
    FailsAtScalar (throw .timestampMapping : Except Error α) := by
  intro _ h
  cases h
  exact .inr (.inr .timestampMapping)

@[grind ←] theorem failsAtScalar_bind {f : α → Except Error β} (hx : FailsAtScalar x)
    (hf : ∀ a, FailsAtScalar (f a)) : FailsAtScalar (x >>= f) := by
  intro e h
  rcases bind_eq_error_iff.mp h with h | ⟨a, -, h⟩
  · exact hx e h
  · exact hf a e h

@[grind ←] theorem failsAtScalar_mapM {f : α → Except Error β} (hf : ∀ a, FailsAtScalar (f a))
    (as : List α) : FailsAtScalar (as.mapM f) := by
  intro e h
  obtain ⟨_, a, _, -, -, ha⟩ := mapM_eq_error_iff.mp h
  exact hf a e ha

variable {d : Document}

@[grind ←] theorem failsAtScalar_allEntries (levels : Nat) (around : List String)
    (entries : List (Node × Node)) : FailsAtScalar (d.allEntries levels around entries) := by
  induction levels generalizing around entries with
  | zero => exact failsAtScalar_tooDeep
  | succ levels ih =>
    unfold allEntries
    extract_lets inner
    have hinner : ∀ anchor more, FailsAtScalar (inner anchor more) := by
      intro anchor more
      cases anchor <;> grind
    clear_value inner
    refine failsAtScalar_bind (failsAtScalar_mapM (fun e ↦ ?_) _) fun _ ↦ failsAtScalar_pure _
    split
    · exact hinner _ _
    · refine failsAtScalar_bind (failsAtScalar_mapM (fun item ↦ ?_) _) fun _ ↦ failsAtScalar_pure _
      split
      · exact hinner _ _
      · exact failsAtScalar_throw
    · exact failsAtScalar_throw

@[grind ←] theorem failsAtScalar_scalarText (levels : Nat) (n : Node) :
    FailsAtScalar (d.scalarText levels n) := by
  induction levels generalizing n with
  | zero => exact failsAtScalar_tooDeep
  | succ levels ih =>
    unfold scalarText
    grind

/-- The texts of four tags can be wrong; all other scalars are in order or malformed. -/
@[grind ←] theorem failsAtScalar_value (tag : Tag) (text : String) :
    FailsAtScalar (Scalar.value tag text) := by
  intro e h
  cases tag with
  | bool => exact .inr (.inr (.value (.inl rfl) h))
  | int => exact .inr (.inr (.value (.inr (.inl rfl)) h))
  | float => exact .inr (.inr (.value (.inr (.inr (.inl rfl))) h))
  | timestamp => exact .inr (.inr (.value (.inr (.inr (.inr rfl))) h))
  | binary =>
    unfold Scalar.value Scalar.binary at h
    grind
  | null => cases h
  | text => cases h
  | _ =>
    cases h
    exact .inl rfl

@[grind ←] theorem failsAtScalar_begin? (levels : Nat) (n : Node) :
    FailsAtScalar (d.begin? levels n) := by
  unfold begin?
  grind

@[grind ←] theorem failsAtScalar_later (levels : Nat) (n : Node) :
    FailsAtScalar (d.later levels n) := by
  unfold later
  grind

@[grind ←] theorem failsAtScalar_laterEntries (levels : Nat) (entries : List (Node × Node)) :
    FailsAtScalar (d.laterEntries levels entries) := by
  unfold laterEntries
  grind

@[grind ←] theorem failsAtScalar_soleEntry (n : Node) : FailsAtScalar (d.soleEntry n) := by
  unfold soleEntry
  grind

@[grind ←] theorem failsAtScalar_content (levels : Nat) (n : Node) :
    FailsAtScalar (d.content levels n) := by
  unfold content
  split
  · grind
  · grind
  · split
    · refine failsAtScalar_bind (failsAtScalar_mapM (fun item ↦ ?_) _) fun _ ↦ failsAtScalar_pure _
      grind
    · exact failsAtScalar_throw
  · exact failsAtScalar_throw

@[grind ←] theorem failsAtScalar_check (levels steps : Nat) (seen : List String)
    (queue : List Node) : FailsAtScalar (d.check levels steps seen queue) := by
  induction steps generalizing seen queue with
  | zero => exact failsAtScalar_ok _
  | succ steps ih =>
    unfold check
    grind

/-- A document has a value unless it is malformed, nests too deep, or has a wrong scalar. -/
theorem failsAtScalar_documentValue (levels steps : Nat) :
    FailsAtScalar (d.value levels steps) := by
  unfold value
  grind

end Document

/-- A text gives no value if it is malformed, if an escape in it names a code point beyond the last,
if a version number has too many digits, if a scalar does not fit its tag, or if it nests too
deep. -/
theorem load_eq_error [Platform] {text : List Char} {e : Error} (h : load text = .error e) :
    e.IsLexical ∨ e.IsOfScalar ∨ e = .tooDeep := by
  unfold load at h
  rcases bind_eq_error_iff.mp h with h | ⟨document, -, h⟩
  · exact (Document.isLexical_of_read h).imp_right .inr
  · split at h
    · cases h
    · rcases Document.failsAtScalar_documentValue _ _ e h with rfl | rfl | h
      · exact .inl .malformed
      · exact .inr (.inr rfl)
      · exact .inr (.inl h)

end VulnScanner.Yaml
