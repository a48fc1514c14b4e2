import Mathlib.Data.List.TakeWhile
import Mathlib.Logic.Relation
import VulnScanner.Proofs.Payload.Described
import VulnScanner.Proofs.Text.Case

/-!
# The same record in another spelling

The spelling of a record does not matter: the order of its keys, which of its two names a field
stands under, and how the members of closed lists are written, in any ASCII case, with blanks around
them, in full or in short, and one vulnerability by itself or in a list. Texts in other collections
than lists are no such names.
-/

namespace VulnScanner

/-! ### Texts without blanks and in capitals -/

namespace Unicode

open Text

variable {c d : Char} {s t before after : List Char}

/-- The two forms of a letter are no blanks. -/
theorem isBlank_eq_of_sameLetter (h : SameLetter c d) : isBlank c = isBlank d := by
  rw [Bool.eq_iff_iff]
  unfold SameLetter at h
  rw [isCapital_iff, isCapital_iff] at h
  rcases h with rfl | ⟨hc, hd⟩ | ⟨hd, hc⟩
  · rfl
  · simp only [isBlank, Bool.or_eq_true, Bool.and_eq_true, decide_eq_true_eq, beq_iff_eq]
    omega
  · simp only [isBlank, Bool.or_eq_true, Bool.and_eq_true, decide_eq_true_eq, beq_iff_eq]
    omega

/-- The two forms of a letter have one capital. -/
theorem upperCodes_eq_of_sameLetter (h : SameLetter c d) :
    upperCodes c.toNat = upperCodes d.toNat := by
  unfold SameLetter at h
  rw [isCapital_iff, isCapital_iff] at h
  unfold upperCodes
  rcases h with rfl | ⟨hc, hd⟩ | ⟨hd, hc⟩
  · rfl
  · have hcsmall : c.toNat < 0x80 := by omega
    have hdsmall : d.toNat < 0x80 := by omega
    rw [if_pos hcsmall, if_pos hdsmall, if_neg (by omega), if_pos (by omega), hd,
      Nat.add_sub_cancel]
  · have hcsmall : c.toNat < 0x80 := by omega
    have hdsmall : d.toNat < 0x80 := by omega
    rw [if_pos hcsmall, if_pos hdsmall, if_pos (by omega), if_neg (by omega), hc,
      Nat.add_sub_cancel]

/-- Texts with the same letters have them without the blanks in front too. -/
theorem dropBlanks_sameLetters (h : List.Forall₂ SameLetter s t) :
    List.Forall₂ SameLetter (dropBlanks s) (dropBlanks t) := by
  induction h with
  | nil => exact .nil
  | @cons c d s t hcd hst ih =>
    unfold dropBlanks at ih ⊢
    rw [List.dropWhile_cons, List.dropWhile_cons, isBlank_eq_of_sameLetter hcd]
    split
    · exact ih
    · exact .cons hcd hst

/-- Texts with the same letters have them without the blanks around too. -/
theorem strip_sameLetters (h : List.Forall₂ SameLetter s t) :
    List.Forall₂ SameLetter (strip s) (strip t) :=
  List.forall₂_reverse_iff.mpr <| dropBlanks_sameLetters <|
    List.forall₂_reverse_iff.mpr <| dropBlanks_sameLetters h

/-- Texts with the same letters are the same in capitals. -/
theorem upper_eq_of_sameLetters (h : List.Forall₂ SameLetter s t) : upper s = upper t := by
  induction h with
  | nil => rfl
  | cons hcd _ ih =>
    unfold upper at ih ⊢
    rw [List.flatMap_cons, List.flatMap_cons, upperCodes_eq_of_sameLetter hcd, ih]

/-- Blanks around a text are stripped. -/
theorem strip_append (hbefore : ∀ c ∈ before, isBlank c = true)
    (hafter : ∀ c ∈ after, isBlank c = true) : strip (before ++ s ++ after) = strip s := by
  have hreverse : ∀ c ∈ after.reverse, isBlank c = true := by simpa using hafter
  unfold strip dropBlanks
  rw [List.append_assoc, List.dropWhile_append_of_pos hbefore, List.dropWhile_append]
  split
  · next hs =>
    rw [List.isEmpty_iff.mp hs, List.dropWhile_eq_nil_iff.mpr hafter]
  · rw [List.reverse_append, List.dropWhile_append_of_pos hreverse]

end Unicode

/-! ### Written names -/

namespace Record

/-- One written name in place of another: the same letters in another ASCII case, blanks around it,
or its full form for a short one. -/
inductive Rewrites (forms : List (String × String)) : String → String → Prop
  | letters {s s' : String} (h : Text.SameLetters s s') : Rewrites forms s s'
  | blanks {before after : String} (s : String)
      (hbefore : ∀ c ∈ before.toList, Unicode.isBlank c = true)
      (hafter : ∀ c ∈ after.toList, Unicode.isBlank c = true) :
      Rewrites forms s (before ++ s ++ after)
  | full {short full : String} (h : (short, full) ∈ forms) : Rewrites forms short full

section Names

variable {α : Type} [Named α] {s s' : String}

/-- Texts with the same letters are the same in capitals. -/
theorem capitals_eq_of_sameLetters (h : Text.SameLetters s s') : capitals s = capitals s' := by
  rw [capitals, capitals, Unicode.upper_eq_of_sameLetters (Unicode.strip_sameLetters h)]

/-- Every short form stands for the same as its full form. -/
def HasFullForms (α : Type) [Named α] : Prop :=
  ∀ form ∈ Named.shortForms α, fullName α form.1 = fullName α form.2

instance (α : Type) [Named α] : Decidable (HasFullForms α) :=
  inferInstanceAs (Decidable (∀ form ∈ Named.shortForms α, fullName α form.1 = fullName α form.2))

/-- Written names that are put for each other stand for the same full name. -/
theorem fullName_eq_of_rewrites (hfull : HasFullForms α)
    (h : Rewrites (Named.shortForms α) s s') : fullName α s = fullName α s' := by
  cases h with
  | letters h => rw [fullName, fullName, capitals_eq_of_sameLetters h]
  | blanks s hbefore hafter =>
    rw [fullName, fullName, capitals, capitals, String.toList_append, String.toList_append,
      Unicode.strip_append hbefore hafter]
  | full h => exact hfull (s, s') h

end Names

/-! ### Values of fields -/

/-- The short forms of the names that are values of a field, if its values are names. -/
def shortForms? (f : RecordField) : Option (List (String × String)) :=
  if f = .interpretation then some (Named.shortForms InterpretationEnvironment)
  else if f = .execution then some (Named.shortForms ExecutionEnvironment)
  else if f = .validation then some (Named.shortForms ValidationType)
  else if f = .vulnerabilities then some (Named.shortForms VulnerabilityType)
  else none

/-- Vulnerabilities have no short forms. -/
theorem shortForms?_vulnerabilities :
    shortForms? .vulnerabilities = some (Named.shortForms VulnerabilityType) := by
  decide

/-- One value of a field in place of another: a name in another spelling, by itself or in a list of
vulnerabilities, and one vulnerability in a list for one by itself. -/
inductive Rewords (f : RecordField) : Value → Value → Prop
  | name {forms : List (String × String)} {s s' : String} (hf : shortForms? f = some forms)
      (h : Rewrites forms s s') : Rewords f (.text s) (.text s')
  | item {s s' : String} (hf : f = .vulnerabilities) (before after : List Value)
      (h : Rewrites (Named.shortForms VulnerabilityType) s s') :
      Rewords f (.list (before ++ .text s :: after)) (.list (before ++ .text s' :: after))
  | single (hf : f = .vulnerabilities) (s : String) : Rewords f (.text s) (.list [.text s])

section Values

variable {α : Type} {f : RecordField} {v v' : Value} {s s' : String}

/-- In other words a value stands for the same member. -/
theorem readName_of_rewords [Named α] (hfull : HasFullForms α)
    (hforms : shortForms? f = some (Named.shortForms α)) (hf : f ≠ .vulnerabilities)
    (h : Rewords f v v') : (readName v : Except RecordIssue α) = readName v' := by
  cases h with
  | name hf h =>
    obtain rfl := Option.some.inj (hf.symm.trans hforms)
    rw [readName, readName, fullName_eq_of_rewrites hfull h]
  | item h | single h => exact absurd h hf

/-- No value is put in place of null. -/
theorem readNullable_of_rewords {read : Value → Except RecordIssue α} (hread : read v = read v')
    (h : Rewords f v v') : readNullable read v = readNullable read v' := by
  cases h with
  | name | item | single => exact congrArg (Except.map some) hread

/-- The full name of a vulnerability is its name in capitals. -/
theorem capitalItem_of_rewrites (h : Rewrites (Named.shortForms VulnerabilityType) s s') :
    capitalItem (.text s) = capitalItem (.text s') := by
  have hfull : HasFullForms VulnerabilityType := by nofun
  exact congrArg Value.text (fullName_eq_of_rewrites hfull h)

/-- In other words the same vulnerabilities are listed. -/
theorem listItems_of_rewords (h : Rewords .vulnerabilities v v') : listItems v = listItems v' := by
  cases h with
  | name hf h =>
    obtain rfl := Option.some.inj (hf.symm.trans shortForms?_vulnerabilities)
    rw [listItems, listItems, capitalItem_of_rewrites h]
  | item _ before after h =>
    rw [listItems, listItems, List.map_append, List.map_append, List.map_cons, List.map_cons,
      capitalItem_of_rewrites h]
  | single _ s => rfl

/-- The values of all other fields have one wording only. -/
theorem eq_of_rewords (hf : shortForms? f = none) (h : Rewords f v v') : v = v' := by
  have hvulnerabilities : f ≠ .vulnerabilities := by
    rintro rfl
    exact absurd hf (by decide)
  cases h with
  | name h =>
    rw [hf] at h
    cases h
  | item h | single h => exact absurd h hvulnerabilities

end Values

/-! ### Records -/

variable {entries entries' entries'' : List (Value × Value)}

/-- A change of the spelling of a record: its entries in another order, a field under the other of
its names if it does not stand under both, or a value of a field in other words. -/
inductive Respells : List (Value × Value) → List (Value × Value) → Prop
  | permuted {entries entries' : List (Value × Value)} (h : entries.Perm entries') :
      Respells entries entries'
  | renamed {f : RecordField} (hf : f ∈ RecordField.all) {key key' : String} (hkey : f.IsKey key)
      (hkey' : f.IsKey key') (before after : List (Value × Value)) (v : Value)
      (hother : ∀ name, f.IsKey name → ¬ Value.HasKey (before ++ after) name) :
      Respells (before ++ (.text key, v) :: after) (before ++ (.text key', v) :: after)
  | reworded {f : RecordField} (hf : f ∈ RecordField.all) {key : String} (hkey : f.IsKey key)
      {v v' : Value} (before after : List (Value × Value)) (h : Rewords f v v') :
      Respells (before ++ (.text key, v) :: after) (before ++ (.text key, v') :: after)

/-- What the first entries say, the second ones say in other words. -/
structure Covers (entries entries' : List (Value × Value)) : Prop where
  nodup : (Value.textKeys entries).Nodup → (Value.textKeys entries').Nodup
  namesFields : NamesFields entries → NamesFields entries'
  given : ∀ f ∈ RecordField.all, ∀ v, f.Given entries v →
    ∃ v', Relation.EqvGen (Rewords f) v v' ∧ f.Given entries' v'

namespace Covers

/-- Entries say what they say. -/
theorem refl (entries : List (Value × Value)) : Covers entries entries :=
  ⟨id, id, fun _ _ v h ↦ ⟨v, .refl v, h⟩⟩

/-- What is said in other words twice is said in other words. -/
theorem trans (h : Covers entries entries') (h' : Covers entries' entries'') :
    Covers entries entries'' where
  nodup := h'.nodup ∘ h.nodup
  namesFields := h'.namesFields ∘ h.namesFields
  given f hf v hv := by
    obtain ⟨v', hvv', hv'⟩ := h.given f hf v hv
    obtain ⟨v'', hvv'', hv''⟩ := h'.given f hf v' hv'
    exact ⟨v'', .trans _ _ _ hvv' hvv'', hv''⟩

/-- The order of the entries does not matter. -/
theorem of_perm (h : entries.Perm entries') : Covers entries entries' where
  nodup := (h.filterMap _).nodup_iff.mp
  namesFields hn := {
    known := fun e he ↦ hn.known e (h.mem_iff.mpr he)
    single := fun _ hf ⟨v, hv⟩ ⟨w, hw⟩ ↦
      hn.single _ hf ⟨v, h.mem_iff.mpr hv⟩ ⟨w, h.mem_iff.mpr hw⟩ }
  given _ _ v hv := ⟨v, .refl v, hv.imp h.mem_iff.mp h.mem_iff.mp⟩

private theorem hasKey_cons_iff {key name : String} {v : Value} :
    Value.HasKey ((.text key, v) :: entries) name ↔ name = key ∨ Value.HasKey entries name := by
  simp [Value.HasKey, exists_or]

/-- The first entry may be put in other words, and under the other name of its field if that does
not stand there yet. -/
theorem of_head {f : RecordField} (hf : f ∈ RecordField.all) {key key' : String}
    (hkey : f.IsKey key) (hkey' : f.IsKey key') {v v' : Value}
    (hother : key' = key ∨ ∀ name, f.IsKey name → ¬ Value.HasKey entries name)
    (hv : Relation.EqvGen (Rewords f) v v') :
    Covers ((.text key, v) :: entries) ((.text key', v') :: entries) where
  nodup := by
    simp only [Value.textKeys_text_cons, List.nodup_cons, Value.mem_textKeys_iff]
    rintro ⟨hnot, hrest⟩
    refine ⟨?_, hrest⟩
    rcases hother with rfl | hother
    · exact hnot
    · exact hother key' hkey'
  namesFields hn := {
    known := fun e he ↦ by
      rcases List.mem_cons.mp he with rfl | he
      · refine ⟨f, hf, ?_⟩
        rw [Value.text.injEq, Value.text.injEq]
        exact hkey'
      · exact hn.known e (List.mem_cons_of_mem _ he)
    single := fun g hg hspelled hplain ↦ by
      rw [hasKey_cons_iff] at hspelled hplain
      have hkept := hn.single g hg
      rw [RecordField.IsSingle, hasKey_cons_iff, hasKey_cons_iff] at hkept
      rcases hother with rfl | hother
      · exact hkept hspelled hplain
      -- If the name is a new one, the rest has no name of its field: both names of a field stand
      -- at the head, or both in the rest.
      rcases hspelled with hs | hs
      · rcases hplain with hp | hp
        · rw [hs, hp]
        · obtain rfl := RecordField.eq_of_isKey hf hg hkey' (.inl hs.symm)
          exact absurd hp (hother _ (.inr rfl))
      · rcases hplain with hp | hp
        · obtain rfl := RecordField.eq_of_isKey hf hg hkey' (.inr hp.symm)
          exact absurd hs (hother _ (.inl rfl))
        · exact hkept (.inr hs) (.inr hp) }
  given g hg w hw := by
    obtain ⟨name, hname, hm⟩ := RecordField.given_iff.mp hw
    rcases List.mem_cons.mp hm with he | hm
    · cases he
      obtain rfl := RecordField.eq_of_isKey hf hg hkey hname
      exact ⟨v', hv, RecordField.given_iff.mpr ⟨key', hkey', List.mem_cons_self⟩⟩
    · exact ⟨w, .refl w, RecordField.given_iff.mpr ⟨name, hname, List.mem_cons_of_mem _ hm⟩⟩

/-- So may any other entry. -/
theorem of_entry {f : RecordField} (hf : f ∈ RecordField.all) {key key' : String}
    (hkey : f.IsKey key) (hkey' : f.IsKey key') {v v' : Value}
    {before after : List (Value × Value)}
    (hother : key' = key ∨ ∀ name, f.IsKey name → ¬ Value.HasKey (before ++ after) name)
    (hv : Relation.EqvGen (Rewords f) v v') :
    Covers (before ++ (.text key, v) :: after) (before ++ (.text key', v') :: after) :=
  (of_perm List.perm_middle).trans <| (of_head hf hkey hkey' hother hv).trans <|
    of_perm List.perm_middle.symm

end Covers

/-- A change of the spelling puts the entries in other words, and back. -/
theorem Respells.covers (h : Respells entries entries') :
    Covers entries entries' ∧ Covers entries' entries := by
  cases h with
  | permuted h => exact ⟨.of_perm h, .of_perm h.symm⟩
  | renamed hf hkey hkey' before after v hother =>
    exact ⟨.of_entry hf hkey hkey' (.inr hother) (.refl v),
      .of_entry hf hkey' hkey (.inr hother) (.refl v)⟩
  | reworded hf hkey before after h =>
    exact ⟨.of_entry hf hkey hkey (.inl rfl) (.rel _ _ h),
      .of_entry hf hkey hkey (.inl rfl) (.symm _ _ (.rel _ _ h))⟩

/-- So do any number of changes. -/
theorem covers_of_eqvGen (h : Relation.EqvGen Respells entries entries') :
    Covers entries entries' ∧ Covers entries' entries := by
  induction h with
  | rel _ _ h => exact h.covers
  | refl entries => exact ⟨.refl entries, .refl entries⟩
  | symm _ _ _ ih => exact ih.symm
  | trans _ _ _ _ _ ih ih' => exact ⟨ih.1.trans ih'.1, ih'.2.trans ih.2⟩

/-! ### Drafts -/

section Drafts

variable {α : Type} {f : RecordField} {reads : Value → α → Prop} {a other : α}

/-- A field means the same in other words, if its values do. -/
theorem Covers.means (h : Covers entries entries') (hf : f ∈ RecordField.all)
    (hreads : ∀ v v', Rewords f v v' → ∀ a, reads v a ↔ reads v' a)
    (hm : f.Means entries reads a) : f.Means entries' reads a := by
  obtain ⟨v, hv, ha⟩ := hm
  obtain ⟨v', hvv', hv'⟩ := h.given f hf v hv
  have hsame : reads v a ↔ reads v' a := by
    clear hv hv' ha
    induction hvv' with
    | rel v v' h => exact hreads v v' h a
    | refl _ => exact .rfl
    | symm _ _ _ ih => exact ih.symm
    | trans _ _ _ _ _ ih ih' => exact ih.trans ih'
  exact ⟨v', hv', hsame.mp ha⟩

/-- So does one that may be left out. -/
theorem Covers.meansOr (h : Covers entries entries') (h' : Covers entries' entries)
    (hf : f ∈ RecordField.all)
    (hreads : ∀ v v', Rewords f v v' → ∀ a, reads v a ↔ reads v' a)
    (hm : f.MeansOr entries other reads a) : f.MeansOr entries' other reads a := by
  rcases hm with ⟨hnone, rfl⟩ | hm
  · refine .inl ⟨fun v hv ↦ ?_, rfl⟩
    -- It is left out, since what the second entries give it the first ones would give it too.
    obtain ⟨w, -, hw⟩ := h'.given f hf v hv
    exact hnone w hw
  · exact .inr (h.means hf hreads hm)

end Drafts

/-- In other words entries are read as the same draft. -/
theorem Covers.draft_eq_ok [Platform] (h : Covers entries entries') (h' : Covers entries' entries)
    (hkeys : (Value.textKeys entries).Nodup) {d : PayloadDraft} (hd : draft entries = .ok d) :
    draft entries' = .ok d := by
  rw [draft_eq_ok_iff_given hkeys] at hd
  rw [draft_eq_ok_iff_given (h.nodup hkeys)]
  obtain ⟨hnames, hname, hinterpretation, hexecution, husesCallback, htemplate, hvalidation, hregex,
    hvulnerabilities⟩ := hd
  have hverbatim : ∀ {β : Type} {f : RecordField} {reads : Value → β → Prop},
      shortForms? f = none → ∀ v v', Rewords f v v' → ∀ b, reads v b ↔ reads v' b :=
    fun hf _ _ h _ ↦ by rw [eq_of_rewords hf h]
  refine ⟨h.namesFields hnames, h.means (by decide) (hverbatim (by decide)) hname,
    h.means (by decide) (fun _ _ hw _ ↦ ?_) hinterpretation,
    h.means (by decide) (fun _ _ hw _ ↦ ?_) hexecution,
    h.meansOr h' (by decide) (hverbatim (by decide)) husesCallback,
    h.means (by decide) (hverbatim (by decide)) htemplate,
    h.meansOr h' (by decide) (fun _ _ hw _ ↦ ?_) hvalidation,
    h.meansOr h' (by decide) (hverbatim (by decide)) hregex,
    h.means (by decide) (fun _ _ hw _ ↦ ?_) hvulnerabilities⟩
  · rw [readName_of_rewords (by decide +kernel) (by decide) (by decide) hw]
  · rw [readName_of_rewords (by decide +kernel) (by decide) (by decide) hw]
  · rw [readNullable_of_rewords
      (readName_of_rewords (by decide +kernel) (by decide) (by decide) hw) hw]
  · rw [ReadsNames, ReadsNames, listItems_of_rewords hw]

end Record

/-! ### Definitions -/

namespace PayloadCatalog

/-- A record is read as the same definition in every spelling. -/
theorem readRecord_eq_ok_iff_of_respelled [Platform] {record record' : Value}
    {entries entries' : List (Value × Value)} (hr : record.entries? = some entries)
    (hr' : record'.entries? = some entries') (hkeys : (Value.textKeys entries).Nodup)
    (h : Relation.EqvGen Record.Respells entries entries') (source source' : String)
    (index index' : Nat) (d : PayloadDefinition) :
    readRecord source index record = .ok d ↔ readRecord source' index' record' = .ok d := by
  obtain ⟨hcovers, hback⟩ := Record.covers_of_eqvGen h
  rw [readRecord_eq_ok_iff_draft hr, readRecord_eq_ok_iff_draft hr']
  refine exists_congr fun draft ↦ and_congr_left fun _ ↦ ?_
  exact ⟨hcovers.draft_eq_ok hback hkeys, hback.draft_eq_ok hcovers (hcovers.nodup hkeys)⟩

/-- A record in capitals, with its vulnerability in a list at the end, is read like one in which it
stands by itself at the beginning, in small letters and under its other name. -/
theorem readRecord_eq_ok_iff_of_respelled_small :
    let rest : List (Value × Value) :=
      [(.text "name", .text "plain"), (.text "interpretation_environment", .text "ANY"),
       (.text "execution_environment", .text "EXEC_ANY"), (.text "payload_string", .text "id")]
    ∃ d, readRecord "" 0 (.mapping (rest ++ [(.text "vulnerability_type", .list [.text "SSRF"])])) =
        .ok d ∧
      readRecord "" 0 (.mapping ((.text "vulnerabilityType", .text "ssrf") :: rest)) = .ok d := by
  intro rest
  have hf : RecordField.vulnerabilities ∈ RecordField.all := by decide
  have hplain : RecordField.vulnerabilities.IsKey "vulnerability_type" := .inr rfl
  have hother : ∀ name, RecordField.vulnerabilities.IsKey name → ¬ Value.HasKey rest name := by
    rintro name (rfl | rfl) ⟨v, hv⟩ <;> simp [rest, RecordField.vulnerabilities] at hv
  have hmoved : Record.Respells (rest ++ [(.text "vulnerability_type", .list [.text "SSRF"])])
      ((.text "vulnerability_type", .list [.text "SSRF"]) :: rest) :=
    .permuted (List.perm_append_singleton _ _)
  have hsingle : Record.Respells ((.text "vulnerability_type", .text "SSRF") :: rest)
      ((.text "vulnerability_type", .list [.text "SSRF"]) :: rest) :=
    .reworded hf hplain [] rest (.single rfl "SSRF")
  have hsmall : Record.Respells ((.text "vulnerability_type", .text "SSRF") :: rest)
      ((.text "vulnerability_type", .text "ssrf") :: rest) :=
    .reworded hf hplain [] rest (.name Record.shortForms?_vulnerabilities (.letters (by decide)))
  have hrenamed : Record.Respells ((.text "vulnerability_type", .text "ssrf") :: rest)
      ((.text "vulnerabilityType", .text "ssrf") :: rest) :=
    .renamed hf hplain (.inl rfl) [] rest (.text "ssrf") hother
  have hrespelled := Relation.EqvGen.trans _ _ _ (.rel _ _ hmoved) <|
    .trans _ _ _ (.symm _ _ (.rel _ _ hsingle)) <|
    .trans _ _ _ (.rel _ _ hsmall) (.rel _ _ hrenamed)
  let d : PayloadDefinition := ⟨"plain", .any, .any, false, "id", .none, none, [.ssrf]⟩
  have hread : (readRecord "" 0 (.mapping
      (rest ++ [(.text "vulnerability_type", .list [.text "SSRF"])]))).toOption = some d := by
    decide +kernel
  have hd := toOption_eq_some_iff.mp hread
  exact ⟨d, hd, (readRecord_eq_ok_iff_of_respelled
    (Value.entries?_mapping (by decide +kernel)) (Value.entries?_mapping (by decide +kernel))
    (by decide) hrespelled "" "" 0 0 d).mp hd⟩

/-- A record with one vulnerability in a set. -/
def recordWithSet (written : String) : Value :=
  .mapping
    [(.text "name", .text "plain"), (.text "interpretation_environment", .text "ANY"),
     (.text "execution_environment", .text "ANY"), (.text "payload_string", .text "id"),
     (.text "vulnerability_type", .set [.text written])]

/-- The texts of sets are compared as they are written, so another case of theirs does matter. -/
theorem not_readRecord_of_sameLetters_in_set :
    Text.SameLetters "SSRF" "ssrf" ∧
      (∃ d, readRecord "" 0 (recordWithSet "SSRF") = .ok d) ∧
      ¬ ∃ d, readRecord "" 0 (recordWithSet "ssrf") = .ok d := by
  have hcapitals : (readRecord "" 0 (recordWithSet "SSRF")).toOption =
      some ⟨"plain", .any, .any, false, "id", .none, none, [.ssrf]⟩ := by
    decide +kernel
  have hsmall : (readRecord "" 0 (recordWithSet "ssrf")).toOption = none := by
    decide +kernel
  refine ⟨by decide, ⟨_, toOption_eq_some_iff.mp hcapitals⟩, ?_⟩
  rintro ⟨d, hd⟩
  rw [toOption_eq_some_iff.mpr hd] at hsmall
  cases hsmall

end PayloadCatalog
end VulnScanner
