import VulnScanner.Proofs.Payload.Loading

/-!
# Limits that are met while a catalog is read

A record that cannot be used makes a list refused as a catalog, unless a limit is met: its
expression counts too far or nests too deep, or what it is called cannot be written out when it is
refused. The records are looked at in their order, so this comes to light only if all records before
it can be used.
-/

namespace VulnScanner

variable [Platform]

/-- The fault of an expression tells with what in the place of the token it was read. -/
theorem checkRegex_eq_error_iff {regex : String} {fault : MismatchFault} :
    checkRegex regex = .error fault ↔
      ∃ e, Regex.Pattern.compile {} (regexFor zeroToken regex) = .error e ∧
        fault = .regexUnusable ⟨regexFor zeroToken regex, e⟩ := by
  unfold checkRegex
  cases h : Regex.Pattern.compile {} (regexFor zeroToken regex) with
  | ok p => simp [h]
  | error e => simp [h, eq_comm]

omit [Platform] in
/-- Of the limits, counting too far is an overflow and nesting too deep a failure of the run. -/
theorem Regex.Error.isLimit_iff {e : Regex.Error} :
    e.isLimit = true ↔ e = .countTooLarge ∨ e = .tooDeep := by
  cases e <;> simp [Regex.Error.isLimit]

/-! ### Drafts -/

namespace PayloadDraft

variable {draft : PayloadDraft} {pattern : PatternFault}

/-- The draft has an expression that is not empty. -/
def HasRegex (draft : PayloadDraft) (regex : String) : Prop :=
  draft.regex = some regex ∧ regex ≠ ""

omit [Platform] in
/-- The expression of a draft is the one that it has. -/
theorem givenRegex_eq_some_iff {regex : String} :
    givenRegex draft.regex = some regex ↔ draft.HasRegex regex := by
  unfold givenRegex HasRegex
  rw [Option.filter_eq_some_iff, bne_iff_ne]

/-- The expression that a draft is validated by counts too far or nests too deep. -/
structure MeetsLimit (draft : PayloadDraft) (pattern : PatternFault) : Prop where
  usesCallback : draft.usesCallback = false
  validationType : draft.validationType = .regex
  regex : ∃ regex, draft.HasRegex regex ∧ pattern.source = regexFor zeroToken regex ∧
    Regex.Pattern.compile {} (regexFor zeroToken regex) = .error pattern.error
  error : pattern.error = .countTooLarge ∨ pattern.error = .tooDeep

/-- A limit of an expression is not reported as a catalog fault. -/
theorem MeetsLimit.kind_ne_catalog (h : draft.MeetsLimit pattern) :
    (CatalogFault.regexLimit pattern).kind ≠ .catalog := by
  rw [CatalogFault.kind, PatternFault.kind]
  rcases h.error with he | he <;> rw [he] <;> exact fun h ↦ nomatch h

private theorem define_eq_error_iff {fault : MismatchFault} :
    draft.define = .error fault ↔
      (if draft.usesCallback then draft.checkCallback else draft.checkLocal) = .error fault := by
  unfold define
  cases hc : draft.usesCallback <;> simp [bind_eq_error_iff, pure, Except.pure]

omit [Platform] in
private theorem checkCallback_ne_unusable :
    draft.checkCallback ≠ .error (.regexUnusable pattern) := by
  unfold checkCallback
  split
  · exact fun h ↦ nomatch h
  split
  · exact fun h ↦ nomatch h
  split <;> exact fun h ↦ nomatch h

private theorem checkLocal_eq_unusable_iff :
    draft.checkLocal = .error (.regexUnusable pattern) ↔
      draft.validationType = .regex ∧ ∃ regex, draft.HasRegex regex ∧
        checkRegex regex = .error (.regexUnusable pattern) := by
  simp only [← givenRegex_eq_some_iff]
  unfold checkLocal
  cases ht : draft.validationType <;> cases hr : givenRegex draft.regex <;> simp

/-- A draft is refused for a limit exactly if its expression meets it. -/
theorem define_eq_limit_iff :
    draft.define = .error (.regexUnusable pattern) ∧ pattern.error.isLimit = true ↔
      draft.MeetsLimit pattern := by
  rw [define_eq_error_iff, Regex.Error.isLimit_iff]
  constructor
  · rintro ⟨h, hlimit⟩
    cases hc : draft.usesCallback with
    | true =>
      rw [hc, if_pos rfl] at h
      exact absurd h checkCallback_ne_unusable
    | false =>
      rw [hc, if_neg Bool.false_ne_true] at h
      obtain ⟨ht, regex, hr, hcheck⟩ := checkLocal_eq_unusable_iff.mp h
      obtain ⟨e, he, hfault⟩ := checkRegex_eq_error_iff.mp hcheck
      cases hfault
      exact ⟨hc, ht, ⟨regex, hr, rfl, he⟩, hlimit⟩
  · rintro ⟨hc, ht, ⟨regex, hr, hsource, he⟩, hlimit⟩
    refine ⟨?_, hlimit⟩
    rw [hc, if_neg Bool.false_ne_true]
    refine checkLocal_eq_unusable_iff.mpr ⟨ht, regex, hr, checkRegex_eq_error_iff.mpr ⟨_, he, ?_⟩⟩
    rw [← hsource]

end PayloadDraft

/-! ### Records -/

namespace Record

variable {record : Value} {entries : List (Value × Value)}

/-- How the entries of a record are refused: its fields are wrong, or they do not fit together,
which is not so where a limit is met. -/
inductive IsRefused (entries : List (Value × Value)) : List RecordFault → Prop
  | fields {faults : List RecordFault} (h : Record.draft entries = .error faults) :
      IsRefused entries faults
  | mismatch {draft : PayloadDraft} {mismatch : MismatchFault}
      (hdraft : Record.draft entries = .ok draft) (hdefine : draft.define = .error mismatch)
      (hlimit : ∀ pattern, ¬ draft.MeetsLimit pattern) :
      IsRefused entries [⟨.mismatch mismatch, []⟩]

/-- The limits that are met where a record is read: the record is in order up to its expression,
which counts too far or nests too deep, or it is refused and its name cannot be written out. -/
inductive MeetsLimit (record : Value) : CatalogFault → Prop
  | regex {entries : List (Value × Value)} {draft : PayloadDraft} {pattern : PatternFault}
      (hentries : record.entries? = some entries) (hdraft : Record.draft entries = .ok draft)
      (h : draft.MeetsLimit pattern) : MeetsLimit record (.regexLimit pattern)
  | name {entries : List (Value × Value)} {faults : List RecordFault} {name : Value}
      {fault : DisplayFault} (hentries : record.entries? = some entries)
      (hrefused : IsRefused entries faults) (hname : Value.field? entries "name" = some name)
      (htruthy : name.isTruthy = true) (hfault : name.displayFault? = some fault) :
      MeetsLimit record (.unwritable fault)

end Record

namespace PayloadCatalog

open Record

variable {source : String} {index : Nat} {record document : Value} {records : List Value}
  {entries : List (Value × Value)} {done : List PayloadDefinition} {fault : CatalogFault}

/-- What a record is called cannot be written out if it is its name and this cannot. -/
theorem label_eq_error_iff {fault : DisplayFault} :
    label index entries = .error fault ↔ ∃ name, Value.field? entries "name" = some name ∧
      name.isTruthy = true ∧ name.displayFault? = some fault := by
  unfold label Value.written
  cases Value.field? entries "name" with
  | none => simp
  | some name =>
    cases ht : name.isTruthy with
    | false => simp [Option.filter_some, ht]
    | true => cases hf : name.displayFault? <;> simp [Option.filter_some, ht, hf]

/-- A refusal is that of a catalog unless what the record is called cannot be written out. -/
theorem refusal_kind_ne_iff {faults : List RecordFault} :
    (refusal source index entries faults).kind ≠ .catalog ↔
      ∃ fault, label index entries = .error fault ∧
        refusal source index entries faults = .unwritable fault := by
  unfold refusal
  cases hlabel : label index entries with
  | ok label => simp [CatalogFault.kind]
  | error fault => cases fault <;> simp [CatalogFault.kind, DisplayFault.kind]

/-- How a mismatch is reported: as the limit that is met, or by refusing the record. -/
theorem mismatchFault_eq (source : String) (index : Nat) (entries : List (Value × Value))
    {draft : PayloadDraft} {mismatch : MismatchFault} (h : draft.define = .error mismatch) :
    (∃ pattern, draft.MeetsLimit pattern ∧
        mismatchFault source index entries mismatch = .regexLimit pattern) ∨
      (∀ pattern, ¬ draft.MeetsLimit pattern) ∧
        mismatchFault source index entries mismatch =
          refusal source index entries [⟨.mismatch mismatch, []⟩] := by
  have hunique : ∀ pattern, draft.MeetsLimit pattern →
      mismatch = .regexUnusable pattern ∧ pattern.error.isLimit = true := by
    intro pattern hlimit
    obtain ⟨hdefine, hlimit⟩ := PayloadDraft.define_eq_limit_iff.mpr hlimit
    exact ⟨Except.error.inj (h.symm.trans hdefine), hlimit⟩
  unfold mismatchFault
  split
  next pattern =>
    cases hlimit : pattern.error.isLimit with
    | true => exact .inl ⟨pattern, PayloadDraft.define_eq_limit_iff.mp ⟨h, hlimit⟩, rfl⟩
    | false =>
      refine .inr ⟨fun other hother ↦ ?_, rfl⟩
      obtain ⟨he, hother⟩ := hunique other hother
      cases he
      rw [hlimit] at hother
      cases hother
  next hne => exact .inr ⟨fun pattern hlimit ↦ hne pattern (hunique pattern hlimit).1, rfl⟩

/-- How a record is refused: it is no mapping, its expression meets a limit, or its fields are wrong
or do not fit together. -/
theorem readRecord_eq_error_iff :
    readRecord source index record = .error fault ↔
      (record.entries? = none ∧ fault = .notMapping index source) ∨
        ∃ entries, record.entries? = some entries ∧
          ((∃ draft pattern, Record.draft entries = .ok draft ∧ draft.MeetsLimit pattern ∧
              fault = .regexLimit pattern) ∨
            ∃ faults, IsRefused entries faults ∧
              fault = refusal source index entries faults) := by
  unfold readRecord
  cases hentries : record.entries? with
  | none => simp [eq_comm]
  | some entries =>
    simp only [reduceCtorEq, false_and, false_or, Option.some.injEq, exists_eq_left']
    constructor
    · intro h
      cases hdraft : Record.draft entries with
      | error faults =>
        rw [hdraft] at h
        cases h
        exact .inr ⟨faults, .fields hdraft, rfl⟩
      | ok draft =>
        rw [hdraft] at h
        dsimp only at h
        cases hdefine : draft.define with
        | ok d =>
          rw [hdefine] at h
          cases h
        | error mismatch =>
          rw [hdefine, mapError_error] at h
          cases h
          rcases mismatchFault_eq source index entries hdefine
            with ⟨pattern, hlimit, heq⟩ | ⟨hlimit, heq⟩
          · exact .inl ⟨draft, pattern, rfl, hlimit, heq⟩
          · exact .inr ⟨_, .mismatch hdraft hdefine hlimit, heq⟩
    · rintro (⟨draft, pattern, hdraft, hlimit, rfl⟩ | ⟨faults, hrefused, rfl⟩)
      · obtain ⟨hdefine, hlimit⟩ := PayloadDraft.define_eq_limit_iff.mpr hlimit
        rw [hdraft]
        dsimp only
        rw [hdefine, mapError_error, mismatchFault, if_pos hlimit]
      · cases hrefused with
        | fields hdraft => rw [hdraft]
        | mismatch hdraft hdefine hlimit =>
          rw [hdraft]
          dsimp only
          rw [hdefine, mapError_error]
          rcases mismatchFault_eq source index entries hdefine
            with ⟨pattern, hmet, -⟩ | ⟨-, heq⟩
          · exact absurd hmet (hlimit pattern)
          · rw [heq]

/-- A record is refused as something else than a catalog exactly if a limit is met. -/
theorem readRecord_fails_otherwise_iff :
    readRecord source index record = .error fault ∧ fault.kind ≠ .catalog ↔
      Record.MeetsLimit record fault := by
  rw [readRecord_eq_error_iff]
  constructor
  · rintro ⟨⟨-, rfl⟩ | ⟨entries, hentries, h⟩, hkind⟩
    · exact absurd rfl hkind
    rcases h with ⟨draft, pattern, hdraft, hlimit, rfl⟩ | ⟨faults, hrefused, rfl⟩
    · exact .regex hentries hdraft hlimit
    · obtain ⟨fault, hlabel, heq⟩ := refusal_kind_ne_iff.mp hkind
      obtain ⟨name, hname, htruthy, hfault⟩ := label_eq_error_iff.mp hlabel
      rw [heq]
      exact .name hentries hrefused hname htruthy hfault
  · intro h
    cases h with
    | @regex entries draft pattern hentries hdraft hlimit =>
      exact ⟨.inr ⟨entries, hentries, .inl ⟨draft, pattern, hdraft, hlimit, rfl⟩⟩,
        hlimit.kind_ne_catalog⟩
    | @name entries faults name fault hentries hrefused hname htruthy hfault =>
      have hlabel : label index entries = .error fault :=
        label_eq_error_iff.mpr ⟨name, hname, htruthy, hfault⟩
      have heq : refusal source index entries faults = .unwritable fault := by
        rw [refusal, hlabel]
      refine ⟨.inr ⟨entries, hentries, .inr ⟨faults, hrefused, heq.symm⟩⟩, ?_⟩
      rw [← heq]
      exact refusal_kind_ne_iff.mpr ⟨fault, hlabel, heq⟩

/-- How records are refused: one of them cannot be read, or it has the name of one before it. -/
theorem readRecords_eq_error_iff :
    readRecords source done records = .error fault ↔
      ∃ before record after ds, records = before ++ record :: after ∧
        readRecords source done before = .ok ds ∧
          (readRecord source ds.length record = .error fault ∨
            ∃ d, readRecord source ds.length record = .ok d ∧ ds.any (·.name == d.name) = true ∧
              fault = .duplicateName d.name source) := by
  constructor
  · intro h
    induction records generalizing done with
    | nil => cases h
    | cons first rest ih =>
      rw [readRecords] at h
      cases hfirst : readRecord source done.length first with
      | error fault' =>
        rw [hfirst] at h
        cases h
        exact ⟨[], first, rest, done, rfl, rfl, .inl hfirst⟩
      | ok d =>
        rw [hfirst] at h
        dsimp only at h
        split at h
        · next htaken =>
          cases h
          exact ⟨[], first, rest, done, rfl, rfl, .inr ⟨d, hfirst, htaken, rfl⟩⟩
        · next hnew =>
          obtain ⟨before, record, after, ds, rfl, hds, h⟩ := ih h
          refine ⟨first :: before, record, after, ds, rfl, ?_, h⟩
          rw [readRecords, hfirst]
          exact (if_neg hnew).trans hds
  · rintro ⟨before, record, after, ds, rfl, hds, h⟩
    rw [readRecords_append, hds, ok_bind, readRecords]
    rcases h with h | ⟨d, hd, htaken, rfl⟩
    · rw [h]
    · rw [hd]
      exact if_pos htaken

/-- A limit is met at one of the records, and those before it can be used. -/
def MeetsLimit (source : String) (records : List Value) (fault : CatalogFault) : Prop :=
  ∃ before record after ds, records = before ++ record :: after ∧
    readRecords source [] before = .ok ds ∧ Record.MeetsLimit record fault

/-- Records are refused as something else than a catalog exactly if a limit is met at one of them
and those before it can be used. -/
theorem readRecords_fails_otherwise_iff :
    readRecords source [] records = .error fault ∧ fault.kind ≠ .catalog ↔
      MeetsLimit source records fault := by
  rw [readRecords_eq_error_iff]
  constructor
  · rintro ⟨⟨before, record, after, ds, happend, hds, h | ⟨_, -, -, rfl⟩⟩, hkind⟩
    · exact ⟨before, record, after, ds, happend, hds, readRecord_fails_otherwise_iff.mp ⟨h, hkind⟩⟩
    · exact absurd rfl hkind
  · rintro ⟨before, record, after, ds, happend, hds, h⟩
    obtain ⟨h, hkind⟩ := readRecord_fails_otherwise_iff.mpr h
    exact ⟨⟨before, record, after, ds, happend, hds, .inl h⟩, hkind⟩

/-! ### Documents -/

/-- A record in loose wording. -/
def looseRecord : Value :=
  .mapping
    [(.text "name", .text "ssrf"), (.text "interpretationEnvironment", .text " any\n"),
     (.text "execution_environment", .text "interpretation_Environment"),
     (.text "usesCallbackServer", .text "Yes"), (.text "payloadString", .text "curl $TOKEN_URL"),
     (.text "validationType", .null), (.text "vulnerability_type", .text " Ssrf")]

/-- A record with an expression that counts too far. -/
def countingRecord : Value :=
  plainRecord "counting" "LINUX_SHELL" "EXEC_ANY" "id" (some "a{99999999999}") ["SSRF"]

/-- A record with an expression in which a group stands in another. -/
def nestedRecord : Value :=
  plainRecord "nested" "LINUX_SHELL" "EXEC_ANY" "id" (some "((a))") ["SSRF"]

/-- A record of which the name is a number that is too large to be written out. -/
def hugeRecord : Value := .mapping [(.text "name", .int (Binary64.tenTo Number.digitLimit))]

omit [Platform] in
private theorem kind_of_recordsOf (h : recordsOf source document = .error fault) :
    fault.kind = .catalog := by
  unfold recordsOf at h
  dsimp only at h
  split at h
  · cases h
  · cases h
  · cases h
    rfl

/-- A document is refused as something else than a catalog exactly if a limit is met at one of its
records and those before it can be used. -/
theorem ofValue_fails_otherwise_iff :
    ofValue document source = .error fault ∧ fault.kind ≠ .catalog ↔
      ∃ records, recordsOf source document = .ok records ∧ MeetsLimit source records fault := by
  unfold ofValue
  simp only [← readRecords_fails_otherwise_iff]
  cases h : recordsOf source document with
  | error fault' =>
    have hkind := kind_of_recordsOf h
    simp only [error_bind, Except.error.injEq, reduceCtorEq, false_and, exists_false, iff_false]
    rintro ⟨rfl, h⟩
    exact h hkind
  | ok records => simp [bind_eq_error_iff, pure, Except.pure]

end PayloadCatalog
end VulnScanner
