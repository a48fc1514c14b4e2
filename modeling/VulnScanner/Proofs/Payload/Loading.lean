import Mathlib.Data.List.Nodup
import VulnScanner.Payload.Catalog
import VulnScanner.Proofs.Lists
import VulnScanner.Proofs.Steps

/-!
# Loaded definitions

What holds of every definition that a catalog has read from records: its own draft is accepted
again, so that an expression is there exactly if it is what validates, and it has been checked.
Reading a list of records succeeds exactly if each of them gives a definition under a new name.
-/

namespace VulnScanner

variable [Platform]

/-! ### Definitions that fit -/

/-- A definition of which the parts fit together. -/
def PayloadDefinition.Fits (d : PayloadDefinition) : Prop := d.toDraft.define = .ok d

/-- A draft is accepted exactly if it passes the check for its kind. -/
theorem PayloadDraft.define_eq_ok_iff {draft : PayloadDraft} {d : PayloadDefinition} :
    draft.define = .ok d ↔
      (if draft.usesCallback then draft.checkCallback else draft.checkLocal) = .ok () ∧
        draft.withValidation draft.validationType = d := by
  unfold define
  split <;>
  · constructor
    · intro h
      obtain ⟨_, hc, hd⟩ := bind_eq_ok_iff.mp h
      exact ⟨hc, Except.ok.inj hd⟩
    · rintro ⟨hc, rfl⟩
      exact bind_eq_ok_iff.mpr ⟨(), hc, rfl⟩

/-- What a draft defines fits. -/
theorem PayloadDraft.fits_of_define {draft : PayloadDraft} {d : PayloadDefinition}
    (h : draft.define = .ok d) : d.Fits := by
  obtain ⟨-, rfl⟩ := define_eq_ok_iff.mp h
  exact h

namespace PayloadDefinition

variable {d : PayloadDefinition}

/-- A definition that fits and does not use the callback server passes the check of such. -/
theorem Fits.checkLocal (h : d.Fits) (hc : d.usesCallback = false) :
    d.toDraft.checkLocal = .ok () := by
  have hd := (PayloadDraft.define_eq_ok_iff.mp h).1
  rwa [show d.toDraft.usesCallback = false from hc] at hd

/-- A definition that fits and uses the callback server passes the check of such. -/
theorem Fits.checkCallback (h : d.Fits) (hc : d.usesCallback = true) :
    d.toDraft.checkCallback = .ok () := by
  have hd := (PayloadDraft.define_eq_ok_iff.mp h).1
  rwa [show d.toDraft.usesCallback = true from hc] at hd

/-- An expression is checked, and it is what validates, without the callback server. -/
theorem Fits.of_givenRegex (h : d.Fits) {regex : String} (hr : givenRegex d.regex = some regex) :
    d.usesCallback = false ∧ d.validation = .regex ∧ checkRegex regex = .ok () := by
  cases hc : d.usesCallback with
  | true =>
    have hl := h.checkCallback hc
    simp only [PayloadDraft.checkCallback] at hl
    split at hl
    · cases hl
    · rw [show d.toDraft.regex = d.regex from rfl, hr] at hl
      simp at hl
  | false =>
    have hl := h.checkLocal hc
    unfold PayloadDraft.checkLocal at hl
    rw [show d.toDraft.validationType = d.validation from rfl,
      show d.toDraft.regex = d.regex from rfl, hr] at hl
    cases hv : d.validation with
    | none => rw [hv] at hl; cases hl
    | callback => rw [hv] at hl; cases hl
    | regex =>
      rw [hv] at hl
      exact ⟨rfl, rfl, hl⟩

/-- What is validated by an expression has one. -/
theorem Fits.exists_givenRegex (h : d.Fits) (hv : d.validation = .regex) :
    ∃ regex, givenRegex d.regex = some regex := by
  cases hr : givenRegex d.regex with
  | some regex => exact ⟨regex, rfl⟩
  | none =>
    cases hc : d.usesCallback with
    | true =>
      have hl := h.checkCallback hc
      simp only [PayloadDraft.checkCallback] at hl
      rw [show d.toDraft.validationType = d.validation from rfl, hv] at hl
      cases hl
    | false =>
      have hl := h.checkLocal hc
      unfold PayloadDraft.checkLocal at hl
      rw [show d.toDraft.validationType = d.validation from rfl,
        show d.toDraft.regex = d.regex from rfl, hr, hv] at hl
      cases hl

end PayloadDefinition

/-! ### Records that give definitions -/

/-- A record gives a definition if its fields are read as a draft, and the parts of the draft fit
together. -/
def Record.Gives (record : Value) (d : PayloadDefinition) : Prop :=
  ∃ entries draft, record.entries? = some entries ∧ Record.draft entries = .ok draft ∧
    draft.define = .ok d

namespace PayloadCatalog

variable {source : String} {index : Nat} {record : Value} {records : List Value}
  {d : PayloadDefinition} {done ds : List PayloadDefinition}

/-- A record is read as the definition that it gives. -/
theorem readRecord_eq_ok_iff_gives :
    readRecord source index record = .ok d ↔ Record.Gives record d := by
  unfold readRecord Record.Gives
  cases record.entries? with
  | none => simp
  | some entries =>
    cases hdraft : Record.draft entries with
    | error faults => simp [hdraft]
    | ok draft => simp [hdraft, mapError_eq_ok_iff]

/-- Records are read one after another. -/
theorem readRecords_append (more : List Value) :
    readRecords source done (records ++ more) =
      readRecords source done records >>= (readRecords source · more) := by
  induction records generalizing done with
  | nil => rfl
  | cons record rest ih =>
    rw [List.cons_append, readRecords, readRecords]
    cases readRecord source done.length record with
    | error fault => rfl
    | ok d =>
      dsimp only
      split
      · rfl
      · exact ih

omit [Platform] in
/-- A name of a definition is taken if one that has been read has it. -/
theorem any_name_eq_true_iff : done.any (·.name == d.name) = true ↔ d.name ∈ done.map (·.name) := by
  simp [List.any_eq_true]

omit [Platform] in
private theorem nodup_map_append (hdone : (done.map (·.name)).Nodup)
    (hd : d.name ∉ done.map (·.name)) : ((done ++ [d]).map (·.name)).Nodup := by
  rw [List.map_append, List.map_singleton, List.nodup_append_comm]
  exact List.nodup_cons.mpr ⟨hd, hdone⟩

/-- Reading records behind others adds the definitions that they give, and succeeds exactly if each
record gives one and no name stands twice. -/
theorem readRecords_eq_ok_iff_gives (hdone : (done.map (·.name)).Nodup) :
    readRecords source done records = .ok ds ↔
      ∃ new, ds = done ++ new ∧ List.Forall₂ Record.Gives records new ∧
        (ds.map (·.name)).Nodup := by
  induction records generalizing done with
  | nil =>
    rw [readRecords, Except.ok.injEq]
    constructor
    · rintro rfl
      exact ⟨[], (List.append_nil _).symm, .nil, hdone⟩
    · rintro ⟨new, rfl, hnew, -⟩
      cases hnew
      exact (List.append_nil _).symm
  | cons record rest ih =>
    have hread : ∀ d, Record.Gives record d ↔ readRecord source done.length record = .ok d :=
      fun d ↦ readRecord_eq_ok_iff_gives.symm
    rw [readRecords]
    cases hr : readRecord source done.length record with
    | error fault =>
      have hnone : ∀ d, ¬ Record.Gives record d := by simp [hread, hr]
      simp [List.forall₂_cons_left_iff, hnone]
    | ok d =>
      have hd : ∀ d', Record.Gives record d' ↔ d = d' := by simp [hread, hr]
      dsimp only
      by_cases htaken : d.name ∈ done.map (·.name)
      · rw [if_pos (any_name_eq_true_iff.mpr htaken)]
        simp only [reduceCtorEq, false_iff]
        rintro ⟨new, rfl, hnew, hnodup⟩
        obtain ⟨d', rest', hd', -, rfl⟩ := List.forall₂_cons_left_iff.mp hnew
        rw [← (hd d').mp hd', List.map_append, List.nodup_append] at hnodup
        exact hnodup.2.2 _ htaken _ List.mem_cons_self rfl
      · rw [if_neg (any_name_eq_true_iff.not.mpr htaken), ih (nodup_map_append hdone htaken)]
        constructor
        · rintro ⟨new, rfl, hnew, hnodup⟩
          exact ⟨d :: new, List.append_assoc .., .cons ((hd d).mpr rfl) hnew, hnodup⟩
        · rintro ⟨new, rfl, hnew, hnodup⟩
          obtain ⟨d', rest', hd', hrest, rfl⟩ := List.forall₂_cons_left_iff.mp hnew
          cases (hd d').mp hd'
          exact ⟨rest', List.append_cons done d rest', hrest, hnodup⟩

/-- A list of records is read exactly if each of them gives a definition, and no name stands
twice. -/
theorem readRecords_nil_eq_ok_iff :
    readRecords source [] records = .ok ds ↔
      List.Forall₂ Record.Gives records ds ∧ (ds.map (·.name)).Nodup := by
  rw [readRecords_eq_ok_iff_gives (by simp)]
  simp only [List.nil_append, exists_eq_left']

end PayloadCatalog

/-! ### Catalogs that have been read -/

namespace PayloadCatalog

/-- A record under its plain field names; without an expression it uses the callback server. -/
def plainRecord (name interpretation execution template : String) (regex : Option String)
    (vulnerabilities : List String) : Value :=
  .mapping <|
    [(.text "name", .text name),
     (.text "interpretation_environment", .text interpretation),
     (.text "execution_environment", .text execution),
     (.text "uses_callback_server", .bool regex.isNone),
     (.text "payload_string", .text template)] ++
    regex.toList.map (fun regex ↦ (.text "validation_regex", .text regex)) ++
    [(.text "vulnerability_type", .list (vulnerabilities.map .text))]

/-- A catalog that has been read from records. -/
def Loaded (c : PayloadCatalog) : Prop :=
  ∃ source records, readRecords source [] records = .ok c.payloads

/-- A catalog in a document has been read from records. -/
theorem loaded_of_ofValue {document : Value} {source : String} {c : PayloadCatalog}
    (h : ofValue document source = .ok c) : c.Loaded := by
  obtain ⟨records, -, h⟩ := bind_eq_ok_iff.mp h
  obtain ⟨payloads, hr, h⟩ := bind_eq_ok_iff.mp h
  cases h
  exact ⟨source, records, hr⟩

/-- A catalog in the text of a document has been read from records. -/
theorem loaded_of_ofText {text : List Char} {source : String} {c : PayloadCatalog}
    (h : ofText text source = .ok c) : c.Loaded := by
  unfold ofText at h
  split at h
  · exact loaded_of_ofValue h
  · cases h
  · cases h

/-- What is known of every definition that a record gives is known of those of a loaded catalog. -/
theorem Loaded.of_gives {P : PayloadDefinition → Prop} (hP : ∀ r d, Record.Gives r d → P d)
    {c : PayloadCatalog} (h : c.Loaded) {d : PayloadDefinition} (hd : d ∈ c.payloads) : P d := by
  obtain ⟨source, records, hread⟩ := h
  obtain ⟨r, -, hr⟩ := exists_of_mem_of_forall₂ (readRecords_nil_eq_ok_iff.mp hread).1.flip hd
  exact hP r d hr

/-- The definitions of a loaded catalog fit. -/
theorem Loaded.fits {c : PayloadCatalog} (h : c.Loaded) {d : PayloadDefinition}
    (hd : d ∈ c.payloads) : d.Fits :=
  h.of_gives (fun _ _ ⟨_, _, _, _, hdefine⟩ ↦ PayloadDraft.fits_of_define hdefine) hd

/-- The definitions of a loaded catalog have different names. -/
theorem Loaded.nodup_names {c : PayloadCatalog} (h : c.Loaded) :
    (c.payloads.map (·.name)).Nodup := by
  obtain ⟨source, records, hread⟩ := h
  exact (readRecords_nil_eq_ok_iff.mp hread).2

end PayloadCatalog
end VulnScanner
