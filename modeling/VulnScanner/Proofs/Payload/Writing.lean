import VulnScanner.Proofs.Payload.Described

/-!
# Definitions that are written out

A definition is written out as a record that leaves nothing open: all fields are there, each under
one of its names, with the full names of closed lists, the way of validation that was found, and
null in the place of an expression that is missing. What has been loaded is written out as records
that are loaded as the same definitions.
-/

namespace VulnScanner

/-! ### Filled definitions -/

/-- What every definition has that a record gives: a name, a template and something that it is for,
and parts that fit together. -/
structure PayloadDefinition.Filled [Platform] (d : PayloadDefinition) : Prop where
  name : d.name ≠ ""
  template : d.template ≠ ""
  vulnerabilities : d.vulnerabilities ≠ []
  fits : d.Fits

/-- A field that must be there is read from some value. -/
theorem RecordField.exists_of_required_eq_ok {α : Type} {f : RecordField}
    {entries : List (Value × Value)} {read : String → Value → Checked α} {a : α}
    (h : f.required entries read = .ok a) : ∃ key v, read key v = .ok a := by
  unfold required at h
  split at h
  · exact ⟨_, _, h⟩
  · cases h

namespace Record

variable {record v : Value} {d : PayloadDefinition} {s : String}

/-- A text that is read as a filled one is not empty. -/
theorem ne_empty_of_readFilledText (h : readFilledText v = .ok s) : s ≠ "" := by
  obtain ⟨t, -, ht⟩ := bind_eq_ok_iff.mp h
  split at ht
  · cases ht
  · next hne =>
    cases ht
    exact hne

/-- A record gives filled definitions only. -/
theorem Gives.filled [Platform] (h : Gives record d) : d.Filled := by
  obtain ⟨entries, draft, -, hdraft, hdefine⟩ := h
  obtain ⟨-, hname, -, -, -, htemplate, -, -, hvulnerabilities⟩ :=
    draft_eq_ok_iff_parts.mp hdraft
  have hfits := PayloadDraft.fits_of_define hdefine
  obtain ⟨-, rfl⟩ := PayloadDraft.define_eq_ok_iff.mp hdefine
  obtain ⟨_, _, hname⟩ := RecordField.exists_of_required_eq_ok hname
  obtain ⟨_, _, htemplate⟩ := RecordField.exists_of_required_eq_ok htemplate
  obtain ⟨_, _, hvulnerabilities⟩ := RecordField.exists_of_required_eq_ok hvulnerabilities
  exact {
    name := ne_empty_of_readFilledText (under_eq_ok_iff.mp hname)
    template := ne_empty_of_readFilledText (under_eq_ok_iff.mp htemplate)
    vulnerabilities := (readNames_eq_ok_iff.mp hvulnerabilities).2
    fits := hfits }

/-! ### Full names -/

/-- A closed list of which the names are written in capitals, without blanks around them. -/
class CapitalNamed (α : Type) [Named α] : Prop where
  capitals_name (a : α) : capitals (Named.name a) = Named.name a

instance : CapitalNamed InterpretationEnvironment where
  capitals_name a := by cases a <;> decide +kernel

instance : CapitalNamed ExecutionEnvironment where
  capitals_name a := by cases a <;> decide +kernel

instance : CapitalNamed ValidationType where
  capitals_name a := by cases a <;> decide +kernel

instance : CapitalNamed VulnerabilityType where
  capitals_name a := by cases a <;> decide +kernel

section Names

variable {α : Type} [Named α] [CapitalNamed α]

/-- A full name stands for its member. -/
theorem isName_name (a : α) : IsName (.text (Named.name a)) a :=
  ⟨_, rfl, .inl (CapitalNamed.capitals_name a)⟩

/-- A list of full names stands for their members. -/
theorem isNames_map_name {as : List α} (h : as ≠ []) :
    IsNames (.list (as.map fun a ↦ .text (Named.name a))) as := by
  refine ⟨.list ?_, h⟩
  rw [List.forall₂_map_left_iff, List.forall₂_same]
  exact fun a _ ↦ ⟨_, rfl, CapitalNamed.capitals_name a⟩

end Names

end Record

/-! ### Definitions as records -/

namespace PayloadDefinition

open Record

/-- The value of a field of a definition: members of closed lists are written by their full names,
and the name of a payload is the field that is left. -/
def valueOf (d : PayloadDefinition) (f : RecordField) : Value :=
  if f = .interpretation then .text (Named.name d.interpretation)
  else if f = .execution then .text (Named.name d.execution)
  else if f = .usesCallback then .bool d.usesCallback
  else if f = .template then .text d.template
  else if f = .validation then .text (Named.name d.validation)
  else if f = .regex then (d.regex.map Value.text).getD .null
  else if f = .vulnerabilities then .list (d.vulnerabilities.map fun v ↦ .text (Named.name v))
  else .text d.name

/-- All fields of a definition as entries of a record, under the names that are chosen. -/
def entriesUnder (key : RecordField → String) (d : PayloadDefinition) : List (Value × Value) :=
  RecordField.all.map fun f ↦ (.text (key f), d.valueOf f)

/-- A record writes a definition out if it holds all of its fields, each under one of its names, in
any order. -/
def IsWrittenAs (d : PayloadDefinition) (record : Value) : Prop :=
  ∃ key entries, (∀ f ∈ RecordField.all, f.IsKey (key f)) ∧
    entries.Perm (d.entriesUnder key) ∧ record = .mapping entries

variable {d : PayloadDefinition} {key : RecordField → String} {entries : List (Value × Value)}

/-- The values of all fields are plain. -/
theorem isPlain_valueOf (d : PayloadDefinition) (f : RecordField) :
    (d.valueOf f).isPlain = true := by
  have hregex : ((d.regex.map Value.text).getD .null).isPlain = true := by
    cases d.regex <;> rfl
  have hnames : (Value.list (d.vulnerabilities.map fun v ↦ .text (Named.name v))).isPlain =
      true := by
    rw [Value.isPlain, Value.arePlain_iff, List.forall_mem_map]
    exact fun _ _ ↦ rfl
  unfold valueOf
  split_ifs
  exacts [rfl, rfl, rfl, rfl, rfl, hregex, hnames, rfl]

section WrittenOut

variable (hkey : ∀ f ∈ RecordField.all, f.IsKey (key f)) (h : entries.Perm (d.entriesUnder key))

include h

/-- What stands in the record is a field of the definition. -/
theorem exists_field_of_mem {e : Value × Value} (he : e ∈ entries) :
    ∃ f ∈ RecordField.all, e = (.text (key f), d.valueOf f) := by
  obtain ⟨f, hf, rfl⟩ := List.mem_map.mp (h.mem_iff.mp he)
  exact ⟨f, hf, rfl⟩

include hkey

/-- Each field is given its value in the definition. -/
theorem given_valueOf {f : RecordField} (hf : f ∈ RecordField.all) :
    f.Given entries (d.valueOf f) :=
  RecordField.given_iff.mpr ⟨key f, hkey f hf, h.mem_iff.mpr (List.mem_map_of_mem hf)⟩

/-- A name of a field stands in the record only if it is the one that is chosen. -/
theorem eq_key_of_hasKey {f : RecordField} (hf : f ∈ RecordField.all) {name : String}
    (hname : f.IsKey name) (hk : Value.HasKey entries name) : name = key f := by
  obtain ⟨v, hv⟩ := hk
  obtain ⟨g, hg, he⟩ := exists_field_of_mem h hv
  obtain rfl := Value.text.inj (Prod.mk.inj he).1
  rw [RecordField.eq_of_isKey hf hg hname (hkey g hg)]

/-- The names are those of different fields. -/
theorem namesFields_of_perm : NamesFields entries where
  known e he := by
    obtain ⟨f, hf, rfl⟩ := exists_field_of_mem h he
    refine ⟨f, hf, ?_⟩
    rw [Value.text.injEq, Value.text.injEq]
    exact hkey f hf
  single f hf hspelled hplain :=
    (eq_key_of_hasKey hkey h hf (.inl rfl) hspelled).trans
      (eq_key_of_hasKey hkey h hf (.inr rfl) hplain).symm

/-- The record is plain. -/
theorem arePlainEntries_of_perm : Value.arePlainEntries entries = true := by
  rw [Value.arePlainEntries_iff]
  constructor
  · intro e he
    obtain ⟨f, -, rfl⟩ := exists_field_of_mem h he
    exact ⟨rfl, isPlain_valueOf d f⟩
  · have hkeys : (d.entriesUnder key).Pairwise fun e e' ↦ e.1 ≠ e'.1 := by
      have hall : RecordField.all.Pairwise (· ≠ ·) := by decide
      refine List.pairwise_map.mpr (hall.imp_of_mem fun hf hg hne he ↦ hne ?_)
      have hname := Value.text.inj he ▸ hkey _ hg
      exact (RecordField.eq_of_isKey hf hg (hkey _ hf) hname).symm
    have hentries := (h.pairwise_iff fun hne ↦ hne.symm).mpr hkeys
    refine hentries.imp_of_mem fun he he' hne ↦ ?_
    obtain ⟨f, -, rfl⟩ := exists_field_of_mem h he
    obtain ⟨g, -, rfl⟩ := exists_field_of_mem h he'
    simpa [Value.sameKey] using hne

/-- The record spells the definition out, with its way of validation. -/
theorem Filled.spells [Platform] (hd : d.Filled) : Spells entries d.toDraft :=
  have hgiven {f : RecordField} (hf : f ∈ RecordField.all) := given_valueOf hkey h hf
  { namesFields_of_perm hkey h with
    name := ⟨_, hgiven (by decide), rfl, hd.name⟩
    interpretation := ⟨_, hgiven (by decide), isName_name _⟩
    execution := ⟨_, hgiven (by decide), isName_name _⟩
    usesCallback := .inr ⟨_, hgiven (by decide), .bool _⟩
    template := ⟨_, hgiven (by decide), rfl, hd.template⟩
    validation := .inr ⟨_, hgiven (by decide), .value (isName_name _)⟩
    regex := by
      refine .inr ⟨_, hgiven (by decide), ?_⟩
      change OrNull _ ((d.regex.map Value.text).getD .null) d.regex
      cases d.regex with
      | none => exact .null
      | some regex => exact .value rfl
    vulnerabilities := ⟨_, hgiven (by decide), isNames_map_name hd.vulnerabilities⟩ }

end WrittenOut

variable {record : Value}

/-- A definition is written out as a plain record. -/
theorem IsWrittenAs.isPlain (h : d.IsWrittenAs record) : record.isPlain = true := by
  obtain ⟨key, entries, hkey, hperm, rfl⟩ := h
  exact arePlainEntries_of_perm hkey hperm

/-- A filled definition is what the record that it is written as describes. -/
theorem Filled.describes [Platform] (hd : d.Filled) (h : d.IsWrittenAs record) :
    Describes record d := by
  obtain ⟨key, entries, hkey, hperm, rfl⟩ := h
  exact ⟨entries, d.toDraft, rfl, hd.spells hkey hperm,
    PayloadDraft.define_eq_ok_iff_completes.mp hd.fits⟩

end PayloadDefinition

/-! ### Catalogs -/

namespace PayloadCatalog

/-- The catalog that is loaded from any document is loaded again, as it was, from the records that
its definitions are written as. -/
theorem ofValue_of_isWrittenAs [Platform] {document : Value} {source : String} {c : PayloadCatalog}
    {records : List Value} (h : ofValue document source = .ok c)
    (hw : List.Forall₂ PayloadDefinition.IsWrittenAs c.payloads records) (source' : String) :
    ofValue (.list records) source' = .ok c := by
  have hloaded := loaded_of_ofValue h
  have hplain : ∀ r ∈ records, r.isPlain = true := by
    intro r hr
    obtain ⟨d, -, hd⟩ := exists_of_mem_of_forall₂ hw.flip hr
    exact PayloadDefinition.IsWrittenAs.isPlain hd
  have hfilled : ∀ d ∈ c.payloads, d.Filled :=
    fun d hd ↦ hloaded.of_gives (fun _ _ hgives ↦ hgives.filled) hd
  have hdescribes : List.Forall₂ Record.Describes records c.payloads := by
    have hboth := (List.forall₂_and_left _ _).mpr ⟨hfilled, hw⟩
    exact (hboth.imp fun d r ⟨hd, hr⟩ ↦ hd.describes hr).flip
  rw [ofValue_list hplain,
    (readRecords_nil_eq_ok_iff_describes hplain).mpr ⟨hdescribes, hloaded.nodup_names⟩]
  rfl

/-- A record that leaves its way of validation open, with an expression that is empty. -/
def openRecord : Value :=
  .mapping
    [(.text "name", .text "open"), (.text "interpretation_environment", .text "any"),
     (.text "execution_environment", .text "ANY"), (.text "payload_string", .text "id"),
     (.text "validation_regex", .text ""), (.text "vulnerability_type", .text "ssrf")]

/-- Loosely worded records are loaded again from what they are written as under spelled names. -/
theorem ofValue_of_isWrittenAs_loose :
    ∃ c, ofValue (.list [looseRecord, openRecord]) "" = .ok c ∧
      ofValue (.list (c.payloads.map fun d ↦ .mapping (d.entriesUnder (·.spelled)))) "again" =
        .ok c := by
  have hread : (ofValue (.list [looseRecord, openRecord]) "").toOption = some
      ⟨[⟨"ssrf", .any, .interpretation, true, "curl $TOKEN_URL", .callback, none, [.ssrf]⟩,
        ⟨"open", .any, .any, false, "id", .none, some "", [.ssrf]⟩]⟩ := by
    decide +kernel
  refine ⟨_, toOption_eq_some_iff.mp hread, ?_⟩
  refine ofValue_of_isWrittenAs (toOption_eq_some_iff.mp hread) ?_ "again"
  rw [List.forall₂_map_right_iff, List.forall₂_same]
  exact fun d _ ↦ ⟨(·.spelled), _, fun f _ ↦ .inl rfl, .refl _, rfl⟩

end PayloadCatalog
end VulnScanner
