import VulnScanner.Proofs.Payload.Limits

/-!
# Records that make a list refused

A list of records is refused for the first of its records that cannot be used: those before it can
be read by themselves, and whatever follows it the fault is the same. A catalog fault tells which
record that is, by its number or by a name.
-/

namespace VulnScanner

namespace PayloadCatalog

section

variable [Platform] {source : String} {index : Nat} {record : Value}
  {entries : List (Value × Value)} {fault : CatalogFault}

/-- The catalog of records that stand on their own. -/
def ofRecords (records : List Value) (source : String) : Except CatalogFault PayloadCatalog :=
  (readRecords source [] records).map PayloadCatalog.mk

/-- Records are made a catalog as they are read. -/
theorem ofRecords_eq_ok_iff {records : List Value} {c : PayloadCatalog} :
    ofRecords records source = .ok c ↔ readRecords source [] records = .ok c.payloads := by
  obtain ⟨ds⟩ := c
  unfold ofRecords
  cases readRecords source [] records <;> simp [Except.map]

/-- Records are refused as they are when they are read. -/
theorem ofRecords_eq_error_iff {records : List Value} :
    ofRecords records source = .error fault ↔ readRecords source [] records = .error fault := by
  unfold ofRecords
  cases readRecords source [] records <;> simp [Except.map]

/-- The catalog in a document is that of its records. -/
theorem ofValue_eq_ofRecords {document : Value} {records : List Value}
    (h : recordsOf source document = .ok records) :
    ofValue document source = ofRecords records source := by
  unfold ofValue ofRecords
  rw [h, ok_bind]
  cases readRecords source [] records <;> rfl

/-! ### Labels -/

/-- How a record is called: by its own name if that is true, else by its number. -/
inductive IsLabel (index : Nat) (entries : List (Value × Value)) : String → Prop
  | own {name : Value} (h : Value.field? entries "name" = some name)
      (ht : name.isTruthy = true) : IsLabel index entries name.display
  | number (h : ∀ name, Value.field? entries "name" = some name → name.isTruthy = false) :
      IsLabel index entries s!"#{index}"

/-- A record is called by its label, if this can be written out. -/
theorem isLabel_of_label {text : String} (h : label index entries = .ok text) :
    IsLabel index entries text := by
  unfold label at h
  cases hname : Value.field? entries "name" with
  | none =>
    rw [hname] at h
    cases h
    exact .number fun name h ↦ nomatch hname.symm.trans h
  | some name =>
    rw [hname, Option.filter_some] at h
    cases ht : name.isTruthy with
    | true =>
      rw [ht, if_pos rfl] at h
      rw [← Value.eq_display_of_written h]
      exact .own hname ht
    | false =>
      rw [ht, if_neg Bool.false_ne_true] at h
      cases h
      refine .number fun other h ↦ ?_
      obtain rfl := Option.some.inj (hname.symm.trans h)
      exact ht

/-! ### What is said of a record -/

/-- What the message says for which a list is refused, of the record that it is refused for: that it
is no mapping, with its number; that it gives no definition, with its label; or that it repeats a
name of an earlier definition, with that name. -/
inductive Blames (source : String) (index : Nat) (record : Value)
    (earlier : List PayloadDefinition) : String → Prop
  | notMapping (h : record.entries? = none) :
      Blames source index record earlier s!"Payload #{index} in {source} must be a mapping"
  | invalid {entries : List (Value × Value)} {label : String} (h : record.entries? = some entries)
      (hnone : ∀ d, ¬ Record.Gives record d) (hlabel : IsLabel index entries label) :
      Blames source index record earlier s!"Invalid payload {label} in {source}"
  | repeated {d : PayloadDefinition} (hd : Record.Gives record d)
      (hname : d.name ∈ earlier.map (·.name)) :
      Blames source index record earlier s!"Duplicate payload name {d.name} in {source}"

/-- A record that is refused is blamed for what it is. -/
theorem blames_of_readRecord {earlier : List PayloadDefinition}
    (h : readRecord source index record = .error fault) (hkind : fault.kind = .catalog) :
    Blames source index record earlier fault.message := by
  have hnone : ∀ d, ¬ Record.Gives record d := fun d hd ↦ by
    rw [readRecord_eq_ok_iff_gives.mpr hd] at h
    cases h
  rcases readRecord_eq_error_iff.mp h with ⟨hentries, rfl⟩ | ⟨entries, hentries, hbad⟩
  · exact .notMapping hentries
  · rcases hbad with ⟨draft, pattern, -, hlimit, rfl⟩ | ⟨faults, -, rfl⟩
    · exact absurd hkind hlimit.kind_ne_catalog
    · unfold refusal at hkind ⊢
      cases hlabel : label index entries with
      | ok text => exact .invalid hentries hnone (isLabel_of_label hlabel)
      | error fault =>
        rw [hlabel] at hkind
        cases fault <;> cases hkind

/-- The catalog in a document is that of its records. A list of records is refused for one of them:
those before it are a catalog, the fault is the same whatever follows it, and if it is a catalog
fault it blames that record. -/
theorem ofRecords_first_fault (source : String) :
    (∀ document records, recordsOf source document = .ok records →
        ofValue document source = ofRecords records source) ∧
      ∀ records fault, ofRecords records source = .error fault →
        ∃ i record c, records[i]? = some record ∧
          ofRecords (records.take i) source = .ok c ∧
          (∀ more, ofRecords (records.take (i + 1) ++ more) source = .error fault) ∧
          (fault.kind = .catalog → Blames source i record c.payloads fault.message) := by
  refine ⟨fun _ _ h ↦ ofValue_eq_ofRecords h, fun records fault h ↦ ?_⟩
  obtain ⟨before, record, after, ds, rfl, hbefore, hrecord⟩ :=
    readRecords_eq_error_iff.mp (ofRecords_eq_error_iff.mp h)
  have hlength : ds.length = before.length :=
    (readRecords_nil_eq_ok_iff.mp hbefore).1.length_eq.symm
  refine ⟨before.length, record, ⟨ds⟩, by simp, ?_, fun more ↦ ?_, fun hkind ↦ ?_⟩
  · rw [List.take_left, ofRecords_eq_ok_iff]
    exact hbefore
  · have htake : (before ++ record :: after).take (before.length + 1) ++ more =
        before ++ record :: more := by
      simp [List.take_append, List.take_of_length_le]
    rw [htake, ofRecords_eq_error_iff]
    exact readRecords_eq_error_iff.mpr ⟨before, record, more, ds, rfl, hbefore, hrecord⟩
  · rw [hlength] at hrecord
    rcases hrecord with hrecord | ⟨d, hd, hname, rfl⟩
    · exact blames_of_readRecord hrecord hkind
    · exact .repeated (readRecord_eq_ok_iff_gives.mp hd) (any_name_eq_true_iff.mp hname)

end

/-- A list is refused for the record that repeats a name, although a worse one follows it. -/
theorem ofRecords_first_fault_repeated :
    ∃ fault, ofRecords [looseRecord, looseRecord, .null] "c.yml" = .error fault ∧
      fault.message = "Duplicate payload name ssrf in c.yml" ∧
      ∃ i record c, [looseRecord, looseRecord, .null][i]? = some record ∧
        ofRecords ([looseRecord, looseRecord, .null].take i) "c.yml" = .ok c ∧
        Blames "c.yml" i record c.payloads fault.message := by
  have hread : (fault? (ofRecords [looseRecord, looseRecord, .null] "c.yml")).map
      (fun fault ↦ (fault.kind, fault.message)) =
        some (.catalog, "Duplicate payload name ssrf in c.yml") := by
    decide +kernel
  obtain ⟨fault, hfault, hshown⟩ := Option.map_eq_some_iff.mp hread
  obtain ⟨hkind, hmessage⟩ := Prod.mk.inj hshown
  have h := fault?_eq_some_iff.mp hfault
  obtain ⟨i, record, c, hrecord, hc, -, hblames⟩ := (ofRecords_first_fault "c.yml").2 _ fault h
  exact ⟨fault, h, hmessage, i, record, c, hrecord, hc, hblames hkind⟩

end PayloadCatalog
end VulnScanner
