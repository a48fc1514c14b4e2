import Mathlib.Data.List.Nodup
import VulnScanner.Proofs.Payload.Limits
import VulnScanner.Proofs.Payload.Spelling
import VulnScanner.Proofs.Payload.StandIn
import VulnScanner.Proofs.Text.Occurrence

/-!
# Definitions that records describe

A record describes a definition if it spells out a draft of which the parts fit together by one of
three rules. A list of plain records is read as a catalog exactly if each record describes a
definition and no two definitions have the same name; the definitions described are what is read.
-/

namespace VulnScanner

section

variable [Platform]

/-! ### Drafts that fit together -/

namespace PayloadDraft

variable {draft : PayloadDraft} {d : PayloadDefinition}

/-- How a draft becomes a definition. A draft that uses the callback server says nothing else of
its validation, has no expression and mentions the address of the callback. Any other draft is
validated by its expression, which compiles with zeros for the token, or not at all if it has none;
if it says how it is validated, it says so. -/
inductive Completes : PayloadDraft → PayloadDefinition → Prop
  | callback {draft : PayloadDraft} (hc : draft.usesCallback = true)
      (hv : draft.validation = none ∨ draft.validation = some .callback)
      (hr : ∀ regex, ¬ draft.HasRegex regex) (hu : urlMark.toList <:+: draft.template.toList) :
      Completes draft (draft.withValidation .callback)
  | regex {draft : PayloadDraft} {regex : String} {p : Regex.Pattern}
      (hc : draft.usesCallback = false)
      (hv : draft.validation = none ∨ draft.validation = some .regex) (hr : draft.HasRegex regex)
      (hp : Regex.Pattern.compile {} (regexFor zeroToken regex) = .ok p) :
      Completes draft (draft.withValidation .regex)
  | unvalidated {draft : PayloadDraft} (hc : draft.usesCallback = false)
      (hv : draft.validation = none ∨ draft.validation = some .none)
      (hr : ∀ regex, ¬ draft.HasRegex regex) : Completes draft (draft.withValidation .none)

omit [Platform] in
/-- A draft without an expression has none that is not empty. -/
theorem givenRegex_eq_none_iff : givenRegex draft.regex = none ↔ ∀ r, ¬ draft.HasRegex r := by
  rw [Option.eq_none_iff_forall_ne_some]
  exact forall_congr' fun r ↦ givenRegex_eq_some_iff.not

omit [Platform] in
private theorem validation_of_validationType {t : ValidationType} (h : draft.validationType = t) :
    draft.validation = none ∨ draft.validation = some t := by
  cases hv : draft.validation with
  | none => exact .inl rfl
  | some u =>
    rw [validationType, hv, Option.getD_some] at h
    rw [h]
    exact .inr rfl

omit [Platform] in
private theorem validationType_of_validation {t : ValidationType}
    (hv : draft.validation = none ∨ draft.validation = some t)
    (ht : t = if draft.usesCallback then .callback
      else if (givenRegex draft.regex).isSome then .regex else .none) :
    draft.validationType = t := by
  rcases hv with hv | hv
  · rw [validationType, hv, Option.getD_none, ht]
  · rw [validationType, hv, Option.getD_some]

omit [Platform] in
private theorem checkCallback_eq_ok_iff :
    draft.checkCallback = .ok () ↔
      draft.validationType = .callback ∧ givenRegex draft.regex = none ∧
        Text.contains draft.template urlMark = true := by
  unfold checkCallback
  by_cases ht : draft.validationType = .callback
  · cases givenRegex draft.regex with
    | some regex => simp [ht]
    | none => cases Text.contains draft.template urlMark <;> simp [ht]
  · simp [ht]

/-- A draft defines what it completes. -/
theorem define_eq_ok_iff_completes : draft.define = .ok d ↔ draft.Completes d := by
  rw [define_eq_ok_iff]
  constructor
  · rintro ⟨hcheck, rfl⟩
    cases hc : draft.usesCallback with
    | true =>
      rw [hc, if_pos rfl, checkCallback_eq_ok_iff] at hcheck
      obtain ⟨ht, hr, hu⟩ := hcheck
      rw [ht]
      exact .callback hc (validation_of_validationType ht) (givenRegex_eq_none_iff.mp hr)
        ((Text.contains_iff_infix _ _).mp hu)
    | false =>
      rw [hc] at hcheck
      simp only [Bool.false_eq_true, if_false, checkLocal] at hcheck
      cases ht : draft.validationType with
      | callback => simp [ht] at hcheck
      | none =>
        cases hr : givenRegex draft.regex with
        | some regex => simp [ht, hr] at hcheck
        | none =>
          exact .unvalidated hc (validation_of_validationType ht) (givenRegex_eq_none_iff.mp hr)
      | regex =>
        cases hr : givenRegex draft.regex with
        | none => simp [ht, hr] at hcheck
        | some regex =>
          simp only [ht, hr] at hcheck
          obtain ⟨p, hp⟩ := checkWith_eq_ok_iff.mp ((checkRegex_eq_ok_iff regex).mp hcheck)
          exact .regex hc (validation_of_validationType ht) (givenRegex_eq_some_iff.mp hr) hp
  · intro h
    cases h with
    | callback hc hv hr hu =>
      have ht := validationType_of_validation hv (by rw [hc]; rfl)
      rw [hc, if_pos rfl, checkCallback_eq_ok_iff, ht]
      exact ⟨⟨rfl, givenRegex_eq_none_iff.mpr hr, (Text.contains_iff_infix _ _).mpr hu⟩, rfl⟩
    | regex hc hv hr hp =>
      have hgiven := givenRegex_eq_some_iff.mpr hr
      have ht := validationType_of_validation hv (by rw [hc, hgiven]; rfl)
      have hcheck := (checkRegex_eq_ok_iff _).mpr (checkWith_eq_ok_iff.mpr ⟨_, hp⟩)
      rw [hc, ht, checkLocal, ht, hgiven]
      exact ⟨hcheck, rfl⟩
    | unvalidated hc hv hr =>
      have hgiven := givenRegex_eq_none_iff.mpr hr
      have ht := validationType_of_validation hv (by rw [hc, hgiven]; rfl)
      rw [hc, ht, checkLocal, ht, hgiven]
      exact ⟨rfl, rfl⟩

end PayloadDraft

/-! ### Records -/

namespace Record

/-- A record describes a definition if its entries spell out a draft that completes it. -/
def Describes (record : Value) (d : PayloadDefinition) : Prop :=
  ∃ entries draft, record = .mapping entries ∧ Spells entries draft ∧ draft.Completes d

/-- No count in the expression of a record is too large for the readers of expressions. -/
def CountsFit (record : Value) : Prop :=
  ∀ entries regex, record = .mapping entries → RecordField.regex.Given entries (.text regex) →
    ∀ e, Regex.Pattern.compile {} (regexFor zeroToken regex) = .error e → e.kind ≠ .overflow

end Record

namespace PayloadCatalog

open Record

variable {source : String} {index : Nat} {record : Value} {records : List Value}
variable {d : PayloadDefinition} {done ds : List PayloadDefinition} {fault : CatalogFault}

/-- A record is read as what its draft defines. -/
theorem readRecord_eq_ok_iff_draft {entries : List (Value × Value)}
    (hr : record.entries? = some entries) :
    readRecord source index record = .ok d ↔
      ∃ draft, Record.draft entries = .ok draft ∧ draft.define = .ok d := by
  rw [readRecord_eq_ok_iff_gives, Gives, hr]
  simp only [Option.some.injEq, exists_and_left, exists_eq_left']

/-- A plain record is read exactly if it describes a definition, which is what is read. -/
theorem readRecord_eq_ok_iff (hp : record.isPlain = true) :
    readRecord source index record = .ok d ↔ Describes record d := by
  cases record with
  | mapping entries =>
    have hentries : Value.arePlainEntries entries = true := hp
    rw [readRecord_eq_ok_iff_draft (Value.entries?_mapping hentries)]
    simp [Describes, draft_eq_ok_iff hentries, PayloadDraft.define_eq_ok_iff_completes]
  | _ => simp [readRecord, Value.entries?, Describes]

/-- Plain records are read exactly if each of them describes a definition, and no name stands
twice. -/
theorem readRecords_nil_eq_ok_iff_describes (hp : ∀ r ∈ records, r.isPlain = true) :
    readRecords source [] records = .ok ds ↔
      List.Forall₂ Describes records ds ∧ (ds.map (·.name)).Nodup := by
  rw [readRecords_nil_eq_ok_iff, forall₂_congr_of_mem fun r hr d ↦ ?_]
  rw [← readRecord_eq_ok_iff_gives, readRecord_eq_ok_iff (hp r hr)]
  exacts [source, 0]

/-- A limit that is met in a record of which no count is too large is no overflow. -/
theorem kind_ne_overflow_of_meetsLimit (hp : record.isPlain = true) (hf : CountsFit record)
    (h : Record.MeetsLimit record fault) : fault.kind ≠ .overflow := by
  cases h with
  | @regex entries draft pattern hentries hdraft hlimit =>
    obtain ⟨hplain, rfl⟩ := Value.eq_mapping_of_entries? hp hentries
    obtain ⟨regex, hregex, -, hcompile⟩ := hlimit.regex
    refine hf entries regex rfl ?_ pattern.error hcompile
    have hspelled := ((draft_eq_ok_iff hplain).mp hdraft).regex
    rw [hregex.1] at hspelled
    rcases hspelled with ⟨-, hnone⟩ | ⟨v, hv, hmeans⟩
    · cases hnone
    · cases hmeans with
      | value h => exact h ▸ hv
  | @name _ _ _ fault => cases fault <;> exact fun h ↦ nomatch h

omit [Platform] in
/-- The records of a list of plain ones are its members. -/
theorem recordsOf_list (hp : ∀ r ∈ records, r.isPlain = true) :
    recordsOf source (.list records) = .ok records := by
  have hrecords : records.map (Value.detach (.list records)) = records :=
    (List.map_congr_left fun r hr ↦ Value.detach_of_isPlain _ (hp r hr)).trans (List.map_id' _)
  simp only [recordsOf, Value.entries?, hrecords]

/-- The catalog in a list of plain records is what they are read as. -/
theorem ofValue_list (hp : ∀ r ∈ records, r.isPlain = true) :
    ofValue (.list records) source = (readRecords source [] records).map PayloadCatalog.mk := by
  rw [ofValue, recordsOf_list hp, ok_bind]
  cases readRecords source [] records <;> rfl

omit [Platform] in
private theorem exists_forall₂_nodup_iff {α β γ : Type} {R : α → β → Prop} {as : List α}
    (hR : ∀ a ∈ as, ∀ b b', R a b → R a b' → b = b') (key : β → γ) :
    (∃ bs, List.Forall₂ R as bs ∧ (bs.map key).Nodup) ↔
      (∀ a ∈ as, ∃ b, R a b) ∧
        as.Pairwise fun a a' ↦ ∀ b b', R a b → R a' b' → key b ≠ key b' := by
  induction as with
  | nil => simp
  | cons a rest ih =>
    rw [List.forall_mem_cons] at hR
    rw [List.forall_mem_cons, List.pairwise_cons]
    constructor
    · rintro ⟨_, hall, hnodup⟩
      obtain ⟨b, bs, hb, hbs, rfl⟩ := List.forall₂_cons_left_iff.mp hall
      rw [List.map_cons, List.nodup_cons] at hnodup
      obtain ⟨hrest, hpair⟩ := (ih hR.2).mp ⟨bs, hbs, hnodup.2⟩
      refine ⟨⟨⟨b, hb⟩, hrest⟩, fun a' ha' c c' hc hc' he ↦ hnodup.1 ?_, hpair⟩
      obtain ⟨d, hd, hm⟩ := exists_of_mem_of_forall₂ hbs ha'
      rw [hR.1 b c hb hc, he, hR.2 a' ha' c' d hc' hm]
      exact List.mem_map_of_mem hd
    · rintro ⟨⟨⟨b, hb⟩, hrest⟩, hkeys, hpair⟩
      obtain ⟨bs, hbs, hnodup⟩ := (ih hR.2).mpr ⟨hrest, hpair⟩
      refine ⟨b :: bs, .cons hb hbs, ?_⟩
      rw [List.map_cons, List.nodup_cons]
      refine ⟨fun hm ↦ ?_, hnodup⟩
      obtain ⟨c, hc, he⟩ := List.mem_map.mp hm
      obtain ⟨a', ha', hc'⟩ := exists_of_mem_of_forall₂ hbs.flip hc
      exact hkeys a' ha' b c hb hc' he.symm

/-- A list of plain records is read as a catalog exactly if each record describes a definition and
no two definitions have the same name; what is read are the definitions described, in their order.
All other lists are refused as catalogs, unless a limit is met at a record behind records that can
be used; it is none of counting if no count of an expression is too large. -/
theorem ofValue_list_iff_describes (hp : ∀ r ∈ records, r.isPlain = true) (source : String) :
    ((∃ c, ofValue (.list records) source = .ok c) ↔
        (∀ r ∈ records, ∃ d, Describes r d) ∧
          records.Pairwise fun r r' ↦ ∀ d d', Describes r d → Describes r' d' → d.name ≠ d'.name) ∧
      (∀ c, ofValue (.list records) source = .ok c ↔
        List.Forall₂ Describes records c.payloads ∧ (c.payloads.map (·.name)).Nodup) ∧
      (∀ fault, ofValue (.list records) source = .error fault ∧ fault.kind ≠ .catalog ↔
        MeetsLimit source records fault) ∧
      ((∀ r ∈ records, CountsFit r) → ∀ fault, MeetsLimit source records fault →
        fault.kind ≠ .overflow) := by
  have hread : ∀ c, ofValue (.list records) source = .ok c ↔
      List.Forall₂ Describes records c.payloads ∧ (c.payloads.map (·.name)).Nodup := by
    rintro ⟨ds⟩
    have hrecords : readRecords source [] records = .ok ds ↔
        List.Forall₂ Describes records ds ∧ (ds.map (·.name)).Nodup :=
      readRecords_nil_eq_ok_iff_describes hp
    rw [← hrecords, ofValue_list hp]
    cases readRecords source [] records <;> simp [Except.map]
  refine ⟨?_, hread, fun fault ↦ ?_, ?_⟩
  · have hunique : ∀ r ∈ records, ∀ d d', Describes r d → Describes r d' → d = d' := by
      intro r hr d d' hd hd'
      have hread : ∀ d, readRecord source 0 r = .ok d ↔ Describes r d :=
        fun d ↦ readRecord_eq_ok_iff (hp r hr)
      exact Except.ok.inj (((hread d).mpr hd).symm.trans ((hread d').mpr hd'))
    rw [← exists_forall₂_nodup_iff hunique (·.name)]
    constructor
    · rintro ⟨c, hc⟩
      exact ⟨c.payloads, (hread c).mp hc⟩
    · rintro ⟨ds, hds⟩
      exact ⟨⟨ds⟩, (hread ⟨ds⟩).mpr hds⟩
  · rw [ofValue_fails_otherwise_iff, recordsOf_list hp]
    simp only [Except.ok.injEq, exists_eq_left']
  · rintro hf fault ⟨before, record, after, -, rfl, -, hlimit⟩
    have hr : record ∈ before ++ record :: after :=
      List.mem_append_right _ List.mem_cons_self
    exact kind_ne_overflow_of_meetsLimit (hp record hr) (hf record hr) hlimit

end PayloadCatalog

end

namespace PayloadCatalog

open Record

/-- A record in loose wording is read beside one in plain wording, but not twice, and a limit is met
where a record is refused of which the name cannot be written out. -/
theorem ofValue_list_iff_describes_loose :
    (∃ d d', List.Forall₂ Describes [looseRecord, plainRecord "plain" "JAVA" "EXEC_ANY" "id"
        (some "(?s).*Error 404 \\(Not Found\\)!!1.*") ["SSRF"]] [d, d']) ∧
      (∃ fault, ofValue (.list [looseRecord, looseRecord]) "" = .error fault ∧
        fault.kind = .catalog) ∧
      ∃ fault, MeetsLimit "" [looseRecord, hugeRecord] fault ∧ fault.kind = .value := by
  refine ⟨?_, ?_, ?_⟩
  · have hread : (ofValue (.list [looseRecord, plainRecord "plain" "JAVA" "EXEC_ANY" "id"
        (some "(?s).*Error 404 \\(Not Found\\)!!1.*") ["SSRF"]]) "").toOption = some
        ⟨[⟨"ssrf", .any, .interpretation, true, "curl $TOKEN_URL", .callback, none, [.ssrf]⟩,
          ⟨"plain", .java, .any, false, "id", .regex,
            some "(?s).*Error 404 \\(Not Found\\)!!1.*", [.ssrf]⟩]⟩ := by
      decide +kernel
    have hdescribed := ((ofValue_list_iff_describes (by decide +kernel) "").2.1 _).mp
      (toOption_eq_some_iff.mp hread)
    exact ⟨_, _, hdescribed.1⟩
  · have hkind : (fault? (ofValue (.list [looseRecord, looseRecord]) "")).map (·.kind) =
        some .catalog := by
      decide +kernel
    obtain ⟨fault, hfault, hkind⟩ := Option.map_eq_some_iff.mp hkind
    exact ⟨fault, fault?_eq_some_iff.mp hfault, hkind⟩
  · have hkind : (fault? (ofValue (.list [looseRecord, hugeRecord]) "")).map (·.kind) =
        some .value := by
      decide +kernel
    obtain ⟨fault, hfault, hkind⟩ := Option.map_eq_some_iff.mp hkind
    have hlimit := ((ofValue_list_iff_describes (by decide +kernel) "").2.2.1 fault).mp
      ⟨fault?_eq_some_iff.mp hfault, by rw [hkind]; decide⟩
    exact ⟨fault, hlimit, hkind⟩

end PayloadCatalog
end VulnScanner
