import Mathlib.Data.List.Nodup
import VulnScanner.Proofs.Data.Entries
import VulnScanner.Proofs.Payload.Wording

/-!
# Drafts that records spell out

A record spells out a draft if its keys are names of fields, none of them both names of one field,
and the value of each field stands for that part of the draft. A plain record is read as a draft
exactly if it spells it out.
-/

namespace VulnScanner
namespace RecordField

variable {α : Type} {f : RecordField} {entries : List (Value × Value)} {key : String} {v : Value}

/-- A name of a field. -/
def IsKey (f : RecordField) (key : String) : Prop := key = f.spelled ∨ key = f.plain

/-- The entries give a field a value under one of its names. -/
def Given (f : RecordField) (entries : List (Value × Value)) (v : Value) : Prop :=
  (.text f.spelled, v) ∈ entries ∨ (.text f.plain, v) ∈ entries

/-- The entries give a field a value with a meaning. -/
def Means (f : RecordField) (entries : List (Value × Value)) (means : Value → α → Prop) (a : α) :
    Prop :=
  ∃ v, f.Given entries v ∧ means v a

/-- The entries give a field a value with a meaning, or they leave it out and it means `other`. -/
def MeansOr (f : RecordField) (entries : List (Value × Value)) (other : α)
    (means : Value → α → Prop) (a : α) : Prop :=
  ((∀ v, ¬ f.Given entries v) ∧ a = other) ∨ f.Means entries means a

/-- The entries do not use both names of a field, unless it has one only. -/
def IsSingle (f : RecordField) (entries : List (Value × Value)) : Prop :=
  Value.HasKey entries f.spelled → Value.HasKey entries f.plain → f.spelled = f.plain

/-- A field is given a value under a name of it. -/
theorem given_iff : f.Given entries v ↔ ∃ key, f.IsKey key ∧ (.text key, v) ∈ entries := by
  constructor
  · rintro (h | h)
    · exact ⟨_, .inl rfl, h⟩
    · exact ⟨_, .inr rfl, h⟩
  · rintro ⟨key, rfl | rfl, h⟩
    · exact .inl h
    · exact .inr h

/-- Different fields have different names. -/
theorem eq_of_isKey {g : RecordField} (hf : f ∈ all) (hg : g ∈ all) (hkey : f.IsKey key)
    (hkey' : g.IsKey key) : g = f := by
  have hnames : ∀ f ∈ all, ∀ g ∈ all, (f.spelled = g.spelled ∨ f.spelled = g.plain) ∨
      (f.plain = g.spelled ∨ f.plain = g.plain) → g = f := by
    decide
  rcases hkey with rfl | rfl
  · exact hnames f hf g hg (.inl hkey')
  · exact hnames f hf g hg (.inr hkey')

/-- A field that is found stands under one of its names. -/
theorem mem_of_find? (h : f.find? entries = some (key, v)) :
    f.IsKey key ∧ (.text key, v) ∈ entries := by
  unfold find? at h
  split at h
  · next w hw =>
    cases h
    exact ⟨.inl rfl, Value.mem_of_field? hw⟩
  · obtain ⟨w, hw, he⟩ := Option.map_eq_some_iff.mp h
    cases he
    exact ⟨.inr rfl, Value.mem_of_field? hw⟩

/-- A key of a field that does not use both names is the one that is found. -/
theorem find?_of_hasKey (hs : f.IsSingle entries) (hkey : f.IsKey key)
    (h : Value.HasKey entries key) : ∃ v, f.find? entries = some (key, v) := by
  unfold find?
  cases hspelled : Value.field? entries f.spelled with
  | some w =>
    refine ⟨w, ?_⟩
    rcases hkey with rfl | rfl
    · rfl
    · rw [hs ⟨w, Value.mem_of_field? hspelled⟩ h]
  | none =>
    rcases hkey with rfl | rfl
    · exact absurd h (Value.field?_eq_none_iff.mp hspelled)
    · cases hplain : Value.field? entries f.plain with
      | some w => exact ⟨w, rfl⟩
      | none => exact absurd h (Value.field?_eq_none_iff.mp hplain)

/-- A field is found with the value that it is given. -/
theorem exists_find?_iff (h : (Value.textKeys entries).Nodup) (hs : f.IsSingle entries) :
    (∃ key, f.find? entries = some (key, v)) ↔ f.Given entries v := by
  rw [given_iff]
  constructor
  · rintro ⟨key, hk⟩
    exact ⟨key, mem_of_find? hk⟩
  · rintro ⟨key, hkey, hm⟩
    obtain ⟨w, hw⟩ := find?_of_hasKey hs hkey ⟨v, hm⟩
    rw [Value.eq_of_mem_of_mem h hm (mem_of_find? hw).2]
    exact ⟨key, hw⟩

section Reading

variable {read : String → Value → Checked α} {means : Value → α → Prop} {a other : α}

/-- Two meanings are the same if they agree on what a field is given. -/
theorem means_congr {means' : Value → α → Prop}
    (h : ∀ v, f.Given entries v → ∀ a, means v a ↔ means' v a) :
    f.Means entries means a ↔ f.Means entries means' a :=
  exists_congr fun v ↦ and_congr_right fun hv ↦ h v hv a

/-- A field that must be there is read exactly if it is given a value with a meaning. -/
theorem required_eq_ok_iff (h : (Value.textKeys entries).Nodup) (hs : f.IsSingle entries)
    (hread : ∀ key v a, read key v = .ok a ↔ means v a) :
    f.required entries read = .ok a ↔ f.Means entries means a := by
  unfold required Means
  simp only [← exists_find?_iff h hs]
  cases hf : f.find? entries with
  | none => simp
  | some e =>
    obtain ⟨key, v⟩ := e
    simp [hread]

/-- A field that may be left out is read exactly if it is, or if it is given a value with a
meaning. -/
theorem optional_eq_ok_iff (h : (Value.textKeys entries).Nodup) (hs : f.IsSingle entries)
    (hread : ∀ key v a, read key v = .ok a ↔ means v a) :
    f.optional entries other read = .ok a ↔ f.MeansOr entries other means a := by
  unfold optional MeansOr Means
  simp only [← exists_find?_iff h hs]
  cases hf : f.find? entries with
  | none => simp [eq_comm]
  | some e =>
    obtain ⟨key, v⟩ := e
    simp [hread]

end Reading
end RecordField

/-! ### The keys of a record -/

namespace Record

variable {entries : List (Value × Value)}

/-- Every key is a name of a field, and no field stands under both of its names. -/
structure NamesFields (entries : List (Value × Value)) : Prop where
  known : ∀ e ∈ entries, ∃ f ∈ RecordField.all, e.1 = .text f.spelled ∨ e.1 = .text f.plain
  single : ∀ f ∈ RecordField.all, f.IsSingle entries

/-- The keys that are used are those under which fields are found. -/
theorem mem_usedKeys_iff {key : String} :
    key ∈ usedKeys entries ↔ ∃ f ∈ RecordField.all, ∃ v, f.find? entries = some (key, v) := by
  unfold usedKeys
  rw [List.mem_filterMap]
  refine exists_congr fun f ↦ and_congr_right fun _ ↦ ?_
  rw [Option.map_eq_some_iff]
  constructor
  · rintro ⟨⟨k, v⟩, hf, rfl⟩
    exact ⟨v, hf⟩
  · rintro ⟨v, hf⟩
    exact ⟨_, hf, rfl⟩

/-- No key is at fault exactly if all are texts that are used. -/
theorem keyFaults_eq_nil_iff [Platform] :
    keyFaults entries = [] ↔ ∀ e ∈ entries, ∃ key ∈ usedKeys entries, e.1 = .text key := by
  unfold keyFaults
  rw [List.filterMap_eq_nil_iff]
  refine forall₂_congr fun e he ↦ ?_
  obtain ⟨k, v⟩ := e
  cases k with
  | text key => simp
  | _ => simp

/-- No key is at fault exactly if the keys are names of different fields. -/
theorem keyFaults_eq_nil_iff_namesFields [Platform] :
    keyFaults entries = [] ↔ NamesFields entries := by
  rw [keyFaults_eq_nil_iff]
  constructor
  · intro h
    refine ⟨fun e he ↦ ?_, ?_⟩
    · obtain ⟨key, hkey, hk⟩ := h e he
      obtain ⟨f, hf, v, hv⟩ := mem_usedKeys_iff.mp hkey
      refine ⟨f, hf, ?_⟩
      rw [hk, Value.text.injEq, Value.text.injEq]
      exact (RecordField.mem_of_find? hv).1
    · rintro f hf ⟨v, hv⟩ ⟨w, hw⟩
      obtain ⟨key, hkey, hk⟩ := h _ hw
      cases hk
      obtain ⟨g, hg, u, hu⟩ := mem_usedKeys_iff.mp hkey
      obtain rfl := RecordField.eq_of_isKey hf hg (.inr rfl) (RecordField.mem_of_find? hu).1
      -- The spelled name is there and looked up first, so it is the one that is found.
      unfold RecordField.find? at hu
      split at hu
      · exact (Prod.mk.inj (Option.some.inj hu)).1
      · next hnone => exact absurd ⟨v, hv⟩ (Value.field?_eq_none_iff.mp hnone)
  · rintro ⟨hknown, hsingle⟩ e he
    obtain ⟨f, hf, hk⟩ := hknown e he
    obtain ⟨k, v⟩ := e
    have hfound : ∀ key, f.IsKey key → k = .text key →
        ∃ key ∈ usedKeys entries, k = .text key := by
      rintro key hkey rfl
      obtain ⟨w, hw⟩ := RecordField.find?_of_hasKey (hsingle f hf) hkey ⟨v, he⟩
      exact ⟨key, mem_usedKeys_iff.mpr ⟨f, hf, w, hw⟩, rfl⟩
    rcases hk with hk | hk
    · exact hfound _ (.inl rfl) hk
    · exact hfound _ (.inr rfl) hk

/-! ### What a record spells out -/

/-- A text that is not empty. -/
def IsFilledText (v : Value) (s : String) : Prop := v = .text s ∧ s ≠ ""

/-- A text that stands for a member of a closed list. -/
def IsName {α : Type} [Named α] (v : Value) (a : α) : Prop := ∃ s, v = .text s ∧ Names s a

/-- A text or a list that lists names, of which there are some. -/
def IsNames {α : Type} [Named α] (v : Value) (as : List α) : Prop := ListsNames v as ∧ as ≠ []

/-- Null, which means nothing, or a value that means something. -/
inductive OrNull {α : Type} (means : Value → α → Prop) : Value → Option α → Prop
  | null : OrNull means .null none
  | value {v : Value} {a : α} (h : means v a) : OrNull means v (some a)

/-- The entries of a record spell out a draft: they name fields, and each field has its meaning. -/
@[mk_iff]
structure Spells (entries : List (Value × Value)) (d : PayloadDraft) : Prop
    extends NamesFields entries where
  name : RecordField.name.Means entries IsFilledText d.name
  interpretation : RecordField.interpretation.Means entries IsName d.interpretation
  execution : RecordField.execution.Means entries IsName d.execution
  usesCallback : RecordField.usesCallback.MeansOr entries false IsTruth d.usesCallback
  template : RecordField.template.Means entries IsFilledText d.template
  validation : RecordField.validation.MeansOr entries none (OrNull IsName) d.validation
  regex : RecordField.regex.MeansOr entries none (OrNull fun v s ↦ v = .text s) d.regex
  vulnerabilities : RecordField.vulnerabilities.Means entries IsNames d.vulnerabilities

/-- A draft is read exactly if its parts are and no key is at fault. -/
theorem draft_eq_ok_iff_parts [Platform] {d : PayloadDraft} :
    draft entries = .ok d ↔ keyFaults entries = [] ∧
      RecordField.name.required entries (under readFilledText) = .ok d.name ∧
      RecordField.interpretation.required entries (under readName) = .ok d.interpretation ∧
      RecordField.execution.required entries (under readName) = .ok d.execution ∧
      RecordField.usesCallback.optional entries false (under readTruth) = .ok d.usesCallback ∧
      RecordField.template.required entries (under readFilledText) = .ok d.template ∧
      RecordField.validation.optional entries none (under (readNullable readName)) =
        .ok d.validation ∧
      RecordField.regex.optional entries none (under (readNullable readText)) = .ok d.regex ∧
      RecordField.vulnerabilities.required entries readNames = .ok d.vulnerabilities := by
  unfold draft
  constructor
  · intro h
    simp only at h
    split at h
    · cases h
    · next hfaults =>
      simp only [bind_eq_ok_iff] at h
      obtain ⟨name, hname, interpretation, hinterpretation, execution, hexecution, usesCallback,
        husesCallback, template, htemplate, validation, hvalidation, regex, hregex,
        vulnerabilities, hvulnerabilities, hd⟩ := h
      cases hd
      simp only [Bool.not_eq_true', Bool.not_eq_false, List.isEmpty_iff, List.append_eq_nil_iff]
        at hfaults
      exact ⟨hfaults.2, hname, hinterpretation, hexecution, husesCallback, htemplate, hvalidation,
        hregex, hvulnerabilities⟩
  · rintro ⟨hkeys, hname, hinterpretation, hexecution, husesCallback, htemplate, hvalidation,
      hregex, hvulnerabilities⟩
    simp only [hkeys, hname, hinterpretation, hexecution, husesCallback, htemplate, hvalidation,
      hregex, hvulnerabilities, Checked.faults]
    rfl

/-- A draft is read from entries in which no text stands twice as a key exactly if they name fields
and the values that the fields are given are read as its parts. -/
theorem draft_eq_ok_iff_given [Platform] (h : (Value.textKeys entries).Nodup)
    {d : PayloadDraft} :
    draft entries = .ok d ↔ NamesFields entries ∧
      RecordField.name.Means entries (readFilledText · = .ok ·) d.name ∧
      RecordField.interpretation.Means entries (readName · = .ok ·) d.interpretation ∧
      RecordField.execution.Means entries (readName · = .ok ·) d.execution ∧
      RecordField.usesCallback.MeansOr entries false (readTruth · = .ok ·) d.usesCallback ∧
      RecordField.template.Means entries (readFilledText · = .ok ·) d.template ∧
      RecordField.validation.MeansOr entries none (readNullable readName · = .ok ·) d.validation ∧
      RecordField.regex.MeansOr entries none (readNullable readText · = .ok ·) d.regex ∧
      RecordField.vulnerabilities.Means entries ReadsNames d.vulnerabilities := by
  rw [draft_eq_ok_iff_parts, keyFaults_eq_nil_iff_namesFields]
  refine and_congr_right fun hn ↦ ?_
  have hs : ∀ f ∈ RecordField.all, f.IsSingle entries := hn.single
  rw [RecordField.required_eq_ok_iff h (hs _ (by decide)) fun _ _ _ ↦ under_eq_ok_iff,
    RecordField.required_eq_ok_iff h (hs _ (by decide)) fun _ _ _ ↦ under_eq_ok_iff,
    RecordField.required_eq_ok_iff h (hs _ (by decide)) fun _ _ _ ↦ under_eq_ok_iff,
    RecordField.optional_eq_ok_iff h (hs _ (by decide)) fun _ _ _ ↦ under_eq_ok_iff,
    RecordField.required_eq_ok_iff h (hs _ (by decide)) fun _ _ _ ↦ under_eq_ok_iff,
    RecordField.optional_eq_ok_iff h (hs _ (by decide)) fun _ _ _ ↦ under_eq_ok_iff,
    RecordField.optional_eq_ok_iff h (hs _ (by decide)) fun _ _ _ ↦ under_eq_ok_iff,
    RecordField.required_eq_ok_iff h (hs _ (by decide)) fun _ _ _ ↦ readNames_eq_ok_iff]

section Reading

variable {α : Type} {v : Value}

private theorem nullable_iff {read : Value → Except RecordIssue α}
    {means : Value → α → Prop} (hnull : ∀ a, ¬ means .null a)
    (hread : ∀ v, v.isPlain = true → ∀ a, read v = .ok a ↔ means v a) {a? : Option α}
    (hv : v.isPlain = true) : readNullable read v = .ok a? ↔ OrNull means v a? := by
  rw [readNullable_eq_ok_iff fun a ↦ (hread .null rfl a).not.mpr (hnull a)]
  constructor
  · rintro (⟨rfl, rfl⟩ | ⟨a, ha, rfl⟩)
    · exact .null
    · exact .value ((hread v hv a).mp ha)
  · rintro (_ | h)
    · exact .inl ⟨rfl, rfl⟩
    · exact .inr ⟨_, (hread v hv _).mpr h, rfl⟩

private theorem nullableName_iff [Named α] [LawfulNamed α] {a? : Option α}
    (hv : v.isPlain = true) : readNullable readName v = .ok a? ↔ OrNull IsName v a? :=
  nullable_iff (by rintro a ⟨s, hs, -⟩; cases hs) (fun _ hv _ ↦ readName_eq_ok_iff hv) hv

private theorem nullableText_iff {s? : Option String} (hv : v.isPlain = true) :
    readNullable readText v = .ok s? ↔ OrNull (fun v s ↦ v = .text s) v s? :=
  nullable_iff (by rintro a ⟨⟩) (fun _ hv _ ↦ readText_eq_ok_iff hv) hv

end Reading

/-- The entries of a plain record are read as a draft exactly if they spell it out. -/
theorem draft_eq_ok_iff [Platform] (h : Value.arePlainEntries entries = true)
    {d : PayloadDraft} :
    draft entries = .ok d ↔ Spells entries d := by
  have hplain : ∀ {f : RecordField} {v : Value}, f.Given entries v → v.isPlain = true := by
    rintro f v (hv | hv)
    · exact ((Value.arePlainEntries_iff.mp h).1 _ hv).2
    · exact ((Value.arePlainEntries_iff.mp h).1 _ hv).2
  rw [draft_eq_ok_iff_given (Value.nodup_textKeys h), spells_iff]
  unfold RecordField.MeansOr
  rw [RecordField.means_congr fun _ hv _ ↦ readFilledText_eq_ok_iff (hplain hv),
    RecordField.means_congr fun _ hv _ ↦ readName_eq_ok_iff (hplain hv),
    RecordField.means_congr fun _ hv _ ↦ readName_eq_ok_iff (hplain hv),
    RecordField.means_congr fun _ hv _ ↦ readTruth_eq_ok_iff (hplain hv),
    RecordField.means_congr fun _ hv _ ↦ readFilledText_eq_ok_iff (hplain hv),
    RecordField.means_congr fun _ hv _ ↦ nullableName_iff (hplain hv),
    RecordField.means_congr fun _ hv _ ↦ nullableText_iff (hplain hv),
    RecordField.means_congr fun _ hv _ ↦ readsNames_iff (hplain hv)]
  rfl

end Record

end VulnScanner
