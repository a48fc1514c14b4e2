import Mathlib.Data.List.Nodup
import VulnScanner.Data.Value

/-!
# Entries of mappings

What is found under a text in a list of entries, which texts are keys, and what putting an entry
changes.
-/

namespace VulnScanner.Value

variable {entries : List (Value × Value)} {key name : String} {k v w : Value}

/-! ### Looking up -/

/-- Holds when an entry stands under a text key. -/
def HasKey (entries : List (Value × Value)) (name : String) : Prop :=
  ∃ v, (text name, v) ∈ entries

/-- What is found under a key stands there. -/
theorem mem_of_field? (h : field? entries name = some v) : (text name, v) ∈ entries := by
  obtain ⟨⟨k, w⟩, he, hv⟩ := List.exists_of_findSome?_eq_some h
  cases k with
  | text s =>
    simp only [Option.ite_none_right_eq_some, Option.some.injEq] at hv
    obtain ⟨rfl, rfl⟩ := hv
    exact he
  | _ => cases hv

/-- Nothing is found exactly if the key is missing. -/
theorem field?_eq_none_iff : field? entries name = none ↔ ¬ HasKey entries name := by
  constructor
  · rintro h ⟨v, hv⟩
    have hnot := List.findSome?_eq_none_iff.mp h _ hv
    simp at hnot
  · intro h
    cases hf : field? entries name with
    | none => rfl
    | some v => exact absurd ⟨v, mem_of_field? hf⟩ h

/-- The keys of entries that are texts. -/
def textKeys (entries : List (Value × Value)) : List String :=
  entries.filterMap fun e ↦
    match e.1 with
    | text name => some name
    | _ => none

@[simp] theorem textKeys_text_cons (name : String) (v : Value) (entries : List (Value × Value)) :
    textKeys ((text name, v) :: entries) = name :: textKeys entries := rfl

@[simp] theorem textKeys_append (entries more : List (Value × Value)) :
    textKeys (entries ++ more) = textKeys entries ++ textKeys more :=
  List.filterMap_append

/-- A text is among the keys exactly if an entry stands under it. -/
theorem mem_textKeys_iff : name ∈ textKeys entries ↔ HasKey entries name := by
  rw [textKeys, List.mem_filterMap]
  constructor
  · rintro ⟨⟨k, v⟩, he, hk⟩
    cases k with
    | text s =>
      cases hk
      exact ⟨v, he⟩
    | _ => cases hk
  · rintro ⟨v, hv⟩
    exact ⟨_, hv, rfl⟩

/-- No text stands twice as a key of plain entries. -/
theorem nodup_textKeys (h : arePlainEntries entries = true) : (textKeys entries).Nodup := by
  have hkeys := (arePlainEntries_iff.mp h).2
  clear h
  induction entries with
  | nil => exact .nil
  | cons e rest ih =>
    rw [List.pairwise_cons] at hkeys
    obtain ⟨k, v⟩ := e
    cases k with
    | text s =>
      rw [textKeys_text_cons, List.nodup_cons, mem_textKeys_iff]
      refine ⟨fun ⟨w, hw⟩ ↦ ?_, ih hkeys.2⟩
      have hdiffer := hkeys.1 _ hw
      simp [sameKey] at hdiffer
    | _ => exact ih hkeys.2

/-- Under one text key stands one value, if no text stands twice as a key. -/
theorem eq_of_mem_of_mem (h : (textKeys entries).Nodup) (hv : (text name, v) ∈ entries)
    (hw : (text name, w) ∈ entries) : v = w := by
  obtain ⟨before, after, rfl⟩ := List.append_of_mem hv
  rw [textKeys_append, textKeys_text_cons, List.nodup_middle, List.nodup_cons,
    ← textKeys_append, mem_textKeys_iff] at h
  rcases List.mem_append.mp hw with hw | hw
  · exact absurd ⟨w, List.mem_append_left _ hw⟩ h.1
  · rcases List.mem_cons.mp hw with he | hw
    · exact (Prod.mk.inj he).2.symm
    · exact absurd ⟨w, List.mem_append_right _ hw⟩ h.1

/-- The entries of a plain mapping stand on their own already. -/
theorem entries?_mapping (h : arePlainEntries entries = true) :
    (mapping entries).entries? = some entries := by
  have hplain := (arePlainEntries_iff.mp h).1
  rw [entries?, Option.some.injEq]
  refine (List.map_congr_left fun e he ↦ ?_).trans (List.map_id' entries)
  rw [detach_of_isPlain _ (hplain e he).2]

/-- A plain value with entries is a mapping of them. -/
theorem eq_mapping_of_entries? {v : Value} (hp : v.isPlain = true) (h : v.entries? = some entries) :
    arePlainEntries entries = true ∧ v = mapping entries := by
  cases v with
  | mapping es =>
    have hes : arePlainEntries es = true := hp
    obtain rfl := Option.some.inj ((entries?_mapping hes).symm.trans h)
    exact ⟨hes, rfl⟩
  | _ => cases h

/-! ### Putting -/

/-- Only a text is the same key as a text. -/
theorem sameKey_text_iff : k.sameKey (.text name) = true ↔ k = .text name := by
  cases k <;> simp [sameKey, asInt?]

private theorem field?_cons (e : Value × Value) (entries : List (Value × Value)) (name : String) :
    field? (e :: entries) name =
      if e.1.sameKey (.text name) then some e.2 else field? entries name := by
  obtain ⟨k, v⟩ := e
  unfold field?
  rw [List.findSome?_cons]
  cases k with
  | text key => by_cases h : key = name <;> simp [h, sameKey]
  | _ => simp [sameKey, asInt?]

private theorem field?_append (entries more : List (Value × Value)) (name : String) :
    field? (entries ++ more) name = (field? entries name).or (field? more name) :=
  List.findSome?_append

private theorem field?_replace_self (h : entries.any fun e ↦ e.1.sameKey (.text name)) :
    field? (entries.map fun e ↦ if e.1.sameKey (.text name) then (e.1, v) else e) name =
      some v := by
  induction entries with
  | nil => cases h
  | cons e rest ih =>
    rw [List.any_cons, Bool.or_eq_true] at h
    rw [List.map_cons, field?_cons]
    by_cases he : e.1.sameKey (.text name) = true
    · rw [if_pos he, if_pos he]
    · rw [if_neg he, if_neg he]
      exact ih (h.resolve_left he)

private theorem field?_replace_of_ne (h : key ≠ name) (entries : List (Value × Value)) :
    field? (entries.map fun e ↦ if e.1.sameKey (.text key) then (e.1, v) else e) name =
      field? entries name := by
  induction entries with
  | nil => rfl
  | cons e rest ih =>
    rw [List.map_cons, field?_cons, field?_cons, ih]
    by_cases he : e.1.sameKey (.text key) = true
    · have hother : ¬e.1.sameKey (.text name) = true := by
        rw [sameKey_text_iff.mp he, sameKey_text_iff, text.injEq]
        exact h
      rw [if_pos he, if_neg hother, if_neg hother]
    · rw [if_neg he]

/-- A value that is put is found. -/
theorem field?_putEntry_self : field? (putEntry entries (.text name) v) name = some v := by
  unfold putEntry
  split
  · next h => exact field?_replace_self h
  · next h =>
    have hnone : field? entries name = none := by
      rw [field?_eq_none_iff]
      rintro ⟨w, hw⟩
      exact h (List.any_eq_true.mpr ⟨_, hw, sameKey_text_iff.mpr rfl⟩)
    rw [field?_append, hnone, Option.none_or, field?_cons, if_pos (sameKey_text_iff.mpr rfl)]

/-- Putting a value leaves those under other names. -/
theorem field?_putEntry_of_ne (h : key ≠ name) :
    field? (putEntry entries (.text key) v) name = field? entries name := by
  unfold putEntry
  split
  · exact field?_replace_of_ne h entries
  · have hother : ¬(text key).sameKey (.text name) = true := by
      rw [sameKey_text_iff, text.injEq]
      exact h
    rw [field?_append, field?_cons, if_neg hother]
    exact Option.or_none

/-! ### Leaving out -/

/-- Entries under other keys can be left out without a change to what is found. -/
theorem field?_filter {p : Value × Value → Bool} (h : ∀ v, p (.text name, v) = true) :
    field? (entries.filter p) name = field? entries name := by
  induction entries with
  | nil => rfl
  | cons e rest ih =>
    obtain ⟨k, v⟩ := e
    by_cases hk : k = .text name
    · subst hk
      rw [List.filter_cons_of_pos (h v), field?_cons, field?_cons, ih]
    · have hother : ¬k.sameKey (.text name) = true := sameKey_text_iff.not.mpr hk
      rw [field?_cons, if_neg hother, ← ih, List.filter_cons]
      split
      · rw [field?_cons, if_neg hother]
      · rfl

end VulnScanner.Value
