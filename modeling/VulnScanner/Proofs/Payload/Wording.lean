import Mathlib.Data.List.Forall2
import VulnScanner.Payload.Record
import VulnScanner.Proofs.Lists
import VulnScanner.Proofs.Steps

/-!
# What written values stand for

Which texts, truth values and lists of names the values of a record stand for, stated as relations
of a value and its meaning. Each reader of plain values succeeds exactly where its relation holds,
with the meaning that the relation gives.
-/

namespace VulnScanner

/-! ### Closed lists -/

/-- A closed list of which the members are found under their names, and of which the short forms
are different from each other and from the names. -/
class LawfulNamed (α : Type) [Named α] : Prop where
  ofName?_name (a : α) : Named.ofName? (Named.name a) = some a
  nodup_shortForms : ((Named.shortForms α).map Prod.fst).Nodup
  lookup_name (a : α) : (Named.shortForms α).lookup (Named.name a) = none

instance : LawfulNamed InterpretationEnvironment where
  ofName?_name a := by cases a <;> decide
  nodup_shortForms := by decide
  lookup_name a := by cases a <;> decide

instance : LawfulNamed ExecutionEnvironment where
  ofName?_name a := by cases a <;> decide
  nodup_shortForms := by decide
  lookup_name a := by cases a <;> decide

instance : LawfulNamed ValidationType where
  ofName?_name a := by cases a <;> decide
  nodup_shortForms := by decide
  lookup_name a := by cases a <;> decide

instance : LawfulNamed VulnerabilityType where
  ofName?_name a := by cases a <;> decide
  nodup_shortForms := by decide
  lookup_name a := by cases a <;> decide

namespace Named

variable {α : Type} [Named α] [LawfulNamed α]

/-- A text is the name of a member exactly if the member is found under it. -/
theorem ofName?_eq_some_iff {s : String} {a : α} : ofName? s = some a ↔ s = name a := by
  constructor
  · intro h
    have hfound := List.find?_some h
    exact (beq_iff_eq.mp hfound).symm
  · rintro rfl
    exact LawfulNamed.ofName?_name a

end Named

namespace Record

/-! ### Names -/

section Names

variable {α : Type} [Named α]

/-- A written name stands for a member if, without blanks around it and in capitals, it is the name
of the member or one of its short forms. -/
def Names (written : String) (a : α) : Prop :=
  capitals written = Named.name a ∨ (capitals written, Named.name a) ∈ Named.shortForms α

/-- A text lists one name, and a list lists the names in it; there are no short forms here. -/
inductive ListsNames : Value → List α → Prop
  | single {s : String} {a : α} (h : capitals s = Named.name a) : ListsNames (.text s) [a]
  | list {items : List Value} {as : List α}
      (h : List.Forall₂ (fun v a ↦ ∃ s, v = .text s ∧ capitals s = Named.name a) items as) :
      ListsNames (.list items) as

variable [LawfulNamed α]

/-- The full name for a written name is that of a member exactly if it stands for the member. -/
theorem fullName_eq_iff {written : String} {a : α} :
    fullName α written = Named.name a ↔ Names written a := by
  have hnodup := LawfulNamed.nodup_shortForms (α := α)
  unfold fullName Names
  cases h : (Named.shortForms α).lookup (capitals written) with
  | none =>
    have hnot : (capitals written, Named.name a) ∉ Named.shortForms α := by
      intro hm
      rw [(lookup_eq_some_iff_mem hnodup).mpr hm] at h
      cases h
    simp only [Option.getD_none, hnot, or_false]
  | some full =>
    rw [Option.getD_some]
    constructor
    · rintro rfl
      exact .inr ((lookup_eq_some_iff_mem hnodup).mp h)
    · rintro (hname | hm)
      · rw [hname, LawfulNamed.lookup_name a] at h
        cases h
      · rw [(lookup_eq_some_iff_mem hnodup).mpr hm] at h
        exact (Option.some.inj h).symm

/-- A member is read from its name only. -/
theorem readMember_eq_ok_iff {v : Value} (hv : v.isPlain = true) {a : α} :
    readMember v = .ok a ↔ v = .text (Named.name a) := by
  cases v with
  | text s =>
    rw [readMember, Value.text.injEq, ← Named.ofName?_eq_some_iff]
    cases (Named.ofName? s : Option α) with
    | none => simp only [reduceCtorEq]
    | some b => simp only [Except.ok.injEq, Option.some.injEq]
  | bytes octets => cases hv
  | _ => simp only [readMember, reduceCtorEq]

/-- A member is read from the texts that stand for it. -/
theorem readName_eq_ok_iff {v : Value} (hv : v.isPlain = true) {a : α} :
    readName v = .ok a ↔ ∃ s, v = .text s ∧ Names s a := by
  cases v with
  | text s =>
    rw [readName, readMember_eq_ok_iff rfl, Value.text.injEq, fullName_eq_iff]
    simp only [Value.text.injEq, exists_eq_left']
  | bytes octets => cases hv
  | _ => simp only [readName, readMember, reduceCtorEq, false_and, exists_false]

/-- Items are read exactly if each of them is. -/
theorem readItems_eq_ok_iff {β : Type} {read : Value → Except RecordIssue β} {key : String}
    {i : Nat} {items : List Value} {bs : List β} :
    readItems read key i items = .ok bs ↔ List.Forall₂ (fun v b ↦ read v = .ok b) items bs := by
  induction items generalizing i bs with
  | nil => cases bs <;> simp [readItems]
  | cons v rest ih =>
    have hrest := @ih (i + 1)
    rw [readItems]
    cases hv : read v with
    | error issue => cases bs <;> simp [hv]
    | ok b =>
      cases h : readItems read key (i + 1) rest with
      | error faults =>
        simp only [h, reduceCtorEq, false_iff] at hrest
        cases bs <;> simp [hv, hrest]
      | ok others =>
        simp only [h, Except.ok.injEq] at hrest
        cases bs <;> simp [hv, ← hrest]

private theorem readMember_capitalItem_iff {v : Value} (hv : v.isPlain = true) {a : α} :
    readMember (capitalItem v) = .ok a ↔ ∃ s, v = .text s ∧ capitals s = Named.name a := by
  cases v with
  | text s =>
    rw [capitalItem, readMember_eq_ok_iff rfl]
    simp only [Value.text.injEq, exists_eq_left']
  | bytes octets => cases hv
  | _ => simp only [capitalItem, readMember, reduceCtorEq, false_and, exists_false]

private theorem readMember_items_iff {items : List Value} (h : ∀ v ∈ items, v.isPlain = true)
    {as : List α} :
    List.Forall₂ (fun v a ↦ readMember v = .ok a) (items.map capitalItem) as ↔
      List.Forall₂ (fun v a ↦ ∃ s, v = .text s ∧ capitals s = Named.name a) items as := by
  rw [List.forall₂_map_left_iff]
  exact forall₂_congr_of_mem fun v hv a ↦ readMember_capitalItem_iff (h v hv)

/-- What is under a key is read exactly if it is read. -/
theorem under_eq_ok_iff {β : Type} {read : Value → Except RecordIssue β} {key : String} {v : Value}
    {b : β} : under read key v = .ok b ↔ read v = .ok b :=
  mapError_eq_ok_iff

private theorem listItems_eq_ok_iff {v : Value} (hv : v.isPlain = true) {items : List Value} :
    listItems v = .ok items ↔
      (∃ s, v = .text s ∧ items = [capitalItem (.text s)]) ∨
        ∃ vs, v = .list vs ∧ items = vs.map capitalItem := by
  cases v with
  | text s => simp [listItems, eq_comm]
  | list vs => simp [listItems, eq_comm]
  | set members => cases hv
  | pair a b => cases hv
  | _ => simp [listItems]

/-- The items of a value are the names of members, and there are some. -/
def ReadsNames {β : Type} [Named β] (v : Value) (bs : List β) : Prop :=
  (∃ items, listItems v = .ok items ∧
    List.Forall₂ (fun v b ↦ readMember v = .ok b) items bs) ∧ bs ≠ []

/-- A list of names is read from a value of which the items are names. -/
theorem readNames_eq_ok_iff {β : Type} [Named β] {key : String} {v : Value} {bs : List β} :
    readNames key v = .ok bs ↔ ReadsNames v bs := by
  unfold readNames ReadsNames
  simp only [bind_eq_ok_iff, under_eq_ok_iff, readItems_eq_ok_iff]
  constructor
  · rintro ⟨items, hitems, names, hnames, h⟩
    cases names with
    | nil => cases h
    | cons b rest =>
      cases h
      exact ⟨⟨items, hitems, hnames⟩, List.cons_ne_nil _ _⟩
  · rintro ⟨⟨items, hitems, hnames⟩, hne⟩
    refine ⟨items, hitems, bs, hnames, ?_⟩
    rw [if_neg (by rwa [List.isEmpty_iff])]
    rfl

/-- The items of a text or a list are names if it lists them. -/
theorem readsNames_iff {v : Value} (hv : v.isPlain = true) {as : List α} :
    ReadsNames v as ↔ ListsNames v as ∧ as ≠ [] := by
  refine and_congr_left fun _ ↦ ⟨?_, ?_⟩
  · rintro ⟨items, hitems, hnames⟩
    rcases (listItems_eq_ok_iff hv).mp hitems with ⟨s, rfl, rfl⟩ | ⟨vs, rfl, rfl⟩
    · cases hnames with
      | cons ha hnil =>
        cases hnil
        rw [capitalItem, readMember_eq_ok_iff rfl] at ha
        exact .single (Value.text.inj ha)
    · exact .list ((readMember_items_iff (Value.arePlain_iff.mp hv)).mp hnames)
  · rintro (⟨h⟩ | ⟨h⟩)
    · exact ⟨_, rfl, .cons ((readMember_eq_ok_iff rfl).mpr (congrArg Value.text h)) .nil⟩
    · exact ⟨_, rfl, (readMember_items_iff (Value.arePlain_iff.mp hv)).mpr h⟩

end Names

/-! ### Texts and truth values -/

/-- A value clearly stands for a truth value if it is one, a word for one in any ASCII case, or the
number one or zero. -/
inductive IsTruth : Value → Bool → Prop
  | bool (b : Bool) : IsTruth (.bool b) b
  | word {s : String} {b : Bool} (h : (Text.asciiLower s, b) ∈ truthWords) : IsTruth (.text s) b
  | int {n : Int} {b : Bool} (h : n = if b then 1 else 0) : IsTruth (.int n) b
  | float {x : Binary64} {b : Bool} (h : x.toInt? = some (if b then 1 else 0)) :
      IsTruth (.float x) b

private theorem truthOfWord_eq_ok_iff {s : String} {b : Bool} :
    truthOfWord s = .ok b ↔ (Text.asciiLower s, b) ∈ truthWords := by
  rw [← lookup_eq_some_iff_mem (by decide), truthOfWord]
  cases truthWords.lookup (Text.asciiLower s) with
  | none => simp only [reduceCtorEq]
  | some c => simp only [Except.ok.injEq, Option.some.injEq]

private theorem truthOfInt_eq_ok_iff {n : Int} {b : Bool} :
    truthOfInt n = .ok b ↔ n = if b then 1 else 0 := by
  unfold truthOfInt
  by_cases hzero : n = 0
  · subst hzero
    cases b <;> decide
  by_cases hone : n = 1
  · subst hone
    cases b <;> decide
  have hnot : n ≠ if b then 1 else 0 := by cases b <;> assumption
  simp only [hzero, hone, hnot, if_false, iff_false]
  split <;> simp

/-- A truth value is read from the values that clearly stand for it. -/
theorem readTruth_eq_ok_iff {v : Value} (hv : v.isPlain = true) {b : Bool} :
    readTruth v = .ok b ↔ IsTruth v b := by
  constructor
  · intro h
    cases v with
    | bool c =>
      cases h
      exact .bool b
    | text s => exact .word (truthOfWord_eq_ok_iff.mp h)
    | int n => exact .int (truthOfInt_eq_ok_iff.mp h)
    | float x =>
      rw [readTruth] at h
      cases hx : x.toInt? with
      | none =>
        rw [hx] at h
        cases h
      | some n =>
        rw [hx] at h
        rw [truthOfInt_eq_ok_iff.mp h] at hx
        exact .float hx
    | bytes octets => cases hv
    | _ => cases h
  · rintro (_ | h | h | h)
    · rfl
    · exact truthOfWord_eq_ok_iff.mpr h
    · exact truthOfInt_eq_ok_iff.mpr h
    · rw [readTruth, h]
      exact truthOfInt_eq_ok_iff.mpr rfl

/-- A text is read from itself only. -/
theorem readText_eq_ok_iff {v : Value} (hv : v.isPlain = true) {s : String} :
    readText v = .ok s ↔ v = .text s := by
  cases v with
  | text t => simp only [readText, Except.ok.injEq, Value.text.injEq]
  | bytes octets => cases hv
  | _ => simp only [readText, reduceCtorEq]

/-- A text that is not empty is read from itself only. -/
theorem readFilledText_eq_ok_iff {v : Value} (hv : v.isPlain = true) {s : String} :
    readFilledText v = .ok s ↔ v = .text s ∧ s ≠ "" := by
  unfold readFilledText
  simp only [bind_eq_ok_iff, readText_eq_ok_iff hv]
  constructor
  · rintro ⟨t, rfl, h⟩
    split at h
    · cases h
    · next hne =>
      cases h
      exact ⟨rfl, hne⟩
  · rintro ⟨rfl, hne⟩
    exact ⟨s, rfl, if_neg hne⟩

/-- Null is read as nothing, and what else can be read as what it is read as. -/
theorem readNullable_eq_ok_iff {β : Type} {read : Value → Except RecordIssue β}
    (hnull : ∀ b, read .null ≠ .ok b) {v : Value} {b? : Option β} :
    readNullable read v = .ok b? ↔
      (v = .null ∧ b? = none) ∨ ∃ b, read v = .ok b ∧ b? = some b := by
  by_cases hv : v = .null
  · subst hv
    simp [readNullable, hnull, eq_comm]
  · rw [readNullable]
    · cases read v with
      | error issue => simp [Except.map, hv]
      | ok b => simp [Except.map, hv, eq_comm]
    · exact hv

end Record
end VulnScanner
