import VulnScanner.Proofs.Data.Entries
import VulnScanner.Proofs.Json.Grammar

/-!
# JSON documents

A document is a value with white space around it. The reader accepts exactly the documents of the
grammar, and of the members of an object it finds the last value that is given for each name.
-/

namespace VulnScanner.Json

variable {c next : Cursor} {v : Value} {text : List Char} {entries : List (Value × Value)}

/-! ### Documents -/

/-- A text holds one piece of a kind with nothing but white space around it and without a byte
order mark. -/
def Holds (text : List Char) (piece : Cursor → Cursor → Prop) : Prop :=
  text.head? ≠ some '\ufeff' ∧
    ∃ next, piece (Cursor.afterSpaces ⟨text, 0⟩) next ∧ next.afterSpaces.rest = []

/-- A text is a document of a value. -/
def Document (text : List Char) (v : Value) : Prop := Holds text (Reads · v ·)

/-- An object with the members that are written begins right at the first cursor and ends at the
second one. -/
def ReadsObject (c : Cursor) (members : List (String × Value)) (next : Cursor) : Prop :=
  ∃ inner, SignAt '\x7b' c inner ∧
    (members = [] ∧ SignAt '\x7d' inner.afterSpaces next ∨
      ReadsMembers inner.afterSpaces members next)

/-- A text is a document of an object with the members that are written. -/
def ObjectDocument (text : List Char) (members : List (String × Value)) : Prop :=
  Holds text (ReadsObject · members ·)

/-- The reader accepts exactly the documents of the grammar, with their values. -/
theorem parse_eq_ok_iff : parse text = .ok v ↔ Document text v := by
  have hlength : (Cursor.afterSpaces ⟨text, 0⟩).rest.length ≤ text.length :=
    length_afterSpaces_le ⟨text, 0⟩
  unfold parse Document Holds
  by_cases hmark : text.head? = some '\ufeff'
  · rw [if_pos hmark]
    exact ⟨nofun, fun h ↦ absurd hmark h.1⟩
  · rw [if_neg hmark, and_iff_right hmark, bind_eq_ok_iff]
    constructor
    · rintro ⟨⟨w, next⟩, hread, h⟩
      dsimp only at h
      split at h
      · next hrest =>
        cases h
        exact ⟨next, Reads.of_readValue hread, List.isEmpty_iff.mp hrest⟩
      · cases h
    · rintro ⟨next, hread, hrest⟩
      refine ⟨(v, next), hread.readValue_eq (by omega), ?_⟩
      exact if_pos (List.isEmpty_iff.mpr hrest)

/-- A mapping is what the members of an object make. -/
theorem reads_mapping_iff :
    Reads c (.mapping entries) next ↔
      ∃ members, ReadsObject c members next ∧ entries = putMembers [] members := by
  constructor
  · intro h
    cases h with
    | scalar h => exact absurd rfl ((readScalar_ok h).2 _)
    | emptyObject hopen hclose => exact ⟨[], ⟨_, hopen, .inl ⟨rfl, hclose⟩⟩, rfl⟩
    | object hopen h => exact ⟨_, ⟨_, hopen, .inr h⟩, rfl⟩
  · rintro ⟨members, ⟨inner, hopen, ⟨rfl, hclose⟩ | h⟩, rfl⟩
    · exact .emptyObject hopen hclose
    · exact .object hopen h

/-- A text is a document of a mapping exactly if it is one of an object of which the members make
the mapping. -/
theorem document_mapping_iff :
    Document text (.mapping entries) ↔
      ∃ members, ObjectDocument text members ∧ entries = putMembers [] members := by
  unfold Document ObjectDocument Holds
  simp only [reads_mapping_iff]
  constructor
  · rintro ⟨hmark, next, ⟨members, hobject, rfl⟩, hrest⟩
    exact ⟨members, ⟨hmark, next, hobject, hrest⟩, rfl⟩
  · rintro ⟨members, ⟨hmark, next, hobject, hrest⟩, rfl⟩
    exact ⟨hmark, next, ⟨members, hobject, rfl⟩, hrest⟩

/-! ### The last value of a name -/

/-- The last value that members give for a name. -/
def IsLast (members : List (String × Value)) (name : String) (v : Value) : Prop :=
  ∃ before after, members = before ++ (name, v) :: after ∧ ∀ m ∈ after, m.1 ≠ name

variable {members : List (String × Value)} {name : String}

private theorem isLast_cons_iff {m : String × Value} :
    IsLast (m :: members) name v ↔
      IsLast members name v ∨ m = (name, v) ∧ ∀ other ∈ members, other.1 ≠ name := by
  constructor
  · rintro ⟨before, after, h, hafter⟩
    cases before with
    | nil =>
      cases h
      exact .inr ⟨rfl, hafter⟩
    | cons first before =>
      cases h
      exact .inl ⟨before, after, rfl, hafter⟩
  · rintro (⟨before, after, rfl, hafter⟩ | ⟨rfl, hafter⟩)
    · exact ⟨m :: before, after, rfl, hafter⟩
    · exact ⟨[], members, rfl, hafter⟩

private theorem field?_putMembers_iff_or (entries : List (Value × Value)) :
    Value.field? (putMembers entries members) name = some v ↔ IsLast members name v ∨
      (∀ m ∈ members, m.1 ≠ name) ∧ Value.field? entries name = some v := by
  induction members generalizing entries with
  | nil => simp [putMembers, IsLast]
  | cons m rest ih =>
    obtain ⟨key, w⟩ := m
    change Value.field? (putMembers (Value.putEntry entries (.text key) w) rest) name = _ ↔ _
    rw [ih, isLast_cons_iff, List.forall_mem_cons, or_assoc]
    refine or_congr_right ?_
    by_cases hkey : key = name
    · subst hkey
      rw [Value.field?_putEntry_self]
      simp [and_comm]
    · rw [Value.field?_putEntry_of_ne hkey]
      simp [hkey]

/-- What is found under a name is the last value that the members give for it. -/
theorem field?_putMembers_iff :
    Value.field? (putMembers [] members) name = some v ↔ IsLast members name v := by
  rw [field?_putMembers_iff_or]
  exact or_iff_left fun h ↦ nomatch h.2

end VulnScanner.Json
