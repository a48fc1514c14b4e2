import Mathlib.Data.List.TakeDrop
import VulnScanner.Json.Reader
import VulnScanner.Proofs.Steps

/-!
# The grammar of JSON

What stands in a text, stated by the signs that it is made of: lists in brackets, and objects in
braces of which the members are kept as they are written, repeated names included. The reader reads
exactly what belongs to this grammar.
-/

namespace VulnScanner.Json

/-! ### The grammar -/

/-- The cursor behind white space. -/
def Cursor.afterSpaces (cursor : Cursor) : Cursor := skipSpaces cursor.rest cursor.position

/-- A sign stands right at the first cursor, and the second one is behind it. -/
def SignAt (sign : Char) (cursor next : Cursor) : Prop :=
  ∃ rest, cursor.rest = sign :: rest ∧ next = ⟨rest, cursor.position + 1⟩

/-- A quoted text begins right at the cursor, and the second cursor is behind it. -/
def TextAt (cursor : Cursor) (s : String) (next : Cursor) : Prop :=
  ∃ inner cs, SignAt '\x22' cursor inner ∧
    readText cursor.position 0 inner.position inner.rest = .ok (cs, next) ∧ s = String.ofList cs

/-- The entries that the members of an object make: a name that comes up again keeps its place and
gets the new value. -/
def putMembers (entries : List (Value × Value)) (members : List (String × Value)) :
    List (Value × Value) :=
  members.foldl (fun entries m ↦ Value.putEntry entries (.text m.1) m.2) entries

mutual

/-- A value begins right at the first cursor and ends at the second one. -/
inductive Reads : Cursor → Value → Cursor → Prop
  | text {c next : Cursor} {s : String} (h : TextAt c s next) : Reads c (.text s) next
  | scalar {c next : Cursor} {v : Value} (h : readScalar c = .ok (v, next)) : Reads c v next
  | emptyList {c inner next : Cursor} (hopen : SignAt '[' c inner)
      (hclose : SignAt ']' inner.afterSpaces next) : Reads c (.list []) next
  | list {c inner next : Cursor} {items : List Value} (hopen : SignAt '[' c inner)
      (h : ReadsItems inner.afterSpaces items next) : Reads c (.list items) next
  | emptyObject {c inner next : Cursor} (hopen : SignAt '\x7b' c inner)
      (hclose : SignAt '\x7d' inner.afterSpaces next) : Reads c (.mapping []) next
  | object {c inner next : Cursor} {members : List (String × Value)} (hopen : SignAt '\x7b' c inner)
      (h : ReadsMembers inner.afterSpaces members next) :
      Reads c (.mapping (putMembers [] members)) next

/-- The items of a list, of which there are some, up to its closing bracket. -/
inductive ReadsItems : Cursor → List Value → Cursor → Prop
  | last {c behind next : Cursor} {v : Value} (h : Reads c v behind)
      (hclose : SignAt ']' behind.afterSpaces next) : ReadsItems c [v] next
  | more {c behind other next : Cursor} {v : Value} {items : List Value} (h : Reads c v behind)
      (hcomma : SignAt ',' behind.afterSpaces other)
      (hrest : ReadsItems other.afterSpaces items next) : ReadsItems c (v :: items) next

/-- The members of an object, of which there are some, as they are written, up to its closing
brace. -/
inductive ReadsMembers : Cursor → List (String × Value) → Cursor → Prop
  | last {c named value behind next : Cursor} {name : String} {v : Value}
      (hname : TextAt c name named) (hcolon : SignAt ':' named.afterSpaces value)
      (h : Reads value.afterSpaces v behind) (hclose : SignAt '\x7d' behind.afterSpaces next) :
      ReadsMembers c [(name, v)] next
  | more {c named value behind other next : Cursor} {name : String} {v : Value}
      {members : List (String × Value)} (hname : TextAt c name named)
      (hcolon : SignAt ':' named.afterSpaces value) (h : Reads value.afterSpaces v behind)
      (hcomma : SignAt ',' behind.afterSpaces other)
      (hrest : ReadsMembers other.afterSpaces members next) :
      ReadsMembers c ((name, v) :: members) next

end

/-! ### Going on -/

variable {c next : Cursor} {v : Value} {s : String} {sign : Char} {steps : Nat}

/-- White space does not add anything. -/
theorem length_afterSpaces_le (c : Cursor) : c.afterSpaces.rest.length ≤ c.rest.length := by
  obtain ⟨rest, position⟩ := c
  unfold Cursor.afterSpaces
  dsimp only
  induction rest generalizing position with
  | nil => exact Nat.le_refl _
  | cons d rest ih =>
    rw [skipSpaces]
    split
    · exact Nat.le_succ_of_le (ih (position + 1))
    · exact Nat.le_refl _

/-- Only one sign stands at a cursor. -/
theorem SignAt.sign_eq {other : Char} {next' : Cursor} (h : SignAt sign c next)
    (h' : SignAt other c next') : sign = other := by
  obtain ⟨_, hc, -⟩ := h
  obtain ⟨_, hc', -⟩ := h'
  exact (List.cons.inj (hc.symm.trans hc')).1

/-- There is less behind a sign. -/
theorem SignAt.length_lt (h : SignAt sign c next) : next.rest.length < c.rest.length := by
  obtain ⟨rest, hc, rfl⟩ := h
  rw [hc]
  exact Nat.lt_succ_self _

/-- There is less behind a sign that stands behind white space. -/
theorem SignAt.length_lt_of_afterSpaces (h : SignAt sign c.afterSpaces next) :
    next.rest.length < c.rest.length :=
  Nat.lt_of_lt_of_le h.length_lt (length_afterSpaces_le c)

/-- There is less behind a sign and white space. -/
theorem SignAt.length_afterSpaces_lt (h : SignAt sign c next) :
    next.afterSpaces.rest.length < c.rest.length :=
  Nat.lt_of_le_of_lt (length_afterSpaces_le next) h.length_lt

/-- There is less behind a sign with white space on both sides. -/
theorem SignAt.length_afterSpaces_lt_of_afterSpaces (h : SignAt sign c.afterSpaces next) :
    next.afterSpaces.rest.length < c.rest.length :=
  Nat.lt_of_lt_of_le h.length_afterSpaces_lt (length_afterSpaces_le c)

/-- There is less behind the closing quote of a text. -/
theorem length_of_readText {start skip position : Nat} {rest cs : List Char}
    (h : readText start skip position rest = .ok (cs, next)) :
    next.rest.length < rest.length := by
  induction rest generalizing skip position cs with
  | nil => cases skip <;> cases h
  | cons d rest ih =>
    cases skip with
    | succ skip =>
      rw [readText] at h
      exact Nat.lt_succ_of_lt (ih h)
    | zero =>
      rw [readText] at h
      split at h
      · cases h
        exact Nat.lt_succ_self _
      split at h
      · obtain ⟨⟨_, _⟩, -, h⟩ := bind_eq_ok_iff.mp h
        obtain ⟨⟨_, _⟩, htail, h⟩ := bind_eq_ok_iff.mp h
        cases h
        exact Nat.lt_succ_of_lt (ih htail)
      split at h
      · cases h
      · obtain ⟨⟨_, _⟩, htail, h⟩ := bind_eq_ok_iff.mp h
        cases h
        exact Nat.lt_succ_of_lt (ih htail)

/-- There is less behind a text. -/
theorem TextAt.length_lt (h : TextAt c s next) : next.rest.length < c.rest.length := by
  obtain ⟨inner, cs, hopen, hread, -⟩ := h
  exact Nat.lt_trans (length_of_readText hread) hopen.length_lt

/-! ### Scalars -/

private theorem length_spanDigits_le (s : List Char) :
    (Number.spanDigits s).2.length ≤ s.length := by
  rw [Number.spanDigits, List.span_eq_takeWhile_dropWhile]
  exact (List.dropWhile_suffix _).length_le

private theorem length_splitWhole_le (s : List Char) : (splitWhole s).2.length ≤ s.length := by
  unfold splitWhole
  split
  · exact Nat.le_succ _
  · exact length_spanDigits_le s

private theorem length_splitFraction_le (s : List Char) :
    (splitFraction s).2.length ≤ s.length := by
  unfold splitFraction
  split
  · dsimp only
    split
    · exact Nat.le_refl _
    · exact Nat.le_succ_of_le (length_spanDigits_le _)
  · exact Nat.le_refl _

private theorem length_splitExponent?_le {s : List Char} {e : Int × Nat × List Char}
    (h : splitExponent? s = some e) : e.2.2.length ≤ s.length := by
  unfold splitExponent? at h
  split at h
  · next d rest =>
    split at h
    · dsimp only at h
      split at h
      · cases h
      · cases h
        have hsign : (Number.splitSign rest).2.length ≤ rest.length := by
          unfold Number.splitSign
          split
          · exact Nat.le_succ _
          · exact Nat.le_succ _
          · exact Nat.le_refl _
        exact Nat.le_succ_of_le (Nat.le_trans (length_spanDigits_le _) hsign)
    · cases h
  · cases h

/-- What is behind a number is behind its body, the number without its sign. -/
private theorem length_behind_number {body : List Char} :
    let rest := (splitFraction (splitWhole body).2).2
    (((splitExponent? rest).map (·.2.2)).getD rest).length ≤ body.length := by
  intro rest
  have hrest : rest.length ≤ body.length :=
    Nat.le_trans (length_splitFraction_le _) (length_splitWhole_le body)
  cases he : splitExponent? rest with
  | none => exact hrest
  | some e => exact Nat.le_trans (length_splitExponent?_le he) hrest

private theorem readNumber_ok (h : readNumber c = .ok (v, next)) :
    next.rest.length ≤ c.rest.length ∧ ∀ entries, v ≠ .mapping entries := by
  unfold readNumber at h
  split at h
  next negative body hsigned =>
  have hbody : body.length ≤ c.rest.length := by
    split at hsigned
    · next heq =>
      cases hsigned
      rw [heq]
      exact Nat.le_succ _
    · cases hsigned
      exact Nat.le_refl _
  dsimp only at h
  split at h
  · cases h
  split at h
  · split at h
    · cases h
    · cases h
      exact ⟨Nat.le_trans length_behind_number hbody, nofun⟩
  · cases h
    exact ⟨Nat.le_trans length_behind_number hbody, nofun⟩

/-- A scalar does not add anything, and it is no object. -/
theorem readScalar_ok (h : readScalar c = .ok (v, next)) :
    next.rest.length ≤ c.rest.length ∧ ∀ entries, v ≠ .mapping entries := by
  unfold readScalar at h
  split at h
  · next hword =>
    cases h
    have hwords : ∀ w ∈ words, ∀ entries, w.2 ≠ .mapping entries := by simp [words]
    exact ⟨(List.drop_suffix _ _).length_le, hwords _ (List.mem_of_find?_eq_some hword)⟩
  · exact readNumber_ok h

/-- No scalar begins with a quote, a bracket or a brace. -/
theorem SignAt.readScalar_ne_ok (h : SignAt sign c next) (hs : sign ∈ ['\x22', '[', ']', '\x7b'])
    (r : Value × Cursor) : readScalar c ≠ .ok r := by
  obtain ⟨rest, position⟩ := c
  obtain ⟨_, rfl, -⟩ := h
  simp only [List.mem_cons, List.not_mem_nil, or_false] at hs
  rcases hs with rfl | rfl | rfl | rfl <;> nofun

/-! ### Values -/

mutual

/-- There is not more behind a value. -/
theorem Reads.length_le {c next : Cursor} {v : Value} : Reads c v next →
    next.rest.length ≤ c.rest.length
  | .text h => Nat.le_of_lt h.length_lt
  | .scalar h => (readScalar_ok h).1
  | .emptyList hopen hclose =>
    Nat.le_of_lt (Nat.lt_trans hclose.length_lt_of_afterSpaces hopen.length_lt)
  | .list hopen h => Nat.le_trans h.length_le (Nat.le_of_lt hopen.length_afterSpaces_lt)
  | .emptyObject hopen hclose =>
    Nat.le_of_lt (Nat.lt_trans hclose.length_lt_of_afterSpaces hopen.length_lt)
  | .object hopen h => Nat.le_trans h.length_le (Nat.le_of_lt hopen.length_afterSpaces_lt)

/-- There is not more behind a list. -/
theorem ReadsItems.length_le {c next : Cursor} {items : List Value} : ReadsItems c items next →
    next.rest.length ≤ c.rest.length
  | .last h hclose => Nat.le_trans (Nat.le_of_lt hclose.length_lt_of_afterSpaces) h.length_le
  | .more h hcomma hrest => by
    have hvalue := h.length_le
    have hother := hcomma.length_afterSpaces_lt_of_afterSpaces
    have hitems := hrest.length_le
    omega

/-- There is not more behind an object. -/
theorem ReadsMembers.length_le {c next : Cursor} {members : List (String × Value)} :
    ReadsMembers c members next → next.rest.length ≤ c.rest.length
  | .last hname hcolon h hclose => by
    have hnamed := hname.length_lt
    have hcolon := hcolon.length_afterSpaces_lt_of_afterSpaces
    have hvalue := h.length_le
    have hclose := hclose.length_lt_of_afterSpaces
    omega
  | .more hname hcolon h hcomma hrest => by
    have hnamed := hname.length_lt
    have hcolon := hcolon.length_afterSpaces_lt_of_afterSpaces
    have hvalue := h.length_le
    have hother := hcomma.length_afterSpaces_lt_of_afterSpaces
    have hmembers := hrest.length_le
    omega

end

/-! ### What is read belongs to the grammar -/

/-- The reader with a number of steps reads values, lists and objects of the grammar. -/
private structure Sound (steps : Nat) : Prop where
  value : ∀ {c v next}, readValue steps c = .ok (v, next) → Reads c v next
  items : ∀ {c done v next}, readItems steps done c = .ok (v, next) →
    ∃ items, v = .list (done ++ items) ∧ ReadsItems c items next
  entries : ∀ {c entries v next}, readEntries steps entries c = .ok (v, next) →
    ∃ members, v = .mapping (putMembers entries members) ∧ ReadsMembers c members next

private theorem Sound.value_succ (h : Sound steps) {r : Value × Cursor}
    (hr : readValue (steps + 1) c = .ok r) : Reads c r.1 r.2 := by
  rw [readValue] at hr
  split at hr
  · next rest hc =>
    obtain ⟨⟨cs, next⟩, htext, hr⟩ := bind_eq_ok_iff.mp hr
    cases hr
    exact .text ⟨_, cs, ⟨rest, hc, rfl⟩, htext, rfl⟩
  · next rest hc =>
    have hopen : SignAt '\x7b' c ⟨rest, c.position + 1⟩ := ⟨rest, hc, rfl⟩
    dsimp only at hr
    split at hr
    · next rest hclose =>
      cases hr
      exact .emptyObject hopen ⟨rest, hclose, rfl⟩
    · obtain ⟨v, next⟩ := r
      obtain ⟨members, rfl, hmembers⟩ := h.entries hr
      exact .object hopen hmembers
  · next rest hc =>
    have hopen : SignAt '[' c ⟨rest, c.position + 1⟩ := ⟨rest, hc, rfl⟩
    dsimp only at hr
    split at hr
    · next rest hclose =>
      cases hr
      exact .emptyList hopen ⟨rest, hclose, rfl⟩
    · obtain ⟨v, next⟩ := r
      obtain ⟨items, rfl, hitems⟩ := h.items hr
      exact .list hopen hitems
  · exact .scalar hr

private theorem Sound.items_succ (h : Sound steps) {done : List Value}
    (hr : readItems (steps + 1) done c = .ok (v, next)) :
    ∃ items, v = .list (done ++ items) ∧ ReadsItems c items next := by
  rw [readItems] at hr
  obtain ⟨⟨item, behind⟩, hitem, hr⟩ := bind_eq_ok_iff.mp hr
  dsimp only at hr
  split at hr
  · next rest hclose =>
    cases hr
    exact ⟨[item], rfl, .last (h.value hitem) ⟨rest, hclose, rfl⟩⟩
  · next rest hcomma =>
    obtain ⟨items, rfl, hitems⟩ := h.items hr
    exact ⟨item :: items, by rw [List.append_assoc, List.singleton_append],
      .more (h.value hitem) ⟨rest, hcomma, rfl⟩ hitems⟩
  · cases hr

private theorem Sound.entries_succ (h : Sound steps) {entries : List (Value × Value)}
    (hr : readEntries (steps + 1) entries c = .ok (v, next)) :
    ∃ members, v = .mapping (putMembers entries members) ∧ ReadsMembers c members next := by
  rw [readEntries] at hr
  split at hr
  · next rest hc =>
    obtain ⟨⟨cs, named⟩, htext, hr⟩ := bind_eq_ok_iff.mp hr
    have hname : TextAt c (String.ofList cs) named := ⟨_, cs, ⟨rest, hc, rfl⟩, htext, rfl⟩
    dsimp only at hr
    split at hr
    · next rest hcolon =>
      have hcolon : SignAt ':' named.afterSpaces _ := ⟨rest, hcolon, rfl⟩
      obtain ⟨⟨w, behind⟩, hvalue, hr⟩ := bind_eq_ok_iff.mp hr
      dsimp only at hr
      split at hr
      · next rest hclose =>
        cases hr
        exact ⟨[(String.ofList cs, w)], rfl,
          .last hname hcolon (h.value hvalue) ⟨rest, hclose, rfl⟩⟩
      · next rest hcomma =>
        obtain ⟨members, rfl, hmembers⟩ := h.entries hr
        exact ⟨(String.ofList cs, w) :: members, rfl,
          .more hname hcolon (h.value hvalue) ⟨rest, hcomma, rfl⟩ hmembers⟩
      · cases hr
    · cases hr
  · cases hr

private theorem sound (steps : Nat) : Sound steps := by
  induction steps with
  | zero => exact ⟨nofun, nofun, nofun⟩
  | succ steps ih => exact ⟨ih.value_succ, ih.items_succ, ih.entries_succ⟩

/-- A value that is read belongs to the grammar, however many steps there are. -/
theorem Reads.of_readValue (h : readValue steps c = .ok (v, next)) : Reads c v next :=
  (sound steps).value h

/-! ### What belongs to the grammar is read -/

/-- No value begins with a closing bracket. -/
private theorem Reads.not_signAt_close {other : Cursor} (h : Reads c v next) :
    ¬SignAt ']' c other := by
  intro hclose
  cases h with
  | text h =>
    obtain ⟨_, _, hopen, -⟩ := h
    exact absurd (hopen.sign_eq hclose) (by decide)
  | scalar h => exact hclose.readScalar_ne_ok (by decide) _ h
  | emptyList hopen => exact absurd (hopen.sign_eq hclose) (by decide)
  | list hopen => exact absurd (hopen.sign_eq hclose) (by decide)
  | emptyObject hopen => exact absurd (hopen.sign_eq hclose) (by decide)
  | object hopen => exact absurd (hopen.sign_eq hclose) (by decide)

private theorem ReadsItems.not_signAt_close {items : List Value} {other : Cursor}
    (h : ReadsItems c items next) : ¬SignAt ']' c other := by
  cases h with
  | last h => exact h.not_signAt_close
  | more h => exact h.not_signAt_close

private theorem ReadsMembers.not_signAt_close {members : List (String × Value)} {other : Cursor}
    (h : ReadsMembers c members next) : ¬SignAt '\x7d' c other := by
  intro hclose
  cases h with
  | last hname =>
    obtain ⟨_, _, hopen, -⟩ := hname
    exact absurd (hopen.sign_eq hclose) (by decide)
  | more hname =>
    obtain ⟨_, _, hopen, -⟩ := hname
    exact absurd (hopen.sign_eq hclose) (by decide)

private theorem readValue_of_textAt (h : TextAt c s next) :
    readValue (steps + 1) c = .ok (.text s, next) := by
  obtain ⟨_, cs, ⟨rest, hc, rfl⟩, htext, rfl⟩ := h
  simp only [readValue, hc]
  exact bind_eq_ok_iff.mpr ⟨(cs, next), htext, rfl⟩

private theorem readValue_of_readScalar {r : Value × Cursor} (h : readScalar c = .ok r) :
    readValue (steps + 1) c = .ok r := by
  have hsign {sign : Char} {rest : List Char} (hc : c.rest = sign :: rest)
      (hs : sign ∈ ['\x22', '[', ']', '\x7b']) : False :=
    SignAt.readScalar_ne_ok ⟨rest, hc, rfl⟩ hs r h
  rw [readValue]
  split
  · next hc => exact (hsign hc (by decide)).elim
  · next hc => exact (hsign hc (by decide)).elim
  · next hc => exact (hsign hc (by decide)).elim
  · exact h

section Parts

variable {inner behind other named value : Cursor} {name : String} {items done : List Value}
variable {members : List (String × Value)} {entries : List (Value × Value)}

private theorem readValue_of_emptyList (hopen : SignAt '[' c inner)
    (hclose : SignAt ']' inner.afterSpaces next) :
    readValue (steps + 1) c = .ok (.list [], next) := by
  obtain ⟨rest, hc, rfl⟩ := hopen
  obtain ⟨rest', hclose, rfl⟩ := hclose
  unfold Cursor.afterSpaces at hclose ⊢
  simp only [readValue, hc, hclose]

private theorem readValue_of_emptyObject (hopen : SignAt '\x7b' c inner)
    (hclose : SignAt '\x7d' inner.afterSpaces next) :
    readValue (steps + 1) c = .ok (.mapping [], next) := by
  obtain ⟨rest, hc, rfl⟩ := hopen
  obtain ⟨rest', hclose, rfl⟩ := hclose
  unfold Cursor.afterSpaces at hclose ⊢
  simp only [readValue, hc, hclose]

private theorem readValue_of_list (hopen : SignAt '[' c inner)
    (h : ReadsItems inner.afterSpaces items next) :
    readValue (steps + 1) c = readItems steps [] inner.afterSpaces := by
  obtain ⟨rest, hc, rfl⟩ := hopen
  simp only [readValue, hc]
  split
  · next rest' hclose => exact (h.not_signAt_close ⟨rest', hclose, rfl⟩).elim
  · rfl

private theorem readValue_of_object (hopen : SignAt '\x7b' c inner)
    (h : ReadsMembers inner.afterSpaces members next) :
    readValue (steps + 1) c = readEntries steps [] inner.afterSpaces := by
  obtain ⟨rest, hc, rfl⟩ := hopen
  simp only [readValue, hc]
  split
  · next rest' hclose => exact (h.not_signAt_close ⟨rest', hclose, rfl⟩).elim
  · rfl

private theorem readItems_of_last (h : readValue steps c = .ok (v, behind))
    (hclose : SignAt ']' behind.afterSpaces next) :
    readItems (steps + 1) done c = .ok (.list (done ++ [v]), next) := by
  obtain ⟨rest, hclose, rfl⟩ := hclose
  unfold Cursor.afterSpaces at hclose ⊢
  simp only [readItems, h, ok_bind, hclose]
  rfl

private theorem readItems_of_more (h : readValue steps c = .ok (v, behind))
    (hcomma : SignAt ',' behind.afterSpaces other) :
    readItems (steps + 1) done c = readItems steps (done ++ [v]) other.afterSpaces := by
  obtain ⟨rest, hcomma, rfl⟩ := hcomma
  unfold Cursor.afterSpaces at hcomma ⊢
  simp only [readItems, h, ok_bind, hcomma]

private theorem readEntries_of_last (hname : TextAt c name named)
    (hcolon : SignAt ':' named.afterSpaces value)
    (h : readValue steps value.afterSpaces = .ok (v, behind))
    (hclose : SignAt '\x7d' behind.afterSpaces next) :
    readEntries (steps + 1) entries c =
      .ok (.mapping (Value.putEntry entries (.text name) v), next) := by
  obtain ⟨_, cs, ⟨rest, hc, rfl⟩, htext, rfl⟩ := hname
  obtain ⟨_, hcolon, rfl⟩ := hcolon
  obtain ⟨_, hclose, rfl⟩ := hclose
  unfold Cursor.afterSpaces at hcolon h hclose ⊢
  dsimp only at htext h
  simp only [readEntries, hc, htext, ok_bind, hcolon, h, hclose]
  rfl

private theorem readEntries_of_more (hname : TextAt c name named)
    (hcolon : SignAt ':' named.afterSpaces value)
    (h : readValue steps value.afterSpaces = .ok (v, behind))
    (hcomma : SignAt ',' behind.afterSpaces other) :
    readEntries (steps + 1) entries c =
      readEntries steps (Value.putEntry entries (.text name) v) other.afterSpaces := by
  obtain ⟨_, cs, ⟨rest, hc, rfl⟩, htext, rfl⟩ := hname
  obtain ⟨_, hcolon, rfl⟩ := hcolon
  obtain ⟨_, hcomma, rfl⟩ := hcomma
  unfold Cursor.afterSpaces at hcolon h hcomma ⊢
  dsimp only at htext h
  simp only [readEntries, hc, htext, ok_bind, hcolon, h, hcomma]

end Parts

mutual

/-- Two steps for each character, and one more, are enough for a value. -/
theorem Reads.readValue_eq {c next : Cursor} {v : Value} (h : Reads c v next) {steps : Nat}
    (hsteps : 2 * c.rest.length + 1 ≤ steps) : readValue steps c = .ok (v, next) := by
  obtain ⟨steps, rfl⟩ := Nat.exists_eq_add_one_of_ne_zero (Nat.ne_zero_of_lt hsteps)
  cases h with
  | text h => exact readValue_of_textAt h
  | scalar h => exact readValue_of_readScalar h
  | emptyList hopen hclose => exact readValue_of_emptyList hopen hclose
  | emptyObject hopen hclose => exact readValue_of_emptyObject hopen hclose
  | list hopen h =>
    rw [readValue_of_list hopen h]
    have hinner := hopen.length_afterSpaces_lt
    exact h.readItems_eq [] (by omega)
  | object hopen h =>
    rw [readValue_of_object hopen h]
    have hinner := hopen.length_afterSpaces_lt
    exact h.readEntries_eq [] (by omega)
termination_by steps

/-- Two steps for each character, and two more, are enough for a list. -/
theorem ReadsItems.readItems_eq {c next : Cursor} {items : List Value}
    (h : ReadsItems c items next) (done : List Value) {steps : Nat}
    (hsteps : 2 * c.rest.length + 2 ≤ steps) :
    readItems steps done c = .ok (.list (done ++ items), next) := by
  obtain ⟨steps, rfl⟩ := Nat.exists_eq_add_one_of_ne_zero (Nat.ne_zero_of_lt hsteps)
  have hsteps := Nat.le_of_succ_le_succ hsteps
  cases h with
  | last h hclose => exact readItems_of_last (h.readValue_eq hsteps) hclose
  | more h hcomma hrest =>
    rw [readItems_of_more (h.readValue_eq hsteps) hcomma]
    have hbehind := h.length_le
    have hother := hcomma.length_afterSpaces_lt_of_afterSpaces
    rw [hrest.readItems_eq _ (by omega), List.append_assoc, List.singleton_append]
termination_by steps

/-- Two steps for each character, and two more, are enough for an object. -/
theorem ReadsMembers.readEntries_eq {c next : Cursor} {members : List (String × Value)}
    (h : ReadsMembers c members next) (entries : List (Value × Value)) {steps : Nat}
    (hsteps : 2 * c.rest.length + 2 ≤ steps) :
    readEntries steps entries c = .ok (.mapping (putMembers entries members), next) := by
  obtain ⟨steps, rfl⟩ := Nat.exists_eq_add_one_of_ne_zero (Nat.ne_zero_of_lt hsteps)
  cases h with
  | last hname hcolon h hclose =>
    have hnamed := hname.length_lt
    have hvalue := hcolon.length_afterSpaces_lt_of_afterSpaces
    exact readEntries_of_last hname hcolon (h.readValue_eq (by omega)) hclose
  | more hname hcolon h hcomma hrest =>
    have hnamed := hname.length_lt
    have hvalue := hcolon.length_afterSpaces_lt_of_afterSpaces
    rw [readEntries_of_more hname hcolon (h.readValue_eq (by omega)) hcomma]
    have hbehind := h.length_le
    have hother := hcomma.length_afterSpaces_lt_of_afterSpaces
    exact hrest.readEntries_eq _ (by omega)
termination_by steps

end

end VulnScanner.Json
