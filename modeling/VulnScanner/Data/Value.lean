import VulnScanner.Calendar.Moment
import VulnScanner.Number.Decimal
import VulnScanner.Text.Quoted

/-!
# Dynamic data

The values that a document can hold. A collection that contains itself is kept finite:
`Value.enclosing n` stands for the collection `n` levels further out (`0` is the collection that
holds it directly). `Value.display` is the text of a value in messages and
`Value.expression` its form inside a collection.
-/

namespace VulnScanner

/-- A value of a document. -/
inductive Value where
  | null
  | bool (b : Bool)
  | int (n : Int)
  | float (x : Binary64)
  | text (s : String)
  | bytes (octets : List UInt8)
  | date (d : Calendar.Date)
  | moment (m : Calendar.Moment)
  | list (items : List Value)
  /-- A fixed pair, as the ordered mappings and pair lists of documents hold them. -/
  | pair (first second : Value)
  | set (members : List Value)
  /-- Entries in order; keys are pairwise different. -/
  | mapping (entries : List (Value × Value))
  /-- The enclosing collection, counted outwards. -/
  | enclosing (level : Nat)
  deriving Repr, Inhabited

namespace Value

/-- The name of the kind of a value in messages. -/
def kind : Value → String
  | null => "NoneType"
  | bool _ => "bool"
  | int _ => "int"
  | float _ => "float"
  | text _ => "str"
  | bytes _ => "bytes"
  | date _ => "datetime.date"
  | moment _ => "datetime.datetime"
  | list _ => "list"
  | pair _ _ => "tuple"
  | set _ => "set"
  | mapping _ => "dict"
  | enclosing _ => "list"

/-- Everything is true but null, false, zero and the empty texts and collections. -/
def isTruthy : Value → Bool
  | null => false
  | bool b => b
  | int n => n != 0
  | float x => !x.isZero
  | text s => !s.isEmpty
  | bytes octets => !octets.isEmpty
  | list items => !items.isEmpty
  | set members => !members.isEmpty
  | mapping entries => !entries.isEmpty
  | date _ => true
  | moment _ => true
  | pair _ _ => true
  | enclosing _ => true

/-- Truth values are integers in comparisons. -/
def asInt? : Value → Option Int
  | bool b => some (if b then 1 else 0)
  | int n => some n
  | float x => x.toInt?
  | _ => none

/-- Equality of scalars as keys: numbers of all kinds are compared by value. -/
def sameKey (a b : Value) : Bool :=
  match a, b with
  | null, null => true
  | text s, text t => s == t
  | bytes s, bytes t => s == t
  | date s, date t => s == t
  | moment s, moment t => s == t
  | pair a b, pair c d => sameKey a c && sameKey b d
  | float x, float y => if x.isZero then y.isZero else x == y
  | a, b =>
    match a.asInt?, b.asInt? with
    | some m, some n => m == n
    | _, _ => false

/-- Puts an entry: the value of an equal key is replaced in place, a new key goes to the end. -/
def putEntry (entries : List (Value × Value)) (key value : Value) : List (Value × Value) :=
  if entries.any fun e ↦ e.1.sameKey key then
    entries.map fun e ↦ if e.1.sameKey key then (e.1, value) else e
  else entries ++ [(key, value)]

/-- The value under a text key. -/
def field? (entries : List (Value × Value)) (name : String) : Option Value :=
  entries.findSome? fun
    | (text key, value) => if key = name then some value else none
    | _ => none

mutual

/-- Texts of the kinds of the collections around a value, innermost first, decide how a
reference to one of them is shown. -/
private def render (around : List String) : Value → String
  | null => "None"
  | bool true => "True"
  | bool false => "False"
  | int n => toString n
  | float x => x.text
  | text s => Text.quoted s
  | bytes octets => Text.quotedBytes octets
  | date d => d.expression
  | moment m => m.expression
  | list items => "[" ++ ", ".intercalate (renderAll ("[...]" :: around) items) ++ "]"
  | pair a b => "(" ++ render around a ++ ", " ++ render around b ++ ")"
  | set members =>
    if members.isEmpty then "set()"
    else "\x7b" ++ ", ".intercalate (renderAll ("set(...)" :: around) members) ++ "\x7d"
  | mapping entries =>
    "\x7b" ++ ", ".intercalate (renderEntries ("\x7b...\x7d" :: around) entries) ++ "\x7d"
  | enclosing level => (around[level]?).getD "..."

private def renderAll (around : List String) : List Value → List String
  | [] => []
  | v :: rest => render around v :: renderAll around rest

private def renderEntries (around : List String) : List (Value × Value) → List String
  | [] => []
  | (k, v) :: rest =>
    (render around k ++ ": " ++ render around v) :: renderEntries around rest

end

/-- The form of a value inside a collection, in which texts are quoted. -/
def expression (v : Value) : String := render [] v

/-- The text of a value in a message: a text stands as it is. -/
def display : Value → String
  | text s => s
  | date d => d.text
  | moment m => m.text
  | v => v.expression

/-- The text of an empty value. -/
@[simp] theorem display_null : null.display = "None" := by
  simp [display, expression, render]

mutual

/-- Replaces references that lead `depth` levels out of the value by `outer`. -/
private def fillAt (outer : Value) (depth : Nat) : Value → Value
  | list items => list (fillAll outer (depth + 1) items)
  | set members => set (fillAll outer (depth + 1) members)
  | mapping entries => mapping (fillEntries outer (depth + 1) entries)
  | pair a b => pair (fillAt outer depth a) (fillAt outer depth b)
  | enclosing level => if level = depth then outer else enclosing level
  | v => v

private def fillAll (outer : Value) (depth : Nat) : List Value → List Value
  | [] => []
  | v :: rest => fillAt outer depth v :: fillAll outer depth rest

private def fillEntries (outer : Value) (depth : Nat) :
    List (Value × Value) → List (Value × Value)
  | [] => []
  | (k, v) :: rest => (fillAt outer depth k, fillAt outer depth v) :: fillEntries outer depth rest

end

/-- A member of a collection as a value of its own: references to the collection are filled in. -/
def detach (outer member : Value) : Value := fillAt outer 0 member

mutual

/-- Plain values are null, truth values, numbers and texts, and the lists and mappings of plain
values in which no key stands twice. -/
def isPlain : Value → Bool
  | null => true
  | bool _ => true
  | int _ => true
  | float _ => true
  | text _ => true
  | list items => arePlain items
  | mapping entries => arePlainEntries entries
  | _ => false

/-- Holds when all values are plain. -/
def arePlain : List Value → Bool
  | [] => true
  | v :: rest => v.isPlain && arePlain rest

/-- Holds when all entries are plain and their keys are pairwise different. -/
def arePlainEntries : List (Value × Value) → Bool
  | [] => true
  | (k, v) :: rest =>
    k.isPlain && v.isPlain && rest.all (fun e ↦ !k.sameKey e.1) && arePlainEntries rest

end

mutual

private theorem fillAt_of_isPlain (outer : Value) (depth : Nat) :
    ∀ v : Value, v.isPlain = true → fillAt outer depth v = v
  | null, _ => rfl
  | bool _, _ => rfl
  | int _, _ => rfl
  | float _, _ => rfl
  | text _, _ => rfl
  | list items, h => by
    rw [isPlain] at h
    rw [fillAt, fillAll_of_arePlain outer (depth + 1) items h]
  | mapping entries, h => by
    rw [isPlain] at h
    rw [fillAt, fillEntries_of_arePlain outer (depth + 1) entries h]
  | bytes _, h => by cases h
  | date _, h => by cases h
  | moment _, h => by cases h
  | pair _ _, h => by cases h
  | set _, h => by cases h
  | enclosing _, h => by cases h

private theorem fillAll_of_arePlain (outer : Value) (depth : Nat) :
    ∀ items : List Value, arePlain items = true → fillAll outer depth items = items
  | [], _ => rfl
  | v :: rest, h => by
    rw [arePlain, Bool.and_eq_true] at h
    rw [fillAll, fillAt_of_isPlain outer depth v h.1, fillAll_of_arePlain outer depth rest h.2]

private theorem fillEntries_of_arePlain (outer : Value) (depth : Nat) :
    ∀ entries : List (Value × Value), arePlainEntries entries = true →
      fillEntries outer depth entries = entries
  | [], _ => rfl
  | (k, v) :: rest, h => by
    simp only [arePlainEntries, Bool.and_eq_true] at h
    rw [fillEntries, fillAt_of_isPlain outer depth k h.1.1.1,
      fillAt_of_isPlain outer depth v h.1.1.2, fillEntries_of_arePlain outer depth rest h.2]

end

/-- A list of plain values holds plain values only. -/
theorem arePlain_iff {items : List Value} :
    arePlain items = true ↔ ∀ v ∈ items, v.isPlain = true := by
  induction items with
  | nil => simp [arePlain]
  | cons v rest ih => rw [arePlain, Bool.and_eq_true, ih, List.forall_mem_cons]

/-- Plain entries hold plain values under keys that are pairwise different. -/
theorem arePlainEntries_iff {entries : List (Value × Value)} :
    arePlainEntries entries = true ↔
      (∀ e ∈ entries, e.1.isPlain = true ∧ e.2.isPlain = true) ∧
        entries.Pairwise fun e e' ↦ e.1.sameKey e'.1 = false := by
  induction entries with
  | nil => simp [arePlainEntries]
  | cons e rest ih =>
    rw [List.forall_mem_cons, List.pairwise_cons]
    simp only [arePlainEntries, Bool.and_eq_true, List.all_eq_true, Bool.not_eq_true', ih]
    constructor
    · rintro ⟨⟨he, hkey⟩, hrest, hkeys⟩
      exact ⟨⟨he, hrest⟩, hkey, hkeys⟩
    · rintro ⟨⟨he, hrest⟩, hkey, hkeys⟩
      exact ⟨⟨he, hkey⟩, hrest, hkeys⟩

/-- A plain value stands on its own already. -/
theorem detach_of_isPlain (outer : Value) {v : Value} (h : v.isPlain = true) :
    detach outer v = v :=
  fillAt_of_isPlain outer 0 v h

/-- The entries of a mapping, each value standing on its own. -/
def entries? : Value → Option (List (Value × Value))
  | mapping entries => some (entries.map fun e ↦ (e.1, detach (mapping entries) e.2))
  | _ => none

/-- The values met when going through a value, if it can be gone through: the members of a
collection, the keys of a mapping, the characters of a text, the numbers of octets. -/
def iterate? : Value → Option (List Value)
  | text s => some (s.toList.map fun c ↦ text (String.ofList [c]))
  | bytes octets => some (octets.map fun b ↦ int b.toNat)
  | list items => some (items.map (detach (list items)))
  | pair a b => some [a, b]
  | set members => some members
  | mapping entries => some (entries.map (·.1))
  | _ => none

end Value
end VulnScanner
