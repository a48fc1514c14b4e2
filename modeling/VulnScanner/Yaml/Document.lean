import VulnScanner.Yaml.Node.Reader
import VulnScanner.Yaml.Scalar

/-!
# The value of a document

`load` reads a text and gives the value of its document. Collections are gone through level by
level, which decides which of several errors is reported. A mapping may take over the entries of
others under the key `<<`; entries of its own win.
-/

namespace VulnScanner.Yaml

namespace Document

/-- The node that a node stands for. -/
def resolve (d : Document) : Node → Node
  | .reference name => (d.anchors.lookup name).getD (.reference name)
  | n => n

/-- The entries of a mapping that are its own: those of other mappings are left out, and a key `=`
is a text. -/
def ownEntries (d : Document) (entries : List (Node × Node)) : List (Node × Node) :=
  (entries.filter fun e ↦ (d.resolve e.1).tag ≠ .merge).map fun e ↦
    match d.resolve e.1 with
    | .scalar anchor .value text => (.scalar anchor .text text, e.2)
    | _ => e

/-- The entries of a mapping with those that it takes over in front, from mappings at so many levels
at most; `around` names the mappings whose entries are being collected. -/
def allEntries (d : Document) : Nat → List String → List (Node × Node) →
    Except Error (List (Node × Node))
  | 0, _, _ => throw .tooDeep
  | levels + 1, around, entries => do
    let inner (anchor : Option String) (entries : List (Node × Node)) :
        Except Error (List (Node × Node)) :=
      match anchor with
      | none => d.allEntries levels around entries
      | some name =>
        if around.contains name then return d.ownEntries entries
        else d.allEntries levels (name :: around) entries
    let taken ← (entries.filter fun e ↦ (d.resolve e.1).tag = .merge).mapM fun e ↦
      match d.resolve e.2 with
      | .mapping anchor _ more => inner anchor more
      | .sequence _ _ items => do
        let parts ← items.mapM fun item ↦
          match d.resolve item with
          | .mapping anchor _ more => inner anchor more
          | _ => throw .malformed
        return parts.reverse.flatten
      | _ => throw .malformed
    return taken.flatten ++ d.ownEntries entries

/-- The text of a node where a scalar is expected: a mapping may name one under the key `=`, through
so many mappings at most. -/
def scalarText (d : Document) : Nat → Node → Except Error String
  | 0, _ => .error .tooDeep
  | levels + 1, n =>
    match d.resolve n with
    | .scalar _ _ text => .ok text
    | .mapping _ _ entries =>
      match entries.find? fun e ↦ (d.resolve e.1).tag = .value with
      | some e => d.scalarText levels e.2
      | none => .error .malformed
    | _ => .error .malformed

/-- The value of a node that is no collection, and nothing for a collection, whose content is
looked at later. -/
def begin? (d : Document) (levels : Nat) (n : Node) : Except Error (Option Value) :=
  let n := d.resolve n
  match n.tag with
  | .sequence => .ok none
  | .mapping => .ok none
  | .set => .ok none
  | .orderedMapping => .ok none
  | .pairs => .ok none
  | tag => do
    let text ← d.scalarText (levels + 1) n
    match tag, n with
    | .timestamp, .mapping .. => throw .timestampMapping
    | tag, _ => return some (← Scalar.value tag text)

/-- Begins a node; a collection is returned for later. -/
def later (d : Document) (levels : Nat) (n : Node) : Except Error (List Node) := do
  match ← d.begin? levels n with
  | some _ => return []
  | none => return [n]

/-- Begins the keys and values of a mapping, whose keys must not be collections. -/
def laterEntries (d : Document) (levels : Nat) (entries : List (Node × Node)) :
    Except Error (List Node) := do
  let parts ← entries.mapM fun e ↦ do
    if (← d.begin? levels e.1).isNone then throw .malformed
    d.later levels e.2
  return parts.flatten

/-- The one entry of a mapping. -/
def soleEntry (d : Document) (n : Node) : Except Error (Node × Node) :=
  match d.resolve n with
  | .mapping _ _ [e] => .ok e
  | _ => .error .malformed

/-- Looks at the content of a collection and returns the collections in it. -/
def content (d : Document) (levels : Nat) (n : Node) : Except Error (List Node) :=
  match d.resolve n with
  | .sequence _ .sequence items => return (← items.mapM (d.later levels)).flatten
  | .mapping anchor tag entries =>
    if tag = .mapping ∨ tag = .set then do
      d.laterEntries levels (← d.allEntries (levels + 1) anchor.toList entries)
    else throw .malformed
  | .sequence _ tag items =>
    if tag = .orderedMapping ∨ tag = .pairs then do
      let parts ← items.mapM fun item ↦ do
        let (key, value) ← d.soleEntry item
        return (← d.later levels key) ++ (← d.later levels value)
      return parts.flatten
    else throw .malformed
  | _ => throw .malformed

/-- Looks at collections in the order in which they are met. An anchored node is looked at once. -/
def check (d : Document) (levels : Nat) : Nat → List String → List Node → Except Error Unit
  | 0, _, _ => .ok ()
  | _, _, [] => .ok ()
  | steps + 1, seen, n :: queue =>
    match (d.resolve n).anchor? with
    | none => do d.check levels steps seen (queue ++ (← d.content levels n))
    | some name =>
      if seen.contains name then d.check levels steps seen queue
      else do d.check levels steps (name :: seen) (queue ++ (← d.content levels n))

/-- The value of a node whose content is known to be in order; `around` names the collections
around it, innermost first. -/
def build (d : Document) (levels : Nat) : Nat → List (Option String) → Node → Value
  | 0, _, _ => .null
  | steps + 1, around, n =>
    let enclosing? := match n with
      | .reference name => around.findIdx? (· == some name)
      | _ => none
    match enclosing? with
    | some level => .enclosing level
    | none =>
      let n := d.resolve n
      let inner := n.anchor? :: around
      let entries (entries : List (Node × Node)) : List (Value × Value) :=
        ((d.allEntries (levels + 1) n.anchor?.toList entries).toOption.getD []).foldl
          (fun sofar e ↦
            Value.putEntry sofar (d.build levels steps inner e.1) (d.build levels steps inner e.2))
          []
      match n with
      | .sequence _ .sequence items => .list (items.map (d.build levels steps inner))
      | .sequence _ _ items =>
        .list (items.map fun item ↦
          match d.soleEntry item with
          | .ok (key, value) =>
            .pair (d.build levels steps inner key) (d.build levels steps inner value)
          | .error _ => .null)
      | .mapping _ .mapping es => .mapping (entries es)
      | .mapping _ .set es => .set ((entries es).map (·.1))
      | n =>
        match d.begin? levels n with
        | .ok (some v) => v
        | _ => .null

/-- The value of a document with room for so many levels; the bound on the steps has to be large
enough for its nesting. -/
def value (d : Document) (levels steps : Nat) : Except Error Value := do
  d.check levels steps [] (← d.later levels d.root)
  return d.build levels steps [] d.root

end Document

/-- The value of the document that a text holds, or null if it holds none. -/
def load [Platform] (text : List Char) : Except Error Value := do
  match ← Document.read text with
  | none => return .null
  | some d => d.value (Platform.documentLevels text) ((text.length + 2) * (text.length + 2))

end VulnScanner.Yaml
