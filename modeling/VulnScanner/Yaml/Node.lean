import VulnScanner.Yaml.Tag
import VulnScanner.Yaml.Token

/-!
# Nodes of a YAML document

The tree of a document. An alias stands for the node with that anchor, so that a document may
contain itself; `Document.anchors` gives the anchored nodes.
-/

namespace VulnScanner.Yaml

/-- A node of a document. -/
inductive Node where
  | scalar (anchor : Option String) (tag : Tag) (text : String)
  | sequence (anchor : Option String) (tag : Tag) (items : List Node)
  | mapping (anchor : Option String) (tag : Tag) (entries : List (Node × Node))
  | reference (name : String)
  deriving Repr, Inhabited

/-- The tag of a node that is no reference. -/
def Node.tag : Node → Tag
  | scalar _ tag _ => tag
  | sequence _ tag _ => tag
  | mapping _ tag _ => tag
  | reference name => .other name

/-- The anchor of a node. -/
def Node.anchor? : Node → Option String
  | scalar anchor _ _ => anchor
  | sequence anchor _ _ => anchor
  | mapping anchor _ _ => anchor
  | reference _ => none

/-- A document: its root, and the nodes that carry an anchor. -/
structure Document where
  root : Node
  anchors : List (String × Node)
  deriving Repr

end VulnScanner.Yaml
