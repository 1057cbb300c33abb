import PodCheck.Yaml.Token

/-! # Nodes of YAML

The tree that a document stands for. An alias stays a reference: following it costs a step of a
budget that grows with the size of the document, so a short document cannot stand for a huge tree.
-/

namespace PodCheck.Yaml

/-- A node of a document. -/
inductive Node
  /-- A text with its style and its tag. -/
  | scalar (tag : Option Tag) (style : ScalarStyle) (text : String)
  /-- A list of nodes. -/
  | sequence (items : List Node)
  /-- Keys with their values. -/
  | mapping (entries : List (Node × Node))
  /-- The node of an anchor, by its number. -/
  | alias (anchor : Nat)
deriving Inhabited

/-- The node of an empty document, and of a key or a value that is left out. -/
def Node.empty : Node := .scalar none .plain ""

/-- A node that an alias may stand for. -/
structure Target where
  /-- The number of its anchor. -/
  anchor : Nat
  /-- How many anchored nodes begin before it. -/
  order : Nat
  /-- The node. -/
  node : Node

/-- The node of an anchor's number: of several the one that begins last. -/
def findTarget (anchor : Nat) (targets : List Target) : Option Node :=
  (targets.foldl (fun best t =>
    if t.anchor ≠ anchor then best
    else
      match best with
      | some b => if b.order < t.order then some t else some b
      | none => some t) none).map (·.node)

/-- A document. -/
structure Document where
  /-- Its node. -/
  root : Node
  /-- The nodes with anchors. -/
  targets : List Target
  /-- Its size: one for each scalar and alias, two for each collection. -/
  size : Nat

/-- The node that an alias of a document stands for. -/
def Document.find? (d : Document) (anchor : Nat) : Option Node := findTarget anchor d.targets

end PodCheck.Yaml
