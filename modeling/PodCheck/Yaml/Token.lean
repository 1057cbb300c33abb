import PodCheck.Yaml.Tag

/-! # Tokens of YAML

The parts into which a YAML text is cut. Indentation shows as tokens that open and close block
collections, and a `key` token stands before each key, written or implied. -/

namespace PodCheck.Yaml

/-- How a scalar is written. -/
inductive ScalarStyle
  /-- Without quotes. -/
  | plain
  /-- In single or double quotes. -/
  | quoted
  /-- A block that keeps its line breaks. -/
  | literal
  /-- A block whose lines are joined. -/
  | folded
deriving DecidableEq

/-- A part of a YAML text. -/
inductive Token
  /-- The version of the language. -/
  | versionDirective (major minor : Nat)
  /-- A handle for tags. -/
  | tagDirective (handle : String) (start : Tag)
  /-- The line that starts a document. -/
  | documentStart
  /-- The line that ends a document. -/
  | documentEnd
  /-- The indentation of a sequence begins. -/
  | blockSequenceStart
  /-- The indentation of a mapping begins. -/
  | blockMappingStart
  /-- The indentation of the innermost block collection ends. -/
  | blockEnd
  /-- An opening bracket. -/
  | flowSequenceStart
  /-- A closing bracket. -/
  | flowSequenceEnd
  /-- An opening brace. -/
  | flowMappingStart
  /-- A closing brace. -/
  | flowMappingEnd
  /-- The dash before an item. -/
  | blockEntry
  /-- A comma. -/
  | flowEntry
  /-- A key follows. -/
  | key
  /-- A value follows. -/
  | value
  /-- The node of an anchor once more. -/
  | alias (name : String)
  /-- A name for the next node. -/
  | anchor (name : String)
  /-- A tag for the next node. -/
  | tag (handle : String) (suffix : Tag)
  /-- A scalar. -/
  | scalar (style : ScalarStyle) (text : String)
deriving DecidableEq

end PodCheck.Yaml
