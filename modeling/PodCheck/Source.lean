import PodCheck.Json.Readable
import PodCheck.Reading
import PodCheck.Yaml.Node
import PodCheck.Yaml.Word

/-! # Sources of typed data

Objects of the cluster come as JSON or from YAML manifests. Both give a tree of untyped values, and
the rules by which a typed value is taken from a tree differ: JSON wants the exact type, YAML takes
the type that is wanted from the text of a scalar. This module holds those rules for the simple
types and the containers. A JSON value may also lack its end; then reading tells whether what there
is of it fits. Main statement: reading JSON never touches the budget for aliases
(`Source.text_json`, `Source.bool_json`, `Source.int_json`). -/

namespace PodCheck

/-- An untyped value. -/
inductive Source
  /-- A JSON value. -/
  | json (value : Json)
  /-- The beginning of a JSON value. -/
  | begun (start : Json.Start)
  /-- A node of a YAML document, with the nodes of its anchors. -/
  | yaml (targets : List Yaml.Target) (node : Yaml.Node)

/-! ## Parts -/

/-- The parts of a list or an object. -/
structure Parts (α : Type) where
  /-- Those that have come. The last one may only have begun. -/
  come : List α
  /-- Whether there are no more to come. -/
  whole : Bool

/-- The members of an object. -/
abbrev Members := Parts (String × Source)

namespace Parts

variable {α β : Type}

/-- A value that is made of all parts. -/
def close (p : Parts α) (b : β) : Reading β := if p.whole then pure b else Reading.unfinished

/-- What stands for a part that has not come. -/
def absent (p : Parts α) (b : Option β) : Reading β :=
  if p.whole then Reading.ofOption b else Reading.unfinished

end Parts

namespace Source

/-- The source that an alias stands for; any other source as it is. -/
def resolve : Source → Reading Source
  | .yaml targets (.alias anchor) => do
    Reading.spend
    let node ← Reading.ofOption (Yaml.findTarget anchor targets)
    pure (.yaml targets node)
  | s => pure s

/-- Whether the text of a scalar may stand for a truth value or a number: it is plain, or a literal
block that is tagged so. -/
def isWord (type : String) (tag : Option Yaml.Tag) (style : Yaml.ScalarStyle) : Bool :=
  style = .plain || (style = .literal && tag = some (.core type))

/-! ## Simple types -/

/-- What the beginning of a value is where a single value is wanted. -/
def single {α : Type} (start : Json.Start) : Reading α :=
  if start.mayBeSingle then Reading.unfinished else Reading.fail

/-- A text. -/
def text (s : Source) : Reading String := do
  match ← s.resolve with
  | .json (.text t) => pure t
  | .begun start => single start
  | .yaml _ (.scalar _ _ t) => pure t
  | _ => Reading.fail

/-- A truth value. -/
def bool (s : Source) : Reading Bool := do
  match ← s.resolve with
  | .json (.bool b) => pure b
  | .begun start => single start
  | .yaml _ (.scalar tag style t) =>
    if isWord "bool" tag style then Reading.ofOption (Yaml.bool? t) else Reading.fail
  | _ => Reading.fail

/-- A whole number. -/
def int (s : Source) : Reading Int := do
  match ← s.resolve with
  | .json (.int n) => pure n
  | .begun start => single start
  | .yaml _ (.scalar tag style t) =>
    if isWord "int" tag style then Reading.ofOption (Yaml.integer? t.toList) else Reading.fail
  | _ => Reading.fail

/-- What a plain scalar stands for where either a whole number or a text is wanted. Nothing, truth
values and numbers with a fraction are neither. -/
def wordOrText (t : String) : Option (Int ⊕ String) :=
  if t = "" || Yaml.isNull t || (Yaml.bool? t).isSome then none
  else
    match Yaml.wideInteger? t.toList with
    | some n => some (.inl n)
    | none =>
      if !Yaml.isZeroPadded t.toList && Yaml.isReal t.toList then none else some (.inr t)

/-- What a scalar with a tag stands for where either a whole number or a text is wanted. Other types
fit neither, whether they are the language's own or local, but a local tag that is no text itself
is passed over. -/
def taggedWordOrText (tag : Yaml.Tag) (style : Yaml.ScalarStyle) (t : String) :
    Option (Int ⊕ String) :=
  if tag = .core "int" then (Yaml.wideInteger? t.toList).map .inl
  else if ["bool", "float", "null"].any (tag = .core ·) || (tag.isLocal && tag.isText) then none
  else if tag.isLocal && style = .plain then wordOrText t
  else some (.inr t)

/-- Either a whole number or a text. A tag decides between the two. -/
def intOrText (s : Source) : Reading (Int ⊕ String) := do
  match ← s.resolve with
  | .json (.int n) => pure (.inl n)
  | .json (.text t) => pure (.inr t)
  | .begun start => single start
  | .yaml _ (.scalar none style t) =>
    if style = .plain then Reading.ofOption (wordOrText t) else pure (.inr t)
  | .yaml _ (.scalar (some tag) style t) => Reading.ofOption (taggedWordOrText tag style t)
  | _ => Reading.fail

/-! ## Containers -/

/-- Whether a node is a plain scalar without text. Where a container is wanted, it is empty. -/
def isEmptyScalar : Yaml.Node → Bool
  | .scalar _ .plain "" => true
  | _ => false

/-- The items of a JSON list. -/
def row? : Source → Option (Parts Source)
  | .json (.array items) => some ⟨items.map .json, true⟩
  | .begun (.array items) => some ⟨items.map .json, false⟩
  | .begun (.item items next) => some ⟨items.map .json ++ [.begun next], false⟩
  | _ => none

/-- The items of a list. -/
def items (s : Source) : Reading (Parts Source) := do
  match ← s.resolve with
  | .yaml targets (.sequence nodes) => pure ⟨nodes.map (.yaml targets), true⟩
  | .yaml _ node => if isEmptyScalar node then pure ⟨[], true⟩ else Reading.fail
  | s =>
    match s.row?, s with
    | some row, _ => pure row
    | none, .begun start => single start
    | none, _ => Reading.fail

/-- The members of an object without its end; all keys must be readable. -/
def begunMembers (members : List (Option String × Json)) (last : List (Option String × Source)) :
    Reading Members := do
  let members := members.map fun m => (m.1, Source.json m.2)
  pure ⟨← Reading.ofOption (Json.readableKeys? (members ++ last)), false⟩

/-- The members of an object, with their keys as texts. -/
def members (s : Source) : Reading Members := do
  match ← s.resolve with
  | .json (.object members) => pure ⟨members.map fun m => (m.1, .json m.2), true⟩
  | .begun (.object members) => begunMembers members []
  | .begun (.key members next) =>
    if next.mayBeKey then begunMembers members [] else Reading.fail
  | .begun (.value members key next) => begunMembers members [(key, .begun next)]
  | .begun start => single start
  | .yaml targets (.mapping entries) =>
    let members ← entries.mapM fun e => do
      pure (← (Source.yaml targets e.1).text, Source.yaml targets e.2)
    pure ⟨members, true⟩
  | .yaml _ node => if isEmptyScalar node then pure ⟨[], true⟩ else Reading.fail
  | _ => Reading.fail

/-! ## Values of no wanted type -/

/-- Whether a value that is passed over has begun in a way that no value does. -/
def isBroken : Source → Bool
  | .begun start => start.isBroken
  | _ => false

/-- Keeps a value until it is known what it is wanted for. In JSON all of it must be readable. -/
def keep (depth : Nat) : Source → Reading Unit
  | .json v => if v.isReadable depth then pure () else Reading.fail
  | .begun start => if start.mayBeReadable depth then Reading.unfinished else Reading.fail
  | .yaml .. => pure ()

/-- The source of a value that may be missing. In YAML a plain scalar is missing if it is empty or a
word for nothing; a tag makes it present, except for the tag of nothing itself. -/
def present? (s : Source) : Reading (Option Source) := do
  match ← s.resolve with
  | .json .null => pure none
  | .yaml targets (.scalar tag .plain t) =>
    match tag with
    | none =>
      pure (if t = "" || Yaml.isNull t then none else some (.yaml targets (.scalar none .plain t)))
    | some tag =>
      if tag ≠ .core "null" then pure (some (.yaml targets (.scalar tag .plain t)))
      else if Yaml.isNull t then pure none
      else Reading.fail
  | s => pure (some s)

/-! ## Reading JSON -/

/-- A JSON text is read as it is. -/
@[simp] theorem text_json (t : String) : (Source.json (.text t)).text = pure t := rfl

/-- A JSON truth value is read as it is. -/
@[simp] theorem bool_json (b : Bool) : (Source.json (.bool b)).bool = pure b := rfl

/-- A whole JSON number is read as it is. -/
@[simp] theorem int_json (n : Int) : (Source.json (.int n)).int = pure n := rfl

end Source

end PodCheck
