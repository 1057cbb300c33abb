import PodCheck.Yaml.Lexer
import PodCheck.Yaml.Node

/-! # Reading YAML documents

The nodes of a document from its tokens. A text holds one document; several are refused. An anchor
is numbered by the names that were known when it began; naming a second node alike counts as a new
number. Main statement: the reader is total and gives at most one document (`Document.read?`). -/

namespace PodCheck.Yaml

/-- What has been read of a document. -/
structure Progress where
  /-- The tokens to come. -/
  tokens : List Token
  /-- The names of anchors with their latest numbers. -/
  names : List (String × Nat)
  /-- The number of anchored nodes that have begun. -/
  begun : Nat
  /-- The anchored nodes that have ended. -/
  targets : List Target
  /-- The size of what has been read. -/
  size : Nat

/-- Reads part of a document. -/
abbrev Reader := StateT Progress Option

namespace Reader

/-- The next token. -/
def peek : Reader (Option Token) := fun p => some (p.tokens.head?, p)

/-- Goes on behind the next token. -/
def advance : Reader Unit := fun p => some ((), { p with tokens := p.tokens.drop 1 })

/-- The text cannot be read. -/
def fail {α : Type} : Reader α := fun _ => none

/-- Whether the next token is one of some. -/
def isNext (ts : List Token) : Reader Bool :=
  fun p => some (p.tokens.head?.any ts.contains, p)

/-- Counts nodes. -/
def grow (n : Nat) : Reader Unit := fun p => some ((), { p with size := p.size + n })

/-- A node that is left out. -/
def missing : Reader Node := fun p => some (.empty, { p with size := p.size + 1 })

/-- Numbers the anchor of a node that begins; gives its number and its order. -/
def begin (name : String) : Reader (Nat × Nat) := fun p =>
  let id := p.names.length
  let names := (name, id) :: p.names.filter (·.1 ≠ name)
  some ((id, p.begun), { p with names, begun := p.begun + 1 })

/-- Keeps the node of an anchor. -/
def keep (anchor : Option (Nat × Nat)) (node : Node) : Reader Node := fun p =>
  match anchor with
  | some (id, order) => some (node, { p with targets := ⟨id, order, node⟩ :: p.targets })
  | none => some (node, p)

/-- The number of an anchor that an alias names. -/
def lookUp (name : String) : Reader Nat := fun p =>
  ((p.names.find? (·.1 = name)).map (·.2)).map fun id => (id, p)

/-- An anchor and a tag in either order. -/
def properties : Reader (Option String × Option (String × Tag)) := do
  match ← peek with
  | some (.anchor a) =>
    advance
    match ← peek with
    | some (.tag h s) => advance; pure (some a, some (h, s))
    | _ => pure (some a, none)
  | some (.tag h s) =>
    advance
    match ← peek with
    | some (.anchor a) => advance; pure (some a, some (h, s))
    | _ => pure (none, some (h, s))
  | _ => pure (none, none)

/-- A tag with what its handle stands for. -/
def resolveTag (handles : List (String × Tag)) :
    Option (String × Tag) → Reader (Option Tag)
  | none => pure none
  | some ("", suffix) => pure (some suffix)
  | some (handle, suffix) =>
    match handles.find? (·.1 = handle) with
    | some (_, start) => pure (some (start ++ suffix))
    | none => fail

/-- The tokens before which the value of a pair in brackets is left out. -/
def flowItemEnd : List Token := [.flowEntry, .flowSequenceEnd]

/-- The tokens before which the value of a pair in braces is left out. -/
def flowPairEnd : List Token := [.flowEntry, .flowMappingEnd]

/-- The tokens before which a key or a value of a block mapping is left out. -/
def blockPairEnd : List Token := [.key, .value, .blockEnd]

mutual

/-- A node. Only a node in a block may be a block collection, and only a key or value of a block
mapping may be a sequence without indentation of its own. Every call takes a unit of fuel. -/
def node (handles : List (String × Tag)) : Nat → Bool → Bool → Reader Node
  | 0, _, _ => fail
  | fuel + 1, block, bare => do
    if let some (.alias name) ← peek then
      advance
      let id ← lookUp name
      grow 1
      pure (.alias id)
    else
      let (anchor, tag) ← properties
      let tag ← resolveTag handles tag
      let begun : Reader (Option (Nat × Nat)) :=
        match anchor with
        | some name => do pure (some (← begin name))
        | none => pure none
      match ← peek with
      | some (.scalar style text) =>
        advance
        grow 1
        keep (← begun) (.scalar tag style text)
      | some .flowSequenceStart =>
        advance
        let a ← begun
        keep a (.sequence (← flowItems handles fuel true []))
      | some .flowMappingStart =>
        advance
        let a ← begun
        keep a (.mapping (← flowPairs handles fuel true []))
      | some .blockSequenceStart =>
        if block then
          advance
          let a ← begun
          keep a (.sequence (← blockItems handles fuel []))
        else emptyNode anchor.isSome tag begun
      | some .blockMappingStart =>
        if block then
          advance
          let a ← begun
          keep a (.mapping (← blockPairs handles fuel []))
        else emptyNode anchor.isSome tag begun
      | some .blockEntry =>
        if bare then
          let a ← begun
          keep a (.sequence (← bareItems handles fuel []))
        else emptyNode anchor.isSome tag begun
      | _ => emptyNode anchor.isSome tag begun
where
  /-- A node of which only the anchor or the tag is written. -/
  emptyNode (anchored : Bool) (tag : Option Tag) (begun : Reader (Option (Nat × Nat))) :
      Reader Node := do
    if anchored || tag.isSome then
      grow 1
      keep (← begun) (.scalar tag .plain "")
    else fail

/-- The items of an indented sequence. -/
def blockItems (handles : List (String × Tag)) : Nat → List Node → Reader (List Node)
  | 0, _ => fail
  | fuel + 1, done => do
    match ← peek with
    | some .blockEntry =>
      advance
      let n ← if ← isNext [.blockEntry, .blockEnd] then missing else node handles fuel true false
      blockItems handles fuel (n :: done)
    | some .blockEnd => advance; grow 2; pure done.reverse
    | _ => fail

/-- The items of a sequence without indentation of its own. -/
def bareItems (handles : List (String × Tag)) : Nat → List Node → Reader (List Node)
  | 0, _ => fail
  | fuel + 1, done => do
    match ← peek with
    | some .blockEntry =>
      advance
      let n ← if ← isNext [.blockEntry, .key, .value, .blockEnd] then missing
        else node handles fuel true false
      bareItems handles fuel (n :: done)
    | _ => grow 2; pure done.reverse

/-- The pairs of a block mapping. -/
def blockPairs (handles : List (String × Tag)) :
    Nat → List (Node × Node) → Reader (List (Node × Node))
  | 0, _ => fail
  | fuel + 1, done => do
    match ← peek with
    | some .key =>
      advance
      let k ← if ← isNext blockPairEnd then missing else node handles fuel true true
      let v ←
        if ← isNext [.value] then do
          advance
          if ← isNext blockPairEnd then missing else node handles fuel true true
        else missing
      blockPairs handles fuel ((k, v) :: done)
    | some .blockEnd => advance; grow 2; pure done.reverse
    | _ => fail

/-- The items of a sequence in brackets. An item may be a single pair. -/
def flowItems (handles : List (String × Tag)) : Nat → Bool → List Node → Reader (List Node)
  | 0, _, _ => fail
  | fuel + 1, first, done => do
    if ← isNext [.flowSequenceEnd] then
      advance; grow 2; pure done.reverse
    else
      if !first then
        if ← isNext [.flowEntry] then advance else fail
      if ← isNext [.key] then
        advance
        let k ←
          if ← isNext (.value :: flowItemEnd) then do advance; missing
          else node handles fuel false false
        let v ←
          if ← isNext [.value] then do
            advance
            if ← isNext flowItemEnd then missing else node handles fuel false false
          else missing
        grow 2
        flowItems handles fuel false (.mapping [(k, v)] :: done)
      else if ← isNext [.flowSequenceEnd] then
        advance; grow 2; pure done.reverse
      else
        let n ← node handles fuel false false
        flowItems handles fuel false (n :: done)

/-- The pairs of a mapping in braces. -/
def flowPairs (handles : List (String × Tag)) :
    Nat → Bool → List (Node × Node) → Reader (List (Node × Node))
  | 0, _, _ => fail
  | fuel + 1, first, done => do
    if ← isNext [.flowMappingEnd] then
      advance; grow 2; pure done.reverse
    else
      if !first then
        if ← isNext [.flowEntry] then advance else fail
      if ← isNext [.key] then
        advance
        let k ← if ← isNext (.value :: flowPairEnd) then missing else node handles fuel false false
        let v ←
          if ← isNext [.value] then do
            advance
            if ← isNext flowPairEnd then missing else node handles fuel false false
          else missing
        flowPairs handles fuel false ((k, v) :: done)
      else if ← isNext [.flowMappingEnd] then
        advance; grow 2; pure done.reverse
      else
        let k ← node handles fuel false false
        let v ← missing
        flowPairs handles fuel false ((k, v) :: done)

end

/-- The handles that every document knows. -/
def defaultHandles : List (String × Tag) := [("!", .ofText "!"), ("!!", .core "")]

/-- The directives before a document: at most one version, and no handle twice. Gives the handles.
Every call takes a unit of fuel. -/
def directives : Nat → Bool → List (String × Tag) → Reader (List (String × Tag))
  | 0, _, _ => fail
  | fuel + 1, versioned, handles => do
    match ← peek with
    | some (.versionDirective major minor) =>
      if versioned || major ≠ 1 || (minor ≠ 1 && minor ≠ 2) then fail
      else advance; directives fuel true handles
    | some (.tagDirective handle start) =>
      if handles.any (·.1 = handle) then fail
      else advance; directives fuel versioned (handles ++ [(handle, start)])
    | _ => pure (handles ++ defaultHandles)

/-- The node of the one document in a text. -/
def root (fuel : Nat) : Reader Node := do
  match ← peek with
  | none => missing
  | some (.versionDirective ..) | some (.tagDirective ..) | some .documentStart =>
    let handles ← directives fuel false []
    if ← isNext [.documentStart] then
      advance
      let nothing : Bool :=
        match ← peek with
        | none => true
        | some (.versionDirective ..) => true
        | some (.tagDirective ..) => true
        | some .documentStart => true
        | some .documentEnd => true
        | _ => false
      if nothing then missing else node handles fuel true false
    else fail
  | _ => node defaultHandles fuel true false

end Reader

/-- Reads a text that holds one document. An empty text holds an empty one. -/
def Document.read? (s : String) : Option Document := do
  let tokens ← tokens? s.toList
  let (root, p) ← Reader.root (4 * tokens.length + 4) ⟨tokens, [], 0, [], 0⟩
  if p.tokens.all (· = .documentEnd) then pure ⟨root, p.targets, p.size⟩ else none

end PodCheck.Yaml
