import PodCheck.Yaml.Property
import PodCheck.Yaml.Scalar

/-! # Cutting YAML into tokens

A key of a block mapping is recognised only when its colon is met. So wherever a key may begin, a
mark is left between the tokens; a colon that follows in the same line and within 1024 bytes
confirms the mark, and the tokens are listed with every confirmed mark replaced by the tokens that
open a mapping and announce a key. -/

namespace PodCheck.Yaml

/-! ## Marks -/

/-- What has been found so far: tokens, and marks where a key may begin. -/
inductive Piece
  /-- A token. -/
  | token (t : Token)
  /-- A mark with its number. -/
  | mark (id : Nat)

/-- The tokens of a piece, given the confirmed marks and whether each opens a mapping. -/
def Piece.resolve (confirmed : List (Nat × Bool)) : Piece → List Token
  | .token t => [t]
  | .mark id =>
    match confirmed.find? fun c => c.1 = id with
    | some (_, true) => [.blockMappingStart, .key]
    | some (_, false) => [.key]
    | none => []

/-- A mark that a colon may still confirm. -/
structure OpenMark where
  /-- The number of the mark. -/
  id : Nat
  /-- Whether a key must begin here, because the place is at the column of a block mapping. -/
  required : Bool
  /-- Where the key begins. -/
  place : Place

/-! ## State -/

/-- The state between two tokens. -/
structure Lexer where
  /-- The rest of the text. -/
  cursor : Cursor
  /-- The columns of the open block collections, innermost first. -/
  indents : List Nat
  /-- The open mark of each open bracket or brace, innermost first, and last that of the block. -/
  marks : List (Option OpenMark)
  /-- Whether a key may begin here. -/
  keyAllowed : Bool
  /-- What has been found, last piece first. -/
  pieces : List Piece
  /-- The number of marks left so far. -/
  count : Nat
  /-- The confirmed marks. -/
  confirmed : List (Nat × Bool)

namespace Lexer

/-- The state before the first token. -/
def start (s : List Char) : Lexer := ⟨⟨.start, s⟩, [], [none], true, [], 0, []⟩

/-- Whether the state is inside brackets or braces. -/
def inFlow (l : Lexer) : Bool := 1 < l.marks.length

/-- The column of the next character. -/
def column (l : Lexer) : Nat := l.cursor.place.column

/-- Adds a token. -/
def emit (t : Token) (l : Lexer) : Lexer := { l with pieces := .token t :: l.pieces }

/-- Moves the cursor. -/
def move (c : Cursor) (l : Lexer) : Lexer := { l with cursor := c }

/-- Adds a token of some characters. -/
def emitSkip (t : Token) (n : Nat) (l : Lexer) : Lexer := (l.emit t).move (l.cursor.skip n)

/-- Says whether a key may begin next. -/
def allowKey (b : Bool) (l : Lexer) : Lexer := { l with keyAllowed := b }

/-- The open mark of the innermost level. -/
def openMark (l : Lexer) : Option OpenMark := l.marks.head?.join

/-- Replaces the open mark of the innermost level. -/
def setMark (m : Option OpenMark) (l : Lexer) : Lexer := { l with marks := m :: l.marks.drop 1 }

/-- Gives up the open mark of the innermost level, unless a key is required there. -/
def dropMark? (l : Lexer) : Option Lexer :=
  if l.openMark.any (·.required) then none else some (l.setMark none)

/-- Leaves a mark if a key may begin here. -/
def leaveMark? (l : Lexer) : Option Lexer :=
  if !l.keyAllowed then some l
  else do
    let l ← l.dropMark?
    let required := !l.inFlow && l.indents.head? = some l.column
    let l := l.setMark (some ⟨l.count, required, l.cursor.place⟩)
    pure { l with pieces := .mark l.count :: l.pieces, count := l.count + 1 }

/-- Gives up the open marks that are in another line or too far back. -/
def dropStale? (l : Lexer) : Option Lexer := do
  let stale (m : OpenMark) : Bool :=
    m.place.line < l.cursor.place.line || m.place.index + 1024 < l.cursor.place.index
  let marks ← l.marks.mapM fun m =>
    match m with
    | some m => if stale m then (if m.required then none else some none) else some (some m)
    | none => some none
  pure { l with marks }

/-! ## Indentation -/

/-- Whether a block collection at this column lies deeper than the open ones. -/
def isDeeper (l : Lexer) (column : Nat) : Bool :=
  !l.inFlow && l.indents.head?.all (· < column)

/-- Opens a block collection at the cursor, if it lies deeper than the open ones. -/
def openBlock (t : Token) (l : Lexer) : Lexer :=
  if l.isDeeper l.column then { l.emit t with indents := l.column :: l.indents } else l

/-- Closes the block collections that lie deeper than a column. -/
def closeBlocks (keep : Nat → Bool) (l : Lexer) : Lexer :=
  if l.inFlow then l
  else
    let closed := l.indents.takeWhile fun i => !keep i
    { l with
      pieces := List.replicate closed.length (.token .blockEnd) ++ l.pieces
      indents := l.indents.drop closed.length }

/-- Closes every block collection and gives up the open mark. -/
def closeAll? (l : Lexer) : Option Lexer := (l.closeBlocks fun _ => false).dropMark?

/-! ## Tokens -/

/-- Skips blanks, comments and line breaks. In a block a new line allows a key; tabs are skipped
only where they cannot be taken for indentation. Every call takes a unit of fuel. -/
def skipGap (flow : Bool) : Nat → Bool → Cursor → Bool × Cursor
  | 0, keyAllowed, c => (keyAllowed, c)
  | fuel + 1, keyAllowed, c =>
    let c := if c.place.column = 0 && c.rest.head? = some '\uFEFF' then c.skip 1 else c
    let c := c.skipWhile fun d => d = ' ' || ((flow || !keyAllowed) && d = '\t')
    let c := if c.rest.head? = some '#' then c.skipLine else c
    match c.takeBreak? with
    | some (_, c) => skipGap flow fuel (keyAllowed || !flow) c
    | none => (keyAllowed, c)

/-- A token that opens brackets or braces. -/
def openFlow? (t : Token) (l : Lexer) : Option Lexer := do
  let l ← l.leaveMark?
  pure ((({ l with marks := none :: l.marks }).emitSkip t 1).allowKey true)

/-- A token that closes brackets or braces. -/
def closeFlow? (t : Token) (l : Lexer) : Option Lexer := do
  let l ← l.dropMark?
  let l := if l.inFlow then { l with marks := l.marks.drop 1 } else l
  pure ((l.emitSkip t 1).allowKey false)

/-- The dash of an item. In a block it stands where a key may begin. -/
def blockEntry? (l : Lexer) : Option Lexer := do
  if !l.inFlow && !l.keyAllowed then none
  else
    let l ← (l.openBlock .blockSequenceStart).dropMark?
    pure ((l.allowKey true).emitSkip .blockEntry 1)

/-- The question mark of a key. In a block it stands where a key may begin. -/
def key? (l : Lexer) : Option Lexer := do
  if !l.inFlow && !l.keyAllowed then none
  else
    let l ← (l.openBlock .blockMappingStart).dropMark?
    pure ((l.allowKey (!l.inFlow)).emitSkip .key 1)

/-- The colon of a value: it confirms an open mark, or follows a key with a question mark. -/
def value? (l : Lexer) : Option Lexer :=
  match l.openMark with
  | some m =>
    let opens := l.isDeeper m.place.column
    let l := { l.setMark none with
      confirmed := (m.id, opens) :: l.confirmed
      indents := if opens then m.place.column :: l.indents else l.indents }
    some ((l.allowKey false).emitSkip .value 1)
  | none =>
    if !l.inFlow && !l.keyAllowed then none
    else some (((l.openBlock .blockMappingStart).allowKey (!l.inFlow)).emitSkip .value 1)

/-- A token after which no key may begin, at which one may. -/
def property? (scan : Cursor → Option Lexeme) (l : Lexer) : Option Lexer := do
  let l ← l.leaveMark?
  let (t, c) ← scan l.cursor
  pure (((l.emit t).move c).allowKey false)

/-- A scalar in quotes. -/
def quoted? (single : Bool) (l : Lexer) : Option Lexer :=
  l.property? fun c =>
    let c := c.skip 1
    (scanQuoted single (c.rest.length + 1) [] .none c.place c.rest).map fun s =>
      (.scalar .quoted (String.ofList s.text), s.cursor)

/-- A block scalar. -/
def block? (literal : Bool) (l : Lexer) : Option Lexer := do
  let l ← l.dropMark?
  let s ← scanBlock? literal l.indents.head? (l.cursor.skip 1)
  let style := if literal then ScalarStyle.literal else .folded
  pure (((l.emit (.scalar style (String.ofList s.text))).move s.cursor).allowKey true)

/-- A plain scalar. If it ends in another line, a key may begin behind it. -/
def plain? (l : Lexer) : Option Lexer := do
  let l ← l.leaveMark?
  let least := l.indents.head?.elim 0 (· + 1)
  let (s, broken) ← scanPlain l.inFlow least [] .none false l.cursor.place l.cursor.rest
  pure (((l.emit (.scalar .plain (String.ofList s.text))).move s.cursor).allowKey broken)

/-- A directive or a document marker: it closes every block. -/
def boundary? (scan : Cursor → Option Lexeme) (l : Lexer) : Option Lexer := do
  let l ← l.closeAll?
  let (t, c) ← scan l.cursor
  pure (((l.emit t).move c).allowKey false)

/-- Whether a plain scalar may begin with a character, given what follows it. -/
def beginsPlain (flow : Bool) (c : Char) (r : List Char) : Bool :=
  if c = '-' then !r.head?.any isBlank
  else if c = '?' || c = ':' then !flow && !atGap r
  else !([',', '[', ']', '\x7b', '\x7d', '#', '&', '*', '!', '|', '>', '\'', '"', '%', '@',
    '\x60'].contains c || isBlank c || isBreak c)

/-- The next token; the cursor is not in a gap. -/
def token? (c : Char) (r : List Char) (l : Lexer) : Option Lexer :=
  let indicates := l.inFlow || atGap r
  if l.column = 0 && c = '%' then l.boundary? scanDirective?
  else if l.column = 0 && atMarker '-' (c :: r) then
    l.boundary? fun c => some (.documentStart, c.skip 3)
  else if l.column = 0 && atMarker '.' (c :: r) then
    l.boundary? fun c => some (.documentEnd, c.skip 3)
  else if c = '[' then l.openFlow? .flowSequenceStart
  else if c = '\x7b' then l.openFlow? .flowMappingStart
  else if c = ']' then l.closeFlow? .flowSequenceEnd
  else if c = '\x7d' then l.closeFlow? .flowMappingEnd
  else if c = ',' then
    (l.dropMark?).map fun l => (l.allowKey true).emitSkip .flowEntry 1
  else if c = '-' && atGap r then l.blockEntry?
  else if c = '?' && indicates then l.key?
  else if c = ':' && indicates then l.value?
  else if c = '*' then l.property? (scanAnchor? .alias)
  else if c = '&' then l.property? (scanAnchor? .anchor)
  else if c = '!' then l.property? (scanTag? l.inFlow)
  else if c = '|' && !l.inFlow then l.block? true
  else if c = '>' && !l.inFlow then l.block? false
  else if c = '\'' then l.quoted? true
  else if c = '"' then l.quoted? false
  else if beginsPlain l.inFlow c r then l.plain?
  else none

/-- Finds all tokens. Every token takes a character and a unit of fuel. -/
def run : Nat → Lexer → Option Lexer
  | 0, _ => none
  | fuel + 1, l => do
    let (keyAllowed, c) := skipGap l.inFlow (l.cursor.rest.length + 1) l.keyAllowed l.cursor
    let l ← ((l.move c).allowKey keyAllowed).dropStale?
    match l.cursor.rest with
    | [] => (l.closeBlocks fun _ => false).dropMark?
    | c :: r => run fuel (← (l.closeBlocks (· ≤ l.column)).token? c r)

end Lexer

/-- The tokens of a text; `none` if it cannot be cut into tokens. -/
def tokens? (s : List Char) : Option (List Token) := do
  if !s.all isAllowed then none
  else
    let l ← (Lexer.start s).run (s.length + 1)
    pure (l.pieces.reverse.flatMap (Piece.resolve l.confirmed))

end PodCheck.Yaml
