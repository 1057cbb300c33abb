import PodCheck.Yaml.Cursor
import PodCheck.Yaml.Scalar
import PodCheck.Yaml.Token

/-! # Directives, anchors and tags

The tokens that say something about a document or about the node after them. Each reader starts at
the indicator of its token and gives the token with the cursor behind it. -/

namespace PodCheck.Yaml

/-- A token with the cursor behind it. -/
abbrev Lexeme := Token × Cursor

/-! ## Names and numbers -/

/-- A name with the cursor behind it; it may be empty. -/
def takeName (c : Cursor) : String × Cursor :=
  let name := c.rest.takeWhile isWordChar
  (String.ofList name, c.skip name.length)

/-- A number of at most nine digits. -/
def takeNumber? (c : Cursor) : Option (Nat × Cursor) :=
  let digits := c.rest.takeWhile Char.isDigit
  if digits = [] || 9 < digits.length then none
  else some (digits.foldl (fun n d => n * 10 + (d.toNat - 48)) 0, c.skip digits.length)

/-- The cursor behind a character that must be next. -/
def expect? (d : Char) (c : Cursor) : Option Cursor :=
  if c.rest.head? = some d then some (c.skip 1) else none

/-! ## Tags -/

/-- Whether a character may stand in a tag. -/
def isTagChar (c : Char) : Bool :=
  isWordChar c || [';', '/', '?', ':', '@', '&', '=', '+', '$', '.', '!', '~', '*', '\'', '(',
    ')'].contains c

/-- A byte written as a percent sign and two hexadecimal digits. -/
def percentByte? : List Char → Option (UInt8 × List Char)
  | '%' :: a :: b :: r => do
    let a ← hexDigit? a
    let b ← hexDigit? b
    pure (UInt8.ofNat (a * 16 + b), r)
  | _ => none

/-- The number of bytes that a character has by its first byte. -/
def bytesOfCharacter? (b : UInt8) : Option Nat :=
  if b < 0x80 then some 1
  else if 0xC0 ≤ b && b < 0xE0 then some 2
  else if 0xE0 ≤ b && b < 0xF0 then some 3
  else if 0xF0 ≤ b && b < 0xF8 then some 4
  else none

/-- The further bytes of a character, put in front of the reversed bytes before them. -/
def percentTail? : Nat → List UInt8 → List Char → Option (List UInt8 × List Char)
  | 0, done, s => some (done, s)
  | k + 1, done, s => do
    let (b, s) ← percentByte? s
    if 0x80 ≤ b && b < 0xC0 then percentTail? k (b :: done) s else none

/-- A character written by its bytes, which are put in front of the reversed bytes before them.
Nothing is asked of them but that each has its place. -/
def percentBytes? (done : List UInt8) (s : List Char) : Option (List UInt8 × List Char) := do
  let (b, r) ← percentByte? s
  let n ← bytesOfCharacter? b
  percentTail? (n - 1) (b :: done) r

/-- The bytes of a tag; in its verbatim form commas and brackets belong to it. Every call takes a
unit of fuel. -/
def tagBytes? (verbatim : Bool) : Nat → List UInt8 → List Char → Option (List UInt8 × List Char)
  | 0, _, _ => none
  | _, done, [] => some (done.reverse, [])
  | fuel + 1, done, c :: r =>
    if c = '%' then
      match percentBytes? done (c :: r) with
      | some (done, r) => tagBytes? verbatim fuel done r
      | none => none
    else if isTagChar c || (verbatim && (c = ',' || c = '[' || c = ']')) then
      tagBytes? verbatim fuel ((Tag.charBytes c).reverse ++ done) r
    else some (done.reverse, c :: r)

/-- The bytes of a tag with the cursor behind them. -/
def takeTagBytes? (verbatim : Bool) (c : Cursor) : Option (List UInt8 × Cursor) := do
  let (bytes, rest) ← tagBytes? verbatim (c.rest.length + 1) [] c.rest
  pure (bytes, c.skip (c.rest.length - rest.length))

/-- What stands at the front of a tag up to the second exclamation mark, or the first name behind
the first one. -/
def takeHandle? (c : Cursor) : Option (List Char × Cursor) := do
  let c ← expect? '!' c
  let name := c.rest.takeWhile isWordChar
  let c := c.skip name.length
  if c.rest.head? = some '!' then pure ('!' :: (name ++ ['!']), c.skip 1)
  else pure ('!' :: name, c)

/-- Whether the front of a tag is a handle: two exclamation marks with a name between them. -/
def isHandle (front : List Char) : Bool := 2 ≤ front.length && front.getLast? = some '!'

/-- A tag. Between angle brackets it stands in full; otherwise it has a handle, which is a single
exclamation mark unless there are two. -/
def scanTag? (flow : Bool) (c : Cursor) : Option Lexeme := do
  let (token, c) ←
    if (c.rest.drop 1).head? = some '<' then do
      let (suffix, c) ← takeTagBytes? true (c.skip 2)
      if suffix = [] then none
      else pure (Token.tag "" (.ofBytes suffix), ← expect? '>' c)
    else do
      let (front, c) ← takeHandle? c
      let (suffix, c) ← takeTagBytes? false c
      if isHandle front then
        if suffix = [] then none
        else pure (Token.tag (String.ofList front) (.ofBytes suffix), c)
      else
        let suffix := Tag.ofBytes ((front.drop 1).flatMap Tag.charBytes ++ suffix)
        if suffix = .empty then pure (Token.tag "" (.ofText "!"), c)
        else pure (Token.tag "!" suffix, c)
  if atGap c.rest || (flow && c.rest.head? = some ',') then pure (token, c) else none

/-! ## Anchors -/

/-- An anchor or an alias: a name, behind which only a gap or an indicator may follow. -/
def scanAnchor? (token : String → Token) (c : Cursor) : Option Lexeme :=
  let (name, c) := takeName (c.skip 1)
  let ends := atGap c.rest
    || c.rest.head?.any fun d => ['?', ':', ',', ']', '\x7d', '%', '@', '\x60'].contains d
  if name ≠ "" && ends then some (token name, c) else none

/-! ## Directives -/

/-- The version behind the name of its directive. -/
def scanVersion? (c : Cursor) : Option Lexeme := do
  let (major, c) ← takeNumber? (c.skipWhile isBlank)
  let (minor, c) ← takeNumber? (← expect? '.' c)
  pure (.versionDirective major minor, c)

/-- The handle and the bytes that it stands for behind the name of their directive. -/
def scanTagDirective? (c : Cursor) : Option Lexeme := do
  let (front, c) ← takeHandle? (c.skipWhile isBlank)
  if !(isHandle front || front = ['!']) || !c.rest.head?.any isBlank then none
  else
    let (start, c) ← takeTagBytes? true (c.skipWhile isBlank)
    if start = [] || !atGap c.rest then none
    else pure (.tagDirective (String.ofList front) (.ofBytes start), c)

/-- A directive with the rest of its line. -/
def scanDirective? (c : Cursor) : Option Lexeme := do
  let (name, c) := takeName (c.skip 1)
  if !atGap c.rest then none
  else
    let (token, c) ←
      if name = "YAML" then scanVersion? c
      else if name = "TAG" then scanTagDirective? c
      else none
    let c := c.skipWhile isBlank
    let c := if c.rest.head? = some '#' then c.skipLine else c
    if atLineEnd c.rest then pure (token, c.skipBreak) else none

end PodCheck.Yaml
