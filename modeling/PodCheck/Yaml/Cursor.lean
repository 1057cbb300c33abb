import PodCheck.Yaml.Character

/-! # Places in a YAML text

Indentation and the reach of implicit keys depend on lines and columns, so a place in the text is
kept with them; columns count characters, and the distance from the beginning of the text counts the
bytes of UTF-8. -/

namespace PodCheck.Yaml

/-- A place in a text. -/
structure Place where
  /-- Bytes before it. -/
  index : Nat
  /-- Line breaks before it. -/
  line : Nat
  /-- Characters before it in its line. -/
  column : Nat
deriving DecidableEq

/-- The beginning of a text. -/
def Place.start : Place := ⟨0, 0, 0⟩

/-- The place behind a character of the line. -/
def Place.right (p : Place) (c : Char) : Place := ⟨p.index + c.utf8Size, p.line, p.column + 1⟩

/-- The place behind some characters of the line. -/
def Place.along (p : Place) (s : List Char) : Place := s.foldl Place.right p

/-- The beginning of the next line, behind the characters of a line break. -/
def Place.down (p : Place) (s : List Char) : Place := ⟨(p.along s).index, p.line + 1, 0⟩

/-- A place with the text from there on. -/
structure Cursor where
  /-- The place. -/
  place : Place
  /-- The text from the place on. -/
  rest : List Char

/-- The cursor behind some characters of the line. -/
def Cursor.skip (c : Cursor) (n : Nat) : Cursor := ⟨c.place.along (c.rest.take n), c.rest.drop n⟩

/-- The cursor behind all characters of a class. The class holds no line breaks. -/
def Cursor.skipWhile (p : Char → Bool) (c : Cursor) : Cursor :=
  c.skip (c.rest.takeWhile p).length

/-- The cursor at the end of the line. -/
def Cursor.skipLine (c : Cursor) : Cursor := c.skipWhile fun d => !isBreak d

/-- A line break: what it contributes to a text, and the number of its characters. The usual breaks
all stand for a line feed. -/
def break? : List Char → Option (Char × Nat)
  | '\r' :: '\n' :: _ => some ('\n', 2)
  | c :: _ =>
    if c = '\r' || c = '\n' || c = '\u0085' then some ('\n', 1)
    else if c = '\u2028' || c = '\u2029' then some (c, 1)
    else none
  | [] => none

/-- Takes a line break, if one is next. -/
def Cursor.takeBreak? (c : Cursor) : Option (Char × Cursor) :=
  (break? c.rest).map fun (b, n) => (b, ⟨c.place.down (c.rest.take n), c.rest.drop n⟩)

/-- The cursor behind a line break, if one is next. -/
def Cursor.skipBreak (c : Cursor) : Cursor :=
  match c.takeBreak? with
  | some (_, c) => c
  | none => c

end PodCheck.Yaml
