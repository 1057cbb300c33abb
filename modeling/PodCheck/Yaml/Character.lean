/-! # Characters of YAML

The classes of characters by which YAML text is cut into tokens. -/

namespace PodCheck.Yaml

/-- Whether a character may stand in a YAML text at all: no control characters other than tabs and
line breaks. -/
def isAllowed (c : Char) : Bool :=
  let n := c.toNat
  n = 9 || n = 10 || n = 13 || (0x20 ≤ n && n ≤ 0x7E) || n = 0x85 || (0xA0 ≤ n && n ≤ 0xFFFD)
    || 0x10000 ≤ n

/-- Whether a character ends a line. -/
def isBreak (c : Char) : Bool :=
  c = '\r' || c = '\n' || c = '\u0085' || c = '\u2028' || c = '\u2029'

/-- Whether a character is a space or a tab. -/
def isBlank (c : Char) : Bool := c = ' ' || c = '\t'

/-- Whether a blank, a line break or the end of the text is next. -/
def atGap : List Char → Bool
  | [] => true
  | c :: _ => isBlank c || isBreak c

/-- Whether a line break or the end of the text is next. -/
def atLineEnd : List Char → Bool
  | [] => true
  | c :: _ => isBreak c

/-- Whether a character may stand in the name of an anchor, a directive or a tag handle. -/
def isWordChar (c : Char) : Bool := c.isAlphanum || c = '_' || c = '-'

/-- Whether a document marker of three such characters is next. -/
def atMarker (mark : Char) : List Char → Bool
  | a :: b :: c :: r => a = mark && b = mark && c = mark && atGap r
  | _ => false

/-- Whether the marker of a document's start or end is next. -/
def atDocumentMarker (s : List Char) : Bool := atMarker '-' s || atMarker '.' s

end PodCheck.Yaml
