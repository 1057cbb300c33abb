/-! # Blank characters

The characters that separate the parts of a duration or of a timestamp: every character with the
Unicode property `White_Space`, not only the ASCII ones that `Char.isWhitespace` knows. -/

namespace PodCheck.Text

/-- Whether a character is white space in the sense of the Unicode property `White_Space`. -/
def isBlank (c : Char) : Bool :=
  let n := c.toNat
  (9 ≤ n && n ≤ 13) || n = 0x20 || n = 0x85 || n = 0xA0 || n = 0x1680
    || (0x2000 ≤ n && n ≤ 0x200A) || n = 0x2028 || n = 0x2029 || n = 0x202F || n = 0x205F
    || n = 0x3000

/-- The rest of a text behind its leading blanks. -/
def skipBlanks (s : List Char) : List Char := s.dropWhile isBlank

/-- Skipping blanks in front of nothing leaves nothing. -/
@[simp] theorem skipBlanks_nil : skipBlanks [] = [] := rfl

end PodCheck.Text
