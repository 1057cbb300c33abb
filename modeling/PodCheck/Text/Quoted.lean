import PodCheck.Text.Unprintable

/-! # Quoted text

Texts that come from manifests or from the cluster are quoted where they stand inside a message, so
that a line break or a control character in them cannot pass for the message itself. -/

namespace PodCheck.Text

/-- The hexadecimal digits of a number, in lower case and without leading zeros. -/
def hexDigits (n : Nat) : List Char := Nat.toDigits 16 n

/-- One character of a quoted text: the quote, the backslash and five control characters have short
escapes, whatever else cannot be shown is written by its code point. -/
def escapeChar (c : Char) : List Char :=
  if c = '"' then ['\\', '"']
  else if c = '\\' then ['\\', '\\']
  else if c = '\n' then ['\\', 'n']
  else if c = '\r' then ['\\', 'r']
  else if c = '\t' then ['\\', 't']
  else if c = '\x00' then ['\\', '0']
  else if isUnprintable c then ['\\', 'u', '\x7b'] ++ hexDigits c.toNat ++ ['\x7d']
  else [c]

/-- The characters between the quotes. -/
def escape (s : List Char) : List Char := s.flatMap escapeChar

/-- A text in double quotes with escapes. -/
def quoted (s : String) : String := String.ofList ('"' :: (escape s.toList ++ ['"']))

/-- A file path in double quotes: the single quote is escaped too. -/
def quotedPath (path : String) : String :=
  let escapePathChar (c : Char) : List Char := if c = '\'' then ['\\', '\''] else escapeChar c
  String.ofList ('"' :: (path.toList.flatMap escapePathChar ++ ['"']))

end PodCheck.Text
