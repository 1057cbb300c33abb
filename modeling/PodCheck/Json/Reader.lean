import PodCheck.Json.Start

/-! # Reading JSON

The reader takes a whole text as one value. It tells a text that stops in the middle of a value from
one that is wrong, and keeps the beginning of the value, because a stream of objects may be cut off
by the connection. Main statement: skipping blanks never makes a text longer
(`length_skipSpace_le`). -/

namespace PodCheck.Json

/-- Why a text is not a value. -/
inductive Fault
  /-- The text ends before the value does, of which this is the beginning. -/
  | unfinished (start : Start)
  /-- The text goes on in a way no value does. -/
  | malformed

/-- The fault of a value, given the fault of a part of it. -/
def Fault.within (f : Start → Start) : Fault → Fault
  | .unfinished start => .unfinished (f start)
  | .malformed => .malformed

/-- Whether a character may stand between the parts of a value. -/
def isSpace (c : Char) : Bool := c = ' ' || c = '\n' || c = '\t' || c = '\r'

/-- The text behind leading blanks. -/
def skipSpace (s : List Char) : List Char := s.dropWhile isSpace

/-- Skipping blanks never makes a text longer. -/
theorem length_skipSpace_le (s : List Char) : (skipSpace s).length ≤ s.length :=
  (List.dropWhile_sublist isSpace).length_le

/-! ## Texts -/

/-- A part of a text value: a character, or a code unit written by its number. -/
inductive TextUnit
  /-- A character that stands for itself or has a short escape. -/
  | char (c : Char)
  /-- A code unit of 16 bits. -/
  | code (n : Nat)

/-- The value of a hexadecimal digit. -/
def hexValue? (c : Char) : Option Nat :=
  if '0' ≤ c && c ≤ '9' then some (c.toNat - 48)
  else if 'a' ≤ c && c ≤ 'f' then some (c.toNat - 87)
  else if 'A' ≤ c && c ≤ 'F' then some (c.toNat - 55)
  else none

/-- The number of four hexadecimal digits. -/
def hexCode? (a b c d : Char) : Option Nat := do
  let a ← hexValue? a
  let b ← hexValue? b
  let c ← hexValue? c
  let d ← hexValue? d
  pure (((a * 16 + b) * 16 + c) * 16 + d)

/-- The character of a short escape. -/
def shortEscape? : Char → Option Char
  | '"' => some '"'
  | '\\' => some '\\'
  | '/' => some '/'
  | 'b' => some '\x08'
  | 'f' => some '\x0c'
  | 'n' => some '\n'
  | 'r' => some '\r'
  | 't' => some '\t'
  | _ => none

/-- The characters that units stand for: a high and a low surrogate make up one character, and
neither stands alone. -/
def decodeUnits (done : List Char) : List TextUnit → Option (List Char)
  | [] => some done.reverse
  | .char c :: r => decodeUnits (c :: done) r
  | [.code n] => if 0xD800 ≤ n && n ≤ 0xDFFF then none else some (Char.ofNat n :: done).reverse
  | .code n :: u :: r =>
    if n < 0xD800 || 0xDFFF < n then decodeUnits (Char.ofNat n :: done) (u :: r)
    else
      match u with
      | .char _ => none
      | .code m =>
        if 0xDBFF < n || m < 0xDC00 || 0xDFFF < m then none
        else decodeUnits (Char.ofNat (0x10000 + (n - 0xD800) * 0x400 + (m - 0xDC00)) :: done) r

/-- Whether the units of a text without its end, reversed, can be read as far as they go. A high
surrogate at the end may still find its other half. -/
def isReadableSoFar (done : List TextUnit) : Bool :=
  let settled := match done with
    | .code n :: r => if 0xD800 ≤ n && n ≤ 0xDBFF then r else done
    | _ => done
  (decodeUnits [] settled.reverse).isSome

/-- The fault of a text without its end, given its units reversed. -/
def unfinishedText (done : List TextUnit) : Fault := .unfinished (.text (isReadableSoFar done))

/-- The units of a text behind its opening quote, up to and without the closing one. The digits of a
number are read by bytes, so four bytes that are not all digits are wrong, but fewer bytes may still
become digits. -/
def readUnits (done : List TextUnit) : List Char → Except Fault (List TextUnit × List Char)
  | [] => .error (unfinishedText done)
  | '"' :: r => .ok (done.reverse, r)
  | ['\\'] => .error (unfinishedText done)
  | '\\' :: 'u' :: a :: b :: c :: d :: r =>
    match hexCode? a b c d with
    | some n => readUnits (.code n :: done) r
    | none => .error .malformed
  | '\\' :: 'u' :: r =>
    if (String.ofList r).utf8ByteSize < 4 then .error (unfinishedText done) else .error .malformed
  | '\\' :: c :: r =>
    match shortEscape? c with
    | some c => readUnits (.char c :: done) r
    | none => .error .malformed
  | c :: r => if c.toNat < 0x20 then .error .malformed else readUnits (.char c :: done) r

/-- A text behind its opening quote; the result has no characters if it cannot be read. -/
def readText (s : List Char) : Except Fault (Option String × List Char) := do
  let (units, r) ← readUnits [] s
  pure ((decodeUnits [] units).map String.ofList, r)

/-! ## Numbers and literals -/

/-- At least one digit, put in front of the reversed lexeme. -/
def readDigits (done : List Char) (s : List Char) : Except Fault (List Char × List Char) :=
  match s with
  | [] => .error (.unfinished .number)
  | c :: _ =>
    if c.isDigit then .ok ((s.takeWhile Char.isDigit).reverse ++ done, s.dropWhile Char.isDigit)
    else .error .malformed

/-- The digits before the point: a zero stands alone. -/
def readWhole (done : List Char) : List Char → Except Fault (List Char × List Char)
  | '0' :: r =>
    match r with
    | c :: _ => if c.isDigit then .error .malformed else .ok ('0' :: done, r)
    | [] => .ok ('0' :: done, r)
  | s => readDigits done s

/-- A point with digits, if there is one. -/
def readFraction (done : List Char) : List Char → Except Fault (List Char × List Char)
  | '.' :: r => readDigits ('.' :: done) r
  | s => .ok (done, s)

/-- An exponent, if there is one. -/
def readExponent (done : List Char) : List Char → Except Fault (List Char × List Char)
  | c :: r =>
    if c = 'e' || c = 'E' then
      match r with
      | '+' :: r => readDigits ('+' :: c :: done) r
      | '-' :: r => readDigits ('-' :: c :: done) r
      | r => readDigits (c :: done) r
    else .ok (done, c :: r)
  | [] => .ok (done, [])

/-- The value of a string of decimal digits. -/
def digitsValue (s : List Char) : Nat := s.foldl (fun n c => n * 10 + (c.toNat - 48)) 0

/-- A number. Without fraction and exponent it is a whole number, except for a negative zero. -/
def readNumber (s : List Char) : Except Fault (Json × List Char) := do
  let (sign, s) := match s with
    | '-' :: r => (['-'], r)
    | s => ([], s)
  let (whole, r) ← readWhole sign s
  let (lexeme, r) ← readFraction whole r
  let (lexeme, r) ← readExponent lexeme r
  let value := digitsValue (whole.reverse.drop sign.length)
  if lexeme.length ≠ whole.length || (value = 0 && sign ≠ []) then
    pure (.real (String.ofList lexeme.reverse), r)
  else pure (.int (if sign = [] then value else -value), r)

/-- The rest of a literal. -/
def readLiteral (value : Json) : List Char → List Char → Except Fault (Json × List Char)
  | [], s => .ok (value, s)
  | _ :: _, [] => .error (.unfinished .literal)
  | c :: cs, d :: s => if c = d then readLiteral value cs s else .error .malformed

/-! ## Values -/

/-- An object of members whose keys may be unreadable. -/
def ofMembers (members : List (Option String × Json)) : Json :=
  match readableKeys? members with
  | some members => .object members
  | none => .unreadable

mutual

/-- A value, without blanks before it. Every call takes a unit of fuel. -/
def readValue : Nat → List Char → Except Fault (Json × List Char)
  | 0, _ => .error .malformed
  | _, [] => .error (.unfinished .nothing)
  | fuel + 1, c :: r =>
    match c with
    | 'n' => readLiteral .null ['u', 'l', 'l'] r
    | 't' => readLiteral (.bool true) ['r', 'u', 'e'] r
    | 'f' => readLiteral (.bool false) ['a', 'l', 's', 'e'] r
    | '"' => do
      let (s, r) ← readText r
      pure (s.elim .unreadable .text, r)
    | '[' =>
      match skipSpace r with
      | ']' :: r => .ok (.array [], r)
      | r => readItems fuel [] r
    | '\x7b' =>
      match skipSpace r with
      | '\x7d' :: r => .ok (.object [], r)
      | r => readMembers fuel [] r
    | c => if c = '-' || c.isDigit then readNumber (c :: r) else .error .malformed

/-- The items of a list from the next one on. -/
def readItems : Nat → List Json → List Char → Except Fault (Json × List Char)
  | 0, _, _ => .error .malformed
  | fuel + 1, done, s => do
    let (v, r) ← (readValue fuel s).mapError (·.within (.item done.reverse))
    match skipSpace r with
    | ',' :: r => readItems fuel (v :: done) (skipSpace r)
    | ']' :: r => pure (.array (v :: done).reverse, r)
    | [] => .error (.unfinished (.array (v :: done).reverse))
    | _ => .error .malformed

/-- The members of an object from the next one on. -/
def readMembers : Nat → List (Option String × Json) → List Char → Except Fault (Json × List Char)
  | 0, _, _ => .error .malformed
  | fuel + 1, done, s =>
    match s with
    | '"' :: r => do
      let (k, r) ← (readText r).mapError (·.within (.key done.reverse))
      match skipSpace r with
      | [] => .error (.unfinished (.value done.reverse k .nothing))
      | ':' :: r =>
        let (v, r) ← (readValue fuel (skipSpace r)).mapError (·.within (.value done.reverse k))
        match skipSpace r with
        | ',' :: r => readMembers fuel ((k, v) :: done) (skipSpace r)
        | '\x7d' :: r => pure (ofMembers ((k, v) :: done).reverse, r)
        | [] => .error (.unfinished (.object ((k, v) :: done).reverse))
        | _ => .error .malformed
      | _ => .error .malformed
    | s => do
      let _ ← (readValue fuel s).mapError (·.within (.key done.reverse))
      .error .malformed

end

/-- Reads a text that holds one value and blanks around it. -/
def read (s : String) : Except Fault Json := do
  let (v, r) ← readValue (2 * s.length + 1) (skipSpace s.toList)
  if skipSpace r = [] then pure v else .error .malformed

/-- Reads a text that holds one value; `none` if it does not. -/
def read? (s : String) : Option Json := (read s).toOption

end PodCheck.Json
