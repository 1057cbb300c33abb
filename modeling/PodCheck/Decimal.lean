/-! # Decimal numbers

Numbers in decimal notation with fraction and exponent. They occur where another value is wanted, so
all that counts is whether a text is such a number and whether the number is within the range of a
double: below the midpoint between the largest double and the next power of two. -/

namespace PodCheck

/-- A number `mantissa * 10 ^ exponent`; its sign plays no part here. -/
structure Decimal where
  /-- The digits. -/
  mantissa : Nat
  /-- The power of ten. -/
  exponent : Int

namespace Decimal

/-- The smallest number that is rounded to infinity. -/
def outOfRange : Nat := Nat.pow 2 1024 - Nat.pow 2 970

/-- Whether the number is within the range of a double. Far from the limit, the count of digits
before the point decides. -/
def inRange (d : Decimal) : Bool :=
  let places : Int := (Nat.toDigits 10 d.mantissa).length + d.exponent
  if d.mantissa = 0 || places < 300 then true
  else if 320 < places then false
  else if 0 ≤ d.exponent then d.mantissa * Nat.pow 10 d.exponent.toNat < outOfRange
  else d.mantissa < outOfRange * Nat.pow 10 (-d.exponent).toNat

/-- A sign, if there is one: whether it is a minus, and the text behind it. -/
def takeSign : List Char → Bool × List Char
  | '-' :: r => (true, r)
  | '+' :: r => (false, r)
  | r => (false, r)

/-- The value of a string of decimal digits. -/
def digitsValue (s : List Char) : Nat := s.foldl (fun n c => n * 10 + (c.toNat - 48)) 0

/-- An exponent that takes up the whole text, or nothing. -/
def exponent? : List Char → Option Int
  | [] => some 0
  | c :: r =>
    let (minus, digits) := takeSign r
    if (c = 'e' || c = 'E') && digits ≠ [] && digits.all Char.isDigit then
      some (if minus then -(digitsValue digits : Int) else digitsValue digits)
    else none

/-- A number as it is written, without its sign. -/
structure Written where
  /-- The digits before the point. -/
  whole : List Char
  /-- The digits behind the point. -/
  fraction : List Char
  /-- The power of ten. -/
  exponent : Int

/-- Reads a number: an optional sign, digits with at most one point among or beside them, and an
optional exponent. -/
def Written.read? (s : List Char) : Option Written :=
  let (_, s) := takeSign s
  let whole := s.takeWhile Char.isDigit
  let rest := s.drop whole.length
  let (fraction, rest) := match rest with
    | '.' :: r => (r.takeWhile Char.isDigit, r.dropWhile Char.isDigit)
    | r => ([], r)
  if whole = [] && fraction = [] then none
  else (exponent? rest).map fun e => ⟨whole, fraction, e⟩

/-- The number that is written. -/
def ofWritten (w : Written) : Decimal :=
  ⟨digitsValue (w.whole ++ w.fraction), w.exponent - w.fraction.length⟩

/-- Reads a number. -/
def read? (s : List Char) : Option Decimal := (Written.read? s).map ofWritten

end Decimal

end PodCheck
