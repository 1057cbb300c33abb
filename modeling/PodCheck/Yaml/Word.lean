import PodCheck.Decimal

/-! # Plain words of YAML

What a plain scalar can mean besides its text: nothing, a truth value, a whole number or another
number. Whole numbers have an optional sign and may be hexadecimal, octal or binary; digits behind a
leading zero make a text. -/

namespace PodCheck.Yaml

/-- Whether a word stands for nothing. -/
def isNull (s : String) : Bool := s = "null" || s = "Null" || s = "NULL" || s = "~"

/-- The truth value of a word. -/
def bool? (s : String) : Option Bool :=
  if s = "true" || s = "True" || s = "TRUE" then some true
  else if s = "false" || s = "False" || s = "FALSE" then some false
  else none

/-- The value of a digit, with letters above nine. -/
def digitValue? (c : Char) : Option Nat :=
  if c.isDigit then some (c.toNat - 48)
  else if 'a' ≤ c && c ≤ 'z' then some (c.toNat - 87)
  else if 'A' ≤ c && c ≤ 'Z' then some (c.toNat - 55)
  else none

/-- The number of at least one digit. -/
def digits? (radix : Nat) (s : List Char) : Option Nat :=
  if s = [] then none
  else s.foldlM (fun n c => (digitValue? c).bind fun d =>
    if d < radix then some (n * radix + d) else none) 0

/-- The number of digits behind a mark for their radix. -/
def marked? : List Char → Option Nat
  | '0' :: 'x' :: r => digits? 16 r
  | '0' :: 'o' :: r => digits? 8 r
  | '0' :: 'b' :: r => digits? 2 r
  | _ => none

/-- A text without one leading plus sign. -/
def dropPlus : List Char → List Char
  | '+' :: r => r
  | r => r

/-- A text without one leading sign. -/
def dropSign : List Char → List Char
  | '-' :: r => r
  | r => dropPlus r

/-- Whether a text is made of digits behind a leading zero. -/
def isZeroPadded (s : List Char) : Bool :=
  match dropSign s with
  | '0' :: c :: r => (c :: r).all Char.isDigit
  | _ => false

/-- A whole number without a minus sign. -/
def natural? (s : List Char) : Option Nat :=
  match marked? (dropPlus s) with
  | some n => some n
  | none => if isZeroPadded s then none else digits? 10 (dropPlus s)

/-- A whole number. -/
def integer? (s : List Char) : Option Int :=
  match s with
  | '-' :: r =>
    match marked? r with
    | some n => some (-(n : Int))
    | none => if isZeroPadded s then none else (digits? 10 r).map fun n => -(n : Int)
  | s => (natural? s).map Int.ofNat

/-- A whole number, of those that fit 128 bits with or without sign. -/
def wideInteger? (s : List Char) : Option Int :=
  (integer? s).filter fun n => -(Nat.pow 2 127 : Nat) ≤ n && n < (Nat.pow 2 128 : Nat)

/-- Whether a word is a number with fraction or exponent, infinite, or not a number. -/
def isReal (s : List Char) : Bool :=
  let body := dropPlus s
  [".inf", ".Inf", ".INF"].contains (String.ofList body)
    || ["-.inf", "-.Inf", "-.INF", ".nan", ".NaN", ".NAN"].contains (String.ofList s)
    || (!(s.head? = some '+' && (body.head? = some '+' || body.head? = some '-'))
      && (Decimal.read? body).any (·.inRange))

end PodCheck.Yaml
