import PodCheck.Decimal

/-! # Numbers in double arithmetic

A number of unknown use is kept as a double, which is made in two steps: as many of its digits as
fit a word are taken as a whole number, and this is multiplied by a power of ten. Factors and
product are doubles, so a number may leave the range of doubles a little earlier or later than it
would if it were rounded once. -/

namespace PodCheck.Decimal

/-! ## Significands -/

/-- Appends digits to a number as long as it fits a word of 64 bits. Gives the digits from the first
one on that does not fit. -/
def appendDigits (n : Nat) : List Char → Nat × List Char
  | [] => (n, [])
  | c :: r =>
    let m := n * 10 + (c.toNat - 48)
    if m < UInt64.size then appendDigits m r else (n, c :: r)

/-- A number `significand * 10 ^ exponent`. -/
structure Scaled where
  /-- The first digits. -/
  significand : Nat
  /-- The power of ten. -/
  exponent : Int

/-- The number that stands for a written one. Digits before the point that do not fit count as
zeros, and such digits behind it do not count. -/
def Scaled.ofWritten (w : Written) : Scaled :=
  let (whole, left) := appendDigits 0 w.whole
  let (significand, dropped) := appendDigits whole w.fraction
  ⟨significand, w.exponent + left.length - (w.fraction.length - dropped.length : Nat)⟩

/-! ## Range -/

/-- A whole number rounded to 53 binary digits, a half to the even neighbour. -/
def roundDouble (n : Nat) : Nat :=
  let unit := Nat.pow 2 (n.log2 - 52)
  let digits := n / unit
  let rest := n % unit
  let up := unit < 2 * rest || (unit = 2 * rest && digits % 2 = 1)
  (if up then digits + 1 else digits) * unit

/-- The largest power of ten that is within the range of a double. -/
def largestPower : Int := 308

/-- Whether a number is within the range of a double. -/
def Scaled.inRange (x : Scaled) : Bool :=
  x.significand = 0 || x.exponent < 0
    || (x.exponent ≤ largestPower
      && roundDouble x.significand * roundDouble (Nat.pow 10 x.exponent.toNat) < outOfRange)

end PodCheck.Decimal
