/-! # Durations

A duration is a count of whole seconds below `2 ^ 64` and a count of nanoseconds below one
second. -/

namespace PodCheck

/-- The nanoseconds of a second. -/
def nanosPerSecond : Nat := 1000000000

/-- The first count of seconds that a duration cannot hold. -/
def secondsLimit : Nat := 18446744073709551616

/-- A length of time. -/
structure Duration where
  /-- Whole seconds. -/
  secs : Nat
  /-- Nanoseconds beyond the whole seconds. -/
  nanos : Nat
  /-- The seconds are a machine word. -/
  secs_lt : secs < secondsLimit
  /-- The nanoseconds do not make up a second. -/
  nanos_lt : nanos < nanosPerSecond
deriving DecidableEq

namespace Duration

/-- A count of whole seconds as a duration. -/
def ofSecs (n : Nat) (h : n < secondsLimit := by decide) : Duration := ⟨n, 0, h, by decide⟩

instance : Inhabited Duration := ⟨ofSecs 0⟩

/-- The duration of some seconds and any count of nanoseconds, whose whole seconds carry over;
`none` beyond the range. -/
def ofParts? (secs nanos : Nat) : Option Duration :=
  if h : secs + nanos / nanosPerSecond < secondsLimit then
    some ⟨secs + nanos / nanosPerSecond, nanos % nanosPerSecond, h, Nat.mod_lt _ (by decide)⟩
  else none

/-- The whole length in nanoseconds. -/
def toNanos (d : Duration) : Nat := d.secs * nanosPerSecond + d.nanos

/-- The milliseconds after which a timer of this length ends. -/
def ceilMillis (d : Duration) : Nat := (d.toNanos + 999999) / 1000000

/-! ## Text -/

/-- The places behind the point of a fraction given by its first `width` places: zeros at the end
are left out. -/
def fractionDigits (n width : Nat) : List Char :=
  let digits := Nat.toDigits 10 n
  let padded := List.replicate (width - digits.length) '0' ++ digits
  (padded.reverse.dropWhile (· = '0')).reverse

/-- A number with a fraction of `width` places; the point is left out with an empty fraction. -/
def decimalText (whole fraction width : Nat) : String :=
  match fractionDigits fraction width with
  | [] => toString whole
  | digits => toString whole ++ "." ++ String.ofList digits

/-- A duration in the largest of the units s, ms, µs and ns that it fills once. -/
def text (d : Duration) : String :=
  if 0 < d.secs then decimalText d.secs d.nanos 9 ++ "s"
  else if 1000000 ≤ d.nanos then decimalText (d.nanos / 1000000) (d.nanos % 1000000) 6 ++ "ms"
  else if 1000 ≤ d.nanos then decimalText (d.nanos / 1000) (d.nanos % 1000) 3 ++ "µs"
  else toString d.nanos ++ "ns"

end Duration

end PodCheck
