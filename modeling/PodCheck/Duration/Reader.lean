import PodCheck.Duration
import PodCheck.Text.Blank
import PodCheck.Text.Quoted

/-! # Durations in manifests

A manifest writes a duration as a sum of terms such as `2h 30m` or `1.5days`: a decimal number and a
unit, with blanks allowed around and inside numbers. The reader reports the first fault, most with
the byte at which it stands. Its arithmetic is that of machine words: a number, a product or a sum
that leaves the word is a fault, and so is a fraction that is no whole count of the unit's grain. -/

namespace PodCheck.Duration

/-- Why a text is not a duration. -/
inductive ReadError
  /-- There is no term at all. -/
  | empty
  /-- A term does not begin with a digit. -/
  | numberExpected (offset : Nat)
  /-- A character has no place in a term. -/
  | invalidCharacter (offset : Nat)
  /-- No unit has this name. -/
  | unknownUnit (name : String)
  /-- A number stands without a unit. -/
  | unitMissing (number : Nat)
  /-- A number is out of range or finer than the unit allows. -/
  | tooLarge
deriving DecidableEq

/-- The message of a fault. -/
def ReadError.message : ReadError → String
  | .empty => "value was empty"
  | .numberExpected offset => s!"expected number at {offset}"
  | .invalidCharacter offset => s!"invalid character at {offset}"
  | .unknownUnit name =>
    "unknown time unit " ++ Text.quoted name
      ++ ", supported units: ns, us/µs, ms, sec, min, hours, days, weeks, months, years"
      ++ " (and few variations)"
  | .unitMissing number => s!"time unit needed, for example {number}sec or {number}ms"
  | .tooLarge =>
    "number is too large or cannot be represented without a lack of precision"
      ++ " (values below 1ns are not supported)"

/-- A failure of the reader itself: it stops instead of reporting a fault. -/
inductive Crash
  /-- Every term fits, but not the second that their nanoseconds add up to. -/
  | secondCarried
deriving DecidableEq

/-- How reading a duration can fail. -/
inductive ReadFailure
  /-- The text is at fault. -/
  | refused (error : ReadError)
  /-- The reader stops. -/
  | crashed (crash : Crash)
deriving DecidableEq

/-! ## Units -/

/-- A unit: what one of it adds, and the grain in which its fractions are counted. -/
structure TimeUnit where
  /-- Whole seconds of one unit. -/
  secs : Nat
  /-- Nanoseconds of one unit of less than a second. -/
  nanos : Nat
  /-- Counts of the grain in one unit; `none` where fractions are refused. -/
  grains : Option Nat
  /-- Whether the grain is a second instead of a nanosecond. -/
  coarse : Bool

/-- A unit below the second. -/
def TimeUnit.ofNanos (n : Nat) (grains : Option Nat) : TimeUnit := ⟨0, n, grains, false⟩

/-- A unit whose fractions are whole nanoseconds. -/
def TimeUnit.fine (n : Nat) : TimeUnit := ⟨n, 0, some (n * nanosPerSecond), false⟩

/-- A unit whose fractions are whole seconds. -/
def TimeUnit.long (n : Nat) : TimeUnit := ⟨n, 0, some n, true⟩

/-- The units with their names. A month is 30.44 days and a year 365.25 days. -/
def timeUnits : List (List String × TimeUnit) := [
  (["nanos", "nsec", "ns"], .ofNanos 1 none),
  (["usec", "us", "µs"], .ofNanos 1000 (some 1000)),
  (["millis", "msec", "ms"], .ofNanos 1000000 (some 1000000)),
  (["seconds", "second", "secs", "sec", "s"], .fine 1),
  (["minutes", "minute", "min", "mins", "m"], .fine 60),
  (["hours", "hour", "hr", "hrs", "h"], .long 3600),
  (["days", "day", "d"], .long 86400),
  (["weeks", "week", "wk", "wks", "w"], .long 604800),
  (["months", "month", "M"], .long 2630016),
  (["years", "year", "yr", "yrs", "y"], .long 31557600)]

/-- The unit of a name. -/
def TimeUnit.named? (name : String) : Option TimeUnit :=
  (timeUnits.find? fun u => u.1.contains name).map (·.2)

/-! ## Sums -/

/-- A count that fits a machine word. -/
def word (n : Nat) : Except ReadFailure Nat :=
  if n < secondsLimit then .ok n else .error (.refused .tooLarge)

/-- Adds a term. Nanoseconds beyond one second are carried into the seconds under check; a sum of
exactly one second is carried without one, and a carry that does not fit stops the reader. -/
def add (total : Duration) (secs nanos : Nat) : Except ReadFailure Duration := do
  let n ← word (total.nanos + nanos)
  let secs ← if nanosPerSecond < n then word (secs + n / nanosPerSecond) else pure secs
  let n := if nanosPerSecond < n then n % nanosPerSecond else n
  let secs ← word (total.secs + secs)
  match ofParts? secs n with
  | some d => pure d
  | none => .error (.crashed .secondCarried)

/-- The part of a number behind the point. -/
structure Fraction where
  /-- The digits as a number. -/
  numerator : Nat
  /-- Ten to the count of digits. -/
  denominator : Nat

/-- Adds a number of units. -/
def addTerm (total : Duration) (unit : TimeUnit) (whole : Nat) (fraction : Option Fraction) :
    Except ReadFailure Duration := do
  let total ← add total (← word (whole * unit.secs)) (← word (whole * unit.nanos))
  match fraction, unit.grains with
  | none, _ => pure total
  | some _, none => .error (.refused .tooLarge)
  | some f, some grains =>
    let n ← word (f.numerator * grains)
    if n % f.denominator ≠ 0 then .error (.refused .tooLarge)
    else if unit.coarse then add total (n / f.denominator) 0
    else add total 0 (n / f.denominator)

/-! ## Terms -/

/-- A number and where the text goes on behind it. -/
structure Number where
  /-- The digits before the point. -/
  whole : Nat
  /-- The digits behind it, if there is a point. -/
  fraction : Option Fraction
  /-- The byte at which the unit begins. -/
  offset : Nat
  /-- The text from the unit on. -/
  rest : List Char

/-- Whether a character can stand in the name of a unit. -/
def isUnitChar (c : Char) : Bool := c.isAlpha || c = 'µ'

/-- The digits behind the point. `mark` is where a fault is reported: at the point until a digit or
blank has been read, then behind the last of these. -/
def readFraction (whole : Nat) (f : Fraction) (mark offset : Nat) :
    List Char → Except ReadFailure Number
  | [] =>
    if f.denominator = 1 then .error (.refused (.invalidCharacter mark))
    else .ok ⟨whole, some f, mark, []⟩
  | c :: r =>
    if c.isDigit then do
      let denominator ← word (f.denominator * 10)
      let numerator ← word (f.numerator * 10 + (c.toNat - 48))
      readFraction whole ⟨numerator, denominator⟩ (offset + 1) (offset + 1) r
    else if Text.isBlank c then
      readFraction whole f (offset + c.utf8Size) (offset + c.utf8Size) r
    else if isUnitChar c && f.denominator ≠ 1 then .ok ⟨whole, some f, mark, c :: r⟩
    else .error (.refused (.invalidCharacter mark))

/-- The digits of a number up to its unit. -/
def readNumber (whole offset : Nat) : List Char → Except ReadFailure Number
  | [] => .ok ⟨whole, none, offset, []⟩
  | c :: r =>
    if c.isDigit then do
      readNumber (← word (whole * 10 + (c.toNat - 48))) (offset + 1) r
    else if Text.isBlank c then readNumber whole (offset + c.utf8Size) r
    else if isUnitChar c then .ok ⟨whole, none, offset, c :: r⟩
    else if c = '.' then readFraction whole ⟨0, 1⟩ offset (offset + 1) r
    else .error (.refused (.invalidCharacter offset))

/-- Where a unit ends. -/
structure UnitEnd where
  /-- The name of the unit. -/
  name : List Char
  /-- The byte at which the next term begins. -/
  offset : Nat
  /-- The text from the next term on. -/
  rest : List Char

/-- The name of a unit, up to a digit or behind one blank. -/
def readUnit (offset : Nat) : List Char → Except ReadFailure UnitEnd
  | [] => .ok ⟨[], offset, []⟩
  | c :: r =>
    if c.isDigit then .ok ⟨[], offset, c :: r⟩
    else if Text.isBlank c then .ok ⟨[], offset + c.utf8Size, r⟩
    else if isUnitChar c then do
      let u ← readUnit (offset + c.utf8Size) r
      pure { u with name := c :: u.name }
    else .error (.refused (.invalidCharacter offset))

/-- The first digit of a term with the byte and the text behind it; `none` at the end of the text.
A fault is reported at `mark`, where the search began. -/
def firstDigit? (mark offset : Nat) :
    List Char → Except ReadFailure (Option (Nat × Nat × List Char))
  | [] => .ok none
  | c :: r =>
    if c.isDigit then .ok (some (c.toNat - 48, offset + 1, r))
    else if Text.isBlank c then firstDigit? mark (offset + c.utf8Size) r
    else .error (.refused (.numberExpected mark))

/-- Adds up the terms of a text, at most as many as `fuel`. -/
def readTerms : Nat → Duration → Nat → List Char → Except ReadFailure Duration
  | 0, total, _, _ => .ok total
  | fuel + 1, total, offset, s => do
    match ← firstDigit? offset offset s with
    | none => pure total
    | some (digit, offset, s) =>
      let n ← readNumber digit offset s
      let u ← readUnit n.offset n.rest
      match TimeUnit.named? (String.ofList u.name) with
      | some unit => readTerms fuel (← addTerm total unit n.whole n.fraction) u.offset u.rest
      | none =>
        if u.name.isEmpty then .error (.refused (.unitMissing n.whole))
        else .error (.refused (.unknownUnit (String.ofList u.name)))

/-- Reads a duration; a single zero needs no unit. Every term takes a character, so that the length
of the text bounds their number. -/
def read (s : String) : Except ReadFailure Duration := do
  if s = "0" then pure default
  else
    match ← firstDigit? 0 0 s.toList with
    | none => .error (.refused .empty)
    | some _ => readTerms s.toList.length default 0 s.toList

end PodCheck.Duration
