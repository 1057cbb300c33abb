import PodCheck.Text.Blank

/-! # Timestamps

The moment at which an object was created: a day of the calendar and a time of that day in UTC. It
is read from the usual notation `2024-01-02T03:04:05Z`, with leniency in blanks, digits and the
spelling of the offset, and written in that notation with whole seconds. Main statements: a day has
a next and a previous one as long as the calendar lasts (`Day.next?`, `Day.prev?`), so that an
offset of less than a day is taken off by at most one of them. -/

namespace PodCheck

/-! ## Days -/

/-- Whether a year has a 29th of February. -/
def isLeapYear (year : Int) : Bool := year % 4 = 0 && (year % 100 ≠ 0 || year % 400 = 0)

/-- The number of days of a month. -/
def daysInMonth (year : Int) (month : Nat) : Nat :=
  match month with
  | 2 => if isLeapYear year then 29 else 28
  | 4 => 30
  | 6 => 30
  | 9 => 30
  | 11 => 30
  | _ => 31

/-- The first year of the calendar. -/
def firstYear : Int := -262143

/-- The last year of the calendar. -/
def lastYear : Int := 262142

/-- A day of the calendar. -/
structure Day where
  /-- The year; the year before year 1 is year 0. -/
  year : Int
  /-- The month, from 1. -/
  month : Nat
  /-- The day of the month, from 1. -/
  day : Nat
  /-- The calendar is bounded. -/
  year_mem : firstYear ≤ year ∧ year ≤ lastYear
  /-- A year has twelve months. -/
  month_mem : 1 ≤ month ∧ month ≤ 12
  /-- The day is one of its month. -/
  day_mem : 1 ≤ day ∧ day ≤ daysInMonth year month
deriving DecidableEq

/-- The day of a year, month and day of the month, if there is one. -/
def Day.of? (year : Int) (month day : Nat) : Option Day :=
  if h : (firstYear ≤ year ∧ year ≤ lastYear) ∧ (1 ≤ month ∧ month ≤ 12)
      ∧ (1 ≤ day ∧ day ≤ daysInMonth year month) then
    some ⟨year, month, day, h.1, h.2.1, h.2.2⟩
  else none

/-- The day after a day, if the calendar has one. -/
def Day.next? (d : Day) : Option Day :=
  if d.day < daysInMonth d.year d.month then of? d.year d.month (d.day + 1)
  else if d.month < 12 then of? d.year (d.month + 1) 1
  else of? (d.year + 1) 1 1

/-- The day before a day, if the calendar has one. -/
def Day.prev? (d : Day) : Option Day :=
  if 1 < d.day then of? d.year d.month (d.day - 1)
  else if 1 < d.month then of? d.year (d.month - 1) (daysInMonth d.year (d.month - 1))
  else of? (d.year - 1) 12 31

/-! ## Moments -/

/-- A moment in UTC. -/
structure Timestamp where
  /-- The day. -/
  date : Day
  /-- The hour. -/
  hour : Nat
  /-- The minute. -/
  minute : Nat
  /-- The second; 60 is a leap second. -/
  second : Nat
  /-- The nanoseconds beyond the second. -/
  nanos : Nat
  /-- A day has 24 hours. -/
  hour_lt : hour < 24
  /-- An hour has 60 minutes. -/
  minute_lt : minute < 60
  /-- A minute has 60 seconds or, with a leap second, 61. -/
  second_le : second ≤ 60
  /-- The nanoseconds do not make up a second. -/
  nanos_lt : nanos < 1000000000
deriving DecidableEq

namespace Timestamp

/-- The moment at a time of the day that differs from UTC by an offset in minutes. -/
def ofLocal? (date : Day) (hour minute second nanos : Nat) (offset : Int) : Option Timestamp :=
  let shifted : Int := (hour * 60 + minute : Nat) - offset
  let date? :=
    if shifted < 0 then date.prev? else if shifted < 1440 then some date else date.next?
  let inDay := (shifted % 1440).toNat
  date?.bind fun date =>
    if h : inDay / 60 < 24 ∧ second ≤ 60 ∧ nanos < 1000000000 then
      some ⟨date, inDay / 60, inDay % 60, second, nanos, h.1, Nat.mod_lt _ (by decide), h.2.1,
        h.2.2⟩
    else none

/-! ## Writing -/

/-- A number with at least `width` digits. -/
def padded (width n : Nat) : List Char :=
  let digits := Nat.toDigits 10 n
  List.replicate (width - digits.length) '0' ++ digits

/-- A year: four digits, and a sign where four digits do not hold it. -/
def yearChars (year : Int) : List Char :=
  if 0 ≤ year ∧ year ≤ 9999 then padded 4 year.toNat
  else (if year < 0 then '-' else '+') :: padded 4 year.natAbs

/-- The moment in UTC, with whole seconds. -/
def text (t : Timestamp) : String :=
  String.ofList (yearChars t.date.year ++ '-' :: padded 2 t.date.month ++ '-' :: padded 2 t.date.day
    ++ 'T' :: padded 2 t.hour ++ ':' :: padded 2 t.minute ++ ':' :: padded 2 t.second ++ ['Z'])

/-! ## Reading -/

/-- The value of a string of decimal digits. -/
def digitsValue (s : List Char) : Nat := s.foldl (fun n c => n * 10 + (c.toNat - 48)) 0

/-- At least one and at most `most` digits. -/
def readDigits? (most : Nat) (s : List Char) : Option (Nat × List Char) :=
  let digits := (s.take most).takeWhile Char.isDigit
  if digits.isEmpty then none else some (digitsValue digits, s.drop digits.length)

/-- A year: up to four digits, or a sign and any number of them. -/
def readYear? (s : List Char) : Option (Int × List Char) :=
  match Text.skipBlanks s with
  | '-' :: r => (readDigits? r.length r).map fun (n, r) => (-(n : Int), r)
  | '+' :: r => (readDigits? r.length r).map fun (n, r) => ((n : Int), r)
  | r => (readDigits? 4 r).map fun (n, r) => ((n : Int), r)

/-- One or two digits, blanks allowed before them. -/
def readPair? (s : List Char) : Option (Nat × List Char) := readDigits? 2 (Text.skipBlanks s)

/-- A character, blanks allowed before it. -/
def readMark? (mark : Char) (s : List Char) : Option (List Char) :=
  match Text.skipBlanks s with
  | c :: r => if c = mark then some r else none
  | [] => none

/-- The digits behind a point as nanoseconds, if there is a point: the first nine count. -/
def readNanos? : List Char → Option (Nat × List Char)
  | '.' :: r =>
    let digits := r.takeWhile Char.isDigit
    if digits.isEmpty then none
    else
      let counted := digits.take 9
      some (digitsValue counted * Nat.pow 10 (9 - counted.length), r.drop digits.length)
  | r => some (0, r)

/-- Two digits of an offset, the first one below `bound`. -/
def readOffsetPair? (bound : Char) : List Char → Option (Nat × List Char)
  | a :: b :: r =>
    if a.isDigit && b.isDigit && a < bound then some (digitsValue [a, b], r) else none
  | _ => none

/-- The hours and minutes of an offset in minutes, colons and blanks allowed between them. -/
def readOffsetParts? (s : List Char) : Option (Int × List Char) := do
  let (hours, r) ← readOffsetPair? ':' s
  let (minutes, r) ← readOffsetPair? '6' (r.dropWhile fun c => c = ':' || Text.isBlank c)
  if hours < 24 then pure (((hours * 60 + minutes : Nat) : Int), r) else none

/-- An offset in minutes: `Z`, `UTC`, or a sign with hours and minutes. -/
def readOffset? (s : List Char) : Option (Int × List Char) :=
  match Text.skipBlanks s with
  | [] => none
  | c :: r =>
    if c = 'Z' || c = 'z' then some (0, r)
    else if ((c :: r).take 3).map Char.toUpper = ['U', 'T', 'C'] then some (0, (c :: r).drop 3)
    else if c = '+' then readOffsetParts? r
    else if c = '-' || c = '\u2212' then (readOffsetParts? r).map fun (n, r) => (-n, r)
    else none

/-- The letter or blank between day and time. -/
def readSeparator? : List Char → Option (List Char)
  | c :: r => if c = 't' || c = 'T' || c = ' ' then some r else none
  | [] => none

/-- Reads a moment. -/
def read? (s : String) : Option Timestamp := do
  let (year, r) ← readYear? s.toList
  let (month, r) ← readPair? (← readMark? '-' r)
  let (day, r) ← readPair? (← readMark? '-' r)
  let (hour, r) ← readPair? (← readSeparator? r)
  let (minute, r) ← readPair? (← readMark? ':' r)
  let (second, r) ← readPair? (← readMark? ':' r)
  let (nanos, r) ← readNanos? r
  let (offset, r) ← readOffset? r
  if Text.skipBlanks r ≠ [] || 24 ≤ hour || 60 ≤ minute then none
  else ofLocal? (← Day.of? year month day) hour minute second nanos offset

end Timestamp

end PodCheck
