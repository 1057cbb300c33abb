import PodCheck.Duration

/-! # Instants

Points of the wall clock, and the deadline that lies a duration behind one. The calendar ends, and a
deadline beyond its end is put at its last instant. Main statement: adding a duration adds the
nanoseconds (`toNanos_add`). -/

namespace PodCheck

/-- A point in time: whole seconds since 1970, and nanoseconds beyond them. -/
structure Instant where
  /-- The second. -/
  secs : Int
  /-- Nanoseconds beyond it. -/
  nanos : Nat
  /-- The nanoseconds do not make up a second. -/
  nanos_lt : nanos < nanosPerSecond

namespace Instant

/-- The last second of the calendar. -/
def lastSecond : Int := 8210266876799

/-- The longest duration that can be added to an instant, in milliseconds. -/
def longestMillis : Nat := 9223372036854775807

/-- The nanoseconds since 1970. -/
def toNanos (t : Instant) : Int := t.secs * nanosPerSecond + t.nanos

/-- The instant at some nanoseconds since 1970. -/
def ofNanos (n : Int) : Instant where
  secs := n / nanosPerSecond
  nanos := (n % nanosPerSecond).toNat
  nanos_lt := by
    have h : (0 : Int) < nanosPerSecond := by decide
    have := Int.emod_lt_of_pos n h
    omega

/-- The instant some milliseconds later. -/
def afterMillis (t : Instant) (ms : Nat) : Instant := ofNanos (t.toNanos + ms * 1000000)

/-- The instant a duration later, wherever the calendar ends. -/
def add (t : Instant) (d : Duration) : Instant :=
  if h : t.nanos + d.nanos < nanosPerSecond then ⟨t.secs + d.secs, t.nanos + d.nanos, h⟩
  else
    ⟨t.secs + d.secs + 1, t.nanos + d.nanos - nanosPerSecond, by
      have := t.nanos_lt; have := d.nanos_lt; omega⟩

/-- Adding a duration adds the nanoseconds. -/
theorem toNanos_add (t : Instant) (d : Duration) :
    (t.add d).toNanos = t.toNanos + d.toNanos := by
  have ht := t.nanos_lt
  have hd := d.nanos_lt
  unfold add toNanos Duration.toNanos
  split <;> push_cast <;> simp only [nanosPerSecond] at * <;> omega

/-- The instant a duration later, if the duration is one of the calendar's and the calendar lasts
that long. -/
def add? (t : Instant) (d : Duration) : Option Instant :=
  if d.toNanos ≤ longestMillis * 1000000 ∧ (t.add d).secs ≤ lastSecond then some (t.add d)
  else none

/-- The second of the deadline a duration later. -/
def deadline (t : Instant) (d : Duration) : Int := ((t.add? d).map (·.secs)).getD lastSecond

end Instant

end PodCheck
