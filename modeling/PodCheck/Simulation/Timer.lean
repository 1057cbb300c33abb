/-! # Timers

A timer goes off at a moment; of two that go off at the same moment, the one that was set first is
the first to go off. -/

namespace PodCheck.Simulation

/-- A moment at which something is due, with the order in which such moments were set. -/
structure Timer where
  /-- The moment. -/
  time : Nat
  /-- The order. -/
  order : Nat

namespace Timer

/-- Whether a timer goes off before another one. -/
def before (a b : Timer) : Bool := a.time < b.time || (a.time = b.time && a.order < b.order)

/-- The first one of two timers. -/
def first? : Option Timer → Option Timer → Option Timer
  | some a, some b => if b.before a then some b else some a
  | some a, none => some a
  | none, b => b

end Timer

end PodCheck.Simulation
