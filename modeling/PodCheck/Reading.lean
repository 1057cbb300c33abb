/-! # Reading typed data

Typed data come from a source that may have no end, and they may name parts of the source again,
which costs a unit of a budget each time. A part that does not fit decides even if a part before it
is unfinished. -/

namespace PodCheck

/-- Why typed data cannot be read. -/
inductive Reading.Fault
  /-- The data do not fit, whatever comes behind them. -/
  | misfit
  /-- The data have no end, but fit as far as they go. -/
  | unfinished
deriving DecidableEq

/-- A computation that reads typed data: it fails, or takes what it needs from the number of aliases
that may still be followed. -/
abbrev Reading := StateT Nat (Except Reading.Fault)

namespace Reading

variable {α β : Type}

/-- The data do not fit. -/
def fail : Reading α := fun _ => .error .misfit

/-- The data fit as far as they go. -/
def unfinished : Reading α := fun _ => .error .unfinished

/-- A value that may be missing, as a failure. -/
def ofOption : Option α → Reading α
  | some a => pure a
  | none => fail

/-- Follows one alias. -/
def spend : Reading Unit := fun budget =>
  if budget = 0 then .error .misfit else .ok ((), budget - 1)

/-- Reads two parts of the same data. That one of them does not fit counts more than that the other
is unfinished. -/
def both (f : Reading (α → β)) (x : Reading α) : Reading β := fun budget =>
  match f budget with
  | .ok (g, budget) => (x budget).map fun (a, budget) => (g a, budget)
  | .error .misfit => .error .misfit
  | .error .unfinished =>
    match x budget with
    | .error .misfit => .error .misfit
    | _ => .error .unfinished

/-- If the first part is known, only the second one counts. -/
@[simp] theorem both_pure (g : α → β) (x : Reading α) : both (pure g) x = g <$> x := by
  funext budget
  change (x budget).map (fun p => (g p.1, p.2)) = (x budget).bind fun p => .ok (g p.1, p.2)
  cases x budget <;> rfl

/-- The result of a reading that follows no alias. -/
def result (r : Reading α) : Except Fault α := (r.run 0).map (·.1)

end Reading

end PodCheck
