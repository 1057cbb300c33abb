/-! # States of a run

How far the latest run of a check has come. Main statement: giving up leaves no run in progress
(`RunState.abandoned_ne_inProgress`). -/

namespace PodCheck

/-- A step of a run. -/
inductive RunStage
  /-- The configuration is looked at. -/
  | validating
  /-- A new token is stored. -/
  | tokenRotating
  /-- The pod is replaced. -/
  | podSubmitting
deriving DecidableEq

/-- The name of a step. -/
def RunStage.text : RunStage → String
  | .validating => "Validating"
  | .tokenRotating => "TokenRotating"
  | .podSubmitting => "PodSubmitting"

/-- The state of the latest run. -/
inductive RunState
  /-- There was none. -/
  | idle
  /-- It is in a step. -/
  | inProgress (stage : RunStage)
  /-- Its pod was created. -/
  | submitted
  /-- It ended in a step. -/
  | failed (stage : RunStage)
deriving DecidableEq, Inhabited

namespace RunState

/-- The state in words. -/
def text : RunState → String
  | .idle => "Idle"
  | .inProgress stage => "InProgress(" ++ stage.text ++ ")"
  | .submitted => "Submitted"
  | .failed stage => "Failed(" ++ stage.text ++ ")"

/-- The state after a run has been given up: it failed in the step that it had reached. -/
def abandoned : RunState → RunState
  | .inProgress stage => .failed stage
  | s => s

/-- A run that was given up is not in progress. -/
theorem abandoned_ne_inProgress (s : RunState) (stage : RunStage) :
    s.abandoned ≠ .inProgress stage := by
  cases s <;> simp [abandoned]

/-- A run that is not in progress cannot be given up. -/
theorem abandoned_eq_self {s : RunState} (h : ∀ stage, s ≠ .inProgress stage) :
    s.abandoned = s := by
  cases s with
  | inProgress stage => exact absurd rfl (h stage)
  | _ => rfl

end RunState

end PodCheck
