import PodCheck.Proofs.Checker.Turn

/-! # A checker in the course of a run

What a checker looks like while a run of it waits for an operation (`Checker.amid`) and when the
run is over (`Checker.Concludes`), told from what it looked like when the run began. While it waits
a run is in the step that the operation belongs to, and the checker has the token of the run as soon
as that was stored (`Checker.checker_resume_amid`, `Checker.concludes_of_resume`). -/

namespace PodCheck

/-- The step of a run that an operation belongs to. -/
def Pending.stage : Pending → RunStage
  | .settingToken _ => .tokenRotating
  | .removing _ => .podSubmitting
  | .submitting _ _ => .podSubmitting

namespace Checker

/-- The checker while a run of it waits for an operation: it has the token of the run once that was
stored. -/
def amid (c : Checker) : Pending → Checker
  | .settingToken _ => { c with state := .inProgress .tokenRotating }
  | .removing token => { c with token, state := .inProgress .podSubmitting }
  | .submitting token _ => { c with token, state := .inProgress .podSubmitting }

/-- How the outcome of an operation ends the run that waits for it. -/
inductive Concludes (c : Checker) : Pending → Outcome → Except CheckError Unit → Checker → Prop
  /-- An operation has failed. -/
  | failed {p : Pending} {source : ClientError} :
      Concludes c p (.error source) (.error (p.failure c.config source)) (c.amid p).abandon
  /-- The pod of the run was created. -/
  | submitted {token : String} {pod : Pod} {answer : Answer} :
      Concludes c (.submitting token pod) (.ok answer) (.ok ())
        { c with token, state := .submitted }

variable (c : Checker) (p : Pending)

/-- A run leaves the configuration. -/
@[simp] theorem config_amid : (c.amid p).config = c.config := by
  cases p <;> rfl

/-- While it waits, a run is in the step that the operation belongs to. -/
@[simp] theorem state_amid : (c.amid p).state = .inProgress p.stage := by
  cases p <;> rfl

/-- A run that is given up failed in the step that it had reached. -/
@[simp] theorem state_abandon_amid : (c.amid p).abandon.state = .failed p.stage := by
  rw [abandon, state_amid]
  rfl

variable {c p}

/-- A run that goes on waits for the next operation. -/
theorem checker_resume_amid {q : Pending} {now : Instant} (answer : Answer)
    (hq : p.next? c.config now = some q) :
    ((c.amid p).resume p (.ok answer) now).checker = c.amid q := by
  cases p with
  | settingToken token =>
    obtain rfl : Pending.removing token = q := by simpa [Pending.next?] using hq
    rfl
  | removing token =>
    obtain rfl : Pending.submitting token (c.config.pod token now) = q := by
      simpa [Pending.next?] using hq
    rfl
  | submitting token pod => simp [Pending.next?] at hq

/-- **A run is over when an operation has failed or its pod was created.** -/
theorem concludes_of_resume {outcome : Outcome} {now : Instant} {result : Except CheckError Unit}
    (h : ((c.amid p).resume p outcome now).next = .finished result) :
    c.Concludes p outcome result ((c.amid p).resume p outcome now).checker := by
  rw [next_resume] at h
  cases outcome with
  | error source =>
    obtain rfl := Next.finished.inj h
    rw [config_amid]
    cases p <;> exact .failed
  | ok answer =>
    cases p with
    | settingToken token => simp [Pending.next?] at h
    | removing token => simp [Pending.next?] at h
    | submitting token pod =>
      obtain rfl := Next.finished.inj h
      exact .submitted

end Checker

end PodCheck
