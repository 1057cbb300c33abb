import PodCheck.Checker

/-! # Turns of a run

What `Checker.start` and `Checker.resume` do, said once. A run that passes the gate waits for its
token to be stored (`Checker.start_of_ready`); an operation that succeeds leads to the next one in
a fixed order (`Pending.next?`), and one that fails ends the run (`Checker.next_resume`). A turn
never touches the configuration (`Checker.config_resume`). -/

namespace PodCheck

namespace Pending

/-- The token of the run that waits. -/
def token : Pending → String
  | .settingToken token => token
  | .removing token => token
  | .submitting token _ => token

/-- What a run waits for once the operation has succeeded; `none` if the run is over then. -/
def next? (c : CheckerConfig) (now : Instant) : Pending → Option Pending
  | .settingToken token => some (.removing token)
  | .removing token => some (.submitting token (c.pod token now))
  | .submitting _ _ => none

/-- How many operations are left of a run that waits for one. -/
def left : Pending → Nat
  | .settingToken _ => 3
  | .removing _ => 2
  | .submitting _ _ => 1

/-- The error of a run whose operation has failed. -/
def failure (c : CheckerConfig) (source : ClientError) : Pending → CheckError
  | .settingToken _ => .persistence c.ns c.checkName source
  | .removing _ => .cluster c.ns c.podName source
  | .submitting _ _ => .cluster c.ns c.podName source

/-- A run keeps its token from one operation to the next. -/
theorem token_of_next? {c : CheckerConfig} {now : Instant} {p q : Pending}
    (h : p.next? c now = some q) : q.token = p.token := by
  cases p with
  | settingToken token =>
    obtain rfl : Pending.removing token = q := by simpa [next?] using h
    rfl
  | removing token =>
    obtain rfl : Pending.submitting token (c.pod token now) = q := by simpa [next?] using h
    rfl
  | submitting token pod => simp [next?] at h

/-- A run that waits has an operation left, and not more than three. -/
theorem left_pos (p : Pending) : 0 < p.left ∧ p.left ≤ 3 := by
  cases p <;> simp [left]

/-- A run has one operation less to wait for after each. -/
theorem left_of_next? {c : CheckerConfig} {now : Instant} {p q : Pending}
    (h : p.next? c now = some q) : p.left = q.left + 1 := by
  cases p with
  | settingToken token =>
    obtain rfl : Pending.removing token = q := by simpa [next?] using h
    rfl
  | removing token =>
    obtain rfl : Pending.submitting token (c.pod token now) = q := by simpa [next?] using h
    rfl
  | submitting token pod => simp [next?] at h

/-- A run that stores a token stores its own. -/
theorem eq_of_call_setToken {c : CheckerConfig} {p : Pending} {ns check token : String}
    (h : Call.setToken ns check token = p.call c) :
    c.ns = ns ∧ c.checkName = check ∧ p.token = token := by
  cases p with
  | settingToken t =>
    obtain ⟨rfl, rfl, rfl⟩ := Call.setToken.inj h
    exact ⟨rfl, rfl, rfl⟩
  | removing t => simp [call] at h
  | submitting t pod => simp [call] at h

/-- A run that creates a pod waits for just that. -/
theorem eq_of_call_createPod {c : CheckerConfig} {p : Pending} {ns : String} {pod : Pod}
    (h : Call.createPod ns pod = p.call c) :
    c.ns = ns ∧ ∃ token, p = .submitting token pod := by
  cases p with
  | settingToken t => simp [call] at h
  | removing t => simp [call] at h
  | submitting t pod' =>
    obtain ⟨rfl, rfl⟩ := Call.createPod.inj h
    exact ⟨rfl, t, rfl⟩

end Pending

/-- A checker that is ready has no fault. -/
theorem CheckerConfig.fault?_of_check {c : CheckerConfig} (h : c.check = .ok ()) :
    c.fault? = none := by
  unfold check at h
  split at h
  · simp at h
  · assumption

namespace Checker

/-- A checker whose pod has one container and nothing to it. -/
def plain (ns checkName podName : String) : Checker where
  config :=
    { ns, checkName, podName
      template := { containers := [{ name := "main" }] }
      interval := .ofSecs 600
      timeout := .ofSecs 300 }
  token := ""

/-- A run of a checker that is not ready fails at once, and draws no token. -/
theorem start_of_fault {c : Checker} {fault : ConfigFault} (tokens : TokenSource)
    (h : c.config.fault? = some fault) :
    c.start tokens
      = (⟨{ c with state := .failed .validating },
          [.runFailed c.config.podName (.failed .validating) (c.config.faultError fault)],
          .finished (.error (c.config.faultError fault))⟩, tokens) := by
  unfold start
  rw [h]
  rfl

/-- A run of a checker that is ready draws a token and waits for it to be stored. -/
theorem start_of_ready {c : Checker} (tokens : TokenSource) (h : c.config.fault? = none) :
    c.start tokens
      = (⟨{ c with state := .inProgress .tokenRotating }, [],
          .waiting (.settingToken tokens.draw.1)⟩, tokens.draw.2) := by
  unfold start
  rw [h]

/-- A turn of a run leaves the configuration. -/
@[simp] theorem config_resume (c : Checker) (p : Pending) (outcome : Outcome) (now : Instant) :
    (c.resume p outcome now).checker.config = c.config := by
  cases p <;> cases outcome <;> rfl

/-- **An operation that succeeds leads to the next one, one that fails ends the run.** -/
theorem next_resume (c : Checker) (p : Pending) (outcome : Outcome) (now : Instant) :
    (c.resume p outcome now).next
      = match outcome with
        | .error source => .finished (.error (p.failure c.config source))
        | .ok _ =>
          match p.next? c.config now with
          | some q => .waiting q
          | none => .finished (.ok ()) := by
  cases p <;> cases outcome <;> rfl

/-- A run goes on only after an operation that succeeded. -/
theorem next_resume_eq_waiting_iff {c : Checker} {p q : Pending} {outcome : Outcome}
    {now : Instant} :
    (c.resume p outcome now).next = .waiting q
      ↔ (∃ answer, outcome = .ok answer) ∧ p.next? c.config now = some q := by
  rw [next_resume]
  cases outcome with
  | error source => simp
  | ok answer =>
    cases p.next? c.config now with
    | none => simp
    | some r => simp

end Checker

end PodCheck
