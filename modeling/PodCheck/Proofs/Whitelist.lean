import PodCheck.Cluster.Memory
import PodCheck.Whitelist

/-! # Reports that are rejected

A report comes from outside, and its token may be any text. Judging it asks the client for the token
of the check, compares, and logs a rejection. What comes of it can tell two reports apart only by
whether they are empty, whether they have the token of the check, and how long they are
(`Whitelist.Setting.judge_eq`). So of two rejected reports of one length, neither the result nor the
calls nor the log show which one it was, whatever the client does
(`Whitelist.rejected_report_leaves_no_trace`). -/

namespace PodCheck.Whitelist

/-! ## Judging a report -/

namespace Setting

variable {σ : Type} (e : Setting σ) (s : σ) (ns check : String)

/-- A report with a token is judged by what the client says of its check. -/
theorem judge_of_ne {reported : String} (h : reported ≠ "") :
    e.judge s ns check reported
      = match e.ask s (.getToken ns check) with
        | (s, none) => (s, none)
        | (s, some outcome) =>
          (e.log s (authorized ns check reported outcome).2,
            some (authorized ns check reported outcome).1) := by
  rcases hask : e.ask s (.getToken ns check) with ⟨s', outcome?⟩
  have hperform : (e.perform (.getToken ns check)).run.run s = (outcome?, s') := by
    rw [perform, OptionT.run_mk]
    exact congrArg Prod.swap hask
  rw [judge, authorize_of_ne _ _ _ _ h, OptionT.run_bind, Option.elimM, StateT.run_bind, hperform]
  cases outcome? <;> rfl

/-- The token of a check, if the client names one. -/
def token? : Option String :=
  match (e.ask s (.getToken ns check)).2 with
  | some (.ok answer) => answer.token?
  | _ => none

/-- What comes of a report of which nothing is known but whether it is empty, whether it has the
token of the check, and how long it is. -/
def outcomeOf (isEmpty isCurrent : Bool) (length : Nat) : σ × Option (Except CheckError Bool) :=
  if isEmpty then (s, some (.ok false))
  else
    match e.ask s (.getToken ns check) with
    | (s, none) => (s, none)
    | (s, some (.error source)) => (e.log s [], some (.error (.persistence ns check source)))
    | (s, some (.ok answer)) =>
      if answer.token? = none then (e.log s [], some (.error (.notFound ns check)))
      else if isCurrent then (e.log s [], some (.ok true))
      else (e.log s [.reportRejected ns check length], some (.ok false))

/-- **What comes of a report depends on nothing else about it.** -/
theorem judge_eq (reported : String) :
    e.judge s ns check reported
      = e.outcomeOf s ns check (reported = "") (e.token? s ns check = some reported)
        reported.utf8ByteSize := by
  by_cases hempty : reported = ""
  · subst hempty
    rfl
  rw [judge_of_ne e s ns check hempty]
  unfold outcomeOf token?
  simp only [hempty, decide_false, Bool.false_eq_true, if_false]
  rcases e.ask s (.getToken ns check) with ⟨s', _ | outcome⟩
  · rfl
  cases outcome with
  | error source => rfl
  | ok answer =>
    -- with a token there, comparing it with the report is asking whether the report has it
    cases htoken : answer.token? with
    | none => simp [authorized, fetched, htoken]
    | some token =>
      by_cases hcurrent : token = reported <;> simp [authorized, fetched, htoken, hcurrent]

/-- **Reports that are rejected and equally long come to the same.** -/
theorem judge_of_rejected {r₁ r₂ : String} (h₁ : r₁ ≠ "") (h₂ : r₂ ≠ "")
    (hlength : r₁.utf8ByteSize = r₂.utf8ByteSize) (hother₁ : e.token? s ns check ≠ some r₁)
    (hother₂ : e.token? s ns check ≠ some r₂) :
    e.judge s ns check r₁ = e.judge s ns check r₂ := by
  rw [judge_eq, judge_eq, decide_eq_false h₁, decide_eq_false h₂, decide_eq_false hother₁,
    decide_eq_false hother₂, hlength]

end Setting

/-! ## Traces of a report -/

/-- What has happened: what has become of a client, what was asked of it, and what was logged. -/
structure Transcript (σ : Type) where
  /-- The client. -/
  client : σ
  /-- The operations that were called. -/
  calls : List Call := []
  /-- The events that were logged. -/
  log : List Event := []

/-- Writes down what happens. With an operation, a client changes, may have an outcome, and may log
events of its own. -/
def transcribing {σ : Type} (respond : σ → Call → σ × Option Outcome × List Event) :
    Setting (Transcript σ) where
  ask t call :=
    let (client, outcome?, events) := respond t.client call
    (⟨client, t.calls ++ [call], t.log ++ events⟩, outcome?)
  log t events := { t with log := t.log ++ events }

section

variable {σ : Type} (respond : σ → Call → σ × Option Outcome × List Event) (client : σ)
  (ns check : String)

/-- How a report that has a token is judged: the token of its check is asked for, and nothing else,
and an event is added to those of the client just if the report is rejected. -/
theorem judge_transcribing {reported : String} (h : reported ≠ "") :
    let answer := respond client (.getToken ns check)
    let (after, result?) := (transcribing respond).judge ⟨client, [], []⟩ ns check reported
    after.client = answer.1 ∧ after.calls = [.getToken ns check]
    ∧ (result? = some (.ok false)
      → after.log = answer.2.2 ++ [.reportRejected ns check reported.utf8ByteSize])
    ∧ (result? ≠ some (.ok false) → after.log = answer.2.2)
    ∧ ∀ e, result? = some (.error e) →
      e = .notFound ns check
      ∨ ∃ source, answer.2.1 = some (.error source) ∧ e = .persistence ns check source := by
  rw [Setting.judge_eq, decide_eq_false h]
  -- whether the report has the token of the check decides between the last two cases
  generalize decide ((transcribing respond).token? ⟨client, [], []⟩ ns check = some reported)
    = isCurrent
  simp only [Setting.outcomeOf, transcribing, Bool.false_eq_true, if_false]
  rcases respond client (.getToken ns check) with ⟨client', _ | source | answer, events⟩
  · simp
  · simp
  · by_cases hmissing : answer.token? = none
    · simp [hmissing]
    · cases isCurrent <;> simp [hmissing]

end

/-- A number is written in digits. -/
theorem isDigit_of_mem_toString {n : Nat} {c : Char} (h : c ∈ (toString n).toList) :
    c.isDigit = true := by
  rw [show (toString n).toList = Nat.toDigits 10 n from Nat.toList_repr] at h
  exact Nat.isDigit_of_mem_toDigits (by decide) (by decide) h

/-- **A rejected report leaves no trace of its token**, whatever the client does. Two reports of one
length that are not empty and do not have the token of the check come to the same: the same result
or error, the same calls, the same events. All that is known of a report afterwards is whether it
is empty, whether it has the token of the check, and its length. Nothing comes of an empty report.
For any other one the token of the check is asked for, a rejection adds one event to those of the
client, and errors name the check and what the client says; the event has the namespace, the name
and a number in digits. -/
theorem rejected_report_leaves_no_trace {σ : Type}
    (respond : σ → Call → σ × Option Outcome × List Event) (client : σ) (ns check : String) :
    let judge := (transcribing respond).judge ⟨client, [], []⟩ ns check
    let answer := respond client (.getToken ns check)
    let token? := (transcribing respond).token? ⟨client, [], []⟩ ns check
    (∀ r₁ r₂, r₁ ≠ "" → r₂ ≠ "" → r₁.utf8ByteSize = r₂.utf8ByteSize → token? ≠ some r₁ →
      token? ≠ some r₂ → judge r₁ = judge r₂)
    ∧ (∃ f : Bool → Bool → Nat → Transcript σ × Option (Except CheckError Bool),
      ∀ reported, judge reported
        = f (reported = "") (token? = some reported) reported.utf8ByteSize)
    ∧ judge "" = (⟨client, [], []⟩, some (.ok false))
    ∧ (∀ reported, reported ≠ "" →
      let (after, result?) := judge reported
      after.client = answer.1 ∧ after.calls = [.getToken ns check]
      ∧ (result? = some (.ok false)
        → after.log = answer.2.2 ++ [.reportRejected ns check reported.utf8ByteSize])
      ∧ (result? ≠ some (.ok false) → after.log = answer.2.2)
      ∧ ∀ e, result? = some (.error e) →
        e = .notFound ns check
        ∨ ∃ source, answer.2.1 = some (.error source) ∧ e = .persistence ns check source)
    ∧ ∀ n, (Event.reportRejected ns check n).level = .warn
      ∧ (Event.reportRejected ns check n).message?
        = some "rejecting report with a run uuid that is not whitelisted"
      ∧ (Event.reportRejected ns check n).fields
        = [("namespace", ns), ("check", check), ("reported_len", toString n)]
      ∧ ∀ c ∈ (toString n).toList, c.isDigit = true := by
  intro judge answer token?
  refine ⟨?_, ⟨_, (transcribing respond).judge_eq ⟨client, [], []⟩ ns check⟩, rfl, ?_, ?_⟩
  · intro r₁ r₂ h₁ h₂ hlength hother₁ hother₂
    exact (transcribing respond).judge_of_rejected _ _ _ h₁ h₂ hlength hother₁ hother₂
  · intro reported h
    exact judge_transcribing respond client ns check h
  · intro n
    exact ⟨rfl, rfl, rfl, fun c => isDigit_of_mem_toString⟩

/-- A cluster in memory whose check has the token `t1`, and two reports of ten bytes that do not
have it, though one goes on with it in a second line. -/
theorem rejected_report_leaves_no_trace_of_second_line :
    let cluster := ((({} : MemoryCluster).withCheck "prod" "web").setToken "prod" "web" "t1").2
    let respond (m : MemoryCluster) (call : Call) : MemoryCluster × Option Outcome × List Event :=
      ((m.perform call).2, some (m.perform call).1, [])
    let judge := (transcribing respond).judge ⟨cluster, [], []⟩ "prod" "web"
    judge "x\nuuid=t1." = judge "0123456789"
    ∧ (judge "x\nuuid=t1.").2 = some (.ok false)
    ∧ (judge "x\nuuid=t1.").1.log = [.reportRejected "prod" "web" 10] := by
  intro cluster respond judge
  obtain ⟨hsame, -, -, hlog, -⟩ := rejected_report_leaves_no_trace respond cluster "prod" "web"
  have hresult : (judge "x\nuuid=t1.").2 = some (.ok false) := by rfl
  obtain ⟨-, -, hrejected, -⟩ := hlog "x\nuuid=t1." (by decide)
  exact ⟨hsame _ _ (by decide) (by decide) (by decide +kernel) (by decide +kernel)
    (by decide +kernel), hresult, hrejected hresult⟩

end PodCheck.Whitelist
