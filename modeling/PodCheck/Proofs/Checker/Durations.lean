import PodCheck.Checker
import PodCheck.Proofs.Duration.Sum

/-! # Durations of checkers

A check brings two texts with it, how often it is run and how long its pod may take to report. Each
comes to a duration by itself, with a warning at most (`Settles`, `readSpan_eq_ok_iff`), whatever
the other one is. A check has no checker just if one of its texts fills up a duration, where the
reader stops (`Checker.durations_settle`); there are such checks (`Checker.ofCheck_stops`). -/

namespace PodCheck

/-- What a text of a check comes to: the duration, and the warnings that it gives rise to. -/
inductive Settles (field : String) (default : Duration) (minutes : Nat) :
    Option String → Duration → List Event → Prop
  /-- A duration that is missing has its default. -/
  | missing : Settles field default minutes none default []
  /-- So has an empty one. -/
  | empty : Settles field default minutes (some "") default []
  /-- A text that can be read is what it says. -/
  | read {s : String} {d : Duration} (hs : s ≠ "") (h : Duration.read s = .ok d) :
    Settles field default minutes (some s) d []
  /-- A text that is refused has its default and one warning. -/
  | replaced {s : String} {e : Duration.ReadError} (hs : s ≠ "")
    (h : Duration.read s = .error (.refused e)) :
    Settles field default minutes (some s) default [.durationReplaced field s e minutes]

section

variable {field : String} {value : Option String} {minutes : Nat}
  {h : minutes * 60 < secondsLimit}

/-- A text comes to what it says or to its default, or the reader stops at it. -/
theorem settles_or_fillsUp (field : String) (value : Option String) (default : Duration)
    (minutes : Nat) :
    (∃ d events, Settles field default minutes value d events)
      ∨ ∃ s, value = some s ∧ Duration.FillsUp s := by
  cases value with
  | none => exact .inl ⟨_, _, .missing⟩
  | some s =>
    by_cases hs : s = ""
    · subst hs
      exact .inl ⟨_, _, .empty⟩
    cases hread : Duration.read s with
    | ok d => exact .inl ⟨_, _, .read hs hread⟩
    | error e =>
      cases e with
      | refused e => exact .inl ⟨_, _, .replaced hs hread⟩
      | crashed crash => exact .inr ⟨s, rfl, Duration.read_eq_crashed_iff.1 hread⟩

theorem Settles.readSpan_eq {d : Duration} {events : List Event}
    (hd : Settles field (.ofSecs (minutes * 60) h) minutes value d events) :
    readSpan field value minutes h = .ok (d, events) := by
  cases hd with
  | missing => exact readSpan_none field minutes h
  | empty => exact readSpan_empty field minutes h
  | read hs hread => simp only [readSpan, hread]
  | replaced hs hread => exact readSpan_of_refused hs hread

theorem readSpan_of_fillsUp {s : String} (hs : Duration.FillsUp s) :
    readSpan field (some s) minutes h = .error .secondCarried := by
  have hread : Duration.read s = .error (.crashed .secondCarried) :=
    Duration.read_eq_crashed_iff.2 hs
  unfold readSpan
  split
  · contradiction
  · next heq => cases heq; cases hread
  · next heq => cases heq; rw [hread]

/-- **What a duration of a check is**, in each of the cases and in no other. -/
theorem readSpan_eq_ok_iff {d : Duration} {events : List Event} :
    readSpan field value minutes h = .ok (d, events)
      ↔ Settles field (.ofSecs (minutes * 60) h) minutes value d events := by
  refine ⟨fun hok => ?_, Settles.readSpan_eq⟩
  rcases settles_or_fillsUp field value (.ofSecs (minutes * 60) h) minutes with
    ⟨d', events', hsettles⟩ | ⟨s, rfl, hfills⟩
  · rw [hsettles.readSpan_eq] at hok
    cases hok
    exact hsettles
  · rw [readSpan_of_fillsUp hfills] at hok
    cases hok

/-- **A duration of a check stops the reader just if its text fills up a duration.** -/
theorem readSpan_eq_error_iff {crash : Duration.Crash} :
    readSpan field value minutes h = .error crash ↔ ∃ s, value = some s ∧ Duration.FillsUp s := by
  -- there is one way only to stop
  cases crash
  refine ⟨fun herror => ?_, ?_⟩
  · rcases settles_or_fillsUp field value (.ofSecs (minutes * 60) h) minutes with
      ⟨d, events, hsettles⟩ | hfills
    · rw [hsettles.readSpan_eq] at herror
      cases herror
    · exact hfills
  · rintro ⟨s, rfl, hfills⟩
    exact readSpan_of_fillsUp hfills

end

namespace Checker

/-- The checker of a check with the given interval and timeout. -/
def ofSpans (check : Check) (interval timeout : Duration) : Checker where
  config :=
    { ns := check.metadata.ns.getD ""
      checkName := check.metadata.name.getD ""
      podName := check.metadata.name.getD ""
      template := check.spec.podSpec
      interval := interval
      timeout := timeout
      extraLabels := check.spec.extraLabels
      extraAnnotations := check.spec.extraAnnotations }
  token := check.spec.currentToken

variable {check : Check} {checker : Checker} {events : List Event}

/-- A check has a checker if it has both durations, and warns of the interval first. -/
theorem ofCheck_eq_ok_iff :
    ofCheck check = .ok (checker, events)
      ↔ ∃ first second, check.spec.intervalSpan = .ok first ∧ check.spec.timeoutSpan = .ok second
        ∧ checker = ofSpans check first.1 second.1 ∧ events = first.2 ++ second.2 := by
  constructor
  · intro h
    unfold ofCheck at h
    cases hfirst : check.spec.intervalSpan with
    | error crash => rw [hfirst] at h; cases h
    | ok first =>
      cases hsecond : check.spec.timeoutSpan with
      | error crash => rw [hfirst, hsecond] at h; cases h
      | ok second =>
        rw [hfirst, hsecond] at h
        cases h
        exact ⟨first, second, rfl, rfl, rfl, rfl⟩
  · rintro ⟨first, second, hfirst, hsecond, rfl, rfl⟩
    rw [ofCheck, hfirst, hsecond]
    rfl

/-- A check has no checker if one of its durations stops the reader. -/
theorem ofCheck_eq_error_iff :
    (∃ crash, ofCheck check = .error crash)
      ↔ (∃ crash, check.spec.intervalSpan = .error crash)
        ∨ ∃ crash, check.spec.timeoutSpan = .error crash := by
  unfold ofCheck
  cases check.spec.intervalSpan with
  | error crash => exact ⟨fun _ => .inl ⟨crash, rfl⟩, fun _ => ⟨crash, rfl⟩⟩
  | ok first =>
    cases check.spec.timeoutSpan with
    | error crash => exact ⟨fun _ => .inr ⟨crash, rfl⟩, fun _ => ⟨crash, rfl⟩⟩
    | ok second => exact ⟨nofun, nofun⟩

/-- **The durations of a check settle each by itself, and it has a checker unless the reader stops
at one of them.** The reader stops just at a text that fills up a duration: one whose terms come to
the limit of seconds with nanoseconds of exactly one second. For any other texts there is a checker,
its interval and timeout are what each text comes to, and so are the warnings, those of the interval
first. Asked for alone, each is the same whatever the other text is. -/
theorem durations_settle (check : Check) :
    ((∃ crash, ofCheck check = .error crash)
      ↔ (∃ s, check.spec.runInterval = some s ∧ Duration.FillsUp s)
        ∨ ∃ s, check.spec.timeout = some s ∧ Duration.FillsUp s)
    ∧ (∀ checker events, ofCheck check = .ok (checker, events) →
      ∃ warnings more, events = warnings ++ more
        ∧ Settles "runInterval" (.ofSecs 600) 10 check.spec.runInterval checker.config.interval
            warnings
        ∧ Settles "timeout" (.ofSecs 300) 5 check.spec.timeout checker.config.timeout more)
    ∧ (∀ d events, check.spec.intervalSpan = .ok (d, events)
      ↔ Settles "runInterval" (.ofSecs 600) 10 check.spec.runInterval d events)
    ∧ (∀ crash, check.spec.intervalSpan = .error crash
      ↔ ∃ s, check.spec.runInterval = some s ∧ Duration.FillsUp s)
    ∧ (∀ d events, check.spec.timeoutSpan = .ok (d, events)
      ↔ Settles "timeout" (.ofSecs 300) 5 check.spec.timeout d events)
    ∧ ∀ crash, check.spec.timeoutSpan = .error crash
      ↔ ∃ s, check.spec.timeout = some s ∧ Duration.FillsUp s := by
  have hinterval (d : Duration) (events : List Event) :
      check.spec.intervalSpan = .ok (d, events)
        ↔ Settles "runInterval" (.ofSecs 600) 10 check.spec.runInterval d events :=
    readSpan_eq_ok_iff
  have htimeout (d : Duration) (events : List Event) :
      check.spec.timeoutSpan = .ok (d, events)
        ↔ Settles "timeout" (.ofSecs 300) 5 check.spec.timeout d events :=
    readSpan_eq_ok_iff
  have hstop (crash : Duration.Crash) : check.spec.intervalSpan = .error crash
      ↔ ∃ s, check.spec.runInterval = some s ∧ Duration.FillsUp s := readSpan_eq_error_iff
  have hstop' (crash : Duration.Crash) : check.spec.timeoutSpan = .error crash
      ↔ ∃ s, check.spec.timeout = some s ∧ Duration.FillsUp s := readSpan_eq_error_iff
  refine ⟨?_, ?_, hinterval, hstop, htimeout, hstop'⟩
  · rw [ofCheck_eq_error_iff]
    exact or_congr
      ⟨fun ⟨crash, h⟩ => (hstop crash).1 h, fun h => ⟨.secondCarried, (hstop _).2 h⟩⟩
      ⟨fun ⟨crash, h⟩ => (hstop' crash).1 h, fun h => ⟨.secondCarried, (hstop' _).2 h⟩⟩
  · intro checker events hok
    obtain ⟨first, second, hfirst, hsecond, rfl, rfl⟩ := ofCheck_eq_ok_iff.1 hok
    exact ⟨first.2, second.2, rfl, (hinterval _ _).1 hfirst, (htimeout _ _).1 hsecond⟩

/-- There are checks without a checker: a second that is missing from the limit, made up by
nanoseconds. -/
theorem ofCheck_stops :
    ¬ ∀ check : Check, ∃ checker events, ofCheck check = .ok (checker, events) := by
  intro h
  obtain ⟨checker, events, hok⟩ :=
    h { spec := { runInterval := some "18446744073709551615s 1000000000ns" } }
  have hstop : ofCheck { spec := { runInterval := some "18446744073709551615s 1000000000ns" } }
      = .error .secondCarried := rfl
  cases hstop.symm.trans hok

end Checker

end PodCheck
