import PodCheck.Proofs.RunPod.Identity

/-! # The deadline in the pod of a run

The deadline of a run lies its timeout behind the time at which the pod is built. Durations and the
calendar both have an end, and beyond either of them the deadline is the last second of the calendar
(`Instant.deadline`). The durations end so far out that no instant of the calendar is that long
before its last one, so the two ends are one (`Instant.add?_eq_none_iff`), and the deadline is the
sum of both numbers of nanoseconds, cut off once at the end of the calendar and rounded down
(`Instant.deadline_eq`). Main statement: `RunPod.deadline_saturates`. -/

namespace PodCheck

namespace Instant

/-- The first second of the calendar. -/
def firstSecond : Int := -8334601228800

/-- The last instant of the calendar, in nanoseconds since 1970. -/
def lastNanos : Int := lastSecond * nanosPerSecond + (nanosPerSecond - 1)

/-- The second in which some nanoseconds since 1970 lie, rounded down before 1970 as well. -/
def secondOf (nanos : Int) : Int := nanos.fdiv nanosPerSecond

/-- An instant lies in the calendar. -/
def InCalendar (t : Instant) : Prop := firstSecond ≤ t.secs ∧ t.secs ≤ lastSecond

instance (t : Instant) : Decidable t.InCalendar :=
  inferInstanceAs (Decidable (firstSecond ≤ t.secs ∧ t.secs ≤ lastSecond))

variable {t u : Instant} {d e : Duration}

/-- More nanoseconds do not lie in an earlier second. -/
theorem secondOf_mono {m n : Int} (h : m ≤ n) : secondOf m ≤ secondOf n := by
  rw [secondOf, secondOf, Int.fdiv_eq_ediv_of_nonneg _ (by decide),
    Int.fdiv_eq_ediv_of_nonneg _ (by decide)]
  exact Int.ediv_le_ediv (by decide) h

/-- An instant lies in its second. -/
@[simp] theorem secondOf_toNanos (t : Instant) : secondOf t.toNanos = t.secs := by
  have hnanos := t.nanos_lt
  rw [secondOf, Int.fdiv_eq_ediv_of_nonneg _ (by decide), toNanos]
  simp only [nanosPerSecond] at *
  omega

/-- The last instant lies in the last second. -/
@[simp] theorem secondOf_lastNanos : secondOf lastNanos = lastSecond := by
  rw [secondOf, Int.fdiv_eq_ediv_of_nonneg _ (by decide), lastNanos]
  simp only [lastSecond, nanosPerSecond]
  omega

/-- An instant is not beyond the calendar exactly if its second is not. -/
theorem toNanos_le_lastNanos_iff : t.toNanos ≤ lastNanos ↔ t.secs ≤ lastSecond := by
  have hnanos := t.nanos_lt
  simp only [toNanos, lastNanos, nanosPerSecond] at *
  omega

/-- A duration that is too long to be added leads beyond the calendar from anywhere in it. -/
theorem lastNanos_lt_of_longest (h : t.InCalendar) (hd : longestMillis * 1000000 < d.toNanos) :
    lastNanos < t.toNanos + d.toNanos := by
  have hfirst := h.1
  simp only [firstSecond, lastNanos, lastSecond, longestMillis, toNanos, nanosPerSecond] at *
  omega

/-- **Nothing is given up that the calendar could hold**: neither end is met unless the sum lies
beyond the last instant. -/
theorem add?_eq_none_iff (h : t.InCalendar) :
    t.add? d = none ↔ lastNanos < t.toNanos + d.toNanos := by
  have hsum : (t.add d).secs ≤ lastSecond ↔ t.toNanos + d.toNanos ≤ lastNanos := by
    rw [← toNanos_le_lastNanos_iff, toNanos_add]
  have hlong := lastNanos_lt_of_longest (d := d) h
  simp only [add?, hsum]
  split
  · rename_i hfits
    simp only [reduceCtorEq, false_iff]
    omega
  · rename_i hfits
    simp only [true_iff]
    omega

/-- **The deadline is the sum, cut off at the end of the calendar and rounded down.** -/
theorem deadline_eq (h : t.InCalendar) :
    t.deadline d = secondOf (min (t.toNanos + d.toNanos) lastNanos) := by
  have hnone := add?_eq_none_iff (d := d) h
  cases hadd : t.add? d with
  | none =>
    rw [deadline, hadd, Int.min_eq_right (Int.le_of_lt (hnone.1 hadd)), secondOf_lastNanos]
    rfl
  | some u =>
    obtain rfl : t.add d = u := by
      rw [add?] at hadd
      split at hadd
      · exact Option.some.inj hadd
      · cases hadd
    have hle : t.toNanos + d.toNanos ≤ lastNanos := by
      refine Int.not_lt.1 fun hlt => ?_
      rw [hnone.2 hlt] at hadd
      cases hadd
    rw [deadline, hadd, Int.min_eq_left hle, ← toNanos_add, secondOf_toNanos]
    rfl

/-- A deadline is not before the second at which it is set. -/
theorem secs_le_deadline (h : t.InCalendar) : t.secs ≤ t.deadline d := by
  have hlast : t.toNanos ≤ lastNanos := toNanos_le_lastNanos_iff.2 h.2
  have hsum : t.toNanos ≤ min (t.toNanos + d.toNanos) lastNanos :=
    Int.le_min.2 ⟨Int.le_add_of_nonneg_right (Int.natCast_nonneg _), hlast⟩
  rw [deadline_eq h, ← secondOf_toNanos]
  exact secondOf_mono hsum

/-- A later instant and a longer duration do not make a deadline earlier. -/
theorem deadline_mono (ht : t.InCalendar) (hu : u.InCalendar) (htu : t.toNanos ≤ u.toNanos)
    (hde : d.toNanos ≤ e.toNanos) : t.deadline d ≤ u.deadline e := by
  have hsum : t.toNanos + d.toNanos ≤ u.toNanos + e.toNanos :=
    Int.add_le_add htu (Int.ofNat_le.2 hde)
  rw [deadline_eq ht, deadline_eq hu]
  exact secondOf_mono (by omega)

end Instant

namespace RunPod

/-- **The deadline in the pod of a run is exact, and saturates.** If the pod is built at an instant
of the calendar, before 1970 or after, every container is told the deadline once: the nanoseconds of
the instant and of the timeout added up, cut off at the last instant of the calendar, in whole
seconds rounded down. The sum is cut off only if it lies beyond that instant. So the deadline is not
before the second at which the pod is built, and neither a later instant nor a longer timeout makes
it earlier. -/
theorem deadline_saturates (template : PodSpec) (p : RunParams) (now : Instant)
    (hnow : now.InCalendar) :
    let deadline (t : Instant) (d : Duration) : Int :=
      Instant.secondOf (min (t.toNanos + d.toNanos) Instant.lastNanos)
    (build template p now).Binds runDeadlineVariable (toString (deadline now p.timeout))
    ∧ (now.add? p.timeout = none ↔ Instant.lastNanos < now.toNanos + p.timeout.toNanos)
    ∧ now.secs ≤ deadline now p.timeout
    ∧ ∀ (later : Instant) (timeout : Duration), later.InCalendar → now.toNanos ≤ later.toNanos →
      p.timeout.toNanos ≤ timeout.toNanos → deadline now p.timeout ≤ deadline later timeout := by
  intro deadline
  have hdeadline (t : Instant) (d : Duration) (h : t.InCalendar) : deadline t d = t.deadline d :=
    (Instant.deadline_eq h).symm
  refine ⟨?_, Instant.add?_eq_none_iff hnow, ?_, ?_⟩
  · rw [hdeadline now p.timeout hnow]
    exact binds_build template p now (by simp [environment])
  · rw [hdeadline now p.timeout hnow]
    exact Instant.secs_le_deadline hnow
  · intro later timeout hlater hle htimeout
    rw [hdeadline now p.timeout hnow, hdeadline later timeout hlater]
    exact Instant.deadline_mono hnow hlater hle htimeout

/-- A pod that is built 1.1 seconds before 1970 for a run of 50 milliseconds is due in the second
that begins 2 seconds before 1970, and with the longest timeout at the end of the calendar. -/
theorem deadline_saturates_before_1970 :
    let now : Instant := ⟨-2, 900000000, by decide⟩
    let short : Duration := ⟨0, 50000000, by decide, by decide⟩
    let longest : Duration := ⟨18446744073709551615, 999999999, by decide, by decide⟩
    let template : PodSpec := { containers := [{ name := "main" }] }
    let p : RunParams := {
      ns := "prod", checkName := "web", podName := "probe", token := "t"
      reportingUrl := "http://there", timeout := short }
    let deadline (d : Duration) : Int :=
      Instant.secondOf (min (now.toNanos + d.toNanos) Instant.lastNanos)
    now.InCalendar
    ∧ (build template p now).Binds runDeadlineVariable "-2"
    ∧ (build template { p with timeout := longest } now).Binds runDeadlineVariable "8210266876799"
    ∧ deadline short ≤ deadline longest := by
  intro now short longest template p deadline
  have hnow : now.InCalendar := by decide
  have htextShort : toString (deadline short) = "-2" := by decide +kernel
  have htextLongest : toString (deadline longest) = "8210266876799" := by decide +kernel
  obtain ⟨hshort, -, -, hmono⟩ := deadline_saturates template p now hnow
  obtain ⟨hlongest, -⟩ := deadline_saturates template { p with timeout := longest } now hnow
  exact ⟨hnow, htextShort ▸ hshort, htextLongest ▸ hlongest,
    hmono now longest hnow (Int.le_refl _) (by decide)⟩

end RunPod

end PodCheck
