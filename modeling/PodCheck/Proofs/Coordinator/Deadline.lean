import Mathlib
import PodCheck.Proofs.Coordinator.Line

/-! # Deadlines

A run has its deadline from the moment at which it gets its lock, and never has the lock for longer
(`Coordinator.OnTime`). So a line moves on: whoever is first in it leaves in time, and when `n` runs
of a check are asked for by a moment, all are over `n` deadlines later (`Coordinator.Booked`). That
bounds the runs but does not end them; they do end, as nothing but locks that are given and
deadlines that are over is needed for time to pass (`Coordinator.exists_unprompted`). Main
statement: `Coordinator.deadlines_bound_runs`. -/

namespace PodCheck

/-- An action that needs nothing but time: no outcome of an operation and nobody who asks. -/
def Action.isUnprompted : Action → Bool
  | .grant _ | .expire _ | .pass _ => true
  | _ => false

namespace Coordinator

variable {s s' : Coordinator} {a : Action} {r : Reaction} {id key : String}

/-! ## Time -/

/-- A run with a lease is under way. -/
theorem lease?_eq_some {lease : Lease} :
    s.lease? id = some lease
      ↔ ∃ c p, s.slots.get? id = some ⟨c, .running (some lease) p⟩ := by
  constructor
  · intro h
    rw [lease?_eq] at h
    obtain ⟨⟨config, lease?, p⟩, hu, hlease⟩ := Option.bind_eq_some_iff.1 h
    obtain ⟨c, hslot, -⟩ := underway?_eq_some.1 hu
    obtain rfl : lease? = some lease := hlease
    exact ⟨c, p, hslot⟩
  · rintro ⟨c, p, hslot⟩
    rw [lease?_of_slot hslot]
    rfl

/-- A lease was there before, or is that of a run which gets its lock now. -/
theorem lease_of_step (hs : s.step a = some (s', r)) {lease : Lease}
    (hlease : s'.lease? id = some lease) :
    s.lease? id = some lease
      ∨ (a = .grant id ∧ lease.since = s.clock ∧ lease.limit = s.deadline) := by
  rw [lease?_eq] at hlease
  rw [lease?_eq]
  -- the runs are as before, but for the one that the step is about
  cases runChange_of_step hs with
  | rest hafter | refuse _ hafter =>
    left
    rwa [hafter] at hlease
  | @begin a other c lease? events _ _ ho _ hafter =>
    rw [hafter] at hlease
    by_cases hx : id = other
    · subst hx
      rw [Function.update_self] at hlease
      obtain rfl : lease? = some lease := hlease
      cases ho
      exact .inr ⟨rfl, rfl, rfl⟩
    · rw [Function.update_of_ne hx] at hlease
      exact .inl hlease
  | @proceed other u q answer _ _ hu _ hafter =>
    left
    rw [hafter] at hlease
    by_cases hx : id = other
    · subst hx
      rw [Function.update_self] at hlease
      rwa [hu]
    · rwa [Function.update_of_ne hx] at hlease
  | @finish other _ _ _ _ _ hafter | @cut _ other _ _ _ _ _ hafter =>
    left
    rw [hafter] at hlease
    by_cases hx : id = other
    · subst hx
      rw [Function.update_self] at hlease
      simp at hlease
    · rwa [Function.update_of_ne hx] at hlease

/-- The deadline of later runs stays until it is set. -/
theorem deadline_of_step (hs : s.step a = some (s', r)) :
    s'.deadline = s.deadline ∨ a = .setDeadline s'.deadline := by
  have hrelease : ∀ (t : Coordinator) (id : String) (lease? : Option Lease),
      (t.releaseLease id lease?).deadline = t.deadline := by
    intro t id lease?
    cases lease? <;> rfl
  cases change_of_step hs with
  | setDeadline => exact .inr rfl
  | queue =>
    left
    show (s.lockFor _).2.deadline = s.deadline
    unfold lockFor
    split <;> rfl
  | refuse | finish | expire | cut => exact .inl (hrelease ..)
  | _ => exact .inl rfl

/-- **Queues and checkers agree, and no run has its lock for longer than it may.** -/
structure OnTime (s : Coordinator) : Prop where
  /-- The queues agree with what the checkers are doing. -/
  queued : s.WellQueued
  /-- Different keys lead to different locks. -/
  apart : s.KeysApart
  /-- Every run got its lock in the past and its deadline is not in the past. -/
  timely : ∀ id lease, s.lease? id = some lease → lease.since ≤ s.clock ∧ s.clock ≤ lease.expires

/-- **Every step keeps runs within their deadlines.** -/
theorem OnTime.step (h : s.OnTime) (hs : s.step a = some (s', r)) : s'.OnTime where
  queued := h.queued.step hs
  apart := h.apart.step h.queued hs
  timely id lease hlease := by
    by_cases ha : ∀ ms, a ≠ .pass ms
    · rw [(clock_of_step hs ha).2]
      rcases lease_of_step hs hlease with hold | ⟨-, hsince, -⟩
      · exact h.timely id lease hold
      · exact ⟨hsince.le, by rw [← hsince]; exact Nat.le_add_right ..⟩
    · push Not at ha
      obtain ⟨ms, rfl⟩ := ha
      cases change_of_step hs with
      | pass hms =>
        have hold : s.lease? id = some lease := hlease
        obtain ⟨hsince, hexpires⟩ := h.timely id lease hold
        refine ⟨Nat.le_add_right_of_le hsince, ?_⟩
        rcases hms with rfl | hms
        · exact hexpires
        · obtain ⟨c, p, hslot⟩ := lease?_eq_some.1 hold
          exact (mayPass_iff.1 hms id c _ hslot).2 lease p rfl
      | refuse ho | begin ho => cases ho

/-- All actions keep runs within their deadlines. -/
theorem OnTime.run (h : s.OnTime) (actions : List Action) : (s.run actions).OnTime :=
  run_induction (fun h hs => OnTime.step h hs) h actions

/-- Without checkers and locks nobody is late. -/
theorem onTime_fresh (tokens : TokenSource) (epoch : Instant) :
    ({ tokens, epoch } : Coordinator).OnTime where
  queued := .of_empty rfl rfl rfl
  apart key₁ key₂ lock h := by simp at h
  timely id lease h := by simp [lease?_eq, underway?] at h

/-! ## Runs of one check -/

/-- The time at which a run of the check with the given key is asked for, if it is. -/
def asked? (s : Coordinator) (key : String) : Action → Option Nat
  | .runCheck id =>
    (s.idleChecker? id).bind fun c => if lockKey c.config = key then some s.clock else none
  | _ => none

/-- The times at which runs of the check with the given key are asked for. -/
def asked (s : Coordinator) (key : String) : List Action → List Nat
  | [] => []
  | a :: actions => (s.asked? key a).toList ++ (s.act a).asked key actions

theorem asked_append (s : Coordinator) (key : String) (actions more : List Action) :
    s.asked key (actions ++ more) = s.asked key actions ++ (s.run actions).asked key more := by
  induction actions generalizing s with
  | nil => rfl
  | cons a actions ih =>
    rw [List.cons_append, asked, asked, ih, List.append_assoc]
    rfl

theorem asked?_runCheck {c : Checker} (hslot : s.slots.get? id = some ⟨c, .idle⟩)
    (hkey : lockKey c.config = key) : s.asked? key (.runCheck id) = some s.clock := by
  rw [asked?, idleChecker?_eq_some.2 hslot, Option.bind_some, if_pos hkey]

/-- Whatever is not a request for a run of the check asks for none. -/
theorem asked?_eq_none (h : ∀ id c, a = .runCheck id → s.slots.get? id = some ⟨c, .idle⟩ →
    lockKey c.config ≠ key) : s.asked? key a = none := by
  cases a with
  | runCheck id =>
    rw [asked?, Option.bind_eq_none_iff]
    intro c hc
    exact if_neg (h id c rfl (idleChecker?_eq_some.1 hc))
  | _ => rfl

/-- Since when a checker that comes first in a line has the lock, or from when on it can have it. -/
def heldSince (s : Coordinator) (id : String) : Nat :=
  ((s.lease? id).map (·.since)).getD s.clock

theorem heldSince_of_lease {lease : Lease} (h : s.lease? id = some lease) :
    s.heldSince id = lease.since := by
  rw [heldSince, h]
  rfl

theorem heldSince_of_no_lease (h : s.lease? id = none) : s.heldSince id = s.clock := by
  rw [heldSince, h]
  rfl

theorem heldSince_congr (hlease : s'.lease? id = s.lease? id) (hclock : s'.clock = s.clock) :
    s'.heldSince id = s.heldSince id := by
  rw [heldSince, heldSince, hlease, hclock]

/-- **The line is booked**: when each run of a line takes its whole deadline, the last one is over
`n` deadlines after `t`, where `n` runs have been asked for. -/
structure Booked (s : Coordinator) (key : String) (limit : Duration) (t n : Nat) : Prop where
  /-- Later runs have this deadline. -/
  deadline : s.deadline = limit
  /-- So does the run that has the lock. -/
  limits : ∀ id ∈ s.line key, ∀ lease, s.lease? id = some lease → lease.limit = limit
  /-- There is time for everybody in the line. -/
  room : ∀ id rest, s.line key = id :: rest →
    s.heldSince id + (rest.length + 1) * limit.ceilMillis ≤ t + n * limit.ceilMillis

namespace Booked

variable {limit : Duration} {t n : Nat}

/-- An empty line is booked. -/
theorem of_nil (hline : s.line key = []) : s.Booked key s.deadline t 0 where
  deadline := rfl
  limits id hmem := by simp [hline] at hmem
  room id rest h := by simp [hline] at h

/-- Whoever comes first in a line has not been there for longer than the deadline. -/
theorem clock_le_heldSince (h : s.Booked key limit t n) (ht : s.OnTime) {rest : List String}
    (hline : s.line key = id :: rest) : s.clock ≤ s.heldSince id + limit.ceilMillis := by
  cases hl : s.lease? id with
  | none =>
    rw [heldSince_of_no_lease hl]
    exact Nat.le_add_right ..
  | some lease =>
    rw [heldSince_of_lease hl, ← h.limits id (by simp [hline]) lease hl]
    exact (ht.timely id lease hl).2

/-- **While there is somebody in the line, the booked time is not over.** -/
theorem clock_le (h : s.Booked key limit t n) (ht : s.OnTime) (hline : s.line key ≠ []) :
    s.clock ≤ t + n * limit.ceilMillis := by
  obtain ⟨id, rest, hline⟩ := List.exists_cons_of_ne_nil hline
  have hfirst := h.clock_le_heldSince ht hline
  have hroom := h.room id rest hline
  have hone : 1 * limit.ceilMillis ≤ (rest.length + 1) * limit.ceilMillis :=
    Nat.mul_le_mul_right _ (Nat.le_add_left 1 _)
  omega

/-- Who comes first in a line, and is joined by others at its end, is first as before. -/
theorem of_join (h : s.Booked key limit t n) (hdeadline : s'.deadline = s.deadline)
    (hclock : s'.clock = s.clock) (hnow : s.clock ≤ t) (hline : s'.line key = s.line key ++ [id])
    (hlease : s'.lease? id = none) (hothers : ∀ x ∈ s.line key, s'.lease? x = s.lease? x) :
    s'.Booked key limit t (n + 1) where
  deadline := hdeadline.trans h.deadline
  limits x hx lease hl := by
    rw [hline, List.mem_append, List.mem_singleton] at hx
    rcases hx with hx | rfl
    · rw [hothers x hx] at hl
      exact h.limits x hx lease hl
    · simp [hlease] at hl
  room x rest hx := by
    cases hbefore : s.line key with
    | nil =>
      -- the line was empty, so the checker can have the lock now
      obtain ⟨rfl, rfl⟩ : id = x ∧ [] = rest := by simpa [hline, hbefore] using hx
      rw [heldSince_of_no_lease hlease, hclock, List.length_nil, Nat.succ_mul, Nat.zero_mul,
        Nat.succ_mul]
      omega
    | cons first others =>
      obtain ⟨rfl, rfl⟩ : first = x ∧ others ++ [id] = rest := by simpa [hline, hbefore] using hx
      have hroom := h.room first others hbefore
      rw [heldSince_congr (hothers first (by simp [hbefore])) hclock]
      simp only [List.length_append, List.length_singleton, Nat.succ_mul] at hroom ⊢
      omega

/-- Who is next in a line gets the lock no later than the deadline of the one before. -/
theorem of_leave (h : s.Booked key limit t n) (ht : s.OnTime) (hdeadline : s'.deadline = s.deadline)
    (hclock : s'.clock = s.clock) (hline : s'.line key = (s.line key).filter (· ≠ id))
    (hothers : ∀ x, x ≠ id → s'.lease? x = s.lease? x) : s'.Booked key limit t n where
  deadline := hdeadline.trans h.deadline
  limits x hx lease hl := by
    rw [hline, List.mem_filter, decide_eq_true_eq] at hx
    rw [hothers x hx.2] at hl
    exact h.limits x hx.1 lease hl
  room x rest hx := by
    cases hbefore : s.line key with
    | nil => simp [hline, hbefore] at hx
    | cons first others =>
      have hroom := h.room first others hbefore
      have hle : ∀ k, k ≤ others.length → (k + 1) * limit.ceilMillis
          ≤ (others.length + 1) * limit.ceilMillis :=
        fun k hk => Nat.mul_le_mul_right _ (Nat.succ_le_succ hk)
      by_cases hfirst : first = id
      · -- the first one leaves: the next one has no lock yet, and less than a deadline is over
        have hrest : others.filter (· ≠ id) = x :: rest := by
          simpa [hline, hbefore, hfirst] using hx
        have hx' : x ∈ others.filter (· ≠ id) := hrest ▸ List.mem_cons_self ..
        obtain ⟨hmem, hne⟩ : x ∈ others ∧ x ≠ id := by simpa using hx'
        have hfree : s.lease? x = none := by
          by_contra hsome
          obtain ⟨lease, hl⟩ := Option.ne_none_iff_exists'.1 hsome
          have hline : x ∈ s.line key := by simp [hbefore, hmem]
          have hhead := ht.queued.head?_of_lease hline hl
          rw [hbefore] at hhead
          exact hne ((Option.some.inj hhead).symm.trans hfirst)
        have hlength : rest.length + 1 ≤ others.length := by
          have := List.length_filter_le (· ≠ id) others
          rw [hrest] at this
          simpa using this
        have hclose := h.clock_le_heldSince ht hbefore
        rw [heldSince_of_no_lease ((hothers x hne).trans hfree), hclock]
        have := Nat.mul_le_mul_right limit.ceilMillis hlength
        simp only [Nat.succ_mul] at hroom this ⊢
        omega
      · -- somebody else leaves
        obtain ⟨rfl, rfl⟩ : first = x ∧ others.filter (· ≠ id) = rest := by
          simpa [hline, hbefore, hfirst] using hx
        rw [heldSince_congr (hothers first hfirst) hclock]
        have := hle _ (List.length_filter_le (· ≠ id) others)
        omega

/-- A line that stays as it is, with the same holds on its lock, is booked as before. -/
theorem of_rest (h : s.Booked key limit t n) (hdeadline : s'.deadline = limit)
    (hline : s'.line key = s.line key)
    (hlimits : ∀ x ∈ s.line key, ∀ lease, s'.lease? x = some lease → lease.limit = limit)
    (hheld : ∀ x rest, s.line key = x :: rest → s'.heldSince x = s.heldSince x) :
    s'.Booked key limit t n where
  deadline := hdeadline
  limits x hx := hlimits x (hline ▸ hx)
  room x rest hx := by
    rw [hline] at hx
    rw [hheld x rest hx]
    exact h.room x rest hx

/-- Whoever takes the lock of a line has it from the moment at which it could be had. -/
theorem of_take (h : s.Booked key limit t n) {lease : Lease} (hdeadline : s'.deadline = limit)
    (hline : s'.line key = s.line key) (hclock : s'.clock = s.clock)
    (hfree : s.lease? id = none) (hlease : s'.lease? id = some lease)
    (hsince : lease.since = s.clock) (hlimit : lease.limit = limit)
    (hothers : ∀ x, x ≠ id → s'.lease? x = s.lease? x) : s'.Booked key limit t n := by
  refine h.of_rest hdeadline hline ?_ ?_
  · intro x hx other hl
    by_cases hid : x = id
    · subst hid
      obtain rfl := Option.some.inj (hlease.symm.trans hl)
      exact hlimit
    · rw [hothers x hid] at hl
      exact h.limits x hx other hl
  · intro x rest hx
    by_cases hid : x = id
    · subst hid
      rw [heldSince_of_lease hlease, heldSince_of_no_lease hfree, hsince]
    · exact heldSince_congr (hothers x hid) hclock

/-- Time passes only while whoever comes first in the line has the lock. -/
theorem of_pass {ms : Nat} (h : s.Booked key limit t n) (ht : s.OnTime)
    (hms : ms = 0 ∨ s.mayPass ms = true) :
    Booked { s with clock := s.clock + ms } key limit t n := by
  refine h.of_rest h.deadline rfl h.limits ?_
  intro x rest hline
  rcases hms with rfl | hms
  · rfl
  obtain ⟨c, lock, hl, ⟨k, hslot⟩ | ⟨lease, p, -, hslot⟩⟩ :=
    ht.queued.slot_of_mem_line (by rw [hline]; exact List.mem_cons_self ..)
  · -- a checker that is first and has no lock does not let time pass
    have hold : s.holds x lock = true := holds_iff.2 ⟨rest, (line_of_get? hl).symm.trans hline⟩
    have hnot := (mayPass_iff.1 hms x c _ hslot).1 k lock rfl
    simp [hold] at hnot
  · have hlease : s.lease? x = some lease := lease?_eq_some.2 ⟨c, p, hslot⟩
    rw [heldSince_of_lease hlease]
    exact heldSince_of_lease hlease

/-- **Every step keeps the line booked**, with one more deadline for each run that is asked for. -/
theorem step (h : s.Booked key limit t n) (ht : s.OnTime) (hs : s.step a = some (s', r))
    (hset : ∀ d, a = .setDeadline d → d = limit) (hasked : ∀ time ∈ s.asked? key a, time ≤ t) :
    s'.Booked key limit t (n + (s.asked? key a).toList.length) := by
  have hdeadline : s'.deadline = limit := by
    rcases deadline_of_step hs with hd | ha
    · exact hd.trans h.deadline
    · exact hset _ ha
  have hsame : s'.deadline = s.deadline := hdeadline.trans h.deadline.symm
  have hothers : ∀ x, a.subject? ≠ some x → s'.lease? x = s.lease? x :=
    fun x hx => lease?_congr (slot_of_step hs hx)
  cases lineChange_of_step ht.queued ht.apart hs key with
  | pass hms => exact h.of_pass ht hms
  | @join id c _ _ hslot hkey hline hlease =>
    have htime := asked?_runCheck hslot hkey
    rw [htime]
    refine h.of_join hsame (clock_of_step hs (by simp)).2 (hasked _ htime) hline hlease ?_
    intro x hx
    apply hothers
    rintro ⟨⟩
    exact ht.queued.not_mem_line (lockOf?_of_slot hslot) hx
  | @leave a id _ _ ha hmem hline hend =>
    have hpass : ∀ ms, a ≠ .pass ms := by
      rintro ms rfl
      simp [Action.subject?] at ha
    rw [asked?_eq_none ?_]
    · refine h.of_leave ht hsame (clock_of_step hs hpass).2 hline ?_
      intro x hx
      apply hothers
      rw [ha]
      rintro ⟨⟩
      exact hx rfl
    · -- who is in the line does not ask for another run
      rintro other c rfl hslot
      obtain rfl := Option.some.inj ha
      exact absurd hmem (ht.queued.not_mem_line (lockOf?_of_slot hslot))
  | @take id lease _ _ hmem hline hfree hlease hsince hlimit =>
    rw [asked?_eq_none (by simp)]
    refine h.of_take hdeadline hline (clock_of_step hs (by simp)).2 hfree hlease hsince
      (hlimit.trans h.deadline) ?_
    intro x hx
    exact hothers x (by simpa [Action.subject?] using Ne.symm hx)
  | rest ha hask hline hlease =>
    rw [asked?_eq_none hask]
    refine h.of_rest hdeadline hline ?_ ?_
    · intro x hx lease hl
      rw [hlease x hx] at hl
      exact h.limits x hx lease hl
    · intro x rest hx
      exact heldSince_congr (hlease x (by simp [hx])) (clock_of_step hs ha).2

/-- An action keeps the line booked, whether it can happen or not. -/
theorem act (h : s.Booked key limit t n) (ht : s.OnTime)
    (hset : ∀ d, a = .setDeadline d → d = limit) (hasked : ∀ time ∈ s.asked? key a, time ≤ t) :
    (s.act a).Booked key limit t (n + (s.asked? key a).toList.length) := by
  rcases hs : s.step a with _ | ⟨s', r⟩
  · -- what cannot happen asks for nothing
    have hnone : s.asked? key a = none := by
      cases a with
      | runCheck id =>
        rw [Coordinator.step, runCheck?, Option.map_eq_none_iff] at hs
        rw [asked?, hs, Option.bind_none]
      | _ => rfl
    rw [act_of_step_eq_none hs, hnone]
    exact h
  · rw [act_of_step hs]
    exact h.step ht hs hset hasked

/-- All actions keep the line booked. -/
theorem run {actions : List Action} (h : s.Booked key limit t n) (ht : s.OnTime)
    (hset : ∀ d, .setDeadline d ∈ actions → d = limit)
    (hasked : ∀ time ∈ s.asked key actions, time ≤ t) :
    (s.run actions).Booked key limit t (n + (s.asked key actions).length) := by
  induction actions generalizing s n with
  | nil => exact h
  | cons a actions ih =>
    rw [asked] at hasked
    rw [asked, List.length_append, ← Nat.add_assoc]
    refine ih (h.act ht ?_ ?_) (ht.run [a]) ?_ ?_
    · rintro d rfl
      exact hset d (List.mem_cons_self ..)
    · intro time htime
      exact hasked time (List.mem_append_left _ (by simpa using htime))
    · exact fun d hd => hset d (List.mem_cons_of_mem _ hd)
    · exact fun time htime => hasked time (List.mem_append_right _ htime)

end Booked

/-! ## Time goes on -/

/-- How often a checker can be given a lock or be given up, unless something else happens. -/
def turnsLeft (s : Coordinator) (id : String) : Nat :=
  match s.slots.get? id with
  | some ⟨_, .queued _ _⟩ => 2
  | some ⟨_, .running (some _) _⟩ => 1
  | _ => 0

theorem turnsLeft_congr (h : s'.slots.get? id = s.slots.get? id) :
    s'.turnsLeft id = s.turnsLeft id := by
  rw [turnsLeft, turnsLeft, h]

/-- A checker that is first in a line and has no lock can be given it. -/
theorem exists_grant {c : Checker} {k : String} {lock : Nat}
    (hslot : s.slots.get? id = some ⟨c, .queued k lock⟩) (hold : s.holds id lock = true) :
    ∃ s' r, s.step (.grant id) = some (s', r) ∧ s'.turnsLeft id < s.turnsLeft id := by
  have ho := Opens.grant hslot hold
  rcases hs : s.startRun id c _ _ with ⟨s', r⟩
  have hstep := (step_of_opens ho).trans (congrArg some hs)
  refine ⟨s', r, hstep, ?_⟩
  cases beginning_of_step ho hstep with
  | refused _ hslot' => simp [turnsLeft, hslot, hslot']
  | begun _ hslot' => simp [turnsLeft, hslot, hslot']

/-- A run whose deadline is over can be given up. -/
theorem exists_expire {c : Checker} {lease : Lease} {p : Pending}
    (hslot : s.slots.get? id = some ⟨c, .running (some lease) p⟩)
    (hlate : lease.expires ≤ s.clock) :
    ∃ s' r, s.step (.expire id) = some (s', r) ∧ s'.turnsLeft id < s.turnsLeft id := by
  refine ⟨_, _, by rw [Coordinator.step, expire?, hslot]; exact if_pos hlate, ?_⟩
  simp [turnsLeft, hslot]

/-- **Time passes, or a lock can be given, or a deadline is over.** -/
theorem exists_unprompted_step (s : Coordinator) :
    (∃ s' r, s.step (.pass 1) = some (s', r))
      ∨ ∃ a id s' r, (a = .grant id ∨ a = .expire id) ∧ (s.slots.get? id).isSome = true
        ∧ s.step a = some (s', r) ∧ s'.turnsLeft id < s.turnsLeft id := by
  cases hpass : s.mayPass 1 with
  | true => exact .inl ⟨_, _, by rw [Coordinator.step, hpass]; rfl⟩
  | false =>
    right
    rw [← Bool.not_eq_true, mayPass_iff] at hpass
    push Not at hpass
    obtain ⟨id, c, activity, hslot, hbusy⟩ := hpass
    by_cases hqueued : ∃ k lock, activity = .queued k lock ∧ s.holds id lock = true
    · obtain ⟨k, lock, rfl, hold⟩ := hqueued
      obtain ⟨s', r, hs, hless⟩ := exists_grant hslot hold
      exact ⟨_, id, s', r, .inl rfl, by rw [hslot]; rfl, hs, hless⟩
    · obtain ⟨lease, p, rfl, hlate⟩ := hbusy fun k lock ha => by
        simpa using fun hold => hqueued ⟨k, lock, ha, hold⟩
      obtain ⟨s', r, hs, hless⟩ := exists_expire hslot (Nat.lt_succ_iff.1 hlate)
      exact ⟨_, id, s', r, .inr rfl, by rw [hslot]; rfl, hs, hless⟩

/-- How much is left to be done for some checkers until a moment. -/
def workLeft (s : Coordinator) (ids : List String) (time : Nat) : Nat :=
  (ids.map s.turnsLeft).sum + (time - s.clock)

/-- What happens unprompted leaves less to be done for the same checkers. -/
theorem exists_step_workLeft_lt {ids : List String} {time : Nat}
    (hids : ∀ id, (s.slots.get? id).isSome = true → id ∈ ids) (htime : s.clock < time) :
    ∃ a s' r, a.isUnprompted = true ∧ s.step a = some (s', r)
      ∧ (∀ id, (s'.slots.get? id).isSome = true → id ∈ ids)
      ∧ s'.workLeft ids time < s.workLeft ids time ∧ s'.clock ≤ time := by
  rcases s.exists_unprompted_step with ⟨s', r, hs⟩ | ⟨a, id, s', r, ha, hid, hs, hless⟩
  · refine ⟨_, s', r, rfl, hs, ?_⟩
    cases change_of_step hs with
    | pass =>
      refine ⟨hids, ?_, htime⟩
      show (ids.map s.turnsLeft).sum + (time - (s.clock + 1))
        < (ids.map s.turnsLeft).sum + (time - s.clock)
      omega
    | refuse ho | begin ho => cases ho
  · have hsubject : a.subject? = some id := by rcases ha with rfl | rfl <;> rfl
    have hothers : ∀ x, x ≠ id → s'.slots.get? x = s.slots.get? x := by
      intro x hx
      apply slot_of_step hs
      rw [hsubject]
      rintro ⟨⟩
      exact hx rfl
    have hclock : s'.clock = s.clock :=
      (clock_of_step hs (by rcases ha with rfl | rfl <;> simp)).2
    refine ⟨a, s', r, by rcases ha with rfl | rfl <;> rfl, hs, ?_, ?_, hclock ▸ htime.le⟩
    · intro x hx
      by_cases hxid : x = id
      · exact hids x (hxid ▸ hid)
      · exact hids x (hothers x hxid ▸ hx)
    · have hsum : (ids.map s'.turnsLeft).sum < (ids.map s.turnsLeft).sum := by
        refine List.sum_lt_sum _ _ ?_ ⟨id, hids id hid, hless⟩
        intro x _
        by_cases hxid : x = id
        · exact hxid ▸ hless.le
        · exact (turnsLeft_congr (hothers x hxid)).le
      rw [workLeft, workLeft, hclock]
      omega

/-- **Every moment is reached** without anybody asking or answering: locks are given, deadlines are
over and time passes. -/
theorem exists_unprompted (s : Coordinator) {time : Nat} (htime : s.clock ≤ time) :
    ∃ more : List Action, (∀ a ∈ more, a.isUnprompted = true) ∧ (s.run more).clock = time := by
  -- the checkers stay the same, so the induction is on what is left to be done for them
  suffices ∀ (ids : List String) (n : Nat) (s : Coordinator),
      (∀ id, (s.slots.get? id).isSome = true → id ∈ ids) → s.workLeft ids time = n →
      s.clock ≤ time → ∃ more : List Action,
        (∀ a ∈ more, a.isUnprompted = true) ∧ (s.run more).clock = time by
    refine this (s.slots.entries.map (·.1)) _ s ?_ rfl htime
    intro id hid
    obtain ⟨slot, hslot⟩ := Option.isSome_iff_exists.1 hid
    exact List.mem_map.2 ⟨(id, slot), SortedMap.mem_entries_of_get? hslot, rfl⟩
  clear htime s
  intro ids n
  induction n using Nat.strong_induction_on with
  | _ n ih =>
    intro s hids hwork htime
    rcases Nat.eq_or_lt_of_le htime with rfl | hlt
    · exact ⟨[], by simp, rfl⟩
    obtain ⟨a, s', r, ha, hs, hids', hless, htime'⟩ := exists_step_workLeft_lt hids hlt
    obtain ⟨more, hmore, hclock⟩ := ih _ (hwork ▸ hless) s' hids' rfl htime'
    refine ⟨a :: more, List.forall_mem_cons.2 ⟨ha, hmore⟩, ?_⟩
    rw [← hclock, run, List.foldl_cons, act_of_step hs]
    rfl

/-! ## Deadlines bound runs -/

/-- What becomes of runs with a lock, and of those that wait for one. -/
structure Punctual (s : Coordinator) : Prop where
  /-- A run got its lock in the past and has not had it for longer than its deadline, in whole
  milliseconds. -/
  held : ∀ id c lease p, s.slots.get? id = some ⟨c, .running (some lease) p⟩ →
    lease.since ≤ s.clock ∧ s.clock - lease.since ≤ lease.limit.ceilMillis
  /-- A run that gets its lock has the whole deadline from then on, however long it waited. -/
  granted : ∀ id s' r c lease p, s.step (.grant id) = some (s', r) →
    s'.slots.get? id = some ⟨c, .running (some lease) p⟩ →
    lease.since = s.clock ∧ lease.limit = s.deadline
  /-- A run that is refused returns its own result. -/
  refused : ∀ id c key lock result, s.slots.get? id = some ⟨c, .queued key lock⟩ →
    s.holds id lock = true → (c.start s.tokens).1.next = .finished result →
    s.returned? id (.grant id) = some result
  /-- A run that is over returns its own result, which is not that its deadline is over. -/
  completed : ∀ id c lease p outcome result,
    s.slots.get? id = some ⟨c, .running (some lease) p⟩ →
    (c.resume p outcome s.now).next = .finished result →
    s.returned? id (.answer id outcome) = some result
      ∧ ∀ ns check limit, result ≠ .error (.deadlineExceeded ns check limit)
  /-- A run is given up just when its deadline is over. -/
  expired : ∀ id c lease p, s.slots.get? id = some ⟨c, .running (some lease) p⟩ →
    s.returned? id (.expire id)
      = if s.clock = lease.since + lease.limit.ceilMillis then
          some (.error (.deadlineExceeded c.config.ns c.config.checkName lease.limit))
        else none
  /-- A run returns nothing in any other way. -/
  results : ∀ id c lease p a result, s.slots.get? id = some ⟨c, .running (some lease) p⟩ →
    s.returned? id a = some result →
    (∃ outcome, a = .answer id outcome ∧ (c.resume p outcome s.now).next = .finished result)
      ∨ a = .expire id

/-- **Runs that keep their deadlines return what they should.** -/
theorem OnTime.punctual (h : s.OnTime) : s.Punctual where
  held id c lease p hslot := by
    obtain ⟨hsince, hexpires⟩ := h.timely id lease (lease?_eq_some.2 ⟨c, p, hslot⟩)
    exact ⟨hsince, Nat.sub_le_iff_le_add'.2 hexpires⟩
  granted id s' r c lease p hs hslot := by
    rcases lease_of_step hs (lease?_eq_some.2 ⟨c, p, hslot⟩) with hold | ⟨-, hsince, hlimit⟩
    · obtain ⟨d, q, hbefore⟩ := lease?_eq_some.1 hold
      simp [Coordinator.step, grant?, hbefore] at hs
    · exact ⟨hsince, hlimit⟩
  refused id c key lock result hslot hold hnext := by
    rw [returned?_of_subject rfl, step_of_opens (.grant hslot hold), Option.bind_some, startRun]
    simp only [takeTurn, hnext]
  completed id c lease p outcome result hslot hnext := by
    constructor
    · rw [returned?_of_subject rfl, Coordinator.step, answer?, hslot, Option.bind_some]
      simp only [takeTurn, hnext]
    · rintro ns check limit rfl
      cases p <;> cases outcome <;> simp [Checker.resume, Checker.assigned, Checker.fail] at hnext
  expired id c lease p hslot := by
    obtain ⟨-, hexpires⟩ := h.timely id lease (lease?_eq_some.2 ⟨c, p, hslot⟩)
    rw [returned?_of_subject rfl, Coordinator.step, expire?, hslot]
    by_cases hlate : s.clock = lease.since + lease.limit.ceilMillis
    · rw [if_pos hlate]
      simp [Lease.expires, hlate, Checker.abandon]
    · rw [if_neg hlate]
      have : ¬ lease.expires ≤ s.clock := by
        intro hle
        exact hlate (Nat.le_antisymm hexpires hle)
      simp [this]
  results id c lease p a result hslot hresult := by
    have hid : a.subject? = some id := by
      by_contra hne
      simp [returned?_of_ne hne] at hresult
    have hbusy : s.idleChecker? id = none := by rw [idleChecker?, hslot]
    rw [returned?_of_subject hid] at hresult
    cases a with
    | setDeadline | pass => simp [Action.subject?] at hid
    | answer other outcome =>
      obtain rfl := Option.some.inj hid
      rw [Coordinator.step, answer?, hslot, Option.bind_some] at hresult
      cases hnext : (c.resume p outcome s.now).next with
      | waiting q => simp [takeTurn, hnext] at hresult
      | finished own =>
        simp only [takeTurn, hnext, Option.some.injEq] at hresult
        exact .inl ⟨outcome, rfl, by rw [hnext, hresult]⟩
    | expire other => exact .inr (congrArg Action.expire (Option.some.inj hid))
    | grant other =>
      obtain rfl := Option.some.inj hid
      simp [Coordinator.step, grant?, hslot] at hresult
    | drop other =>
      obtain rfl := Option.some.inj hid
      simp [Coordinator.step, drop?, hslot] at hresult
    | place other | configure other | assign other | runOnce other | runCheck other
    | abandon other =>
      obtain rfl := Option.some.inj hid
      simp [Coordinator.step, assign?, runCheck?, hslot, hbusy] at hresult

/-- Among some actions, and until a moment, a checker is returned the first result or nobody waits
for it any more. -/
def EndsBy (s : Coordinator) (id : String) (actions : List Action) (time : Nat) : Prop :=
  ∃ mid a last, actions = mid ++ a :: last ∧ s.returns id mid = [] ∧ (s.run mid).clock ≤ time
    ∧ (a = .drop id ∨ ∃ result, (s.run mid).returned? id a = some result)

/-- All runs of the check with the given key that are asked for come to an end by a moment. -/
def AllEndBy (s : Coordinator) (key : String) (actions : List Action) (time : Nat) : Prop :=
  ∀ before id rest c, actions = before ++ .runCheck id :: rest →
    (s.run before).slots.get? id = some ⟨c, .idle⟩ → lockKey c.config = key →
    ((s.run before).act (.runCheck id)).EndsBy id rest time

/-- Whoever asks for a run stands in the line of its check. -/
theorem mem_line_of_asked (h : s.OnTime) {c : Checker} (hslot : s.slots.get? id = some ⟨c, .idle⟩) :
    id ∈ (s.act (.runCheck id)).line (lockKey c.config) := by
  have hs := WellQueued.step_runCheck hslot
  have hslot' := SortedMap.get?_insert_self (s.lockFor (lockKey c.config)).2.slots id
    ⟨c, .queued (lockKey c.config) (s.lockFor (lockKey c.config)).1⟩
  rw [act_of_step hs]
  exact (h.queued.step hs).mem_line hslot' rfl

/-- **Runs that are asked for by `t` are over `n` deadlines later**, at any moment after that. -/
theorem Booked.allEndBy {limit : Duration} {t : Nat} {actions : List Action}
    (h : s.Booked key limit t 0) (ht : s.OnTime)
    (hset : ∀ d, .setDeadline d ∈ actions → d = limit)
    (hasked : ∀ time ∈ s.asked key actions, time ≤ t)
    (hlate : t + (s.asked key actions).length * limit.ceilMillis < (s.run actions).clock) :
    (s.run actions).Unused key
      ∧ s.AllEndBy key actions (t + (s.asked key actions).length * limit.ceilMillis) := by
  have hline : (s.run actions).line key = [] := by
    by_contra hne
    have hbooked := h.run ht hset hasked
    rw [Nat.zero_add] at hbooked
    exact absurd (hbooked.clock_le (ht.run actions) hne) (Nat.not_le.2 hlate)
  have htimed := ht.run actions
  refine ⟨(htimed.queued.unused_iff htimed.apart).2 hline, ?_⟩
  rintro before id rest c rfl hslot rfl
  have ht₁ := ht.run before
  have ht₂ := ht₁.run [.runCheck id]
  have hmem := mem_line_of_asked ht₁ hslot
  have hleft : id ∉ (((s.run before).act (.runCheck id)).run rest).line (lockKey c.config) := by
    rw [run_append] at hline
    exact fun hid => List.not_mem_nil (hline ▸ hid)
  -- the run was in the line when it was asked for and is not at the end, so it has left it
  obtain ⟨mid, a, last, rfl, hreturns, hstays, hend⟩ :=
    ends_of_left ht₂.queued ht₂.apart hmem hleft
  refine ⟨mid, a, last, rfl, hreturns, ?_, hend⟩
  -- up to the moment at which the checker leaves the line, the line is booked
  have hsplit : before ++ .runCheck id :: (mid ++ a :: last)
      = (before ++ .runCheck id :: mid) ++ a :: last := by simp
  rw [hsplit] at hset hasked ⊢
  rw [asked_append] at hasked ⊢
  have hbooked := h.run ht (fun d hd => hset d (List.mem_append_left _ hd))
    fun time htime => hasked time (List.mem_append_left _ htime)
  rw [Nat.zero_add] at hbooked
  have hclock := hbooked.clock_le (ht.run _) (List.ne_nil_of_mem (by rwa [run_append]))
  rw [run_append] at hclock
  refine hclock.trans (Nat.add_le_add_left (Nat.mul_le_mul_right _ ?_) t)
  rw [List.length_append]
  exact Nat.le_add_right ..

/-- What happens unprompted asks for no run. -/
theorem asked_of_unprompted {more : List Action} (hmore : ∀ a ∈ more, a.isUnprompted = true) :
    s.asked key more = [] := by
  induction more generalizing s with
  | nil => rfl
  | cons a more ih =>
    rw [asked, ih fun b hb => hmore b (List.mem_cons_of_mem _ hb)]
    have ha := hmore a (List.mem_cons_self ..)
    cases a <;> simp_all [asked?, Action.isUnprompted]

/-- **Deadlines bound runs.** Whatever has happened, and whatever the clusters of the checkers do,
no run has had its lock for longer than the deadline that it was given with the lock; it returns its
own result, or that its deadline is over when it is. So if nobody uses the lock of a check, and
`n` runs of it are asked for by `t`, each of these is over `n` deadlines after `t`: it has returned,
unless nobody waited for it any more, as soon as the time is later, and nothing but locks that are
given, deadlines that are over and the passing of time is needed for that. -/
theorem deadlines_bound_runs (tokens : TokenSource) (epoch : Instant)
    (earlier later : List Action) (key : String) (t : Nat) :
    let s := ({ tokens, epoch } : Coordinator).run earlier
    let time := t + (s.asked key later).length * s.deadline.ceilMillis
    s.Punctual
    ∧ (s.Unused key → (∀ d, .setDeadline d ∈ later → d = s.deadline) →
      (∀ moment ∈ s.asked key later, moment ≤ t) →
      (time < (s.run later).clock → (s.run later).Unused key ∧ s.AllEndBy key later time)
      ∧ ∃ more : List Action, (∀ a ∈ more, a.isUnprompted = true)
        ∧ (s.run (later ++ more)).Unused key ∧ s.AllEndBy key (later ++ more) time) := by
  intro s time
  have ht : s.OnTime := (onTime_fresh tokens epoch).run earlier
  refine ⟨ht.punctual, ?_⟩
  intro hunused hset hasked
  have hbooked : s.Booked key s.deadline t 0 := .of_nil ((ht.queued.unused_iff ht.apart).1 hunused)
  refine ⟨hbooked.allEndBy ht hset hasked, ?_⟩
  -- time goes on until the booked time is over, and nobody asks for a run meanwhile
  obtain ⟨more, hmore, hclock⟩ := exists_unprompted (s.run later)
    (Nat.le_max_left (s.run later).clock (time + 1))
  have hsame : s.asked key (later ++ more) = s.asked key later := by
    rw [asked_append, asked_of_unprompted hmore, List.append_nil]
  have hset' : ∀ d, .setDeadline d ∈ later ++ more → d = s.deadline := by
    intro d hd
    rcases List.mem_append.1 hd with hd | hd
    · exact hset d hd
    · simpa [Action.isUnprompted] using hmore _ hd
  have hlate : time < (s.run (later ++ more)).clock := by
    rw [run_append, hclock]
    exact Nat.le_max_right ..
  have hall := hbooked.allEndBy ht hset' (by rwa [hsame])
  rw [hsame] at hall
  exact ⟨more, hmore, hall hlate⟩

/-- Three runs of one check that wait for an answer for ever are over after three deadlines. -/
theorem deadlines_bound_runs_of_hanging_calls :
    let checker := Checker.plain "prod" "web" "probe"
    let s := ({ epoch := .ofNanos 0 } : Coordinator).run
      [.setDeadline (.ofSecs 10), .place "a" checker, .place "b" checker, .place "c" checker]
    let later : List Action :=
      [.runCheck "a", .runCheck "b", .runCheck "c", .grant "a", .pass 10000, .expire "a",
        .grant "b", .pass 10000, .expire "b", .grant "c", .pass 10000, .expire "c", .pass 1]
    (s.run later).clock = 30001 ∧ (s.run later).Unused "prod:web"
      ∧ s.AllEndBy "prod:web" later 30000 := by
  intro checker s later
  have hasked : s.asked "prod:web" later = [0, 0, 0] := by decide +kernel
  have hclock : (s.run later).clock = 30001 := by decide +kernel
  have htime : 0 + (s.asked "prod:web" later).length * s.deadline.ceilMillis = 30000 := by
    decide +kernel
  have hbound := (deadlines_bound_runs {} (.ofNanos 0)
    [.setDeadline (.ofSecs 10), .place "a" checker, .place "b" checker, .place "c" checker] later
    "prod:web" 0).2 (by decide +kernel) (by simp [later])
    (show ∀ moment ∈ s.asked "prod:web" later, moment ≤ 0 by simp [hasked])
  obtain ⟨hunused, hends⟩ := hbound.1
    (show 0 + (s.asked "prod:web" later).length * s.deadline.ceilMillis < (s.run later).clock by
      rw [htime, hclock]; decide)
  exact ⟨hclock, hunused, htime ▸ hends⟩

end Coordinator

end PodCheck
