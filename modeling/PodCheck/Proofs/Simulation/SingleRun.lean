import PodCheck.Proofs.Api.Run
import PodCheck.Proofs.Coordinator.Course
import PodCheck.Proofs.Simulation.SingleCall
import PodCheck.Simulation.Schedule

/-! # Single runs over an API server

A run that is the only job of a schedule, in a world whose client is an API server with a script of
responses. It waits for one operation at a time (`World.Midway`), which is on its way
(`World.Aloft`); a poll takes it on, and at the end of the operation the run goes on to the next one
or is over (`World.Turned`, `World.Aloft.lands`). Each poll leaves less to be done
(`Schedule.course_poll`), so the run comes to its end within the polls that are granted, unless it
waits for ever (`Schedule.ends_of_course`). Main statement: `World.requests_of_run`. -/

namespace PodCheck

namespace Coordinator

/-- The checkers other than one do nothing. -/
def OthersIdle (s : Coordinator) (id : String) : Prop :=
  ∀ other, other ≠ id → ∀ slot, s.slots.get? other = some slot → slot.activity = .idle

/-- What one checker does leaves the others idle. -/
theorem OthersIdle.step {s s' : Coordinator} {id : String} {a : Action} {r : Reaction}
    (h : s.OthersIdle id) (ha : a.subject? = some id) (hs : s.step a = some (s', r)) :
    s'.OthersIdle id := by
  intro other hne slot hother
  have hkept : s'.slots.get? other = s.slots.get? other :=
    slot_of_step hs (by rw [ha]; simpa using hne.symm)
  exact h other hne slot (hkept.symm.trans hother)

end Coordinator

namespace Simulation

open Api

/-! ## Worlds -/

/-- A world in which a run waits for an operation and has sent some requests. -/
structure World.Midway (w : World) (e : ApiRun) (p : Pending) (sent : List Request)
    (left : List Response) : Prop where
  /-- The checker waits for the operation, without a deadline. -/
  slot : w.coordinator.slots.get? e.id = some ⟨e.checker.amid p, .running none p⟩
  /-- The other checkers do nothing. -/
  others : w.coordinator.OthersIdle e.id
  /-- The server has some responses left. -/
  client : w.client = .api ⟨left⟩
  /-- The requests are noted down. -/
  records : w.records = (sent.map .requested).reverse ++ e.records
  /-- The operations before have succeeded. -/
  reached : e.Reaches p

/-- What an action has made of a run in a world: how many operations, and how much work, may be left
of it. -/
inductive World.Turned (e : ApiRun) (n work : Nat) : World × Reaction → Prop
  /-- The run waits for an operation that has still to be called. -/
  | waits {w : World} {r : Reaction} {p : Pending} {sent : List Request}
      (h : w.Midway e p sent (e.responses p)) (hsent : sent.map some = e.before p)
      (hcall : r.call? = some (p.call e.checker.config)) (hresult : r.result? = none)
      (hn : p.left ≤ n) (hwork : 2 * (e.responses p).length + 3 ≤ work) : Turned e n work (w, r)
  /-- The run is over. -/
  | done {w : World} {r : Reaction} {sent : List Request} {result : Except CheckError Unit}
      (hrecords : w.records = (sent.map .requested).reverse ++ e.records)
      (hends : e.Ends sent (some result)) (hresult : r.result? = some result) :
      Turned e n work (w, r)

/-- An operation of a run is on its way and is due at a time. -/
structure World.Aloft (w : World) (e : ApiRun) (p : Pending) (f : ApiFlight) (time : Nat)
    (sent : List Request) (left : List Response) : Prop extends w.Midway e p sent left where
  /-- The time is not over. -/
  clock : w.clock ≤ time
  /-- There is something to do then. -/
  due : f.Due time
  /-- What was sent and what is ahead make up the requests up to the end of the operation. -/
  requests : e.upTo p = sent.map some ++ (f.ahead time left).requests
  /-- The operation ends in the way of its talk. -/
  outcome : (f.ahead time left).outcome? = (e.talk p).outcome?
  /-- It leaves the responses that its talk leaves. -/
  rest : (f.ahead time left).rest = (e.talk p).rest

/-- What a poll has made of an operation on its way. -/
inductive World.Lands (e : ApiRun) (p : Pending) (work : Nat) : World × Poll Flight → Prop
  /-- It is over, and the run takes its outcome. -/
  | ended {w : World} {outcome : Outcome}
      (h : Turned e (p.left - 1) work (w.act (.answer e.id outcome))) :
      Lands e p work (w, .over outcome)
  /-- It goes on. -/
  | flying {w : World} {f : ApiFlight} {time : Nat} {sent : List Request} {left : List Response}
      (h : w.Aloft e p f time sent left) (hwork : f.work left < work) :
      Lands e p work (w, .flying (.api f) (some time))
  /-- It never ends. -/
  | stuck {w : World} {flight : Flight} {sent : List Request} {left : List Response}
      (h : w.Midway e p sent left) (hends : e.Ends sent none) :
      Lands e p work (w, .flying flight none)

namespace World

variable {w : World} {e : ApiRun} {p : Pending} {sent : List Request} {left : List Response}
  {f : ApiFlight} {time work : Nat}

/-- A run takes the outcome of its operation. -/
theorem Midway.step_answer (h : w.Midway e p sent left) (outcome : Outcome) :
    ∃ s r, w.coordinator.step (.answer e.id outcome) = some (s, r)
      ∧ w.act (.answer e.id outcome)
        = ({ w with coordinator := s }.log r.events, { r with events := [] })
      ∧ w.coordinator.Fate e.id e.checker none p (.answer e.id outcome) s r := by
  rcases hs : w.coordinator.step (.answer e.id outcome) with _ | ⟨s, r⟩
  · simp [Coordinator.step, Coordinator.answer?, h.slot] at hs
  · exact ⟨s, r, rfl, act_of_step hs, Coordinator.fate_of_step h.slot hs⟩

/-- Nothing keeps time from passing while the run waits. -/
theorem Midway.unhurried (h : w.Midway e p sent left) : w.coordinator.Unhurried := by
  intro ms
  rw [Coordinator.mayPass_iff]
  intro id c activity hslot
  by_cases hid : id = e.id
  · subst hid
    obtain ⟨-, rfl⟩ := Slot.mk.inj (Option.some.inj (hslot.symm.trans h.slot))
    simp
  · obtain rfl : activity = .idle := h.others id hid _ hslot
    simp

/-- The clock is moved to the time at which an operation is due. -/
theorem Aloft.passTo (h : w.Aloft e p f time sent left) :
    (w.passTo time).Aloft e p f time sent left ∧ (w.passTo time).clock = time := by
  rw [passTo_of_unhurried h.unhurried h.clock]
  exact ⟨⟨⟨h.slot, h.others, h.client, h.records, h.reached⟩, Nat.le_refl time, h.due,
    h.requests, h.outcome, h.rest⟩, rfl⟩

/-- A run goes on with the outcome that the talk of its operation leads to. -/
theorem Midway.turned_of_outcome (h : w.Midway e p sent left) {outcome : Outcome}
    (hsent : sent.map some = e.upTo p) (houtcome : (e.talk p).outcome? = some outcome)
    (hrest : (e.talk p).rest = left)
    (hwork : (∃ answer, outcome = .ok answer) → 2 * left.length + 2 < work) :
    Turned e (p.left - 1) work (w.act (.answer e.id outcome)) := by
  obtain ⟨s, r, hs, hact, hfate⟩ := h.step_answer outcome
  rw [hact]
  cases hfate with
  | aside ha => exact absurd rfl ha
  | @proceed q answer _ _ hq hslot hcall hresult =>
    obtain ⟨hreached, hbefore, hresponses⟩ := h.reached.next hq houtcome
    have hleft : e.responses q = left := hresponses.trans hrest
    have hmid : ({ w with coordinator := s }.log r.events).Midway e q sent (e.responses q) := by
      refine ⟨hslot, h.others.step rfl hs, ?_, h.records, hreached⟩
      rw [hleft]
      exact h.client
    refine .waits hmid (hsent.trans hbefore.symm) hcall hresult ?_ ?_
    · rw [Pending.left_of_next? hq]
      exact Nat.le_refl _
    · rw [hleft]
      exact hwork ⟨answer, rfl⟩
  | conclude hconcludes _ _ hresult =>
    cases hconcludes with
    | failed => exact .done h.records (.failed h.reached hsent houtcome) hresult
    | submitted => exact .done h.records (.submitted h.reached hsent houtcome) hresult

/-- What a poll sends is noted down. -/
theorem Midway.polled (h : w.Midway e p sent left) (more : List Request) (script : List Response)
    (events : List Event) :
    ({ w with
        client := .api ⟨script⟩
        records := (more.map Record.requested).reverse ++ w.records }.log events).Midway e p
      (sent ++ more) script := by
  refine ⟨h.slot, h.others, rfl, ?_, h.reached⟩
  show (more.map Record.requested).reverse ++ w.records = _
  rw [h.records, List.map_append, List.reverse_append, List.append_assoc]

/-- **A poll of an operation lands in the way of its talk.** -/
theorem Aloft.lands (h : w.Aloft e p f w.clock sent left) :
    Lands e p (f.work left) (w.pollFlight (.api f)) := by
  have hleads := ApiClient.leads_poll ⟨left⟩ h.due
  unfold pollFlight
  rw [poll_api h.client]
  generalize (ApiClient.mk left).poll w.clock f = polled at hleads
  cases hleads with
  | @ended more script outcome events hsent houtcome hrest hwork =>
    have hmid := h.polled more script events
    refine .ended (hmid.turned_of_outcome ?_ ?_ ?_ hwork)
    · rw [h.requests, List.map_append, hsent]
    · rw [← h.outcome, houtcome]
    · rw [← h.rest, hrest]
  | @flying more script f' later events hle hdue hsent houtcome hrest hwork =>
    have hmid := h.polled more script events
    refine .flying ⟨hmid, hle, hdue, ?_, ?_, ?_⟩ hwork
    · rw [h.requests, hsent, List.map_append, List.append_assoc]
    · rw [houtcome, h.outcome]
    · rw [hrest, h.rest]
  | @stuck more script f' events hsent houtcome =>
    refine .stuck (h.polled more script events) (.hung h.reached ?_ ?_)
    · rw [h.requests, List.map_append, hsent]
    · rw [← h.outcome, houtcome]

end World

/-! ## Schedules -/

/-- The job of running a checker at once. -/
def Job.run (id : String) (phase : Phase) (due : Option Timer) : Job :=
  { id, work := .runOnce, phase, due }

/-- The result of a job that is over. -/
def Job.result? (job : Job) : Option JobResult :=
  match job.phase with
  | .over result _ => some result
  | _ => none

namespace Schedule

/-- How far the only job of a schedule has come, and how much work may be left of it. -/
inductive Course (e : ApiRun) (work : Nat) : Schedule → Prop
  /-- It waits for an operation on its way. -/
  | flying {w : World} {p : Pending} {f : ApiFlight} {t : Timer} {sent : List Request}
      {left : List Response} {timers : Nat} (h : w.Aloft e p f t.time sent left)
      (hwork : f.work left < work) :
      Course e work ⟨w, [.run e.id (.flying (.api f)) (some t)], [], timers⟩
  /-- It waits for an operation that never ends. -/
  | stuck {w : World} {flight : Flight} {sent : List Request} {timers : Nat}
      (hrecords : w.records = (sent.map .requested).reverse ++ e.records)
      (hends : e.Ends sent none) :
      Course e work ⟨w, [.run e.id (.flying flight) none], [], timers⟩
  /-- It is over. -/
  | ended {w : World} {sent : List Request} {result : Except CheckError Unit} {time timers : Nat}
      (hrecords : w.records = (sent.map .requested).reverse ++ e.records)
      (hends : e.Ends sent (some result)) :
      Course e work ⟨w, [.run e.id (.over (.result result) time) none], [], timers⟩

variable {w : World} {e : ApiRun} {p : Pending} {sent : List Request} {left : List Response}
  {f : ApiFlight} {time work : Nat} {job : Job} {phase : Phase} {due : Option Timer} {timers : Nat}

theorem Course.mono {s : Schedule} {work' : Nat} (h : Course e work s) (hle : work ≤ work') :
    Course e work' s := by
  cases h with
  | flying h hwork => exact .flying h (Nat.lt_of_lt_of_le hwork hle)
  | stuck hrecords hends => exact .stuck hrecords hends
  | ended hrecords hends => exact .ended hrecords hends

/-- A run without a deadline is held until it is woken. -/
theorem hold_run (h : w.Midway e p sent left) (flight : Flight) (wake : Option Nat) :
    hold ⟨w, [job], [], timers⟩ 0 (.run e.id phase due) flight wake
      = ⟨w, [.run e.id (.flying flight) (wake.map fun time => ⟨time, timers⟩)], [],
          timers + 2⟩ := by
  have hlease : w.coordinator.lease? e.id = none := by
    simp only [Coordinator.lease?, h.slot]
  simp [hold, Job.run, hlease, put]

/-- A run that is over wakes nobody. -/
theorem finish_run (id : String) (result : JobResult) :
    finish ⟨w, [job], [], timers⟩ 0 (.run id phase due) result
      = ⟨w, [.run id (.over result w.clock) none], [], timers⟩ := by
  simp [finish, put, wakeQueued, Job.run, List.range_succ]

/-- An operation that goes on is held until it is due again. -/
theorem course_hold (h : w.Aloft e p f time sent left) (hwork : f.work left < work) :
    Course e work
      (hold ⟨w, [job], [], timers⟩ 0 (.run e.id phase due) (.api f) (some time)) := by
  rw [hold_run h.toMidway]
  exact .flying h hwork

/-- An operation that never ends is held for ever. -/
theorem course_hold_stuck (h : w.Midway e p sent left) (hends : e.Ends sent none)
    (flight : Flight) :
    Course e work (hold ⟨w, [job], [], timers⟩ 0 (.run e.id phase due) flight none) := by
  rw [hold_run h]
  exact .stuck h.records hends

/-- **A run is followed to an operation on its way, or to its end.** -/
theorem course_follow {n fuel : Nat} {turned : World × Reaction}
    (h : World.Turned e n work turned) (hfuel : n ≤ fuel) :
    Course e work
      (follow (fuel + 1) ⟨turned.1, [job], [], timers⟩ 0 (.run e.id phase due) turned.2) := by
  -- on the operations that may be left: one that is over at once leads to the next
  induction n using Nat.strongRecOn generalizing fuel work turned with
  | _ n ih =>
    cases h with
    | done hrecords hends hresult =>
      simp only [follow, hresult]
      rw [finish_run]
      exact .ended hrecords hends
    | @waits w r p sent h hsent hcall hresult hn hwork =>
      -- the operation is called and polled for the first time
      let f : ApiFlight := ⟨.ofCall (p.call e.checker.config), none, none⟩
      have hf : w.client.call (p.call e.checker.config) = .api f := by
        rw [h.client]
        rfl
      have hdue : f.Due w.clock := by
        refine ⟨?_, trivial⟩
        cases p <;> rfl
      have haloft : w.Aloft e p f w.clock sent (e.responses p) :=
        ⟨h, Nat.le_refl _, hdue, by rw [hsent]; rfl, rfl, rfl⟩
      have hlands := haloft.lands
      have hleft := p.left_pos.1
      obtain ⟨fuel, rfl⟩ : ∃ k, fuel = k + 1 := ⟨fuel - 1, by omega⟩
      simp only [follow, hresult, hcall, hf]
      generalize w.pollFlight (.api f) = landed at hlands
      cases hlands with
      | ended h => exact (ih _ (by omega) h (by omega)).mono hwork
      | flying h hless => exact course_hold h (Nat.lt_of_lt_of_le hless hwork)
      | stuck h hends => exact course_hold_stuck h hends _

/-- **A poll of a run that is due brings it nearer to its end.** -/
theorem course_poll (h : w.Aloft e p f w.clock sent left) :
    Course e (f.work left)
      (poll ⟨w, [.run e.id (.flying (.api f)) due], [], timers⟩ 0) := by
  have hlands := h.lands
  have hleft : p.left - 1 ≤ 5 := by
    have := p.left_pos
    omega
  unfold poll
  simp only [List.getElem?_cons_zero, Job.run]
  generalize w.pollFlight (.api f) = landed at hlands
  cases hlands with
  | ended h => exact course_follow h hleft
  | flying h hwork => exact course_hold h hwork
  | stuck h hends => exact course_hold_stuck h hends _

/-- The only timer of a schedule tells when it goes on. -/
theorem nextTime?_run (id : String) (ready : List Nat) :
    nextTime? ⟨w, [.run id phase due], ready, timers⟩ = due.map (·.time) := by
  cases due <;> rfl

/-- The only job of a schedule is due when its timer has gone off. -/
theorem dueBy_run (id : String) (ready : List Nat) (t : Timer) :
    dueBy ⟨w, [.run id phase (some t)], ready, timers⟩ t.time = [0] := by
  simp [dueBy, Job.run, Job.timer?, Timer.first?, List.range_succ]

/-- A run that is over stays as it is. -/
theorem run_over (id : String) (result : JobResult) (time fuel : Nat) :
    run fuel ⟨w, [.run id (.over result time) none], [], timers⟩
      = ⟨w, [.run id (.over result time) none], [], timers⟩ := by
  cases fuel <;> rfl

/-- A run that is not woken stays as it is. -/
theorem run_flying_none (id : String) (flight : Flight) (fuel : Nat) :
    run fuel ⟨w, [.run id (.flying flight) none], [], timers⟩
      = ⟨w, [.run id (.flying flight) none], [], timers⟩ := by
  cases fuel <;> rfl

/-- A run is polled when its timer has gone off. -/
theorem run_flying_some (id : String) (flight : Flight) (t : Timer) (fuel : Nat) :
    run (fuel + 2) ⟨w, [.run id (.flying flight) (some t)], [], timers⟩
      = run fuel (poll ⟨w.passTo t.time, [.run id (.flying flight) (some t)], [], timers⟩ 0) := by
  rw [run]
  simp only [nextTime?_run, Option.map_some]
  rw [dueBy_run, run]

/-- **A run that may take so many polls comes to its end**, or waits for ever. -/
theorem ends_of_course {s : Schedule} {fuel : Nat} (h : Course e work s) (hfuel : 2 * work ≤ fuel) :
    ∃ sent result?, (s.run fuel).world.records = (sent.map Record.requested).reverse ++ e.records
      ∧ e.Ends sent result?
      ∧ (s.run fuel).jobs.head?.bind Job.result? = result?.map .result := by
  -- on the work that is left: the clock is moved and the run is polled, each with a unit of fuel
  induction work using Nat.strongRecOn generalizing s fuel with
  | _ work ih =>
    cases h with
    | @ended w sent result time timers hrecords hends =>
      rw [run_over]
      exact ⟨sent, some result, hrecords, hends, rfl⟩
    | @stuck w flight sent timers hrecords hends =>
      rw [run_flying_none]
      exact ⟨sent, none, hrecords, hends, rfl⟩
    | @flying w p f t sent left timers h hwork =>
      obtain ⟨fuel, rfl⟩ : ∃ k, fuel = k + 2 := ⟨fuel - 2, by omega⟩
      obtain ⟨haloft, hclock⟩ := h.passTo
      have hnow : (w.passTo t.time).Aloft e p f (w.passTo t.time).clock sent left := by
        rwa [hclock]
      rw [run_flying_some]
      exact ih _ hwork (course_poll hnow) (by omega)

end Schedule

/-! ## Whole runs -/

namespace World

variable {w : World} {script : List Response} {id : String} {c : Checker}

/-- A run that begins has its token to store, and all responses before it. -/
theorem turned_runOnce (hclient : w.client = .api ⟨script⟩)
    (hidle : w.coordinator.slots.get? id = some ⟨c, .idle⟩)
    (hothers : w.coordinator.OthersIdle id)
    (hready : c.config.check = .ok ()) :
    Turned ⟨id, c, w.coordinator.tokens.draw.1, script, w.records⟩ 3 (2 * script.length + 3)
      (w.act (.runOnce id)) := by
  have hopens : w.coordinator.Opens (.runOnce id) id c none [] := .runOnce hidle
  rcases hs : w.coordinator.step (.runOnce id) with _ | ⟨s, r⟩
  · simp [Coordinator.step_of_opens hopens] at hs
  rw [act_of_step hs]
  cases Coordinator.beginning_of_step hopens hs with
  | refused hfault => simp [CheckerConfig.fault?_of_check hready] at hfault
  | begun _ hslot hcall hresult =>
    have hmid : ({ w with coordinator := s }.log r.events).Midway
        ⟨id, c, w.coordinator.tokens.draw.1, script, w.records⟩
        (.settingToken w.coordinator.tokens.draw.1) [] script :=
      ⟨hslot, hothers.step rfl hs, hclient, rfl, .settingToken⟩
    exact .waits hmid rfl hcall hresult (Nat.le_refl _) (Nat.le_refl _)

/-- The job of a run is polled first when it begins. -/
theorem run_resting (w : World) (id : String) (fuel : Nat) :
    Schedule.run (fuel + 1) ⟨w, [.run id (.resting w.clock) none], [0], 0⟩
      = Schedule.run fuel
          (.follow Schedule.operationBound
            ⟨(w.act (.runOnce id)).1, [.run id (.resting w.clock) none], [], 0⟩ 0
            (.run id (.resting w.clock) none) (w.act (.runOnce id)).2) := by
  show Schedule.run fuel (.poll ⟨w, [.run id (.resting w.clock) none], [], 0⟩ 0) = _
  exact congrArg (Schedule.run fuel) (if_neg (Nat.lt_irrefl w.clock))

/-- A run over an API server ends within the polls that it is granted, or waits for ever. -/
theorem ends_runJob (hclient : w.client = .api ⟨script⟩)
    (hidle : w.coordinator.slots.get? id = some ⟨c, .idle⟩)
    (hothers : w.coordinator.OthersIdle id)
    (hready : c.config.check = .ok ()) :
    ∃ sent result?, (w.runJob (.run id (.resting w.clock) none)).1.records
        = (sent.map Record.requested).reverse ++ w.records
      ∧ ApiRun.Ends ⟨id, c, w.coordinator.tokens.draw.1, script, w.records⟩ sent result?
      ∧ (w.runJob (.run id (.resting w.clock) none)).2 = result?.map .result := by
  have hturned := turned_runOnce hclient hidle hothers hready
  -- the polls that a schedule grants for a script are more than the work of a run
  obtain ⟨fuel, hfuel, hbound⟩ : ∃ fuel, 2 * (2 * script.length + 3) ≤ fuel
      ∧ w.scheduleBound [.run id (.resting w.clock) none] = fuel + 1 := by
    refine ⟨191 + 24 * script.length, by omega, ?_⟩
    simp only [scheduleBound, pollBound, hclient, List.length_singleton]
    omega
  have hrun : w.runJob (.run id (.resting w.clock) none)
      = ((Schedule.run (fuel + 1) ⟨w, [.run id (.resting w.clock) none], [0], 0⟩).world,
        (Schedule.run (fuel + 1) ⟨w, [.run id (.resting w.clock) none], [0], 0⟩).jobs.head?.bind
          Job.result?) := by
    rw [← hbound]
    rfl
  rw [hrun, run_resting]
  exact Schedule.ends_of_course (Schedule.course_follow hturned (by decide : 3 ≤ 5)) hfuel

/-- **One run over an API server.** Whatever the server responds, the requests of a run are, in this
order, a merge patch of its check that stores the token of the run, the deletion of the pod of the
run before, those that list and watch that pod if the deletion was answered with it, and the
creation of the pod that is built for the same token, all of which is read back from what is sent;
or a first part of them. Nothing is sent after a request that got no response. The pod of the run
before is deleted only if the response to the first request was read as a check, and the pod of the
run created only if that deletion has succeeded in time. The run succeeds exactly if the last
request was sent and the response to it was read as a pod. -/
theorem requests_of_run (w : World) (script : List Response) (id : String) (c : Checker)
    (hclient : w.client = .api ⟨script⟩)
    (hidle : w.coordinator.slots.get? id = some ⟨c, .idle⟩)
    (hothers : w.coordinator.OthersIdle id)
    (hready : c.config.check = .ok ()) :
    let token := w.coordinator.tokens.draw.1
    let removal :=
      (Exchange.delete c.config.ns c.config.podName).talk deletionMillis script.tail
    let watches := removal.exchanges.tail
    let run := w.runJob { id, work := .runOnce, phase := .resting w.clock }
    ∃ (sent : List Request) (now : Instant),
      run.1.records = (sent.map .requested).reverse ++ w.records
      ∧ sent.map some <+: patchToken? c.config.ns c.config.checkName token
          :: deletePod? c.config.ns c.config.podName
          :: (watches.map Exchange.request? ++ [postPod? c.config.ns (c.config.pod token now)])
      ∧ (∀ r, sent[0]? = some r → r.StoresToken c.config.ns c.config.checkName token)
      ∧ (∀ r, sent[1]? = some r → r.DeletesPod c.config.ns c.config.podName)
      ∧ (∀ n r, n < watches.length → sent[n + 2]? = some r
        → r.AsksForPod c.config.ns c.config.podName)
      ∧ (∀ r, sent[watches.length + 2]? = some r
        → r.CreatesPod c.config.ns (c.config.pod token now))
      ∧ c.config.pod token now = RunPod.build c.config.template (c.config.runParams token) now
      ∧ (c.config.pod token now).Carries token
      ∧ (∀ x ∈ watches, ∃ pod,
        DeletionAnswered c.config.ns c.config.podName script.tail (.deleting pod)
        ∧ x.deletion? = some ⟨c.config.ns, c.config.podName, pod.metadata.uid.getD ""⟩)
      ∧ (∀ n, n + 1 < sent.length → Answered script n)
      ∧ (1 < sent.length → ∃ check, script.head?.bind (Response.read? Check.form) = some check)
      ∧ (watches.length + 2 < sent.length → ∃ gone, removal.outcome? = some (.ok gone))
      ∧ (run.2 = some (.result (.ok ())) ↔ watches.length + 2 < sent.length
        ∧ ∃ pod, removal.rest.head?.bind (Response.read? Pod.form) = some pod) := by
  intro token removal watches run
  obtain ⟨sent, result?, hrecords, hends, hresult⟩ := ends_runJob hclient hidle hothers hready
  obtain ⟨now, hprefix, hstored, hgone⟩ := hends.sends
  have hsuccess : run.2 = some (.result (.ok ())) ↔ result? = some (.ok ()) := by
    have hrun : run.2 = result?.map .result := hresult
    rw [hrun]
    cases result? <;> simp
  let e : ApiRun := ⟨id, c, token, script, w.records⟩
  have hasked {n : Nat} {r : Request} (hr : sent[n]? = some r) :
      (e.requests now)[n]? = some (some r) := ApiRun.getElem?_of_sent hprefix hr
  exact ⟨sent, now, hrecords, hprefix, fun r hr => e.storesToken_of_requests (hasked hr),
    fun r hr => e.deletesPod_of_requests (hasked hr),
    fun n r hn hr => e.asksForPod_of_requests hn (hasked hr),
    fun r hr => e.createsPod_of_requests (hasked hr), rfl, c.config.carries_pod token now,
    fun x hx => Exchange.deletion_of_mem_exchanges_delete hx, fun n => hends.answered, hstored,
    hgone, hsuccess.trans hends.ok_iff⟩

/-- A run that succeeds, after the server has shown the pod of the run before and then a list
without it; the bodies of its requests are told by their characters. -/
theorem requests_of_run_after_deletion :
    let said (text : String) : Response := { reply := .answered 200 text true }
    let script :=
      [said "\x7b\"metadata\":\x7b\x7d,\"spec\":\x7b\x7d\x7d",
        said "\x7b\"metadata\":\x7b\"uid\":\"1\"\x7d\x7d",
        said "\x7b\"metadata\":\x7b\"resourceVersion\":\"2\"\x7d,\"items\":[]\x7d",
        said "\x7b\x7d"]
    let plain := Checker.plain "prod" "web" "probe"
    let checker := { plain with config := { plain.config with reportingUrl := "http://kh" } }
    let w : World :=
      { coordinator :=
          { epoch := .ofNanos 0, slots := SortedMap.empty.insert "a" ⟨checker, .idle⟩ }
        client := .api ⟨script⟩ }
    let run := w.runJob { id := "a", work := .runOnce, phase := .resting w.clock }
    let lines := run.1.records.reverse.map fun
      | .requested r => (r.method, r.target, r.contentType, r.body.map Json.printChars)
      | _ => ("", ⟨"", none⟩, none, none)
    let body (parts : List String) := some (parts.flatMap String.toList)
    lines =
      [("PATCH", ⟨"/apis/comcast.github.io/v1/namespaces/prod/kuberhealthychecks/web", some ""⟩,
          some "application/merge-patch+json",
          body ["\x7b\"spec\":\x7b\"currentUUID\":\"", tokenText 1, "\"\x7d\x7d"]),
        ("DELETE", ⟨"/api/v1/namespaces/prod/pods/probe", some ""⟩, some "application/json",
          body ["\x7b\x7d"]),
        ("GET", ⟨"/api/v1/namespaces/prod/pods",
          some "&fieldSelector=metadata.name%3Dprobe&limit=500"⟩, none, none),
        ("POST", ⟨"/api/v1/namespaces/prod/pods", some ""⟩, some "application/json",
          body ["\x7b\"apiVersion\":\"v1\",", "\"kind\":\"Pod\",", "\"metadata\":\x7b",
            "\"labels\":\x7b", "\"kuberhealthy-check-name\":", "\"web\",",
            "\"kuberhealthy-run-id\":\"", tokenText 1, "\"\x7d,", "\"name\":\"probe\",",
            "\"namespace\":\"prod\"\x7d,", "\"spec\":\x7b\"containers\":[\x7b", "\"env\":[",
            "\x7b\"name\":", "\"KH_REPORTING_URL\",", "\"value\":\"http://kh\"\x7d,",
            "\x7b\"name\":", "\"KH_RUN_UUID\",", "\"value\":\"", tokenText 1, "\"\x7d,",
            "\x7b\"name\":", "\"KH_CHECK_RUN_DEADLINE\",", "\"value\":\"300\"\x7d,",
            "\x7b\"name\":", "\"KH_POD_NAMESPACE\",", "\"value\":\"prod\"\x7d,",
            "\x7b\"name\":", "\"KH_CHECK_NAME\",", "\"value\":\"web\"\x7d],",
            "\"name\":\"main\"\x7d],", "\"restartPolicy\":", "\"Never\"\x7d\x7d"])]
      ∧ run.2 = some (.result (.ok ())) := by
  intro said script plain checker w run lines body
  have hothers : w.coordinator.OthersIdle "a" := by
    intro other hne slot hslot
    simp [w, SortedMap.get?_insert_of_ne _ _ hne] at hslot
  obtain ⟨sent, now, hrecords, -, -, -, -, -, -, -, -, -, -, -, hok⟩ :=
    requests_of_run w script "a" checker rfl (SortedMap.get?_insert_self ..) hothers rfl
  refine (and_iff_left_of_imp fun hlines => hok.2 ⟨?_, ?_⟩).2 (by decide +kernel)
  · -- four requests, one of which asks for the pod
    have hrun : run.1.records.length = 4 := by
      simpa [lines] using congrArg List.length hlines
    have hsent : sent.length = 4 := by
      rw [← hrun, hrecords]
      simp [w]
    have hwatches : ((Exchange.delete "prod" "probe").talk deletionMillis
        script.tail).exchanges.tail.length = 1 := by
      decide +kernel
    calc
      _ = 1 + 2 := congrArg (· + 2) hwatches
      _ < sent.length := by omega
  · exact Option.isSome_iff_exists.1 (by decide +kernel)

end World

end Simulation

end PodCheck
