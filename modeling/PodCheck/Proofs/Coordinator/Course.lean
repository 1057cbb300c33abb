import PodCheck.Proofs.Checker.Course
import PodCheck.Proofs.Coordinator.Change

/-! # One run among the steps of a coordinator

What a step can do to a single checker. It leaves the checkers that it is not about
(`Coordinator.slot_of_step`); a run begins or is refused (`Coordinator.beginning_of_step`), and
while it waits it goes on, comes to an end, is given up at its deadline or is dropped
(`Coordinator.fate_of_step`). A checker that is in no run stays out of one until something is asked
of it (`Coordinator.step_of_idle`, `Coordinator.step_of_queued`). -/

namespace PodCheck

/-- Whether an action asks nothing of a checker: at most it ends what the checker is doing. -/
def Action.asksNothingOf (id : String) : Action → Bool
  | .answer _ _ | .expire _ | .drop _ => true
  | a => a.subject? ≠ some id

namespace Coordinator

variable {s s' : Coordinator} {r : Reaction} {a : Action} {id : String} {c : Checker}
  {lease? : Option Lease} {p : Pending} {events : List Event}

/-! ## Actions one after the other -/

/-- Lets an action happen, if it can. -/
def act (s : Coordinator) (a : Action) : Coordinator :=
  match s.step a with
  | some (s', _) => s'
  | none => s

/-- Lets actions happen one after the other. -/
def run (s : Coordinator) (actions : List Action) : Coordinator := actions.foldl act s

theorem act_of_step (hs : s.step a = some (s', r)) : s.act a = s' := by
  rw [act, hs]

theorem act_of_step_eq_none (hs : s.step a = none) : s.act a = s := by
  rw [act, hs]

/-- **What every step keeps is kept by all actions.** -/
theorem run_induction {P : Coordinator → Prop}
    (hstep : ∀ {t t' : Coordinator} {a : Action} {r : Reaction}, P t → t.step a = some (t', r) →
      P t') (h : P s) (actions : List Action) : P (s.run actions) := by
  induction actions generalizing s with
  | nil => exact h
  | cons a actions ih =>
    apply ih
    rcases hs : s.step a with _ | ⟨t, r⟩
    · rwa [act_of_step_eq_none hs]
    · rw [act_of_step hs]
      exact hstep h hs

theorem run_append (s : Coordinator) (actions more : List Action) :
    s.run (actions ++ more) = (s.run actions).run more := by
  simp [run]

/-- The result that a checker returns with an action, if it does. -/
def returned? (s : Coordinator) (id : String) (a : Action) : Option (Except CheckError Unit) :=
  if a.subject? = some id then (s.step a).bind (·.2.result?) else none

/-- The results that a checker returns in the course of some actions. -/
def returns (s : Coordinator) (id : String) : List Action → List (Except CheckError Unit)
  | [] => []
  | a :: actions => (s.returned? id a).toList ++ (s.act a).returns id actions

theorem returned?_of_subject (ha : a.subject? = some id) :
    s.returned? id a = (s.step a).bind (·.2.result?) := if_pos ha

theorem returned?_of_step (hs : s.step a = some (s', r)) (ha : a.subject? = some id) :
    s.returned? id a = r.result? := by
  rw [returned?_of_subject ha, hs, Option.bind_some]

theorem returned?_of_step_eq_none (hs : s.step a = none) : s.returned? id a = none := by
  rw [returned?, hs, Option.bind_none, ite_self]

theorem returned?_of_ne (ha : a.subject? ≠ some id) : s.returned? id a = none := if_neg ha

/-! ## Other checkers -/

/-- What another checker is doing matters to no checker. -/
theorem get?_slots_put_of_ne {other : String} (s : Coordinator) (c : Checker) (activity : Activity)
    (h : id ≠ other) : (s.put other c activity).slots.get? id = s.slots.get? id :=
  SortedMap.get?_insert_of_ne _ _ h

/-- A run that begins is that of the checker that the action is about. -/
theorem subject_of_opens (ho : s.Opens a id c lease? events) : a.subject? = some id := by
  cases ho with
  | runOnce => rfl
  | grant => rfl

/-- **A step leaves the checkers that it is not about.** -/
theorem slot_of_step (hs : s.step a = some (s', r)) (ha : a.subject? ≠ some id) :
    s'.slots.get? id = s.slots.get? id := by
  -- whichever checker the step replaces, it is the one that the action is about
  have hput : ∀ (t : Coordinator) {other : String} (d : Checker) (activity : Activity),
      a.subject? = some other → (t.put other d activity).slots.get? id = t.slots.get? id := by
    intro t other d activity hother
    apply get?_slots_put_of_ne
    rintro rfl
    exact ha hother
  cases change_of_step hs with
  | setDeadline | pass | refuseToken => rfl
  | place | configure | abandon | assign | assigned | dropToken | unqueue | proceed =>
    exact hput _ _ _ rfl
  | queue => rw [slots_enqueue, hput _ _ _ rfl, slots_lockFor]
  | begin ho => exact hput _ _ _ (subject_of_opens ho)
  | refuse ho =>
    rw [slots_releaseLease]
    exact hput _ _ _ (subject_of_opens ho)
  | finish | expire | cut =>
    rw [slots_releaseLease]
    exact hput _ _ _ rfl

/-- When time may pass: nobody comes first in the line at a lock and does not have it, and no
deadline is over meanwhile. -/
theorem mayPass_iff {ms : Nat} :
    s.mayPass ms = true ↔ ∀ id c activity, s.slots.get? id = some ⟨c, activity⟩ →
      (∀ k lock, activity = .queued k lock → s.holds id lock = false)
      ∧ ∀ lease p, activity = .running (some lease) p → s.clock + ms ≤ lease.expires := by
  unfold mayPass
  rw [List.all_eq_true]
  constructor
  · intro h id c activity hslot
    have := h _ (SortedMap.mem_entries_of_get? hslot)
    refine ⟨?_, ?_⟩
    · rintro k lock rfl
      simpa using this
    · rintro lease p rfl
      simpa using this
  · rintro h ⟨id, c, activity⟩ he
    obtain ⟨hqueued, hrunning⟩ := h id c activity (SortedMap.get?_of_mem_entries he)
    cases activity with
    | idle | assigning => rfl
    | queued k lock => simpa using hqueued k lock rfl
    | running lease? p =>
      cases lease? with
      | none => rfl
      | some lease => simpa using hrunning lease p rfl

/-- Time passes in no other way than by passing. -/
theorem clock_of_step (hs : s.step a = some (s', r)) (ha : ∀ ms, a ≠ .pass ms) :
    s'.epoch = s.epoch ∧ s'.clock = s.clock := by
  have hrelease : ∀ (t : Coordinator) (id : String) (lease? : Option Lease),
      (t.releaseLease id lease?).epoch = t.epoch ∧ (t.releaseLease id lease?).clock = t.clock := by
    intro t id lease?
    cases lease? <;> exact ⟨rfl, rfl⟩
  cases change_of_step hs with
  | pass => exact absurd rfl (ha _)
  | queue =>
    show (s.lockFor _).2.epoch = s.epoch ∧ (s.lockFor _).2.clock = s.clock
    unfold lockFor
    split <;> exact ⟨rfl, rfl⟩
  | refuse | finish | expire | cut => exact hrelease ..
  | _ => exact ⟨rfl, rfl⟩

/-- The current time is the same until time passes. -/
theorem now_of_step (hs : s.step a = some (s', r)) (ha : ∀ ms, a ≠ .pass ms) :
    s'.now = s.now := by
  obtain ⟨hepoch, hclock⟩ := clock_of_step hs ha
  rw [now, now, hepoch, hclock]

/-! ## The beginning of a run -/

/-- What becomes of a run that can begin. -/
inductive Beginning (s : Coordinator) (id : String) (c : Checker) (lease? : Option Lease) :
    Coordinator → Reaction → Prop
  /-- The checker is not ready. -/
  | refused {fault : ConfigFault} {s' : Coordinator} {r : Reaction}
      (hf : c.config.fault? = some fault)
      (hslot : s'.slots.get? id = some ⟨{ c with state := .failed .validating }, .idle⟩)
      (hcall : r.call? = none) (hresult : r.result? = some (.error (c.config.faultError fault))) :
      Beginning s id c lease? s' r
  /-- The run draws a token and stores it. -/
  | begun {s' : Coordinator} {r : Reaction} (hf : c.config.fault? = none)
      (hslot : s'.slots.get? id = some ⟨c.amid (.settingToken s.tokens.draw.1),
        .running lease? (.settingToken s.tokens.draw.1)⟩)
      (hcall : r.call? = some (.setToken c.config.ns c.config.checkName s.tokens.draw.1))
      (hresult : r.result? = none) : Beginning s id c lease? s' r

/-- A run begins if its checker is ready, and is refused otherwise. -/
theorem beginning_of_step (ho : s.Opens a id c lease? events) (hs : s.step a = some (s', r)) :
    Beginning s id c lease? s' r := by
  rw [step_of_opens ho, Option.some.injEq] at hs
  cases hf : c.config.fault? with
  | some fault =>
    rw [startRun, Checker.start_of_fault _ hf] at hs
    obtain ⟨rfl, rfl⟩ := Prod.mk.inj hs
    refine .refused hf ?_ rfl rfl
    rw [slots_releaseLease, slots_put, SortedMap.get?_insert_self]
  | none =>
    rw [startRun, Checker.start_of_ready _ hf] at hs
    obtain ⟨rfl, rfl⟩ := Prod.mk.inj hs
    refine .begun hf ?_ rfl rfl
    rw [slots_put, SortedMap.get?_insert_self]
    rfl

/-! ## The course of a run -/

/-- What becomes of a run in a step. -/
inductive Fate (s : Coordinator) (id : String) (c : Checker) (lease? : Option Lease) (p : Pending) :
    Action → Coordinator → Reaction → Prop
  /-- The step is about something else. -/
  | aside {a : Action} {s' : Coordinator} {r : Reaction} (ha : a.subject? ≠ some id)
      (hslot : s'.slots.get? id = some ⟨c.amid p, .running lease? p⟩) : Fate s id c lease? p a s' r
  /-- The run goes on to its next operation. -/
  | proceed {q : Pending} {answer : Answer} {s' : Coordinator} {r : Reaction}
      (hq : p.next? c.config s.now = some q)
      (hslot : s'.slots.get? id = some ⟨c.amid q, .running lease? q⟩)
      (hcall : r.call? = some (q.call c.config)) (hresult : r.result? = none) :
      Fate s id c lease? p (.answer id (.ok answer)) s' r
  /-- The run is over. -/
  | conclude {outcome : Outcome} {result : Except CheckError Unit} {c' : Checker}
      {s' : Coordinator} {r : Reaction} (h : c.Concludes p outcome result c')
      (hslot : s'.slots.get? id = some ⟨c', .idle⟩) (hcall : r.call? = none)
      (hresult : r.result? = some result) : Fate s id c lease? p (.answer id outcome) s' r
  /-- The run is given up at its deadline. -/
  | expire {lease : Lease} {s' : Coordinator} {r : Reaction} (hlease : lease? = some lease)
      (hslot : s'.slots.get? id = some ⟨(c.amid p).abandon, .idle⟩) (hcall : r.call? = none)
      (hresult : r.result? = some (.error (.deadlineExceeded c.config.ns c.config.checkName
        lease.limit))) : Fate s id c lease? p (.expire id) s' r
  /-- Nobody waits for the run any more. -/
  | drop {s' : Coordinator} {r : Reaction} (hslot : s'.slots.get? id = some ⟨c.amid p, .idle⟩)
      (hcall : r.call? = none) (hresult : r.result? = none) : Fate s id c lease? p (.drop id) s' r

/-- A checker is in one run only. -/
theorem eq_of_running {d : Checker} {lease?' : Option Lease} {q : Pending}
    (h : s.slots.get? id = some ⟨d, .running lease?' q⟩)
    (hslot : s.slots.get? id = some ⟨c, .running lease? p⟩) :
    d = c ∧ lease?' = lease? ∧ q = p := by
  obtain ⟨hd, hrun⟩ := Slot.mk.inj (Option.some.inj (h.symm.trans hslot))
  exact ⟨hd, Activity.running.inj hrun⟩

/-- A checker that is in a run is not about to begin one. -/
theorem not_opens_of_running {d : Checker} {lease?' : Option Lease}
    (hslot : s.slots.get? id = some ⟨c, .running lease? p⟩) :
    ¬ s.Opens a id d lease?' events := by
  intro ho
  cases ho with
  | runOnce h => simp [hslot] at h
  | grant h _ => simp [hslot] at h

/-- **A run that waits goes on, comes to an end, or stays as it is.** -/
theorem fate_of_step (hslot : s.slots.get? id = some ⟨c.amid p, .running lease? p⟩)
    (hs : s.step a = some (s', r)) : Fate s id c lease? p a s' r := by
  by_cases hne : a.subject? ≠ some id
  · exact .aside hne ((slot_of_step hs hne).trans hslot)
  have ha : a.subject? = some id := Decidable.not_not.1 hne
  cases change_of_step hs with
  -- what needs a checker that is in no run cannot happen to this one
  | setDeadline | pass => simp [Action.subject?] at ha
  | place hidle =>
    obtain rfl := Option.some.inj ha
    exact absurd (hidle _ hslot) (by simp)
  | configure h | abandon h | refuseToken h | assign h | assigned h | dropToken h | queue h
  | unqueue h =>
    obtain rfl := Option.some.inj ha
    simp [hslot] at h
  | refuse ho | begin ho =>
    obtain rfl := Option.some.inj ((subject_of_opens ho).symm.trans ha)
    exact absurd ho (not_opens_of_running hslot)
  -- what is left takes the run on or ends it
  | proceed h hq =>
    obtain rfl := Option.some.inj ha
    obtain ⟨rfl, rfl, rfl⟩ := eq_of_running h hslot
    rw [Checker.config_amid] at hq ⊢
    refine .proceed hq ?_ rfl rfl
    rw [slots_put, SortedMap.get?_insert_self, Checker.checker_resume_amid _ hq]
  | finish h hr =>
    obtain rfl := Option.some.inj ha
    obtain ⟨rfl, rfl, rfl⟩ := eq_of_running h hslot
    refine .conclude (Checker.concludes_of_resume hr) ?_ rfl rfl
    rw [slots_releaseLease, slots_put, SortedMap.get?_insert_self]
  | expire h _ =>
    obtain rfl := Option.some.inj ha
    obtain ⟨rfl, rfl, rfl⟩ := eq_of_running h hslot
    refine .expire rfl ?_ rfl ?_
    · rw [slots_releaseLease, slots_put, SortedMap.get?_insert_self]
    · rw [Checker.config_amid]
  | cut h =>
    obtain rfl := Option.some.inj ha
    obtain ⟨rfl, rfl, rfl⟩ := eq_of_running h hslot
    refine .drop ?_ rfl rfl
    rw [slots_releaseLease, slots_put, SortedMap.get?_insert_self]

/-! ## Checkers that are in no run -/

/-- An action that cannot happen, or is about something else, leaves a checker. -/
theorem slot_act (ha : a.subject? = some id → s.step a = none) :
    (s.act a).slots.get? id = s.slots.get? id := by
  rcases hs : s.step a with _ | ⟨s', r⟩
  · rw [act_of_step_eq_none hs]
  · rw [act_of_step hs]
    apply slot_of_step hs
    intro hid
    simp [ha hid] at hs

/-- Nor does the checker return anything then. -/
theorem returned?_eq_none (ha : a.subject? = some id → s.step a = none) :
    s.returned? id a = none := by
  by_cases hid : a.subject? = some id
  · exact returned?_of_step_eq_none (ha hid)
  · exact returned?_of_ne hid

/-- There is nothing to end for a checker that does nothing. -/
theorem step_of_idle (hslot : s.slots.get? id = some ⟨c, .idle⟩) (ha : a.asksNothingOf id = true)
    (hid : a.subject? = some id) : s.step a = none := by
  cases a <;> simp_all [Action.asksNothingOf, Action.subject?, step, answer?, expire?, drop?]

/-- There is nothing to end for a checker that waits for a lock, other than its waiting. -/
theorem step_of_queued {key : String} {lock : Nat}
    (hslot : s.slots.get? id = some ⟨c, .queued key lock⟩) (ha : a.asksNothingOf id = true)
    (hdrop : a ≠ .drop id) (hid : a.subject? = some id) : s.step a = none := by
  cases a <;> simp_all [Action.asksNothingOf, Action.subject?, step, answer?, expire?]

/-- A checker whose waiting for a lock is ended does nothing. -/
theorem step_drop_of_queued {key : String} {lock : Nat}
    (hslot : s.slots.get? id = some ⟨c, .queued key lock⟩) :
    s.step (.drop id) = some ((s.put id c .idle).release id lock, {}) := by
  rw [step, drop?, hslot]

end Coordinator

end PodCheck
