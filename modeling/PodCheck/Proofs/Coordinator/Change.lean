import PodCheck.Coordinator
import PodCheck.Proofs.Checker.Turn

/-! # What a step can do

Every step of a coordinator is one of the changes listed here, with all that it needs and all that
it brings about (`Coordinator.change_of_step`). Whatever is to hold of all reachable states is shown
for each change, and nothing else opens the step function. -/

namespace PodCheck

/-- The checker that an action is about. -/
def Action.subject? : Action → Option String
  | .place id _ | .configure id _ | .assign id _ | .runOnce id | .runCheck id | .grant id
  | .answer id _ | .expire id | .drop id | .abandon id => some id
  | .setDeadline _ | .pass _ => none

namespace Coordinator

/-! ## Parts of a state -/

section Parts

variable (s : Coordinator) (id : String) (checker : Checker) (activity : Activity)

@[simp] theorem slots_put :
    (s.put id checker activity).slots = s.slots.insert id ⟨checker, activity⟩ := rfl

@[simp] theorem queues_put : (s.put id checker activity).queues = s.queues := rfl

@[simp] theorem queue_put : (s.put id checker activity).queue = s.queue := rfl

@[simp] theorem slots_release (lock : Nat) : (s.release id lock).slots = s.slots := rfl

@[simp] theorem slots_releaseLease (lease? : Option Lease) :
    (s.releaseLease id lease?).slots = s.slots := by
  cases lease? <;> rfl

@[simp] theorem slots_enqueue (lock : Nat) : (s.enqueue id lock).slots = s.slots := rfl

@[simp] theorem slots_lockFor (key : String) : (s.lockFor key).2.slots = s.slots := by
  unfold lockFor
  cases s.locks.get? key <;> rfl

end Parts

/-! ## Changes -/

/-- A run of a checker can begin: at once, or with the lock that the checker waited for. -/
inductive Opens (s : Coordinator) : Action → String → Checker → Option Lease → List Event → Prop
  /-- The run needs no lock. -/
  | runOnce {id : String} {c : Checker} (h : s.slots.get? id = some ⟨c, .idle⟩) :
      Opens s (.runOnce id) id c none []
  /-- The run gets its lock. -/
  | grant {id key : String} {lock : Nat} {c : Checker}
      (h : s.slots.get? id = some ⟨c, .queued key lock⟩) (hold : s.holds id lock = true) :
      Opens s (.grant id) id c (some ⟨key, lock, s.clock, s.deadline⟩) [.lockAcquired key]

/-- A change of the coordinator by an action, with what the step brings about. -/
inductive Change (s : Coordinator) : Action → Coordinator → Reaction → Prop
  /-- A checker is added, or replaced while it does nothing. -/
  | place {id : String} {checker : Checker}
      (h : ∀ slot, s.slots.get? id = some slot → slot.activity = .idle) :
      Change s (.place id checker) (s.put id checker .idle) {}
  /-- A checker is configured anew. -/
  | configure {id : String} {config : CheckerConfig} {c : Checker}
      (h : s.slots.get? id = some ⟨c, .idle⟩) :
      Change s (.configure id config) (s.put id { c with config } .idle) {}
  /-- The latest run of a checker is given up. -/
  | abandon {id : String} {c : Checker} (h : s.slots.get? id = some ⟨c, .idle⟩) :
      Change s (.abandon id) (s.put id c.abandon .idle) {}
  /-- The deadline of later runs is set. -/
  | setDeadline {deadline : Duration} : Change s (.setDeadline deadline) { s with deadline } {}
  /-- Time passes. -/
  | pass {ms : Nat} (h : ms = 0 ∨ s.mayPass ms = true) :
      Change s (.pass ms) { s with clock := s.clock + ms } {}
  /-- A checker is not ready to store a token. -/
  | refuseToken {id token : String} {c : Checker} {e : CheckError}
      (h : s.slots.get? id = some ⟨c, .idle⟩) (he : c.config.checkToken = .error e) :
      Change s (.assign id token) s { result? := some (.error e) }
  /-- A checker begins to store a token. -/
  | assign {id token : String} {c : Checker} (h : s.slots.get? id = some ⟨c, .idle⟩)
      (he : c.config.checkToken = .ok ()) :
      Change s (.assign id token) (s.put id c (.assigning token))
        { call? := some (c.assignCall token) }
  /-- Storing a token has ended. -/
  | assigned {id token : String} {c : Checker} {outcome : Outcome}
      (h : s.slots.get? id = some ⟨c, .assigning token⟩) :
      Change s (.answer id outcome) (s.put id (c.assigned token outcome).1 .idle)
        { events := (c.assigned token outcome).2.1
          result? := some (c.assigned token outcome).2.2 }
  /-- Nobody waits for storing a token any more. -/
  | dropToken {id token : String} {c : Checker}
      (h : s.slots.get? id = some ⟨c, .assigning token⟩) :
      Change s (.drop id) (s.put id c .idle) {}
  /-- A checker queues for the lock of its check. -/
  | queue {id : String} {c : Checker} (h : s.slots.get? id = some ⟨c, .idle⟩) :
      Change s (.runCheck id)
        (((s.lockFor (lockKey c.config)).2.put id c
          (.queued (lockKey c.config) (s.lockFor (lockKey c.config)).1)).enqueue id
            (s.lockFor (lockKey c.config)).1) {}
  /-- Nobody waits for a checker in a queue any more. -/
  | unqueue {id key : String} {lock : Nat} {c : Checker}
      (h : s.slots.get? id = some ⟨c, .queued key lock⟩) :
      Change s (.drop id) ((s.put id c .idle).release id lock) {}
  /-- A run is refused, as its checker is not ready. -/
  | refuse {a : Action} {id : String} {c : Checker} {lease? : Option Lease} {events : List Event}
      {fault : ConfigFault} (h : Opens s a id c lease? events)
      (hf : c.config.fault? = some fault) :
      Change s a
        ((s.put id { c with state := .failed .validating } .idle).releaseLease id lease?)
        { events := events ++ [.runFailed c.config.podName (.failed .validating)
            (c.config.faultError fault)]
          result? := some (.error (c.config.faultError fault)) }
  /-- A run begins: it draws a token and stores it. -/
  | begin {a : Action} {id : String} {c : Checker} {lease? : Option Lease} {events : List Event}
      (h : Opens s a id c lease? events) (hf : c.config.fault? = none) :
      Change s a
        ({ s with tokens := s.tokens.draw.2 }.put id
          { c with state := .inProgress .tokenRotating }
          (.running lease? (.settingToken s.tokens.draw.1)))
        { events := events
          call? := some (.setToken c.config.ns c.config.checkName s.tokens.draw.1) }
  /-- A run goes on to its next operation. -/
  | proceed {id : String} {c : Checker} {lease? : Option Lease} {p q : Pending} {answer : Answer}
      (h : s.slots.get? id = some ⟨c, .running lease? p⟩) (hq : p.next? c.config s.now = some q) :
      Change s (.answer id (.ok answer))
        (s.put id (c.resume p (.ok answer) s.now).checker (.running lease? q))
        { events := (c.resume p (.ok answer) s.now).events
          call? := some (q.call c.config) }
  /-- A run is over. -/
  | finish {id : String} {c : Checker} {lease? : Option Lease} {p : Pending} {outcome : Outcome}
      {result : Except CheckError Unit} (h : s.slots.get? id = some ⟨c, .running lease? p⟩)
      (hr : (c.resume p outcome s.now).next = .finished result) :
      Change s (.answer id outcome)
        ((s.put id (c.resume p outcome s.now).checker .idle).releaseLease id lease?)
        { events := (c.resume p outcome s.now).events
          result? := some result }
  /-- A run is given up at its deadline. -/
  | expire {id : String} {c : Checker} {lease : Lease} {p : Pending}
      (h : s.slots.get? id = some ⟨c, .running (some lease) p⟩)
      (hlate : lease.expires ≤ s.clock) :
      Change s (.expire id) ((s.put id c.abandon .idle).releaseLease id (some lease))
        { events := [.runExpired lease.key c.abandon.state]
          result? := some (.error (.deadlineExceeded c.config.ns c.config.checkName
            lease.limit)) }
  /-- Nobody waits for a run any more. -/
  | cut {id : String} {c : Checker} {lease? : Option Lease} {p : Pending}
      (h : s.slots.get? id = some ⟨c, .running lease? p⟩) :
      Change s (.drop id) ((s.put id c .idle).releaseLease id lease?) {}

variable {s s' : Coordinator} {r : Reaction}

/-- A checker that does nothing, by its slot. -/
theorem idleChecker?_eq_some {id : String} {c : Checker} :
    s.idleChecker? id = some c ↔ s.slots.get? id = some ⟨c, .idle⟩ := by
  unfold idleChecker?
  split
  · rename_i d h
    simp [h]
  · rename_i h
    simp only [reduceCtorEq, false_iff]
    exact h c

/-- A run that can begin is started by a step. -/
theorem step_of_opens {a : Action} {id : String} {c : Checker} {lease? : Option Lease}
    {events : List Event} (h : Opens s a id c lease? events) :
    s.step a = some (s.startRun id c lease? events) := by
  cases h with
  | runOnce hslot => rw [step, idleChecker?_eq_some.2 hslot, Option.map_some]
  | grant hslot hold =>
    rw [step, grant?, hslot]
    exact if_pos hold

/-- Starting a run either refuses it or begins it. -/
theorem change_of_startRun {a : Action} {id : String} {c : Checker} {lease? : Option Lease}
    {events : List Event} (h : Opens s a id c lease? events)
    (hs : s.startRun id c lease? events = (s', r)) : Change s a s' r := by
  cases hf : c.config.fault? with
  | some fault =>
    rw [startRun, Checker.start_of_fault _ hf] at hs
    obtain ⟨rfl, rfl⟩ := Prod.mk.inj hs
    exact .refuse h hf
  | none =>
    rw [startRun, Checker.start_of_ready _ hf] at hs
    simp only [takeTurn, List.append_nil] at hs
    obtain ⟨rfl, rfl⟩ := Prod.mk.inj hs
    exact .begin h hf

/-- Handing a run the outcome of its operation either lets it go on or ends it. -/
theorem change_of_resume {id : String} {c : Checker} {lease? : Option Lease} {p : Pending}
    {outcome : Outcome} (h : s.slots.get? id = some ⟨c, .running lease? p⟩)
    (hs : s.takeTurn id lease? (c.resume p outcome s.now) [] = (s', r)) :
    Change s (.answer id outcome) s' r := by
  cases hn : (c.resume p outcome s.now).next with
  | waiting q =>
    obtain ⟨⟨answer, rfl⟩, hq⟩ := Checker.next_resume_eq_waiting_iff.1 hn
    simp only [takeTurn, hn, Checker.config_resume, List.nil_append] at hs
    obtain ⟨rfl, rfl⟩ := Prod.mk.inj hs
    exact .proceed h hq
  | finished result =>
    simp only [takeTurn, hn, List.nil_append] at hs
    obtain ⟨rfl, rfl⟩ := Prod.mk.inj hs
    exact .finish h hn

/-- **Every step is one of the changes.** -/
theorem change_of_step {a : Action} (h : s.step a = some (s', r)) : Change s a s' r := by
  cases a with
  | place id checker =>
    simp only [step] at h
    split at h
    · rename_i hnone
      obtain ⟨rfl, rfl⟩ := Prod.mk.inj (Option.some.inj h)
      exact .place fun slot hslot => by simp [hnone] at hslot
    · obtain ⟨c, hc, h⟩ := Option.map_eq_some_iff.1 h
      obtain ⟨rfl, rfl⟩ := Prod.mk.inj h
      rw [idleChecker?_eq_some] at hc
      exact .place fun slot hslot => by
        obtain rfl : (⟨c, .idle⟩ : Slot) = slot := by simpa [hc] using hslot
        rfl
  | configure id config =>
    obtain ⟨c, hc, h⟩ := Option.map_eq_some_iff.1 h
    obtain ⟨rfl, rfl⟩ := Prod.mk.inj h
    exact .configure (idleChecker?_eq_some.1 hc)
  | setDeadline deadline =>
    obtain ⟨rfl, rfl⟩ := Prod.mk.inj (Option.some.inj h)
    exact .setDeadline
  | assign id token =>
    obtain ⟨c, hc, h⟩ := Option.map_eq_some_iff.1 h
    rw [idleChecker?_eq_some] at hc
    split at h
    · rename_i e he
      obtain ⟨rfl, rfl⟩ := Prod.mk.inj h
      exact .refuseToken hc he
    · rename_i he
      obtain ⟨rfl, rfl⟩ := Prod.mk.inj h
      exact .assign hc he
  | runOnce id =>
    obtain ⟨c, hc, h⟩ := Option.map_eq_some_iff.1 h
    exact change_of_startRun (.runOnce (idleChecker?_eq_some.1 hc)) h
  | runCheck id =>
    obtain ⟨c, hc, h⟩ := Option.map_eq_some_iff.1 h
    obtain ⟨rfl, rfl⟩ := Prod.mk.inj h
    exact .queue (idleChecker?_eq_some.1 hc)
  | grant id =>
    simp only [step, grant?] at h
    split at h
    · rename_i c key lock hslot
      split at h
      · rename_i hold
        exact change_of_startRun (.grant hslot hold) (Option.some.inj h)
      · simp at h
    · simp at h
  | answer id outcome =>
    simp only [step, answer?] at h
    split at h
    · rename_i c token hslot
      obtain ⟨rfl, rfl⟩ := Prod.mk.inj (Option.some.inj h)
      exact .assigned hslot
    · rename_i c lease? p hslot
      exact change_of_resume hslot (Option.some.inj h)
    · simp at h
  | expire id =>
    simp only [step, expire?] at h
    split at h
    · rename_i c lease p hslot
      split at h
      · rename_i hlate
        obtain ⟨rfl, rfl⟩ := Prod.mk.inj (Option.some.inj h)
        exact .expire hslot hlate
      · simp at h
    · simp at h
  | drop id =>
    simp only [step, drop?] at h
    split at h
    · rename_i c key lock hslot
      obtain ⟨rfl, rfl⟩ := Prod.mk.inj (Option.some.inj h)
      exact .unqueue hslot
    · rename_i c lease? p hslot
      obtain ⟨rfl, rfl⟩ := Prod.mk.inj (Option.some.inj h)
      exact .cut hslot
    · rename_i c token hslot
      obtain ⟨rfl, rfl⟩ := Prod.mk.inj (Option.some.inj h)
      exact .dropToken hslot
    · simp at h
  | abandon id =>
    obtain ⟨c, hc, h⟩ := Option.map_eq_some_iff.1 h
    obtain ⟨rfl, rfl⟩ := Prod.mk.inj h
    exact .abandon (idleChecker?_eq_some.1 hc)
  | pass ms =>
    simp only [step] at h
    split at h
    · rename_i hms
      obtain ⟨rfl, rfl⟩ := Prod.mk.inj (Option.some.inj h)
      exact .pass (by simpa using hms)
    · simp at h

end Coordinator

end PodCheck
