import PodCheck.Checker

/-! # Coordination of runs

Several checkers may run at a time, but runs of one check follow each other. A coordinated run looks
up the lock of its check, which is made when it is first asked for, and queues for it; from the
moment it holds the lock it has a deadline. The coordinator is a state with a step function: an
action is something that a checker is told to do, an outcome that the cluster sends, the loss of
interest in a run, or the passing of time. Time does not pass beyond a deadline, nor while a free
lock has somebody waiting for it. Main statements: a lock is held by the run at the head of its
queue (`Coordinator.holds_iff`), and what happens in one queue leaves the others alone
(`Coordinator.queue_enqueue`, `Coordinator.queue_release`). -/

namespace PodCheck

/-- A run's hold on the lock of its check. -/
structure Lease where
  /-- The key of the lock. -/
  key : String
  /-- The number of the lock. -/
  lock : Nat
  /-- When the run got the lock, in milliseconds. -/
  since : Nat
  /-- How long the run may take. -/
  limit : Duration
deriving DecidableEq

/-- When a run is given up. -/
def Lease.expires (l : Lease) : Nat := l.since + l.limit.ceilMillis

/-- What a checker is doing. -/
inductive Activity
  /-- Nothing. -/
  | idle
  /-- It stores a token. -/
  | assigning (token : String)
  /-- It queues for the lock of a key. -/
  | queued (key : String) (lock : Nat)
  /-- It runs, with a lock if the run is coordinated, and waits for an operation. -/
  | running (lease? : Option Lease) (pending : Pending)
deriving DecidableEq

/-- A checker and what it is doing. -/
structure Slot where
  /-- The checker. -/
  checker : Checker
  /-- What it is doing. -/
  activity : Activity := .idle
deriving DecidableEq

/-- The minutes that a coordinated run may take unless told otherwise. -/
def defaultDeadlineMinutes : Nat := 5

/-- The state of all checkers. -/
structure Coordinator where
  /-- The checkers. -/
  slots : SortedMap String Slot := .empty
  /-- The numbers of the locks, by their keys. -/
  locks : SortedMap String Nat := .empty
  /-- Who waits for each lock, by its number; the first one holds it. -/
  queues : List (List String) := []
  /-- Where tokens come from. -/
  tokens : TokenSource := {}
  /-- How long a coordinated run may take. -/
  deadline : Duration := .ofSecs (defaultDeadlineMinutes * 60)
  /-- The time at the beginning. -/
  epoch : Instant
  /-- The milliseconds since then. -/
  clock : Nat := 0

/-- Something that happens. -/
inductive Action
  /-- A checker is added, in place of one of the same name. -/
  | place (id : String) (checker : Checker)
  /-- A checker is configured anew. -/
  | configure (id : String) (config : CheckerConfig)
  /-- The deadline of later runs is set. -/
  | setDeadline (deadline : Duration)
  /-- A checker is to store a token. -/
  | assign (id token : String)
  /-- A checker is to run at once. -/
  | runOnce (id : String)
  /-- A checker is to run when the lock of its check is free. -/
  | runCheck (id : String)
  /-- A checker that waits for a lock gets it. -/
  | grant (id : String)
  /-- The operation that a checker waits for has ended. -/
  | answer (id : String) (outcome : Outcome)
  /-- The deadline of a run is over. -/
  | expire (id : String)
  /-- Nobody waits for a checker any more. -/
  | drop (id : String)
  /-- The latest run of a checker is given up. -/
  | abandon (id : String)
  /-- Milliseconds pass. -/
  | pass (ms : Nat)

/-- What a step brings about. -/
structure Reaction where
  /-- What is logged. -/
  events : List Event := []
  /-- The operation that the checker now waits for. -/
  call? : Option Call := none
  /-- The result, if the checker is done. -/
  result? : Option (Except CheckError Unit) := none

/-- The key of the lock of a check. -/
def lockKey (c : CheckerConfig) : String := c.ns ++ ":" ++ c.checkName

namespace Coordinator

/-! ## Locks -/

/-- Who waits for a lock, its holder first. -/
def queue (s : Coordinator) (lock : Nat) : List String := (s.queues[lock]?).getD []

/-- Whether a checker holds a lock, or may take it. -/
def holds (s : Coordinator) (id : String) (lock : Nat) : Bool := (s.queue lock).head? = some id

/-- The lock is held by the run at the head of its queue. -/
theorem holds_iff {s : Coordinator} {id : String} {lock : Nat} :
    s.holds id lock = true ↔ ∃ rest, s.queue lock = id :: rest := by
  unfold holds
  cases s.queue lock with
  | nil => simp
  | cons x xs => simp

/-- The lock of a key, made if there is none yet. The map of locks has a lock of its own, which is
held for this look-up alone; nothing is waited for meanwhile, so the look-up is part of a step. -/
def lockFor (s : Coordinator) (key : String) : Nat × Coordinator :=
  match s.locks.get? key with
  | some lock => (lock, s)
  | none =>
    (s.queues.length,
      { s with locks := s.locks.insert key s.queues.length, queues := s.queues ++ [[]] })

/-- Puts a checker at the end of a queue. -/
def enqueue (s : Coordinator) (id : String) (lock : Nat) : Coordinator :=
  { s with queues := s.queues.modify lock (· ++ [id]) }

/-- Takes a checker out of a queue. -/
def release (s : Coordinator) (id : String) (lock : Nat) : Coordinator :=
  { s with queues := s.queues.modify lock (·.filter (· ≠ id)) }

/-- A queue after a checker was put at the end of one. -/
theorem queue_enqueue {s : Coordinator} {lock : Nat} (id : String) (h : lock < s.queues.length)
    (other : Nat) :
    (s.enqueue id lock).queue other
      = if other = lock then s.queue other ++ [id] else s.queue other := by
  unfold queue enqueue
  by_cases ho : other = lock
  · subst ho
    simp [h]
  · simp [ho, Ne.symm ho]

/-- A queue after a checker was taken out of one. -/
@[simp] theorem queue_release (s : Coordinator) (id : String) (lock other : Nat) :
    (s.release id lock).queue other
      = if other = lock then (s.queue other).filter (· ≠ id) else s.queue other := by
  unfold queue release
  by_cases ho : other = lock
  · subst ho
    cases h : s.queues[other]? <;> simp [h]
  · simp [ho, Ne.symm ho]

/-- Ends a hold on a lock, if there is one. -/
def releaseLease (s : Coordinator) (id : String) : Option Lease → Coordinator
  | some lease => s.release id lease.lock
  | none => s

/-! ## Turns -/

/-- The current time. -/
def now (s : Coordinator) : Instant := s.epoch.afterMillis s.clock

/-- Replaces a checker and what it is doing. -/
def put (s : Coordinator) (id : String) (checker : Checker) (activity : Activity) : Coordinator :=
  { s with slots := s.slots.insert id ⟨checker, activity⟩ }

/-- Takes over a turn of a run. A run that is over gives its lock back. -/
def takeTurn (s : Coordinator) (id : String) (lease? : Option Lease) (turn : Turn)
    (before : List Event) : Coordinator × Reaction :=
  match turn.next with
  | .waiting pending =>
    (s.put id turn.checker (.running lease? pending),
      { events := before ++ turn.events, call? := some (pending.call turn.checker.config) })
  | .finished result =>
    ((s.put id turn.checker .idle).releaseLease id lease?,
      { events := before ++ turn.events, result? := some result })

/-- Starts a run. -/
def startRun (s : Coordinator) (id : String) (checker : Checker) (lease? : Option Lease)
    (before : List Event) : Coordinator × Reaction :=
  let (turn, tokens) := checker.start s.tokens
  { s with tokens }.takeTurn id lease? turn before

/-! ## Steps -/

/-- A checker that does nothing. -/
def idleChecker? (s : Coordinator) (id : String) : Option Checker :=
  match s.slots.get? id with
  | some ⟨checker, .idle⟩ => some checker
  | _ => none

/-- Begins to store a token, unless the checker is not ready for it. -/
def assign? (s : Coordinator) (id token : String) : Option (Coordinator × Reaction) :=
  (s.idleChecker? id).map fun checker =>
    match checker.config.checkToken with
    | .error e => (s, { result? := some (.error e) })
    | .ok () => (s.put id checker (.assigning token), { call? := some (checker.assignCall token) })

/-- Queues for the lock of a check. -/
def runCheck? (s : Coordinator) (id : String) : Option (Coordinator × Reaction) :=
  (s.idleChecker? id).map fun checker =>
    let key := lockKey checker.config
    let (lock, s) := s.lockFor key
    ((s.put id checker (.queued key lock)).enqueue id lock, {})

/-- Starts a run that has the lock. -/
def grant? (s : Coordinator) (id : String) : Option (Coordinator × Reaction) :=
  match s.slots.get? id with
  | some ⟨checker, .queued key lock⟩ =>
    if s.holds id lock then
      some (s.startRun id checker (some ⟨key, lock, s.clock, s.deadline⟩) [.lockAcquired key])
    else none
  | _ => none

/-- Hands the outcome of an operation to the checker that waits for it. -/
def answer? (s : Coordinator) (id : String) (outcome : Outcome) :
    Option (Coordinator × Reaction) :=
  match s.slots.get? id with
  | some ⟨checker, .assigning token⟩ =>
    let (checker, events, result) := checker.assigned token outcome
    some (s.put id checker .idle, { events, result? := some result })
  | some ⟨checker, .running lease? pending⟩ =>
    some (s.takeTurn id lease? (checker.resume pending outcome s.now) [])
  | _ => none

/-- Gives up a run whose deadline is over. -/
def expire? (s : Coordinator) (id : String) : Option (Coordinator × Reaction) :=
  match s.slots.get? id with
  | some ⟨checker, .running (some lease) _⟩ =>
    if lease.expires ≤ s.clock then
      let checker := checker.abandon
      some ((s.put id checker .idle).release id lease.lock,
        { events := [.runExpired lease.key checker.state]
          result? := some (.error (.deadlineExceeded checker.config.ns checker.config.checkName
            lease.limit)) })
    else none
  | _ => none

/-- Forgets what a checker is doing. Its state stays as it is. -/
def drop? (s : Coordinator) (id : String) : Option (Coordinator × Reaction) :=
  match s.slots.get? id with
  | some ⟨checker, .queued _ lock⟩ => some ((s.put id checker .idle).release id lock, {})
  | some ⟨checker, .running lease? _⟩ =>
    some ((s.put id checker .idle).releaseLease id lease?, {})
  | some ⟨checker, .assigning _⟩ => some (s.put id checker .idle, {})
  | _ => none

/-- Whether time may pass: no run is beyond its deadline then, and nobody waits for a lock that is
free. -/
def mayPass (s : Coordinator) (ms : Nat) : Bool :=
  s.slots.entries.all fun (id, slot) =>
    match slot.activity with
    | .queued _ lock => !s.holds id lock
    | .running (some lease) _ => s.clock + ms ≤ lease.expires
    | _ => true

/-- What follows from an action; `none` if it cannot happen. -/
def step (s : Coordinator) : Action → Option (Coordinator × Reaction)
  | .place id checker =>
    match s.slots.get? id with
    | none => some (s.put id checker .idle, {})
    | some _ => (s.idleChecker? id).map fun _ => (s.put id checker .idle, {})
  | .configure id config =>
    (s.idleChecker? id).map fun checker => (s.put id { checker with config } .idle, {})
  | .setDeadline deadline => some ({ s with deadline }, {})
  | .assign id token => s.assign? id token
  | .runOnce id => (s.idleChecker? id).map fun checker => s.startRun id checker none []
  | .runCheck id => s.runCheck? id
  | .grant id => s.grant? id
  | .answer id outcome => s.answer? id outcome
  | .expire id => s.expire? id
  | .drop id => s.drop? id
  | .abandon id => (s.idleChecker? id).map fun checker => (s.put id checker.abandon .idle, {})
  | .pass ms => if ms = 0 || s.mayPass ms then some ({ s with clock := s.clock + ms }, {}) else none

/-! ## Operations that come back -/

/-- The lease of a checker's run. -/
def lease? (s : Coordinator) (id : String) : Option Lease :=
  match s.slots.get? id with
  | some ⟨_, .running lease? _⟩ => lease?
  | _ => none

/-- An operation comes back at a time, and the checker takes the outcome, unless the deadline of its
run was over before: then the run expires at its deadline. -/
def settle? (s : Coordinator) (id : String) (time : Nat) (outcome : Outcome) :
    Option (Coordinator × Reaction) := do
  let expires := ((s.lease? id).map (·.expires)).filter (· < time)
  let (s, _) ← s.step (.pass (expires.getD time - s.clock))
  s.step (if expires.isSome then .expire id else .answer id outcome)

end Coordinator

end PodCheck
