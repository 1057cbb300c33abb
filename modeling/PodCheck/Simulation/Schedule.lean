import PodCheck.Simulation.Timer
import PodCheck.Simulation.World

/-! # Schedules

Jobs that are done side by side in one world. Whoever can go on does so, in the order in which they
were woken, and only when all wait does the clock move to the next moment at which one of them is
due. A job is moved on before its deadline is looked at, so a run that is over at the very moment of
its deadline has met it. -/

namespace PodCheck.Simulation

/-- What a job is to do. -/
inductive Work
  /-- To run a checker at once. -/
  | runOnce
  /-- To run a checker when the lock of its check is free. -/
  | runCheck
  /-- To store a token. -/
  | assign (token : String)
deriving DecidableEq

/-- How a job ended. -/
inductive JobResult
  /-- With a result. -/
  | result (result : Except CheckError Unit)
  /-- Nobody waited for it any more. -/
  | cancelled

/-- How far a job has come. -/
inductive Phase
  /-- It begins at a moment. -/
  | resting (time : Nat)
  /-- It waits for a lock. -/
  | queued
  /-- It waits for an operation. -/
  | flying (flight : Flight)
  /-- It is over. -/
  | over (result : JobResult) (time : Nat)

/-- A job. -/
structure Job where
  /-- The checker. -/
  id : String
  /-- What is to be done. -/
  work : Work
  /-- How far it has come. -/
  phase : Phase
  /-- When nobody waits for it any more. -/
  cut : Option Nat := none
  /-- When its operation is due. -/
  due : Option Timer := none
  /-- When it is given up. -/
  limit : Option Timer := none

/-- When a job is to be polled. -/
def Job.timer? (job : Job) : Option Timer := Timer.first? job.due job.limit

/-- A world with jobs. -/
structure Schedule where
  /-- The world. -/
  world : World
  /-- The jobs. -/
  jobs : List Job
  /-- The jobs that can go on, by their places, first one first. -/
  ready : List Nat
  /-- How many timers have been set. -/
  timers : Nat := 0

namespace Schedule

/-- The lock that a checker waits for. -/
def awaited? (s : Schedule) (id : String) : Option Nat :=
  match s.world.coordinator.slots.get? id with
  | some ⟨_, .queued _ lock⟩ => some lock
  | _ => none

/-- Replaces a job. -/
def put (s : Schedule) (place : Nat) (job : Job) : Schedule :=
  { s with jobs := s.jobs.set place job }

/-- Wakes the jobs that wait for a lock which has become free. -/
def wakeQueued (s : Schedule) : Schedule :=
  let woken := (List.range s.jobs.length).filter fun i =>
    match s.jobs[i]? with
    | some job =>
      match job.phase, s.awaited? job.id with
      | .queued, some lock => s.world.coordinator.holds job.id lock && !s.ready.contains i
      | _, _ => false
    | none => false
  { s with ready := s.ready ++ woken }

/-- Ends a job. -/
def finish (s : Schedule) (place : Nat) (job : Job) (result : JobResult) : Schedule :=
  (s.put place { job with
    phase := .over result s.world.clock, due := none, limit := none }).wakeQueued

/-- Lets a job wait for its operation, unless it is to be given up. -/
def hold (s : Schedule) (place : Nat) (job : Job) (flight : Flight) (wake : Option Nat) :
    Schedule :=
  let now := s.world.clock
  let expires := (s.world.coordinator.lease? job.id).map (·.expires)
  if expires.any (· ≤ now) then
    let (world, reaction) := s.world.act (.expire job.id)
    { s with world }.finish place job (.result (reaction.result?.getD (.ok ())))
  else if job.cut.any (· ≤ now) then
    let (world, _) := s.world.act (.drop job.id)
    { s with world }.finish place job .cancelled
  else
    let due := wake.map fun time => Timer.mk time s.timers
    let limit := job.limit.or ((expires.or job.cut).map fun time => ⟨time, s.timers + 1⟩)
    { s with timers := s.timers + 2 }.put place
      { job with phase := .flying flight, due := due, limit := limit }

/-- Moves a job on from a reaction of the coordinator: to the operation that it waits for now, or to
its end. Every operation takes a unit of fuel. -/
def follow : Nat → Schedule → Nat → Job → Reaction → Schedule
  | 0, s, _, _, _ => s
  | fuel + 1, s, place, job, reaction =>
    match reaction.result?, reaction.call? with
    | some result, _ => s.finish place job (.result result)
    | none, some call =>
      match s.world.pollFlight (s.world.client.call call) with
      | (world, .flying flight wake) => { s with world }.hold place job flight wake
      | (world, .over outcome) =>
        let (world, reaction) := world.act (.answer job.id outcome)
        follow fuel { s with world } place job reaction
    | none, none =>
      match s.awaited? job.id with
      | none => s
      | some lock =>
        if s.world.coordinator.holds job.id lock then
          let (world, reaction) := s.world.act (.grant job.id)
          follow fuel { s with world } place job reaction
        else s.put place { job with phase := .queued, due := none }

/-- More operations than a job can have. -/
def operationBound : Nat := 6

/-- The action by which work begins. -/
def beginning (id : String) : Work → Action
  | .runOnce => .runOnce id
  | .runCheck => .runCheck id
  | .assign token => .assign id token

/-- Polls a job. -/
def poll (s : Schedule) (place : Nat) : Schedule :=
  match s.jobs[place]? with
  | none => s
  | some job =>
    match job.phase with
    | .over .. => s
    | .resting time =>
      if s.world.clock < time then
        { s with timers := s.timers + 1 }.put place { job with due := some ⟨time, s.timers⟩ }
      else
        let (world, reaction) := s.world.act (beginning job.id job.work)
        follow operationBound { s with world } place { job with due := none } reaction
    | .queued => follow operationBound s place job {}
    | .flying flight =>
      match s.world.pollFlight flight with
      | (world, .flying flight wake) => { s with world }.hold place job flight wake
      | (world, .over outcome) =>
        let (world, reaction) := world.act (.answer job.id outcome)
        follow operationBound { s with world } place job reaction

/-- The places of the jobs that are due by a moment, in the order of their timers. -/
def dueBy (s : Schedule) (time : Nat) : List Nat :=
  let timed := (List.range s.jobs.length).filterMap fun i =>
    ((s.jobs[i]?).bind Job.timer?).bind fun t => if t.time ≤ time then some (t, i) else none
  (timed.mergeSort fun a b => !b.1.before a.1).map (·.2)

/-- The first timer of some jobs, or else the given one. -/
def firstTimer? (best : Option Timer) (jobs : List Job) : Option Timer :=
  jobs.foldl (fun best job => Timer.first? best job.timer?) best

/-- The next moment at which a job is due. -/
def nextTime? (s : Schedule) : Option Nat := (firstTimer? none s.jobs).map (·.time)

/-- Moves all jobs on until none can go on any more. Every poll takes a unit of fuel. -/
def run : Nat → Schedule → Schedule
  | 0, s => s
  | fuel + 1, s =>
    match s.ready with
    | place :: ready => run fuel ({ s with ready }.poll place)
    | [] =>
      match s.nextTime? with
      | none => s
      | some time =>
        let s := { s with world := s.world.passTo time }
        run fuel { s with ready := s.dueBy time }

end Schedule

/-- How often jobs can be polled before they are over or have stopped. -/
def World.scheduleBound (w : World) (jobs : List Job) : Nat :=
  64 * (jobs.length + 1) + 8 * w.pollBound

/-- Runs jobs until none can go on any more. -/
def World.runJobs (w : World) (jobs : List Job) : World × List Job :=
  let s := Schedule.run (w.scheduleBound jobs) ⟨w, jobs, List.range jobs.length, 0⟩
  (s.world, s.jobs)

/-- Runs a single job; `none` if it never ends. -/
def World.runJob (w : World) (job : Job) : World × Option JobResult :=
  let (w, jobs) := w.runJobs [job]
  (w, jobs.head?.bind fun t =>
    match t.phase with
    | .over result _ => some result
    | _ => none)

end PodCheck.Simulation
