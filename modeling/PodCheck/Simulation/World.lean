import PodCheck.Coordinator
import PodCheck.Simulation.Client
import PodCheck.Whitelist

/-! # Simulated worlds

A world is a coordinator with a simulated client. It keeps what the client notes down and what is
logged. Time passes only when it is told to, and a single operation is awaited by moving the clock
from one moment at which it is due to the next. -/

namespace PodCheck.Simulation

/-- A simulated world. -/
structure World where
  /-- The checkers. -/
  coordinator : Coordinator
  /-- The cluster. -/
  client : Client
  /-- What the cluster noted down, last record first. -/
  records : List Record := []
  /-- What was logged, last event first. -/
  events : List Event := []

namespace World

/-- The milliseconds since the beginning. -/
def clock (w : World) : Nat := w.coordinator.clock

/-- Logs events. -/
def log (w : World) (events : List Event) : World :=
  { w with events := events.reverse ++ w.events }

/-- Lets the coordinator take a step. An action that cannot happen has no effect. -/
def act (w : World) (action : Action) : World × Reaction :=
  match w.coordinator.step action with
  | some (coordinator, reaction) =>
    ({ w with coordinator }.log reaction.events, { reaction with events := [] })
  | none => (w, {})

/-- Moves the clock to a moment that is to come. -/
def passTo (w : World) (time : Nat) : World := (w.act (.pass (time - w.clock))).1

/-- Polls an operation. -/
def pollFlight (w : World) (flight : Flight) : World × Poll Flight :=
  let polled := w.client.poll w.clock flight
  (({ w with
      client := polled.client
      records := polled.records.reverse ++ w.records }).log polled.events, polled.poll)

/-! ## Single operations -/

/-- Waits for an operation; `none` if it never comes back. Every poll takes a unit of fuel. -/
def await : Nat → World → Flight → World × Option Outcome
  | 0, w, _ => (w, none)
  | fuel + 1, w, flight =>
    match w.pollFlight flight with
    | (w, .over outcome) => (w, some outcome)
    | (w, .flying next (some wake)) => await fuel (w.passTo wake) next
    | (w, .flying _ none) => (w, none)

/-- How often an operation can be polled before it is over or has stopped. -/
def pollBound (w : World) : Nat :=
  match w.client with
  | .memory _ => 4
  | .api c => 3 * c.script.length + 8

/-- Calls an operation and waits for it. -/
def call (w : World) (call : Call) : World × Option Outcome :=
  await w.pollBound w (w.client.call call)

/-- A world as a place where reports are judged. -/
def setting : Whitelist.Setting World := ⟨call, log⟩

end World

end PodCheck.Simulation
