import PodCheck.Api.Exchange
import PodCheck.Cluster.Memory

/-! # Simulated clients

Operations of a simulated cluster take time. A flight is an operation on its way: it is polled, and
either comes back with its outcome or says when to poll it again. Operations of a cluster in memory
follow rules that delay them, stop them or make them fail; operations over an API server are
answered from a script. -/

namespace PodCheck.Simulation

/-! ## Records -/

/-- What a simulated cluster notes down. -/
inductive Record
  /-- An operation was called. -/
  | begun (time : Nat) (call : Call)
  /-- An operation came back. -/
  | ended (time : Nat) (call : Call) (outcome : Outcome)
  /-- A request was sent. -/
  | requested (request : Api.Request)

/-- The state of a flight after a poll. -/
inductive Poll (φ : Type)
  /-- It is over. -/
  | over (outcome : Outcome)
  /-- It goes on; without a time, it never comes back by itself. -/
  | flying (flight : φ) (wake : Option Nat)

/-- What a poll brings about. -/
structure Polled (κ φ : Type) where
  /-- The client. -/
  client : κ
  /-- The flight. -/
  poll : Poll φ
  /-- What was noted down. -/
  records : List Record := []
  /-- What was logged. -/
  events : List Event := []

/-! ## Clusters in memory -/

/-- The kinds of operations. -/
inductive CallKind
  /-- Storing a token. -/
  | setToken
  /-- Reading a token. -/
  | getToken
  /-- Deleting a pod. -/
  | deletePod
  /-- Creating a pod. -/
  | createPod
deriving DecidableEq

/-- The kind of an operation. -/
def CallKind.of : Call → CallKind
  | .setToken .. => .setToken
  | .getToken .. => .getToken
  | .deletePod .. => .deletePod
  | .createPod .. => .createPod

/-- Where an operation stops for ever. -/
inductive HangPoint
  /-- Before it has any effect. -/
  | before
  /-- After it has had its effect. -/
  | after
deriving DecidableEq

/-- How operations of a kind behave. -/
structure Rule where
  /-- Milliseconds before the effect. -/
  before : Nat := 0
  /-- Milliseconds after the effect. -/
  after : Nat := 0
  /-- Where they stop, if they do. -/
  hang : Option HangPoint := none
  /-- How they fail without effect, if they do. -/
  failure : Option ClientError := none

/-- A cluster in memory with rules. -/
structure MemoryClient where
  /-- The cluster. -/
  cluster : MemoryCluster
  /-- The rules, latest one first. -/
  rules : List (CallKind × Rule) := []

/-- The rule for an operation. -/
def MemoryClient.rule (c : MemoryClient) (call : Call) : Rule :=
  ((c.rules.find? (·.1 = CallKind.of call)).map (·.2)).getD {}

/-- How far an operation has come. -/
inductive MemoryStage
  /-- It has not begun. -/
  | fresh
  /-- It waits to have its effect. -/
  | delayed (rule : Rule) (due : Nat)
  /-- It has had its effect and waits to come back. -/
  | returning (outcome : Outcome) (due : Nat)
  /-- It has stopped. -/
  | stopped

/-- An operation on its way. -/
structure MemoryFlight where
  /-- The operation. -/
  call : Call
  /-- How far it has come. -/
  stage : MemoryStage := .fresh

namespace MemoryClient

/-- An operation comes back. -/
def finish (c : MemoryClient) (now : Nat) (call : Call) (outcome : Outcome) :
    Polled MemoryClient MemoryFlight :=
  ⟨c, .over outcome, [.ended now call outcome], []⟩

/-- An operation has its effect. -/
def act (c : MemoryClient) (now : Nat) (call : Call) (rule : Rule) :
    Polled MemoryClient MemoryFlight :=
  if rule.hang = some .before then ⟨c, .flying ⟨call, .stopped⟩ none, [], []⟩
  else
    match rule.failure with
    | some e => c.finish now call (.error e)
    | none =>
      let (outcome, cluster) := c.cluster.perform call
      let c := { c with cluster }
      if rule.after = 0 then
        if rule.hang = some .after then ⟨c, .flying ⟨call, .stopped⟩ none, [], []⟩
        else c.finish now call outcome
      else if rule.hang = some .after then ⟨c, .flying ⟨call, .stopped⟩ none, [], []⟩
      else
        ⟨c, .flying ⟨call, .returning outcome (now + rule.after)⟩ (some (now + rule.after)), [], []⟩

/-- Moves an operation on. -/
def poll (c : MemoryClient) (now : Nat) (flight : MemoryFlight) :
    Polled MemoryClient MemoryFlight :=
  match flight.stage with
  | .fresh =>
    let rule := c.rule flight.call
    let begun := Record.begun now flight.call
    if rule.before = 0 then
      let polled := c.act now flight.call rule
      { polled with records := begun :: polled.records }
    else
      let due := now + rule.before
      ⟨c, .flying ⟨flight.call, .delayed rule due⟩ (some due), [begun], []⟩
  | .delayed rule due =>
    if now < due then ⟨c, .flying flight (some due), [], []⟩ else c.act now flight.call rule
  | .returning outcome due =>
    if now < due then ⟨c, .flying flight (some due), [], []⟩ else c.finish now flight.call outcome
  | .stopped => ⟨c, .flying flight none, [], []⟩

end MemoryClient

/-! ## API servers -/

/-- A reply of a script. -/
structure Response where
  /-- What comes back. -/
  reply : Api.Reply
  /-- Milliseconds before it does. -/
  delay : Nat := 0
  /-- Whether nothing ever comes back. -/
  hangs : Bool := false

/-- An API server that replies from a script. Behind its end, every connection fails. -/
structure ApiClient where
  /-- The replies to come. -/
  script : List Response

/-- How far an exchange has come. -/
inductive ApiStage
  /-- Its request is about to be sent. -/
  | sending (request : Api.Request)
  /-- Its reply is on the way. -/
  | awaiting (reply : Api.Reply) (due : Nat)
  /-- It has stopped. -/
  | stopped

/-- An operation on its way. -/
structure ApiFlight where
  /-- The exchange that it is in. -/
  exchange : Api.Exchange
  /-- How far that has come; `none` before the first poll. -/
  stage : Option ApiStage := none
  /-- When the pod must be gone. -/
  limit : Option Nat := none

namespace ApiClient

/-- An operation goes on unless the pod has taken too long to go. It is woken when that time is
over. -/
def hold (c : ApiClient) (now : Nat) (flight : ApiFlight) (wake : Option Nat) :
    Polled ApiClient ApiFlight :=
  match flight.exchange.overdue? flight.limit now with
  | some e => ⟨c, .over (.error e), [], []⟩
  | none =>
    let wake := (flight.limit.map fun limit => min limit (wake.getD limit)).or wake
    ⟨c, .flying flight wake, [], []⟩

/-- Begins an exchange. Its request is sent at the next poll. -/
def begin (c : ApiClient) (now : Nat) (exchange : Api.Exchange) (limit : Option Nat) :
    Polled ApiClient ApiFlight :=
  match exchange.begin? now limit with
  | .error e => ⟨c, .over (.error e), [], []⟩
  | .ok (request, limit) => ⟨c, .flying ⟨exchange, some (.sending request), limit⟩ now, [], []⟩

/-- Takes a reply. -/
def take (c : ApiClient) (now : Nat) (flight : ApiFlight) (reply : Api.Reply) :
    Polled ApiClient ApiFlight :=
  let (progress, events) := flight.exchange.receive reply
  let polled : Polled ApiClient ApiFlight :=
    match progress with
    | .over outcome => ⟨c, .over outcome, [], []⟩
    | .endless => c.hold now { flight with stage := some .stopped } none
    | .exchange next => c.begin now next flight.limit
  { polled with events := events ++ polled.events }

/-- Moves an operation on. -/
def poll (c : ApiClient) (now : Nat) (flight : ApiFlight) : Polled ApiClient ApiFlight :=
  match flight.stage with
  | none => c.begin now flight.exchange flight.limit
  | some (.sending request) =>
    let polled : Polled ApiClient ApiFlight :=
      match c.script with
      | [] => c.take now flight .failed
      | response :: script =>
        let c : ApiClient := ⟨script⟩
        if response.hangs then c.hold now { flight with stage := some .stopped } none
        else if response.delay = 0 then c.take now flight response.reply
        else
          let due := now + response.delay
          c.hold now { flight with stage := some (.awaiting response.reply due) } (some due)
    { polled with records := .requested request :: polled.records }
  | some (.awaiting reply due) =>
    if now < due then c.hold now flight (some due) else c.take now flight reply
  | some .stopped => c.hold now flight none

end ApiClient

/-! ## Clients -/

/-- A simulated client. -/
inductive Client
  /-- A cluster in memory. -/
  | memory (client : MemoryClient)
  /-- An API server. -/
  | api (client : ApiClient)

/-- An operation on its way. -/
inductive Flight
  /-- To a cluster in memory. -/
  | memory (flight : MemoryFlight)
  /-- To an API server. -/
  | api (flight : ApiFlight)

/-- What a poll brings about, for any client. -/
abbrev AnyPolled := Polled Client Flight

/-- A poll of one kind of client as a poll of any. -/
def Polled.map {κ φ κ' φ' : Type} (f : κ → κ') (g : φ → φ') (p : Polled κ φ) : Polled κ' φ' where
  client := f p.client
  poll :=
    match p.poll with
    | .over outcome => .over outcome
    | .flying flight wake => .flying (g flight) wake
  records := p.records
  events := p.events

namespace Client

/-- Calls an operation. -/
def call (client : Client) (call : Call) : Flight :=
  match client with
  | .memory _ => .memory ⟨call, .fresh⟩
  | .api _ => .api ⟨.ofCall call, none, none⟩

/-- Moves an operation on. A flight to another kind of client never comes back. -/
def poll (client : Client) (now : Nat) (flight : Flight) : AnyPolled :=
  match client, flight with
  | .memory c, .memory f => (c.poll now f).map .memory .memory
  | .api c, .api f => (c.poll now f).map .api .api
  | client, flight => ⟨client, .flying flight none, [], []⟩

end Client

end PodCheck.Simulation
