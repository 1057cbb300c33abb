import PodCheck.Duration.Reader
import PodCheck.Error
import PodCheck.RunState

/-! # Log events

What is logged, with the level, the message and the fields of each event. Values that come from
outside stand in fields, and the token of a rejected report is not logged at all. -/

namespace PodCheck

/-- How important an event is. -/
inductive Level
  /-- For tracing single steps. -/
  | trace
  /-- For finding faults. -/
  | debug
  /-- For following what happens. -/
  | info
  /-- Something is not as it should be. -/
  | warn
  /-- Something failed. -/
  | error
deriving DecidableEq

/-- The name of a level. -/
def Level.text : Level → String
  | .trace => "TRACE"
  | .debug => "DEBUG"
  | .info => "INFO"
  | .warn => "WARN"
  | .error => "ERROR"

/-- Something that is logged. -/
inductive Event
  /-- A duration of a check cannot be read and gives way to a default in minutes. -/
  | durationReplaced (field value : String) (error : Duration.ReadError) (minutes : Nat)
  /-- A manifest is about to be read. -/
  | loadingManifest (path : String)
  /-- A token has been stored. -/
  | tokenWhitelisted (ns check token : String)
  /-- The pod of the run before is about to be deleted. -/
  | removingPod (pod : String)
  /-- A pod is about to be created. -/
  | creatingPod
  /-- A pod has been created. -/
  | podSubmitted (pod token : String)
  /-- A run has failed. -/
  | runFailed (pod : String) (state : RunState) (error : CheckError)
  /-- A run has its lock. -/
  | lockAcquired (key : String)
  /-- A run has been given up. -/
  | runExpired (key : String) (state : RunState)
  /-- A report does not carry the token of its check. -/
  | reportRejected (ns check : String) (length : Nat)
  /-- A pod that was to be deleted does not exist. -/
  | podGone (ns pod : String)
  /-- A pod is being deleted. -/
  | awaitingDeletion (ns pod uid : String)
deriving DecidableEq

namespace Event

/-- The level of an event. -/
def level : Event → Level
  | .durationReplaced .. => .warn
  | .loadingManifest _ => .debug
  | .tokenWhitelisted .. => .trace
  | .removingPod _ => .debug
  | .creatingPod => .info
  | .podSubmitted .. => .info
  | .runFailed .. => .error
  | .lockAcquired _ => .trace
  | .runExpired .. => .error
  | .reportRejected .. => .warn
  | .podGone .. => .trace
  | .awaitingDeletion .. => .debug

/-- The message of an event; it is not fixed where that of an error in it is not. -/
def message? : Event → Option String
  | .durationReplaced _ _ error minutes =>
    some ("unable to parse duration (" ++ error.message ++ "), using " ++ toString minutes ++ "m")
  | .loadingManifest _ => some "loading check manifest"
  | .tokenWhitelisted .. => some "whitelisted run uuid"
  | .removingPod _ => some "removing pod of previous run"
  | .creatingPod => some "creating checker pod"
  | .podSubmitted .. => some "checker pod submitted"
  | .runFailed _ _ error => error.message?.map ("check run failed: " ++ ·)
  | .lockAcquired _ => some "acquired run lock"
  | .runExpired .. => some "check run exceeded its deadline"
  | .reportRejected .. => some "rejecting report with a run uuid that is not whitelisted"
  | .podGone .. => some "pod already gone"
  | .awaitingDeletion .. => some "waiting for pod deletion"

/-- The fields of an event. -/
def fields : Event → List (String × String)
  | .durationReplaced field value _ _ => [("field", field), ("value", value)]
  | .loadingManifest path => [("path", Text.quotedPath path)]
  | .tokenWhitelisted ns check token => [("namespace", ns), ("check", check), ("uuid", token)]
  | .removingPod pod => [("pod", pod)]
  | .creatingPod => []
  | .podSubmitted pod token => [("pod", pod), ("uuid", token)]
  | .runFailed pod state _ => [("pod", pod), ("state", state.text)]
  | .lockAcquired key => [("key", Text.quoted key)]
  | .runExpired key state => [("key", Text.quoted key), ("state", state.text)]
  | .reportRejected ns check length =>
    [("namespace", ns), ("check", check), ("reported_len", toString length)]
  | .podGone ns pod => [("namespace", ns), ("pod", pod)]
  | .awaitingDeletion ns pod uid => [("namespace", ns), ("pod", pod), ("uid", uid)]

end Event

end PodCheck
