import PodCheck.Cluster.Call
import PodCheck.RunPod
import PodCheck.RunToken

/-! # Checkers

A checker runs one check. A run draws a token, stores it as the only one that may report, deletes
the pod of the run before and creates a new one that carries the token. A run is a sequence of
turns: each turn ends with an operation of the cluster that the run waits for, or with the end of
the run, and the next turn takes the outcome of the operation. So a run may be cut off between any
two turns. Main statement: giving up leaves no run in progress
(`Checker.abandon_state_ne_inProgress`). -/

namespace PodCheck

/-! ## Configuration -/

/-- The configuration of a checker. -/
structure CheckerConfig where
  /-- The namespace of check and pod. -/
  ns : String
  /-- The name of the check. -/
  checkName : String
  /-- The name of the pod. -/
  podName : String
  /-- The template of the pod. -/
  template : PodSpec
  /-- Whether there is a cluster to run in. -/
  hasClient : Bool := true
  /-- Whether pods are logged before they are created. -/
  debug : Bool := false
  /-- Where pods report. -/
  reportingUrl : String := defaultReportingUrl
  /-- How often the check is run. -/
  interval : Duration
  /-- How long a pod may take to report. -/
  timeout : Duration
  /-- Labels of every pod. -/
  extraLabels : Option TextMap := none
  /-- Annotations of every pod. -/
  extraAnnotations : Option TextMap := none
deriving DecidableEq

/-- Why a checker is not ready. -/
inductive ConfigFault
  /-- It has no namespace. -/
  | noNamespace
  /-- It has no check name. -/
  | noCheckName
  /-- It has no cluster. -/
  | noClient
  /-- It has no pod name. -/
  | noPodName
  /-- Its template has no containers. -/
  | noContainers
deriving DecidableEq

/-- The wording of a fault. -/
def ConfigFault.reason : ConfigFault → String
  | .noNamespace => "namespace is empty"
  | .noCheckName => "check name is empty"
  | .noClient => "no cluster client configured"
  | .noPodName => "pod name is empty"
  | .noContainers => "pod spec has no containers"

namespace CheckerConfig

/-- The first fault that keeps a checker from storing a token. -/
def tokenFault? (c : CheckerConfig) : Option ConfigFault :=
  if c.ns = "" then some .noNamespace
  else if c.checkName = "" then some .noCheckName
  else if c.hasClient then none
  else some .noClient

/-- The first fault that keeps a checker from running. -/
def fault? (c : CheckerConfig) : Option ConfigFault :=
  c.tokenFault?.or <|
    if c.podName = "" then some .noPodName
    else if c.template.containers = [] then some .noContainers
    else none

/-- A fault as an error. -/
def faultError (c : CheckerConfig) (fault : ConfigFault) : CheckError :=
  .validation c.checkName fault.reason

/-- Whether a checker can store a token. -/
def checkToken (c : CheckerConfig) : Except CheckError Unit :=
  match c.tokenFault? with
  | some fault => .error (c.faultError fault)
  | none => .ok ()

/-- Whether a checker can run. -/
def check (c : CheckerConfig) : Except CheckError Unit :=
  match c.fault? with
  | some fault => .error (c.faultError fault)
  | none => .ok ()

/-- What a run with the given token adds to the template. -/
def runParams (c : CheckerConfig) (token : String) : RunParams where
  ns := c.ns
  checkName := c.checkName
  podName := c.podName
  token := token
  reportingUrl := c.reportingUrl
  timeout := c.timeout
  extraLabels := c.extraLabels
  extraAnnotations := c.extraAnnotations

/-- The pod of a run with the given token. -/
def pod (c : CheckerConfig) (token : String) (now : Instant) : Pod :=
  RunPod.build c.template (c.runParams token) now

end CheckerConfig

/-! ## Checkers -/

/-- A checker. -/
structure Checker where
  /-- Its configuration. -/
  config : CheckerConfig
  /-- The token that it last stored. -/
  token : String
  /-- The state of its latest run. -/
  state : RunState := .idle
deriving DecidableEq

/-- The operation that a run waits for. -/
inductive Pending
  /-- The token of the run is being stored. -/
  | settingToken (token : String)
  /-- The pod of the run before is being deleted. -/
  | removing (token : String)
  /-- The pod of the run is being created. -/
  | submitting (token : String) (pod : Pod)
deriving DecidableEq

/-- The operation itself. -/
def Pending.call (c : CheckerConfig) : Pending → Call
  | .settingToken token => .setToken c.ns c.checkName token
  | .removing _ => .deletePod c.ns c.podName
  | .submitting _ pod => .createPod c.ns pod

/-- How a turn ends. -/
inductive Next
  /-- The run waits for an operation. -/
  | waiting (pending : Pending)
  /-- The run is over. -/
  | finished (result : Except CheckError Unit)

/-- A turn of a run. -/
structure Turn where
  /-- The checker after the turn. -/
  checker : Checker
  /-- What was logged. -/
  events : List Event
  /-- How the turn ends. -/
  next : Next

namespace Checker

/-- The checker of a check, with the warnings that its durations give rise to. The pod is named like
the check. -/
def ofCheck (check : Check) : Except Duration.Crash (Checker × List Event) := do
  let (interval, warnings) ← check.spec.intervalSpan
  let (timeout, more) ← check.spec.timeoutSpan
  let name := check.metadata.name.getD ""
  let config : CheckerConfig :=
    { ns := check.metadata.ns.getD ""
      checkName := name
      podName := name
      template := check.spec.podSpec
      interval := interval
      timeout := timeout
      extraLabels := check.spec.extraLabels
      extraAnnotations := check.spec.extraAnnotations }
  pure (⟨config, check.spec.currentToken, .idle⟩, warnings ++ more)

/-- The checker with its latest run given up. -/
def abandon (c : Checker) : Checker := { c with state := c.state.abandoned }

/-- No run is in progress after it was given up. -/
theorem abandon_state_ne_inProgress (c : Checker) (stage : RunStage) :
    c.abandon.state ≠ .inProgress stage := c.state.abandoned_ne_inProgress stage

/-! ## Storing a token -/

/-- The operation that stores a token. -/
def assignCall (c : Checker) (token : String) : Call :=
  .setToken c.config.ns c.config.checkName token

/-- The checker after the operation that stores a token, with what is logged and the result. The
checker keeps the token only if it was stored. -/
def assigned (c : Checker) (token : String) (outcome : Outcome) :
    Checker × List Event × Except CheckError Unit :=
  match outcome with
  | .ok _ =>
    ({ c with token := token }, [.tokenWhitelisted c.config.ns c.config.checkName token], .ok ())
  | .error source => (c, [], .error (.persistence c.config.ns c.config.checkName source))

/-! ## Runs -/

/-- The turn in which a run fails. -/
def fail (c : Checker) (e : CheckError) : Turn :=
  ⟨c.abandon, [.runFailed c.config.podName c.state.abandoned e], .finished (.error e)⟩

/-- The first turn of a run: a checker that is not ready draws no token. -/
def start (c : Checker) (tokens : TokenSource) : Turn × TokenSource :=
  match c.config.fault? with
  | some fault =>
    (fail { c with state := .inProgress .validating } (c.config.faultError fault), tokens)
  | none =>
    let (token, tokens) := tokens.draw
    (⟨{ c with state := .inProgress .tokenRotating }, [], .waiting (.settingToken token)⟩, tokens)

/-- The turn that takes the outcome of an operation. -/
def resume (c : Checker) (pending : Pending) (outcome : Outcome) (now : Instant) : Turn :=
  match pending with
  | .settingToken token =>
    let (c, events, result) := c.assigned token outcome
    match result with
    | .error e => c.fail e
    | .ok () =>
      ⟨{ c with state := .inProgress .podSubmitting },
        events ++ [.removingPod c.config.podName], .waiting (.removing token)⟩
  | .removing token =>
    match outcome with
    | .error source => c.fail (.cluster c.config.ns c.config.podName source)
    | .ok _ =>
      ⟨c, if c.config.debug then [.creatingPod] else [],
        .waiting (.submitting token (c.config.pod token now))⟩
  | .submitting _ _ =>
    match outcome with
    | .error source => c.fail (.cluster c.config.ns c.config.podName source)
    | .ok _ =>
      ⟨{ c with state := .submitted }, [.podSubmitted c.config.podName c.token],
        .finished (.ok ())⟩

/-- The name of a checker is that of its check. -/
def name (c : Checker) : String := c.config.checkName

/-- The text that shows a checker. -/
def debugText (c : Checker) : String :=
  "Checker \x7b namespace: " ++ Text.quoted c.config.ns
    ++ ", check_name: " ++ Text.quoted c.config.checkName
    ++ ", pod_name: " ++ Text.quoted c.config.podName
    ++ ", has_client: " ++ (if c.config.hasClient then "true" else "false")
    ++ ", uuid: " ++ Text.quoted c.token
    ++ ", state: " ++ c.state.text ++ ", .. \x7d"

end Checker

end PodCheck
