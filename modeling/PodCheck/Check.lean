import PodCheck.Duration.Reader
import PodCheck.Event
import PodCheck.Object.Pod

/-! # Checks

A check is an object of the cluster: how often its pod is run, how long the pod may take to report,
what the pod is made from, and the token of the run that may report now. Main statements: a duration
that is missing or empty has its default and no warning (`readSpan_none`, `readSpan_empty`), and one
that cannot be read has its default and one warning (`readSpan_of_refused`). -/

namespace PodCheck

/-- What a check is configured to do. -/
structure CheckConfig where
  /-- How often the check is run, if given. -/
  runInterval : Option String := none
  /-- How long a pod may take to report, if given. -/
  timeout : Option String := none
  /-- The template of the pod of every run. -/
  podSpec : PodSpec := {}
  /-- Annotations of every pod. -/
  extraAnnotations : Option TextMap := none
  /-- Labels of every pod. -/
  extraLabels : Option TextMap := none
  /-- The token of the run that may report; empty if none may. -/
  currentToken : String := ""
deriving DecidableEq, Inhabited

open Fields in
/-- The form of a configuration. -/
def CheckConfig.form : Form CheckConfig := record <|
  CheckConfig.mk
    <$> nullable "runInterval" .text (·.runInterval)
    <*> nullable "timeout" .text (·.timeout)
    <*> withDefault "podSpec" PodSpec.form {} (·.podSpec)
    <*> nullable "extraAnnotations" .textMap (·.extraAnnotations)
    <*> nullable "extraLabels" .textMap (·.extraLabels)
    <*> withDefault "currentUUID" .text "" (·.currentToken)

/-- A check. -/
structure Check where
  /-- The metadata. -/
  metadata : Metadata := {}
  /-- The configuration. -/
  spec : CheckConfig := {}
deriving DecidableEq, Inhabited

namespace Check

/-- The group of the API that checks belong to. -/
def group : String := "comcast.github.io"

/-- The version of the API that checks belong to. -/
def version : String := "v1"

/-- The kind of checks. -/
def kind : String := "KuberhealthyCheck"

/-- The plural of the kind in paths. -/
def plural : String := "kuberhealthychecks"

open Fields in
/-- The members of a check besides its type. -/
def fields : Fields Check Check :=
  Check.mk
    <$> required "metadata" Metadata.form (·.metadata)
    <*> required "spec" CheckConfig.form (·.spec)

/-- The form of a check. Its type is written but not looked at. -/
def form : Form Check where
  read := (Fields.record fields).read
  write c :=
    .object (("apiVersion", .text (group ++ "/" ++ version)) :: ("kind", .text kind)
      :: fields.write c)

/-- Reads a check from JSON. -/
def ofJson? (v : Json) : Option Check := form.ofJson? v

/-- The check as JSON. -/
def toJson (c : Check) : Json := form.write c

end Check

/-! ## Durations of checks -/

/-- The minutes after which a check is run again unless it says otherwise. -/
def defaultIntervalMinutes : Nat := 10

/-- The minutes that a pod may take to report unless the check says otherwise. -/
def defaultTimeoutMinutes : Nat := 5

/-- A duration of a check with the warning it gives rise to. -/
abbrev Span := Duration × List Event

/-- Reads a duration. A missing or empty one has its default; so has one that cannot be read, with a
warning. -/
def readSpan (field : String) (value : Option String) (minutes : Nat)
    (h : minutes * 60 < secondsLimit := by decide) : Except Duration.Crash Span :=
  let default := Duration.ofSecs (minutes * 60) h
  match value with
  | none => .ok (default, [])
  | some "" => .ok (default, [])
  | some s =>
    match Duration.read s with
    | .ok d => .ok (d, [])
    | .error (.refused e) => .ok (default, [.durationReplaced field s e minutes])
    | .error (.crashed c) => .error c

/-- A missing duration has its default. -/
theorem readSpan_none (field : String) (minutes : Nat) (h : minutes * 60 < secondsLimit) :
    readSpan field none minutes h = .ok (.ofSecs (minutes * 60) h, []) := rfl

/-- An empty duration has its default. -/
theorem readSpan_empty (field : String) (minutes : Nat) (h : minutes * 60 < secondsLimit) :
    readSpan field (some "") minutes h = .ok (.ofSecs (minutes * 60) h, []) := rfl

/-- A duration that cannot be read has its default and one warning. -/
theorem readSpan_of_refused {field s : String} {minutes : Nat} {h : minutes * 60 < secondsLimit}
    {e : Duration.ReadError} (hs : s ≠ "") (he : Duration.read s = .error (.refused e)) :
    readSpan field (some s) minutes h
      = .ok (.ofSecs (minutes * 60) h, [.durationReplaced field s e minutes]) := by
  simp [readSpan, he]

namespace CheckConfig

/-- How often the check is run. -/
def intervalSpan (c : CheckConfig) : Except Duration.Crash Span :=
  readSpan "runInterval" c.runInterval defaultIntervalMinutes

/-- How long a pod may take to report. -/
def timeoutSpan (c : CheckConfig) : Except Duration.Crash Span :=
  readSpan "timeout" c.timeout defaultTimeoutMinutes

end CheckConfig

end PodCheck
