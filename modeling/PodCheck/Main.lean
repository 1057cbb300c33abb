import PodCheck.Api.Exchange
import PodCheck.Api.Wire
import PodCheck.Check.Definition
import PodCheck.CommandLine
import PodCheck.Manifest.File
import PodCheck.Whitelist
import Std.Time.DateTime.Timestamp

/-! # The program

Carries out a command. Requests to the API server leave as lines on standard output, and the replies
are read as lines from standard input; what is logged goes to standard error. -/

namespace PodCheck.Main

/-! ## Reports -/

/-- Writes a line of the log. -/
def report (level : Level) (message : String) (fields : List (String × String)) : IO Unit :=
  IO.eprintln (level.text ++ " " ++ message
    ++ fields.foldl (fun text field => text ++ " " ++ field.1 ++ "=" ++ field.2) "")

/-- Logs events; those of the lower levels only if more is to be logged. -/
def reportAll (debug : Bool) (events : List Event) : IO Unit :=
  events.forM fun e =>
    match e.level with
    | .trace => pure ()
    | .debug => if debug then report .debug (e.message?.getD "") e.fields else pure ()
    | level => report level (e.message?.getD "request to the cluster failed") e.fields

/-- The text of an error. -/
def errorText (e : CheckError) : String := e.message?.getD "request to the cluster failed"

/-! ## The API server -/

/-- Sends a request and waits for the reply. -/
def send (request : Api.Request) : IO Api.Reply := do
  let output ← IO.getStdout
  output.putStrLn request.toJson.print
  output.flush
  pure (.ofLine (← (← IO.getStdin).getLine))

/-- Carries out an exchange and those that follow from it. A pod that is being deleted has until the
limit to go. -/
partial def exchange (debug : Bool) (x : Api.Exchange) (limit : Option Nat) : IO Outcome := do
  match x.begin? (← IO.monoMsNow) limit with
  | .error e => pure (.error e)
  | .ok (request, limit) =>
    let (progress, events) := x.receive (← send request)
    reportAll debug events
    match progress with
    | .over outcome => pure outcome
    | .exchange next => exchange debug next limit
    | .endless => pure (.error x.stalled)

/-- Carries out an operation of the cluster. -/
def perform (debug : Bool) (call : Call) : IO Outcome := exchange debug (.ofCall call) none

/-! ## Commands -/

/-- The schema of pod templates: whatever the cluster takes. -/
def podSpecSchema : Json :=
  .object [("type", .text "object"), ("x-kubernetes-preserve-unknown-fields", .bool true)]

/-- The current time. -/
def now : IO Instant := do
  let time ← Std.Time.Timestamp.now
  pure (.ofNanos time.toNanosecondsSinceUnixEpoch.val)

/-- The number that some bytes make up. -/
def numberOf (bytes : ByteArray) : Nat := bytes.toList.foldl (fun n b => n * 256 + b.toNat) 0

/-- The only checker of a run. -/
def runId : String := "run"

/-- Moves a run on from a reaction of the coordinator until it is over. -/
partial def follow (debug : Bool) (begun : Nat) (s : Coordinator) (reaction : Reaction) :
    IO (Coordinator × Except CheckError Unit) := do
  reportAll debug reaction.events
  match reaction.result?, reaction.call? with
  | some result, _ => pure (s, result)
  | none, none => pure (s, .ok ())
  | none, some call =>
    let outcome ← perform debug call
    match s.settle? runId ((← IO.monoMsNow) - begun) outcome with
    | some (s, reaction) => follow debug begun s reaction
    | none => pure (s, .ok ())

/-- Makes one run of a check. -/
def runOnce (options : RunOptions) : IO UInt32 := do
  let content ← try
      pure (.ok (← IO.FS.readBinFile options.checkFile))
    catch e => pure (.error e.toString)
  let (check, events) := Manifest.ofFile options.checkFile content
  reportAll options.debug events
  match check with
  | .error e => report .error (errorText e) []; pure 1
  | .ok check =>
    let check := { check with
      metadata := { check.metadata with ns := options.ns.or check.metadata.ns } }
    match Checker.ofCheck check with
    | .error _ => report .error "the durations of the check are out of range" []; pure 1
    | .ok (checker, warnings) =>
      reportAll options.debug warnings
      let checker := { checker with
        config := { checker.config with
          reportingUrl := options.reportingUrl
          debug := options.debug
          podName := options.podName.getD checker.config.podName } }
      report .info "Starting check run"
        [("namespace", checker.config.ns), ("check", checker.name)]
      let entropy := numberOf (← IO.getRandomBytes 16)
      let start : Coordinator :=
        { tokens := { entropy := [entropy] }, deadline := options.deadline, epoch := ← now }
      let begun ← IO.monoMsNow
      let started := do
        let (s, _) ← start.step (.place runId checker)
        let (s, _) ← s.step (.runCheck runId)
        s.step (.grant runId)
      match started with
      | none => pure 1
      | some (s, reaction) =>
        match ← follow options.debug begun s reaction with
        | (s, .ok ()) =>
          let token := ((s.slots.get? runId).map (·.checker.token)).getD ""
          report .info "Check run submitted" [("uuid", token)]
          pure 0
        | (_, .error e) =>
          if e.isConfigError then
            report .error ("Check definition needs fixing: " ++ errorText e) []
          else
            report .warn
              ("Check run failed, the next scheduled run may succeed: " ++ errorText e) []
          pure 1

/-- Prints the token of a check. -/
def whitelist (ns check : String) : IO UInt32 := do
  match Whitelist.fetched ns check (← perform false (.getToken ns check)) with
  | .ok token => IO.println token; pure 0
  | .error e => report .error (errorText e) []; pure 1

/-- Carries out a command. -/
def run : Command → IO UInt32
  | .definition => do
    IO.println (Check.definition podSpecSchema).print
    pure 0
  | .runOnce options => runOnce options
  | .whitelist ns check => whitelist ns check

/-- The variables of the environment that count. -/
def variableNames : List String := ["POD_NAMESPACE", "KH_REPORTING_URL", "KH_DEBUG"]

end PodCheck.Main

open PodCheck in
/-- Carries out the command in the words of the command line. -/
def main (words : List String) : IO UInt32 := do
  let values ← Main.variableNames.mapM fun name => do pure (name, ← IO.getEnv name)
  let environment (name : String) : Option String :=
    (values.find? (·.1 = name)).bind (·.2)
  match Command.read environment words with
  | .ok command => Main.run command
  | .error fault => IO.eprintln ("error: " ++ fault.message); pure 2
