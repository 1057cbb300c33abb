import PodCheck.Coordinator

/-! # The command line

What the program can be told to do, and how that is read from its words. Some options have a
variable of the environment that stands in for them; an option that is given outweighs it. -/

namespace PodCheck

/-- How a run is to be made. -/
structure RunOptions where
  /-- The manifest of the check. -/
  checkFile : String
  /-- The namespace of the check, in place of the manifest's. -/
  ns : Option String := none
  /-- The name of the pod, in place of the check's. -/
  podName : Option String := none
  /-- Where pods report. -/
  reportingUrl : String := defaultReportingUrl
  /-- How long the run may take. -/
  deadline : Duration := .ofSecs (defaultDeadlineMinutes * 60)
  /-- Whether to log more. -/
  debug : Bool := false

/-- What the program can be told to do. -/
inductive Command
  /-- To print the definition of checks. -/
  | definition
  /-- To make one run of a check. -/
  | runOnce (options : RunOptions)
  /-- To print the token of a check. -/
  | whitelist (ns check : String)

/-- Why a command line cannot be read. -/
inductive UsageFault
  /-- There is no command of the name. -/
  | unknownCommand (name : String)
  /-- The command has no such option. -/
  | unknownOption (name : String)
  /-- An option stands without its value. -/
  | valueMissing (name : String)
  /-- Something that the command needs is missing. -/
  | missing (what : String)
  /-- There are more words than the command takes. -/
  | unexpected (word : String)
  /-- A duration cannot be read. -/
  | badDuration (text : String)
deriving DecidableEq

/-- The wording of a fault. -/
def UsageFault.message : UsageFault → String
  | .unknownCommand name => "unrecognized command " ++ Text.quoted name
  | .unknownOption name => "unexpected option " ++ Text.quoted name
  | .valueMissing name => "a value is required for " ++ Text.quoted name
  | .missing what => "missing " ++ what
  | .unexpected word => "unexpected word " ++ Text.quoted word
  | .badDuration text => "invalid duration " ++ Text.quoted text

/-! ## Words -/

/-- The words of a command line, told apart. -/
structure Words where
  /-- The options with their values. -/
  options : List (String × String) := []
  /-- The other words. -/
  plain : List String := []

namespace Words

/-- An option and its value in one word, between them an equals sign. -/
def joined? (word : String) : Option (String × String) :=
  let name := word.toList.takeWhile (· ≠ '=')
  match word.toList.drop name.length with
  | '=' :: value =>
    if name.head? = some '-' then some (String.ofList name, String.ofList value) else none
  | _ => none

/-- Adds an option. -/
def withOption (name value : String) (w : Words) : Words :=
  { w with options := (name, value) :: w.options }

/-- Tells words apart, given the options that take a value and those that do not. -/
def read (valued flags : List String) : List String → Except UsageFault Words
  | [] => .ok {}
  | word :: rest =>
    match joined? word with
    | some (name, value) =>
      if valued.contains name then (read valued flags rest).map (·.withOption name value)
      else .error (.unknownOption name)
    | none =>
      if flags.contains word then (read valued flags rest).map (·.withOption word "true")
      else if valued.contains word then
        match rest with
        | [] => .error (.valueMissing word)
        | value :: more => (read valued flags more).map (·.withOption word value)
      else if word.toList.head? = some '-' then .error (.unknownOption word)
      else (read valued flags rest).map fun w => { w with plain := word :: w.plain }

/-- The value of an option, or else that of its variable. -/
def value? (w : Words) (option : String) (fallback : Option String) : Option String :=
  ((w.options.find? (·.1 = option)).map (·.2)).or fallback

end Words

/-! ## Commands -/

namespace Command

/-- The namespace in which checks are looked for unless told otherwise. -/
def defaultNamespace : String := "kuberhealthy"

/-- Whether the value of a variable switches an option off. -/
def isOff (value : String) : Bool :=
  ["", "n", "no", "f", "false", "off", "0"].contains value.toLower

/-- Reads the duration of an option. -/
def readDuration (text : String) : Except UsageFault Duration :=
  (Duration.read text).mapError fun _ => .badDuration text

/-- Reads the options of a run. -/
def readRunOnce (environment : String → Option String) (words : List String) :
    Except UsageFault Command := do
  let w ← Words.read ["--check-file", "--namespace", "--pod-name", "--reporting-url", "--deadline"]
    ["--debug"] words
  match w.plain, w.value? "--check-file" none with
  | word :: _, _ => .error (.unexpected word)
  | [], none => .error (.missing "--check-file")
  | [], some checkFile =>
    let deadline ← readDuration ((w.value? "--deadline" none).getD "5m")
    let debug := (w.value? "--debug" (environment "KH_DEBUG")).any (!isOff ·)
    .ok (.runOnce {
      checkFile := checkFile
      ns := w.value? "--namespace" (environment "POD_NAMESPACE")
      podName := w.value? "--pod-name" none
      reportingUrl :=
        (w.value? "--reporting-url" (environment "KH_REPORTING_URL")).getD defaultReportingUrl
      deadline := deadline
      debug := debug })

/-- Reads the options of a look at the whitelist. -/
def readWhitelist (environment : String → Option String) (words : List String) :
    Except UsageFault Command := do
  let w ← Words.read ["--namespace"] [] words
  let ns := (w.value? "--namespace" (environment "POD_NAMESPACE")).getD defaultNamespace
  match w.plain with
  | [] => .error (.missing "the name of a check")
  | [name] => .ok (.whitelist ns name)
  | _ :: word :: _ => .error (.unexpected word)

/-- Reads a command line, given the variables of the environment. -/
def read (environment : String → Option String) : List String → Except UsageFault Command
  | [] => .error (.missing "a command: crds, run-once or whitelist")
  | "crds" :: [] => .ok .definition
  | "crds" :: word :: _ => .error (.unexpected word)
  | "run-once" :: words => readRunOnce environment words
  | "whitelist" :: words => readWhitelist environment words
  | name :: _ => .error (.unknownCommand name)

end Command

end PodCheck
