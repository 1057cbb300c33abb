import PodCheck.Duration
import PodCheck.Text.Quoted

/-! # Errors

What can go wrong with a run: faults of the check itself, which an operator has to mend, and
failures of the cluster, which may pass. -/

namespace PodCheck

/-! ## Failures of the cluster -/

/-- What the API server says about a request that it refused. -/
structure ApiStatus where
  /-- The outcome in one word. -/
  status : String
  /-- The outcome for people. -/
  message : String
  /-- The outcome for programs. -/
  reason : String
  /-- The code that counts. -/
  code : UInt16
deriving DecidableEq

/-- Why an operation of the cluster failed. -/
inductive ClientError
  /-- There is no such object. -/
  | notFound (kind ns name : String)
  /-- The operation took too long. -/
  | timeout (what : String) (after : Duration)
  /-- The cluster did not do it. -/
  | unavailable (reason : String)
  /-- A request to the API server failed; it answered with a status or, without one, not at all or
  not in a readable way. -/
  | request (answer : Option ApiStatus)
  /-- The pod could not be watched. -/
  | watch
deriving DecidableEq

/-- The wording of a failure; that of a failed request is not fixed. -/
def ClientError.message? : ClientError → Option String
  | .notFound kind ns name => some (kind ++ " " ++ ns ++ "/" ++ name ++ " not found")
  | .timeout what after => some ("timed out after " ++ after.text ++ ": " ++ what)
  | .unavailable reason => some ("cluster api unavailable: " ++ reason)
  | .request _ => none
  | .watch => none

/-! ## Failures of runs -/

/-- Why a run, a whitelist operation or the reading of a check failed. -/
inductive CheckError
  /-- The checker is not configured for a run. -/
  | validation (check reason : String)
  /-- The run token could not be read or stored. -/
  | persistence (ns check : String) (source : ClientError)
  /-- The pod of the check could not be replaced. -/
  | cluster (ns pod : String) (source : ClientError)
  /-- A manifest does not hold what it should. -/
  | malformedSpec (reason : String)
  /-- There is no such check. -/
  | notFound (ns check : String)
  /-- The run took too long. -/
  | deadlineExceeded (ns check : String) (deadline : Duration)
deriving DecidableEq

namespace CheckError

/-- The failure of the cluster behind an error. -/
def source? : CheckError → Option ClientError
  | .persistence _ _ source => some source
  | .cluster _ _ source => some source
  | _ => none

/-- The wording of an error; it is not fixed if that of its source is not. -/
def message? : CheckError → Option String
  | .validation check reason =>
    some ("invalid configuration for check " ++ Text.quoted check ++ ": " ++ reason)
  | .persistence ns check source =>
    source.message?.map fun m =>
      "unable to persist whitelist uuid for check " ++ ns ++ "/" ++ check ++ ": " ++ m
  | .cluster ns pod source =>
    source.message?.map fun m =>
      "cluster operation on pod " ++ ns ++ "/" ++ pod ++ " failed: " ++ m
  | .malformedSpec reason => some ("malformed check spec: " ++ reason)
  | .notFound ns check => some ("check " ++ ns ++ "/" ++ check ++ " not found")
  | .deadlineExceeded ns check deadline =>
    some ("run of check " ++ ns ++ "/" ++ check ++ " did not finish within " ++ deadline.text)

/-- Whether an operator has to mend the check before another run can succeed. -/
def isConfigError : CheckError → Bool
  | .validation .. => true
  | .malformedSpec _ => true
  | _ => false

end CheckError

end PodCheck
