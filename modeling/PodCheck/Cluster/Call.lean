import PodCheck.Error
import PodCheck.Object.Pod

/-! # Operations of a cluster

What a checker asks of a cluster, whichever way the cluster is reached: to keep the token of a check
and to replace pods. -/

namespace PodCheck

/-- An operation. -/
inductive Call
  /-- Store the token of a check. -/
  | setToken (ns check token : String)
  /-- Read the token of a check. -/
  | getToken (ns check : String)
  /-- Delete a pod and wait until it is gone. -/
  | deletePod (ns name : String)
  /-- Create a pod. -/
  | createPod (ns : String) (pod : Pod)
deriving DecidableEq

/-- What an operation that succeeded gives back. -/
inductive Answer
  /-- It is done. -/
  | done
  /-- The token of a check; `none` if there is no such check. -/
  | token (token? : Option String)
  /-- The pod as created. -/
  | pod (pod : Pod)
deriving DecidableEq

/-- The outcome of an operation. -/
abbrev Outcome := Except ClientError Answer

/-- The token in an answer. -/
def Answer.token? : Answer → Option String
  | .token t => t
  | _ => none

end PodCheck
