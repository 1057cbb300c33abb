import PodCheck.Cluster.Call

/-! # Watching a pod go

A pod that is being deleted is listed and then watched until it is gone. Everything that list and
watch show is an observation of the pod, and the first observation that decides ends the wait: the
pod is gone if it is absent or if another pod bears its name. -/

namespace PodCheck.Api

/-- A pod that is being deleted. -/
structure Deletion where
  /-- Its namespace. -/
  ns : String
  /-- Its name. -/
  name : String
  /-- What tells it from others of the name. -/
  uid : String
deriving DecidableEq

/-- What is seen of a name. -/
inductive Observation
  /-- A pod with the given uid bears it. -/
  | present (uid : Option String)
  /-- No pod bears it. -/
  | absent
  /-- Nothing: the list or the watch failed. -/
  | failure
deriving DecidableEq

/-- How an observation ends the wait, if it does. -/
def Deletion.conclude? (d : Deletion) : Observation → Option Outcome
  | .present uid => if uid = some d.uid then none else some (.ok .done)
  | .absent => some (.ok .done)
  | .failure => some (.error .watch)

/-- How the first observation that decides ends the wait. -/
def Deletion.firstConclusion? (d : Deletion) (seen : List Observation) : Option Outcome :=
  seen.findSome? d.conclude?

end PodCheck.Api
