import PodCheck.Cluster.Call
import PodCheck.Cluster.Key
import PodCheck.RunPod

/-! # A cluster in memory

A cluster that keeps pods and the tokens of checks, and records for each pod what the token of its
check was when it was created. Faults can be switched on for each kind of write. Main statement: an
operation that fails changes nothing (`MemoryCluster.perform_of_error`). -/

namespace PodCheck

/-- The creation of a pod, with the token that its check had at that moment. -/
structure PodCreation where
  /-- The namespace. -/
  ns : String
  /-- The name of the pod. -/
  pod : String
  /-- The token, if the pod names a check that exists. -/
  token? : Option String
deriving DecidableEq

/-- The state of a cluster. -/
structure MemoryCluster where
  /-- The pods. -/
  pods : SortedMap ObjectKey Pod := .empty
  /-- The checks with their tokens. -/
  tokens : SortedMap ObjectKey String := .empty
  /-- The creations so far, first one first. -/
  creations : List PodCreation := []
  /-- Why no pod can be created, if so. -/
  createFault : Option String := none
  /-- Why no pod can be deleted, if so. -/
  deleteFault : Option String := none
  /-- Why no token can be stored, if so. -/
  writeFault : Option String := none
deriving DecidableEq, Inhabited

namespace MemoryCluster

/-- Adds a check without a token. -/
def withCheck (m : MemoryCluster) (ns check : String) : MemoryCluster :=
  { m with tokens := m.tokens.insert ⟨ns, check⟩ "" }

/-- The token of the check that a pod names, in the namespace of the pod. -/
def tokenFor (m : MemoryCluster) (ns : String) (pod : Pod) : Option String :=
  ((pod.metadata.labels.bind (·.get? checkNameLabel)).bind fun check => m.tokens.get? ⟨ns, check⟩)

/-- A pod as it is stored in a namespace. -/
def storedPod (ns : String) (pod : Pod) : Pod :=
  { pod with metadata := { pod.metadata with ns := some ns } }

/-- The name under which a pod is stored. -/
def podName (pod : Pod) : String := pod.metadata.name.getD ""

/-- Creates a pod under a name that is free. -/
def createPod (m : MemoryCluster) (ns : String) (pod : Pod) : Outcome × MemoryCluster :=
  match m.createFault with
  | some reason => (.error (.unavailable reason), m)
  | none =>
    let name := podName pod
    if m.pods.contains ⟨ns, name⟩ then
      (.error (.unavailable ("pods " ++ Text.quoted name ++ " already exists in namespace "
        ++ Text.quoted ns)), m)
    else
      (.ok (.pod (storedPod ns pod)),
        { m with
          pods := m.pods.insert ⟨ns, name⟩ (storedPod ns pod)
          creations := m.creations ++ [⟨ns, name, m.tokenFor ns pod⟩] })

/-- Deletes a pod, whether there is one or not. -/
def deletePod (m : MemoryCluster) (ns name : String) : Outcome × MemoryCluster :=
  match m.deleteFault with
  | some reason => (.error (.unavailable reason), m)
  | none => (.ok .done, { m with pods := m.pods.erase ⟨ns, name⟩ })

/-- Reads the token of a check. -/
def getToken (m : MemoryCluster) (ns check : String) : Outcome :=
  .ok (.token (m.tokens.get? ⟨ns, check⟩))

/-- Stores the token of a check that exists. -/
def setToken (m : MemoryCluster) (ns check token : String) : Outcome × MemoryCluster :=
  match m.writeFault with
  | some reason => (.error (.unavailable reason), m)
  | none =>
    if m.tokens.contains ⟨ns, check⟩ then
      (.ok .done, { m with tokens := m.tokens.insert ⟨ns, check⟩ token })
    else (.error (.notFound Check.kind ns check), m)

/-- Performs an operation. -/
def perform (m : MemoryCluster) : Call → Outcome × MemoryCluster
  | .setToken ns check token => m.setToken ns check token
  | .getToken ns check => (m.getToken ns check, m)
  | .deletePod ns name => m.deletePod ns name
  | .createPod ns pod => m.createPod ns pod

/-- An operation that fails changes nothing. -/
theorem perform_of_error {m : MemoryCluster} {call : Call} {e : ClientError}
    (h : (m.perform call).1 = .error e) : (m.perform call).2 = m := by
  cases call with
  | setToken ns check token =>
    simp only [perform, setToken] at h ⊢
    split
    · rfl
    · split
      · simp_all
      · rfl
  | getToken ns check => rfl
  | deletePod ns name =>
    simp only [perform, deletePod] at h ⊢
    split
    · rfl
    · simp_all
  | createPod ns pod =>
    simp only [perform, createPod] at h ⊢
    split
    · rfl
    · split
      · rfl
      · simp_all

end MemoryCluster

end PodCheck
