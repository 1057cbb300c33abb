import PodCheck.Check
import PodCheck.Instant

/-! # Pods of runs

The pod of a run is the template of its check with the identity of the run added: every container
learns where to report, with which token and until when, and for which check; the labels name the
check and the run. Variables and labels of the same names give way. Main statements: the environment
of a container in the pod (`RunPod.withVariables_env`) and its labels (`RunPod.get?_labels`). -/

namespace PodCheck

/-- Where pods report unless told otherwise. -/
def defaultReportingUrl : String :=
  "http://kuberhealthy.kuberhealthy.svc.cluster.local/externalCheckStatus"

/-- The variable with the address to report to. -/
def reportingUrlVariable : String := "KH_REPORTING_URL"

/-- The variable with the token of the run. -/
def runTokenVariable : String := "KH_RUN_UUID"

/-- The variable with the second until which a report is expected. -/
def runDeadlineVariable : String := "KH_CHECK_RUN_DEADLINE"

/-- The variable with the namespace of the pod. -/
def podNamespaceVariable : String := "KH_POD_NAMESPACE"

/-- The variable with the name of the check. -/
def checkNameVariable : String := "KH_CHECK_NAME"

/-- The label with the name of the check. -/
def checkNameLabel : String := "kuberhealthy-check-name"

/-- The label with the token of the run. -/
def runTokenLabel : String := "kuberhealthy-run-id"

/-- What a run adds to its template. -/
structure RunParams where
  /-- The namespace of check and pod. -/
  ns : String
  /-- The name of the check. -/
  checkName : String
  /-- The name of the pod. -/
  podName : String
  /-- The token of the run. -/
  token : String
  /-- Where the pod reports. -/
  reportingUrl : String
  /-- How long the pod may take to report. -/
  timeout : Duration
  /-- Labels of the pod. -/
  extraLabels : Option TextMap := none
  /-- Annotations of the pod. -/
  extraAnnotations : Option TextMap := none

namespace RunPod

/-- The variables of a run, in the order in which they are added. -/
def environment (p : RunParams) (now : Instant) : List (String × String) := [
  (reportingUrlVariable, p.reportingUrl),
  (runTokenVariable, p.token),
  (runDeadlineVariable, toString (now.deadline p.timeout)),
  (podNamespaceVariable, p.ns),
  (checkNameVariable, p.checkName)]

/-- A container with the given variables; its own of the same names give way. -/
def withVariables (vars : List (String × String)) (c : Container) : Container :=
  let kept := (c.env.getD []).filter fun v => !vars.any (·.1 = v.name)
  { c with env := some (kept ++ vars.map fun v => { name := v.1, value := some v.2 }) }

/-- The environment of a container with variables added. -/
@[simp] theorem withVariables_env (vars : List (String × String)) (c : Container) :
    (withVariables vars c).env
      = some ((c.env.getD []).filter (fun v => !vars.any (·.1 = v.name))
        ++ vars.map fun v => { name := v.1, value := some v.2 }) := rfl

/-- The labels of the pod of a run. -/
def labels (p : RunParams) : TextMap :=
  ((p.extraLabels.getD .empty).insert checkNameLabel p.checkName).insert runTokenLabel p.token

/-- The labels name the run and the check, and are otherwise those that were given. -/
theorem get?_labels (p : RunParams) (key : String) :
    (labels p).get? key
      = if compare key runTokenLabel = .eq then some p.token
        else if compare key checkNameLabel = .eq then some p.checkName
        else (p.extraLabels.getD .empty).get? key := by
  simp [labels]

/-- The specification of the pod of a run: it is not started again. -/
def spec (template : PodSpec) (p : RunParams) (now : Instant) : PodSpec :=
  { template with
    restartPolicy := some "Never"
    containers := template.containers.map (withVariables (environment p now)) }

/-- The pod of a run. -/
def build (template : PodSpec) (p : RunParams) (now : Instant) : Pod where
  metadata :=
    { name := some p.podName
      ns := some p.ns
      labels := some (labels p)
      annotations := p.extraAnnotations }
  spec := some (spec template p now)

end RunPod

end PodCheck
