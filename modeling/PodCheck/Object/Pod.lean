import PodCheck.Object.Container
import PodCheck.Object.Metadata
import PodCheck.Object.Volume

/-! # Pods

A pod is a group of containers that the cluster runs together. Its specification serves as the
template of every run of a check.

Left out, like the other members of metadata (`PodCheck.Object.Metadata`), are the `status` of a
pod; of a specification `affinity`, `dnsConfig`, `enableServiceLinks`, `ephemeralContainers`,
`hostAliases`, `hostIPC`, `hostPID`, `hostUsers`, `hostname`, `os`, `overhead`, `preemptionPolicy`,
`readinessGates`, `resourceClaims`, `runtimeClassName`, `schedulerName`, `schedulingGates`,
`serviceAccount`, `setHostnameAsFQDN`, `shareProcessNamespace`, `subdomain` and
`topologySpreadConstraints`; and of a pod's rights all but three: `appArmorProfile`,
`fsGroupChangePolicy`, `runAsGroup`, `seLinuxOptions`, `seccompProfile`, `supplementalGroups`,
`supplementalGroupsPolicy`, `sysctls` and `windowsOptions`. -/

namespace PodCheck

/-- A secret by which images are fetched. -/
structure SecretName where
  /-- The name of the secret. -/
  name : String
deriving DecidableEq, Inhabited

open Fields in
/-- The form of a secret's name. -/
def SecretName.form : Form SecretName := object <|
  SecretName.mk <$> orDefault "name" .text "" (·.name)

/-- The rights of all containers of a pod. -/
structure PodSecurity where
  /-- The group that owns the files. -/
  fsGroup : Option Int64 := none
  /-- Whether no container may run as root. -/
  runAsNonRoot : Option Bool := none
  /-- The user they run as. -/
  runAsUser : Option Int64 := none
deriving DecidableEq, Inhabited

open Fields in
/-- The form of a pod's rights. -/
def PodSecurity.form : Form PodSecurity := object <|
  PodSecurity.mk
    <$> optional "fsGroup" .int64 (·.fsGroup)
    <*> optional "runAsNonRoot" .bool (·.runAsNonRoot)
    <*> optional "runAsUser" .int64 (·.runAsUser)

/-- A taint of nodes that a pod puts up with. -/
structure Toleration where
  /-- What the taint does. -/
  effect : Option String := none
  /-- The key of the taint. -/
  key : Option String := none
  /-- How key and value are compared. -/
  operator : Option String := none
  /-- For how long the pod puts up with it. -/
  tolerationSeconds : Option Int64 := none
  /-- The value of the taint. -/
  value : Option String := none
deriving DecidableEq, Inhabited

open Fields in
/-- The form of a toleration. -/
def Toleration.form : Form Toleration := object <|
  Toleration.mk
    <$> optional "effect" .text (·.effect)
    <*> optional "key" .text (·.key)
    <*> optional "operator" .text (·.operator)
    <*> optional "tolerationSeconds" .int64 (·.tolerationSeconds)
    <*> optional "value" .text (·.value)

/-- The specification of a pod. -/
structure PodSpec where
  /-- How long the pod may be active. -/
  activeDeadlineSeconds : Option Int64 := none
  /-- Whether the token of the service account appears in the containers. -/
  automountServiceAccountToken : Option Bool := none
  /-- The containers. -/
  containers : List Container := []
  /-- How names are looked up. -/
  dnsPolicy : Option String := none
  /-- Whether the pod uses the network of its node. -/
  hostNetwork : Option Bool := none
  /-- The secrets by which images are fetched. -/
  imagePullSecrets : Option (List SecretName) := none
  /-- The containers that run before the others. -/
  initContainers : Option (List Container) := none
  /-- The node. -/
  nodeName : Option String := none
  /-- The labels that the node must have. -/
  nodeSelector : Option TextMap := none
  /-- The priority as a number. -/
  priority : Option Int32 := none
  /-- The name of the priority. -/
  priorityClassName : Option String := none
  /-- When containers are started again. -/
  restartPolicy : Option String := none
  /-- The rights of all containers. -/
  securityContext : Option PodSecurity := none
  /-- The account as which the pod acts. -/
  serviceAccountName : Option String := none
  /-- How long the pod may take to end. -/
  terminationGracePeriodSeconds : Option Int64 := none
  /-- The taints that the pod puts up with. -/
  tolerations : Option (List Toleration) := none
  /-- The volumes. -/
  volumes : Option (List Volume) := none
deriving DecidableEq, Inhabited

open Fields in
/-- The form of a specification. -/
def PodSpec.form : Form PodSpec := object <|
  PodSpec.mk
    <$> optional "activeDeadlineSeconds" .int64 (·.activeDeadlineSeconds)
    <*> optional "automountServiceAccountToken" .bool (·.automountServiceAccountToken)
    <*> orDefault "containers" (.list Container.form) [] (·.containers)
    <*> optional "dnsPolicy" .text (·.dnsPolicy)
    <*> optional "hostNetwork" .bool (·.hostNetwork)
    <*> optional "imagePullSecrets" (.list SecretName.form) (·.imagePullSecrets)
    <*> optional "initContainers" (.list Container.form) (·.initContainers)
    <*> optional "nodeName" .text (·.nodeName)
    <*> optional "nodeSelector" .textMap (·.nodeSelector)
    <*> optional "priority" .int32 (·.priority)
    <*> optional "priorityClassName" .text (·.priorityClassName)
    <*> optional "restartPolicy" .text (·.restartPolicy)
    <*> optional "securityContext" PodSecurity.form (·.securityContext)
    <*> optional "serviceAccountName" .text (·.serviceAccountName)
    <*> optional "terminationGracePeriodSeconds" .int64 (·.terminationGracePeriodSeconds)
    <*> optional "tolerations" (.list Toleration.form) (·.tolerations)
    <*> optional "volumes" (.list Volume.form) (·.volumes)

/-- A pod. -/
structure Pod where
  /-- The metadata. -/
  metadata : Metadata := {}
  /-- The specification. -/
  spec : Option PodSpec := none
deriving DecidableEq, Inhabited

open Fields in
/-- The form of a pod. If an object names its type, it must be that of pods. -/
def Pod.form : Form Pod := object <|
  (fun _ _ metadata spec => ⟨metadata, spec⟩)
    <$> constant "apiVersion" "v1"
    <*> constant "kind" "Pod"
    <*> orDefault "metadata" Metadata.form {} (·.metadata)
    <*> optional "spec" PodSpec.form (·.spec)

end PodCheck
