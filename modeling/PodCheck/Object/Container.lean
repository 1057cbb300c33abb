import PodCheck.Object.Volume

/-! # Containers

The programs of a pod: their images, arguments, environment and limits.

Left out, like the other members of metadata (`PodCheck.Object.Metadata`), are

* of a container `envFrom`, `lifecycle`, `readinessProbe`, `resizePolicy`, `startupProbe`,
  `stdinOnce`, `terminationMessagePath`, `terminationMessagePolicy` and `volumeDevices`;
* of the source of a value `resourceFieldRef`, and of resources `claims`;
* of a probe `grpc`, `successThreshold`, `tcpSocket`, `terminationGracePeriodSeconds` and
  `timeoutSeconds`, and of a request `httpHeaders`;
* of a mount `mountPropagation`, `recursiveReadOnly` and `subPathExpr`;
* of a container's rights all but three: `allowPrivilegeEscalation`, `appArmorProfile`,
  `capabilities`, `procMount`, `runAsGroup`, `runAsNonRoot`, `seLinuxOptions`, `seccompProfile` and
  `windowsOptions`. -/

namespace PodCheck

/-! ## Environment -/

/-- A field of the pod as the source of a value. -/
structure FieldSelector where
  /-- The version of the schema that the path refers to. -/
  apiVersion : Option String := none
  /-- The path of the field. -/
  fieldPath : String
deriving DecidableEq, Inhabited

open Fields in
/-- The form of a field selector. -/
def FieldSelector.form : Form FieldSelector := object <|
  FieldSelector.mk
    <$> optional "apiVersion" .text (·.apiVersion)
    <*> orDefault "fieldPath" .text "" (·.fieldPath)

/-- A key of a config map or a secret as the source of a value. -/
structure KeySelector where
  /-- The key. -/
  key : String
  /-- The config map or secret. -/
  name : String
  /-- Whether it may be missing. -/
  isOptional : Option Bool := none
deriving DecidableEq, Inhabited

open Fields in
/-- The form of a key selector. -/
def KeySelector.form : Form KeySelector := object <|
  KeySelector.mk
    <$> orDefault "key" .text "" (·.key)
    <*> orDefault "name" .text "" (·.name)
    <*> optional "optional" .bool (·.isOptional)

/-- Where the value of a variable comes from. -/
structure EnvSource where
  /-- A key of a config map. -/
  configMapKeyRef : Option KeySelector := none
  /-- A field of the pod. -/
  fieldRef : Option FieldSelector := none
  /-- A key of a secret. -/
  secretKeyRef : Option KeySelector := none
deriving DecidableEq, Inhabited

open Fields in
/-- The form of the source of a value. -/
def EnvSource.form : Form EnvSource := object <|
  EnvSource.mk
    <$> optional "configMapKeyRef" KeySelector.form (·.configMapKeyRef)
    <*> optional "fieldRef" FieldSelector.form (·.fieldRef)
    <*> optional "secretKeyRef" KeySelector.form (·.secretKeyRef)

/-- A variable of the environment. -/
structure EnvVar where
  /-- The name. -/
  name : String
  /-- The value, if it is given here. -/
  value : Option String := none
  /-- Where the value comes from, if it is not. -/
  valueFrom : Option EnvSource := none
deriving DecidableEq, Inhabited

open Fields in
/-- The form of a variable. -/
def EnvVar.form : Form EnvVar := object <|
  EnvVar.mk
    <$> orDefault "name" .text "" (·.name)
    <*> optional "value" .text (·.value)
    <*> optional "valueFrom" EnvSource.form (·.valueFrom)

/-! ## Probes -/

/-- A whole number or a text, such as the number or the name of a port. -/
inductive IntOrText
  /-- A whole number. -/
  | int (value : Int32)
  /-- A text. -/
  | text (value : String)
deriving DecidableEq, Inhabited

/-- The form of a whole number or a text. -/
def IntOrText.form : Form IntOrText where
  read s := do
    match ← s.intOrText with
    | .inl n =>
      if Int32.minValue.toInt ≤ n ∧ n ≤ Int32.maxValue.toInt then
        pure (.int (Int32.ofInt n))
      else Reading.fail
    | .inr t => pure (.text t)
  write
    | .int n => .int n.toInt
    | .text t => .text t

/-- A command that is run as a probe. -/
structure ExecAction where
  /-- The program with its arguments. -/
  command : Option (List String) := none
deriving DecidableEq, Inhabited

open Fields in
/-- The form of a command. -/
def ExecAction.form : Form ExecAction := object <|
  ExecAction.mk <$> optional "command" (.list .text) (·.command)

/-- A request that is sent as a probe. -/
structure HttpGetAction where
  /-- The host. -/
  host : Option String := none
  /-- The path. -/
  path : Option String := none
  /-- The port. -/
  port : IntOrText
  /-- The scheme. -/
  scheme : Option String := none
deriving DecidableEq, Inhabited

open Fields in
/-- The form of a request. -/
def HttpGetAction.form : Form HttpGetAction := object <|
  HttpGetAction.mk
    <$> optional "host" .text (·.host)
    <*> optional "path" .text (·.path)
    <*> orDefault "port" IntOrText.form (.int 0) (·.port)
    <*> optional "scheme" .text (·.scheme)

/-- How the health of a container is probed. -/
structure Probe where
  /-- A command. -/
  exec : Option ExecAction := none
  /-- How many failures in a row count. -/
  failureThreshold : Option Int32 := none
  /-- A request. -/
  httpGet : Option HttpGetAction := none
  /-- When the first probe is made. -/
  initialDelaySeconds : Option Int32 := none
  /-- How often probes are made. -/
  periodSeconds : Option Int32 := none
deriving DecidableEq, Inhabited

open Fields in
/-- The form of a probe. -/
def Probe.form : Form Probe := object <|
  Probe.mk
    <$> optional "exec" ExecAction.form (·.exec)
    <*> optional "failureThreshold" .int32 (·.failureThreshold)
    <*> optional "httpGet" HttpGetAction.form (·.httpGet)
    <*> optional "initialDelaySeconds" .int32 (·.initialDelaySeconds)
    <*> optional "periodSeconds" .int32 (·.periodSeconds)

/-! ## Containers -/

/-- A port that a container listens on. -/
structure ContainerPort where
  /-- The port of the container. -/
  containerPort : Int32
  /-- The address of the node. -/
  hostIp : Option String := none
  /-- The port of the node. -/
  hostPort : Option Int32 := none
  /-- The name of the port. -/
  name : Option String := none
  /-- The protocol. -/
  protocol : Option String := none
deriving DecidableEq, Inhabited

open Fields in
/-- The form of a port. -/
def ContainerPort.form : Form ContainerPort := object <|
  ContainerPort.mk
    <$> orDefault "containerPort" .int32 0 (·.containerPort)
    <*> optional "hostIP" .text (·.hostIp)
    <*> optional "hostPort" .int32 (·.hostPort)
    <*> optional "name" .text (·.name)
    <*> optional "protocol" .text (·.protocol)

/-- What a container may use and what it is promised. -/
structure Resources where
  /-- The most it may use. -/
  limits : Option (SortedMap String Quantity) := none
  /-- What it is promised. -/
  requests : Option (SortedMap String Quantity) := none
deriving DecidableEq, Inhabited

open Fields in
/-- The form of resources. -/
def Resources.form : Form Resources := object <|
  Resources.mk
    <$> optional "limits" .textMap (·.limits)
    <*> optional "requests" .textMap (·.requests)

/-- Where a volume appears in a container. -/
structure VolumeMount where
  /-- The path in the container. -/
  mountPath : String
  /-- The volume. -/
  name : String
  /-- Whether it can only be read. -/
  readOnly : Option Bool := none
  /-- The path in the volume. -/
  subPath : Option String := none
deriving DecidableEq, Inhabited

open Fields in
/-- The form of a mount. -/
def VolumeMount.form : Form VolumeMount := object <|
  VolumeMount.mk
    <$> orDefault "mountPath" .text "" (·.mountPath)
    <*> orDefault "name" .text "" (·.name)
    <*> optional "readOnly" .bool (·.readOnly)
    <*> optional "subPath" .text (·.subPath)

/-- The rights of a container. -/
structure ContainerSecurity where
  /-- Whether it has the rights of the node. -/
  privileged : Option Bool := none
  /-- Whether its own files can only be read. -/
  readOnlyRootFilesystem : Option Bool := none
  /-- The user it runs as. -/
  runAsUser : Option Int64 := none
deriving DecidableEq, Inhabited

open Fields in
/-- The form of a container's rights. -/
def ContainerSecurity.form : Form ContainerSecurity := object <|
  ContainerSecurity.mk
    <$> optional "privileged" .bool (·.privileged)
    <*> optional "readOnlyRootFilesystem" .bool (·.readOnlyRootFilesystem)
    <*> optional "runAsUser" .int64 (·.runAsUser)

/-- A container. -/
structure Container where
  /-- The arguments of the program. -/
  args : Option (List String) := none
  /-- The program. -/
  command : Option (List String) := none
  /-- The environment. -/
  env : Option (List EnvVar) := none
  /-- The image. -/
  image : Option String := none
  /-- When the image is fetched. -/
  imagePullPolicy : Option String := none
  /-- How its health is probed. -/
  livenessProbe : Option Probe := none
  /-- The name. -/
  name : String
  /-- The ports it listens on. -/
  ports : Option (List ContainerPort) := none
  /-- What it may use. -/
  resources : Option Resources := none
  /-- When it is started again. -/
  restartPolicy : Option String := none
  /-- Its rights. -/
  securityContext : Option ContainerSecurity := none
  /-- Whether its input is kept open. -/
  stdin : Option Bool := none
  /-- Whether it has a terminal. -/
  tty : Option Bool := none
  /-- The volumes that appear in it. -/
  volumeMounts : Option (List VolumeMount) := none
  /-- The directory it is started in. -/
  workingDir : Option String := none
deriving DecidableEq, Inhabited

open Fields in
/-- The form of a container. -/
def Container.form : Form Container := object <|
  Container.mk
    <$> optional "args" (.list .text) (·.args)
    <*> optional "command" (.list .text) (·.command)
    <*> optional "env" (.list EnvVar.form) (·.env)
    <*> optional "image" .text (·.image)
    <*> optional "imagePullPolicy" .text (·.imagePullPolicy)
    <*> optional "livenessProbe" Probe.form (·.livenessProbe)
    <*> orDefault "name" .text "" (·.name)
    <*> optional "ports" (.list ContainerPort.form) (·.ports)
    <*> optional "resources" Resources.form (·.resources)
    <*> optional "restartPolicy" .text (·.restartPolicy)
    <*> optional "securityContext" ContainerSecurity.form (·.securityContext)
    <*> optional "stdin" .bool (·.stdin)
    <*> optional "tty" .bool (·.tty)
    <*> optional "volumeMounts" (.list VolumeMount.form) (·.volumeMounts)
    <*> optional "workingDir" .text (·.workingDir)

end PodCheck
