import PodCheck.Form.Fields

/-! # Volumes

Where the files of a pod come from.

Left out, like the other members of metadata (`PodCheck.Object.Metadata`), are the `items` of a
secret and all kinds of volumes but four: `awsElasticBlockStore`, `azureDisk`, `azureFile`,
`cephfs`, `cinder`, `csi`, `downwardAPI`, `ephemeral`, `fc`, `flexVolume`, `flocker`,
`gcePersistentDisk`, `gitRepo`, `glusterfs`, `image`, `iscsi`, `nfs`, `persistentVolumeClaim`,
`photonPersistentDisk`, `portworxVolume`, `projected`, `quobyte`, `rbd`, `scaleIO`, `storageos` and
`vsphereVolume`. -/

namespace PodCheck

/-- An amount such as `10Mi`, kept as it is written. -/
abbrev Quantity := String

/-- Scratch space that lives as long as the pod. -/
structure EmptyDir where
  /-- What it is kept on. -/
  medium : Option String := none
  /-- How large it may grow. -/
  sizeLimit : Option Quantity := none
deriving DecidableEq, Inhabited

open Fields in
/-- The form of scratch space. -/
def EmptyDir.form : Form EmptyDir := object <|
  EmptyDir.mk
    <$> optional "medium" .text (·.medium)
    <*> optional "sizeLimit" .text (·.sizeLimit)

/-- A key that becomes a file. -/
structure KeyFile where
  /-- The key. -/
  key : String
  /-- The permissions of the file. -/
  mode : Option Int32 := none
  /-- The path of the file. -/
  path : String
deriving DecidableEq, Inhabited

open Fields in
/-- The form of a key that becomes a file. -/
def KeyFile.form : Form KeyFile := object <|
  KeyFile.mk
    <$> orDefault "key" .text "" (·.key)
    <*> optional "mode" .int32 (·.mode)
    <*> orDefault "path" .text "" (·.path)

/-- The files of a config map. -/
structure ConfigMapVolume where
  /-- The permissions of the files. -/
  defaultMode : Option Int32 := none
  /-- The keys that become files, if not all. -/
  items : Option (List KeyFile) := none
  /-- The config map. -/
  name : String
  /-- Whether it may be missing. -/
  isOptional : Option Bool := none
deriving DecidableEq, Inhabited

open Fields in
/-- The form of a config map's files. -/
def ConfigMapVolume.form : Form ConfigMapVolume := object <|
  ConfigMapVolume.mk
    <$> optional "defaultMode" .int32 (·.defaultMode)
    <*> optional "items" (.list KeyFile.form) (·.items)
    <*> orDefault "name" .text "" (·.name)
    <*> optional "optional" .bool (·.isOptional)

/-- The files of a secret. -/
structure SecretVolume where
  /-- The permissions of the files. -/
  defaultMode : Option Int32 := none
  /-- Whether the secret may be missing. -/
  isOptional : Option Bool := none
  /-- The secret. -/
  secretName : Option String := none
deriving DecidableEq, Inhabited

open Fields in
/-- The form of a secret's files. -/
def SecretVolume.form : Form SecretVolume := object <|
  SecretVolume.mk
    <$> optional "defaultMode" .int32 (·.defaultMode)
    <*> optional "optional" .bool (·.isOptional)
    <*> optional "secretName" .text (·.secretName)

/-- A path of the node. -/
structure HostPath where
  /-- The path. -/
  path : String
  /-- What must be found there. -/
  type : Option String := none
deriving DecidableEq, Inhabited

open Fields in
/-- The form of a path of the node. -/
def HostPath.form : Form HostPath := object <|
  HostPath.mk
    <$> orDefault "path" .text "" (·.path)
    <*> optional "type" .text (·.type)

/-- A volume. -/
structure Volume where
  /-- The files of a config map. -/
  configMap : Option ConfigMapVolume := none
  /-- Scratch space. -/
  emptyDir : Option EmptyDir := none
  /-- A path of the node. -/
  hostPath : Option HostPath := none
  /-- The name by which containers mount it. -/
  name : String
  /-- The files of a secret. -/
  secret : Option SecretVolume := none
deriving DecidableEq, Inhabited

open Fields in
/-- The form of a volume. -/
def Volume.form : Form Volume := object <|
  Volume.mk
    <$> optional "configMap" ConfigMapVolume.form (·.configMap)
    <*> optional "emptyDir" EmptyDir.form (·.emptyDir)
    <*> optional "hostPath" HostPath.form (·.hostPath)
    <*> orDefault "name" .text "" (·.name)
    <*> optional "secret" SecretVolume.form (·.secret)

end PodCheck
