import PodCheck.Form.Fields

/-! # Object metadata

The part that all objects of a cluster have in common: their name, where they live, and the labels
and annotations attached to them.

Nothing here looks at the other members of metadata. They are left out of the type, so that they are
passed over when metadata are read and missing when these are written: `deletionGracePeriodSeconds`,
`deletionTimestamp`, `managedFields`, `ownerReferences` and `selfLink`. -/

namespace PodCheck

/-- The metadata of an object. -/
structure Metadata where
  /-- Notes of any kind. -/
  annotations : Option TextMap := none
  /-- When the object was created. -/
  creationTimestamp : Option Timestamp := none
  /-- What has to be done before the object can go. -/
  finalizers : Option (List String) := none
  /-- What the server makes a name from. -/
  generateName : Option String := none
  /-- The number of the desired state. -/
  generation : Option Int64 := none
  /-- Marks by which objects are selected. -/
  labels : Option TextMap := none
  /-- The name. -/
  name : Option String := none
  /-- The namespace. -/
  ns : Option String := none
  /-- The version of the stored object. -/
  resourceVersion : Option String := none
  /-- What tells the object from others of the same name. -/
  uid : Option String := none
deriving DecidableEq, Inhabited

open Fields in
/-- The form of metadata. -/
def Metadata.form : Form Metadata := object <|
  Metadata.mk
    <$> optional "annotations" .textMap (·.annotations)
    <*> optional "creationTimestamp" .timestamp (·.creationTimestamp)
    <*> optional "finalizers" (.list .text) (·.finalizers)
    <*> optional "generateName" .text (·.generateName)
    <*> optional "generation" .int64 (·.generation)
    <*> optional "labels" .textMap (·.labels)
    <*> optional "name" .text (·.name)
    <*> optional "namespace" .text (·.ns)
    <*> optional "resourceVersion" .text (·.resourceVersion)
    <*> optional "uid" .text (·.uid)

end PodCheck
