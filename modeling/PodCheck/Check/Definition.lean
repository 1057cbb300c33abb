import PodCheck.Check

/-! # The definition of checks

The object by which a cluster learns of the kind of checks: its names, its version and the schema of
its configuration. The schema of pod templates is that of the cluster and is handed in. -/

namespace PodCheck.Check

/-- The schema of a text of the configuration. -/
def textSchema (description : String) (more : List (String × Json)) : Json :=
  .object ([("description", .text description), ("type", .text "string")] ++ more)

/-- The schema of a map of the configuration. -/
def mapSchema (description : String) : Json :=
  .object [
    ("additionalProperties", .object [("type", .text "string")]),
    ("description", .text description),
    ("nullable", .bool true),
    ("type", .text "object")]

/-- The schema of the configuration, given that of pod templates. -/
def configSchema (podSpec : Json) : Json :=
  .object [
    ("properties", .object [
      ("currentUUID", textSchema
        ("The run UUID currently allowed to report a result for this check."
          ++ " Empty when no run is authorized.")
        [("default", .text "")]),
      ("extraAnnotations", mapSchema "Annotations added to every checker pod"),
      ("extraLabels", mapSchema "Labels added to every checker pod"),
      ("podSpec", podSpec),
      ("runInterval", textSchema
        "How often the check should be launched (e.g. 10m). Defaults to 10 minutes."
        [("nullable", .bool true)]),
      ("timeout", textSchema
        "How long a launched pod has to report back (e.g. 5m). Defaults to 5 minutes."
        [("nullable", .bool true)])]),
    ("type", .text "object")]

/-- The schema of checks, given that of pod templates. -/
def schema (podSpec : Json) : Json :=
  .object [
    ("description", .text "Auto-generated derived type for CheckConfig via `CustomResource`"),
    ("properties", .object [("spec", configSchema podSpec)]),
    ("required", .array [.text "spec"]),
    ("title", .text kind),
    ("type", .text "object")]

/-- The definition of checks, given the schema of pod templates. -/
def definition (podSpec : Json) : Json :=
  .object [
    ("apiVersion", .text "apiextensions.k8s.io/v1"),
    ("kind", .text "CustomResourceDefinition"),
    ("metadata", .object [("name", .text (plural ++ "." ++ group))]),
    ("spec", .object [
      ("group", .text group),
      ("names", .object [
        ("categories", .array []),
        ("kind", .text kind),
        ("plural", .text plural),
        ("shortNames", .array [.text "khc"]),
        ("singular", .text "kuberhealthycheck")]),
      ("scope", .text "Namespaced"),
      ("versions", .array [.object [
        ("additionalPrinterColumns", .array []),
        ("name", .text version),
        ("schema", .object [("openAPIV3Schema", schema podSpec)]),
        ("served", .bool true),
        ("storage", .bool true),
        ("subresources", .object [])]])])]

end PodCheck.Check
