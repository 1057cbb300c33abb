import PodCheck.Check
import PodCheck.Yaml.Document

/-! # Manifests

A manifest is a YAML document, or a JSON one in YAML's terms, with a check or a pod template.
Beyond its types, the template must be fit to run: at least one container, and a name and an image
for each. Main statement: a template is accepted exactly if it is fit to run
(`TemplateFault.find?_eq_none`). -/

namespace PodCheck

/-! ## Templates that cannot run -/

/-- Why a template cannot run. -/
inductive TemplateFault
  /-- It has no containers. -/
  | noContainers
  /-- A container has no name. -/
  | noName (index : Nat)
  /-- A container has no image. -/
  | noImage (name : String)
deriving DecidableEq

namespace TemplateFault

/-- The wording of a fault. -/
def message : TemplateFault → String
  | .noContainers => "pod spec has no containers"
  | .noName index => s!"container #{index} has no name"
  | .noImage name => "container " ++ Text.quoted name ++ " has no image"

/-- The fault of a container at an index, if it has one. -/
def ofContainer? (index : Nat) (c : Container) : Option TemplateFault :=
  if c.name = "" then some (.noName index)
  else if c.image.getD "" = "" then some (.noImage c.name)
  else none

/-- The first fault of containers that are counted from an index. -/
def ofContainers? (index : Nat) : List Container → Option TemplateFault
  | [] => none
  | c :: cs => (ofContainer? index c).or (ofContainers? (index + 1) cs)

/-- The first fault of a template. -/
def find? (spec : PodSpec) : Option TemplateFault :=
  if spec.containers = [] then some .noContainers else ofContainers? 0 spec.containers

/-- A container has no fault exactly if it has a name and an image. -/
theorem ofContainer?_eq_none {index : Nat} {c : Container} :
    ofContainer? index c = none ↔ c.name ≠ "" ∧ c.image.getD "" ≠ "" := by
  unfold ofContainer?
  split
  · simp_all
  · split <;> simp_all

/-- Containers have no fault exactly if each has a name and an image. -/
theorem ofContainers?_eq_none {index : Nat} {cs : List Container} :
    ofContainers? index cs = none ↔ ∀ c ∈ cs, c.name ≠ "" ∧ c.image.getD "" ≠ "" := by
  induction cs generalizing index with
  | nil => simp [ofContainers?]
  | cons c cs ih => simp [ofContainers?, ofContainer?_eq_none, ih]

/-- A template is fit to run exactly if it has containers, each with a name and an image. -/
theorem find?_eq_none {spec : PodSpec} :
    find? spec = none
      ↔ spec.containers ≠ [] ∧ ∀ c ∈ spec.containers, c.name ≠ "" ∧ c.image.getD "" ≠ "" := by
  unfold find?
  split
  · simp_all
  · simp_all [ofContainers?_eq_none]

end TemplateFault

namespace Manifest

/-! ## Reading -/

/-- Accepts a template that is fit to run. -/
def validate (spec : PodSpec) : Except CheckError Unit :=
  match TemplateFault.find? spec with
  | none => .ok ()
  | some fault => .error (.malformedSpec fault.message)

/-- How often an alias may be followed for each unit of a document's size. -/
def aliasesPerNode : Nat := 100

/-- A typed value from a document. -/
def readText? {α : Type} (form : Form α) (s : String) : Option α := do
  let document ← Yaml.Document.read? s
  let reading := form.read (.yaml document.targets document.root)
  let (a, _) ← (reading.run (aliasesPerNode * document.size)).toOption
  pure a

/-- A typed value from the bytes of a document. -/
def read? {α : Type} (form : Form α) (raw : ByteArray) : Option α :=
  (String.fromUTF8? raw).bind (readText? form)

/-- Reads a check whose template is fit to run. -/
def readCheck (raw : ByteArray) : Except CheckError Check :=
  match read? Check.form raw with
  | none => .error (.malformedSpec "invalid check manifest")
  | some check => (validate check.spec.podSpec).map fun _ => check

/-- Reads a template that is fit to run. -/
def readPodSpec (raw : ByteArray) : Except CheckError PodSpec :=
  match read? PodSpec.form raw with
  | none => .error (.malformedSpec "invalid pod spec")
  | some spec => (validate spec).map fun _ => spec

end Manifest

end PodCheck
