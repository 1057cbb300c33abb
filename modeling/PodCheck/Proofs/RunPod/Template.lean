import Mathlib.Data.List.Forall2
import Mathlib.Data.List.Nodup
import PodCheck.Proofs.Cluster.Change
import PodCheck.Proofs.RunPod.Identity

/-! # The template of a run in its pod

The pod that is built for a run is the template with the identity of the run, and nothing else. The
description of such a pod (`RunPod.Identified`) goes through the pod part by part and does not say
how it is built; one pod alone fits it (`RunPod.identified_iff`). Main statements: the pod that is
built is the one that fits the description, so that each container has every variable of the run
once and all others as the template has them (`RunPod.build_adds_identity`), and a pod that was
built for an earlier run serves as a template as well as the template that it was built from
(`RunPod.build_forgets_earlier_run`). -/

namespace PodCheck

namespace Container

/-- The variables of a container, in their order. -/
def envVars (c : Container) : List EnvVar := c.env.getD []

/-- How many variables of a name a container has. -/
def timesNamed (c : Container) (name : String) : Nat := (c.envVars.map (·.name)).count name

end Container

namespace RunPod

/-- The names under which a run adds variables, in the order in which they are added. -/
def reservedNames : List String :=
  [reportingUrlVariable, runTokenVariable, runDeadlineVariable, podNamespaceVariable,
    checkNameVariable]

/-- The variables that a run adds, in their order. Their values are given outright. -/
def addedVariables (p : RunParams) (now : Instant) : List EnvVar := [
  { name := reportingUrlVariable, value := some p.reportingUrl, valueFrom := none },
  { name := runTokenVariable, value := some p.token, valueFrom := none },
  { name := runDeadlineVariable, value := some (toString (now.deadline p.timeout)),
    valueFrom := none },
  { name := podNamespaceVariable, value := some p.ns, valueFrom := none },
  { name := checkNameVariable, value := some p.checkName, valueFrom := none }]

/-- The variables of a container that have none of the names of a run. -/
def ownVariables (c : Container) : List EnvVar :=
  c.envVars.filter fun v => !reservedNames.contains v.name

/-! ## Descriptions -/

/-- **A container of a run**, described by that of the template. -/
structure Equipped (p : RunParams) (now : Instant) (c d : Container) : Prop where
  /-- It is that of the template but for its environment. -/
  rest : { d with env := c.env } = c
  /-- Its variables are those of the template under other names, as they were and in their order,
  and then those of the run. -/
  env : d.env = some (ownVariables c ++ addedVariables p now)

/-- **The specification of the pod of a run**, described by its template. -/
structure Specified (template : PodSpec) (p : RunParams) (now : Instant) (spec : PodSpec) :
    Prop where
  /-- It is the template but for its containers and for when they are started again. -/
  rest : { spec with
    restartPolicy := template.restartPolicy
    containers := template.containers } = template
  /-- The containers are never started again. -/
  restartPolicy : spec.restartPolicy = some "Never"
  /-- There are as many containers, in the same order, each one with the variables of the run. -/
  containers : List.Forall₂ (Equipped p now) template.containers spec.containers

/-- **The pod of a run**, described by its template. -/
structure Identified (template : PodSpec) (p : RunParams) (now : Instant) (pod : Pod) : Prop where
  /-- The specification is that of the template with the variables of the run. -/
  spec : ∃ spec, pod.spec = some spec ∧ Specified template p now spec
  /-- Besides labels there are a name, a namespace and the annotations, and nothing else. -/
  metadata : pod.metadata = {
    name := some p.podName
    ns := some p.ns
    labels := pod.metadata.labels
    annotations := p.extraAnnotations }
  /-- Two labels name the check and the run, and the others are those that were given. -/
  labels : ∀ key, pod.label? key
    = if key = runTokenLabel then some p.token
      else if key = checkNameLabel then some p.checkName
      else p.extraLabels.bind (·.get? key)

/-! ## Containers -/

section Container

variable (p : RunParams) (now : Instant)

/-- The names of the variables of a run. -/
theorem map_name_addedVariables : (addedVariables p now).map (·.name) = reservedNames := rfl

/-- The variables of a run as a container gets them. -/
theorem map_environment : (environment p now).map
    (fun v => ({ name := v.1, value := some v.2 } : EnvVar)) = addedVariables p now := rfl

/-- A variable gives way exactly if its name is one of a run. -/
theorem any_environment (name : String) :
    (environment p now).any (·.1 = name) = reservedNames.contains name := by
  rw [Bool.eq_iff_iff, List.any_eq_true, List.contains_iff_mem]
  have hnames : (environment p now).map (·.1) = reservedNames := rfl
  rw [← hnames, List.mem_map]
  simp

/-- A container with the variables of a run has its own before them. -/
theorem env_withVariables (c : Container) :
    (withVariables (environment p now) c).env
      = some (ownVariables c ++ addedVariables p now) := by
  rw [withVariables_env, map_environment]
  simp only [any_environment]
  rfl

/-- None of the variables of a run counts as a container's own. -/
theorem filter_addedVariables :
    (addedVariables p now).filter (fun v => !reservedNames.contains v.name) = [] := by
  rw [List.filter_eq_nil_iff]
  intro v hv
  have hname : v.name ∈ reservedNames := by
    rw [← map_name_addedVariables p now]
    exact List.mem_map_of_mem hv
  simp [hname]

/-- A container that has got the variables of a run still has its own. -/
theorem ownVariables_withVariables (c : Container) :
    ownVariables (withVariables (environment p now) c) = ownVariables c := by
  rw [ownVariables, Container.envVars, env_withVariables, Option.getD_some, List.filter_append,
    filter_addedVariables, List.append_nil, ownVariables, List.filter_filter]
  simp only [Bool.and_self]

/-- **The variables of an earlier run give way** to those of a later one. -/
theorem withVariables_withVariables (q : RunParams) (later : Instant) (c : Container) :
    withVariables (environment q later) (withVariables (environment p now) c)
      = withVariables (environment q later) c := by
  have henv : (withVariables (environment q later) (withVariables (environment p now) c)).env
      = (withVariables (environment q later) c).env := by
    rw [env_withVariables, env_withVariables, ownVariables_withVariables]
  simpa [withVariables] using henv

/-- One container alone fits the description. -/
theorem equipped_iff {c d : Container} :
    Equipped p now c d ↔ withVariables (environment p now) c = d := by
  constructor
  · rintro ⟨hrest, henv⟩
    rw [← env_withVariables] at henv
    calc withVariables (environment p now) c
        = { c with env := d.env } := by rw [henv]; rfl
      _ = { { d with env := c.env } with env := d.env } := by rw [hrest]
      _ = d := rfl
  · rintro rfl
    exact ⟨rfl, env_withVariables p now c⟩

/-- **Each variable of a run stands once** in a container, and others as often as before. -/
theorem timesNamed_withVariables (c : Container) (name : String) :
    (withVariables (environment p now) c).timesNamed name
      = if name ∈ reservedNames then 1 else c.timesNamed name := by
  rw [Container.timesNamed, Container.envVars, env_withVariables, Option.getD_some,
    List.map_append, List.count_append, map_name_addedVariables]
  by_cases hname : name ∈ reservedNames
  · have hown : name ∉ (ownVariables c).map (·.name) := by
      intro hmem
      obtain ⟨v, hv, rfl⟩ := List.mem_map.1 hmem
      simp [ownVariables, hname] at hv
    have hnodup : reservedNames.Nodup := nodup_environment p now
    rw [List.count_eq_zero_of_not_mem hown, List.count_eq_one_of_mem hnodup hname, if_pos hname]
  · have hcount : ((ownVariables c).map (·.name)).count name = c.timesNamed name := by
      rw [Container.timesNamed, List.count_eq_countP, List.count_eq_countP, List.countP_map,
        List.countP_map, ownVariables, List.countP_filter]
      refine List.countP_congr fun v _ => ?_
      by_cases heq : v.name = name <;> simp [heq, hname]
    rw [hcount, List.count_eq_zero_of_not_mem hname, if_neg hname, Nat.add_zero]

end Container

/-! ## Pods -/

variable (template : PodSpec) (p q : RunParams) (now later : Instant)

/-- One specification alone fits the description. -/
theorem specified_iff {s : PodSpec} :
    Specified template p now s ↔ spec template p now = s := by
  have hcontainers : List.Forall₂ (Equipped p now) template.containers s.containers
      ↔ template.containers.map (withVariables (environment p now)) = s.containers := by
    have hrelation : Equipped p now = fun c d => withVariables (environment p now) c = d :=
      funext₂ fun c d => propext (equipped_iff p now)
    rw [hrelation, ← List.forall₂_eq_eq_eq, List.forall₂_map_left_iff]
  constructor
  · rintro ⟨hrest, hpolicy, hequipped⟩
    rw [hcontainers] at hequipped
    calc spec template p now
        = { template with restartPolicy := s.restartPolicy, containers := s.containers } := by
          rw [hpolicy, ← hequipped]; rfl
      _ = { { s with
              restartPolicy := template.restartPolicy
              containers := template.containers } with
            restartPolicy := s.restartPolicy
            containers := s.containers } := by rw [hrest]
      _ = s := rfl
  · rintro rfl
    exact ⟨rfl, rfl, hcontainers.2 rfl⟩

/-- What the labels of the pod of a run say. -/
theorem label?_build (key : String) : (build template p now).label? key
    = if key = runTokenLabel then some p.token
      else if key = checkNameLabel then some p.checkName
      else p.extraLabels.bind (·.get? key) := by
  have hextra : (p.extraLabels.getD .empty).get? key = p.extraLabels.bind (·.get? key) := by
    cases p.extraLabels <;> rfl
  have hlabel : (build template p now).label? key = (labels p).get? key := rfl
  rw [hlabel, get?_labels, hextra]
  simp only [Std.LawfulEqCmp.compare_eq_iff_eq]

/-- **One pod alone fits the description**: the one that is built. -/
theorem identified_iff {pod : Pod} :
    Identified template p now pod ↔ build template p now = pod := by
  constructor
  · rintro ⟨⟨s, hspec, hspecified⟩, hmetadata, hlabels⟩
    rw [specified_iff] at hspecified
    have hlabel : pod.metadata.labels = some (labels p) := by
      -- the label of the token is there, so there are labels, and they are known by their look-ups
      have htoken : pod.label? runTokenLabel = some p.token := by rw [hlabels, if_pos rfl]
      obtain ⟨ls, hls, -⟩ := Option.bind_eq_some_iff.1 htoken
      rw [hls]
      refine congrArg some (SortedMap.ext_get? fun key => ?_)
      have hkey : pod.label? key = ls.get? key := by rw [Pod.label?, hls, Option.bind_some]
      have hbuilt : (build template p now).label? key = (labels p).get? key := rfl
      rw [← hkey, hlabels, ← hbuilt, label?_build]
    rw [hlabel] at hmetadata
    rw [← hspecified] at hspec
    exact (congrArg₂ Pod.mk hmetadata hspec).symm
  · rintro rfl
    exact ⟨⟨_, rfl, (specified_iff template p now).2 rfl⟩, rfl, label?_build template p now⟩

/-- **The pod of a run is its template with its identity.** It is the one pod that fits the
description: the template in every field and in the number and order of containers, except that
nothing is started again and that each container has, behind its own variables under other names,
the five of the run; labels that name the check and the run, whatever was given under these two
names, and the others as they were given; the annotations that were given; name and namespace; and
no other metadata. So a container has each of the five variables once, however often the template
has it, any other one as often as in the template, and all others in the order of the template. -/
theorem build_adds_identity :
    (∀ pod, build template p now = pod ↔ Identified template p now pod)
    ∧ ∃ spec, (build template p now).spec = some spec
      ∧ List.Forall₂ (fun c d =>
          (∀ name, d.timesNamed name = if name ∈ reservedNames then 1 else c.timesNamed name)
          ∧ ownVariables d = ownVariables c)
        template.containers spec.containers := by
  refine ⟨fun pod => (identified_iff template p now).symm, spec template p now, rfl, ?_⟩
  have hcontainers : (spec template p now).containers
      = template.containers.map (withVariables (environment p now)) := rfl
  rw [hcontainers, List.forall₂_map_right_iff, List.forall₂_same]
  intro c _
  exact ⟨timesNamed_withVariables p now c, ownVariables_withVariables p now c⟩

/-- A stale token from a secret and one that is given outright both give way, and the variable that
is given twice stays so. -/
example : withVariables [(runTokenVariable, "t")]
    { name := "main"
      env := some [
        { name := runTokenVariable, valueFrom := some { secretKeyRef := some ⟨"k", "s", none⟩ } },
        { name := "A", value := some "1" },
        { name := runTokenVariable, value := some "stale" },
        { name := "A", value := some "2" }] }
    = { name := "main"
        env := some [
          { name := "A", value := some "1" },
          { name := "A", value := some "2" },
          { name := runTokenVariable, value := some "t" }] } := by
  decide

/-- A template that was used for an earlier run gives the same specification. -/
theorem spec_spec : spec (spec template p now) q later = spec template q later := by
  simp [spec, withVariables_withVariables]

/-- **A pod that was built for an earlier run serves as a template** as well as the template that it
was built from, with other parameters at another time, or with the same ones at the same time, when
nothing changes at all. The same goes for the pod as it lies in a cluster after it was created. -/
theorem build_forgets_earlier_run :
    (∃ spec, (build template p now).spec = some spec
      ∧ build spec q later = build template q later
      ∧ build spec p now = build template p now)
    ∧ ∀ (m m' : MemoryCluster) (ns : String) (answer : Answer),
      m.perform (.createPod ns (build template p now)) = (.ok answer, m') →
      ∃ captured spec, m'.pods.get? ⟨ns, p.podName⟩ = some captured ∧ captured.spec = some spec
        ∧ build spec q later = build template q later := by
  have hbuild (r : RunParams) (time : Instant) :
      build (spec template p now) r time = build template r time := by
    simp only [build, spec_spec]
  refine ⟨⟨_, rfl, hbuild q later, hbuild p now⟩, ?_⟩
  intro m m' ns answer hperform
  cases MemoryCluster.change_of_perform hperform with
  | created hfree => exact ⟨_, _, SortedMap.get?_insert_self .., rfl, hbuild q later⟩

/-- The pod of a run whose template has a stale token from a secret is created, and captured for a
later run. -/
theorem build_forgets_earlier_run_of_stale_token :
    let stale : EnvVar :=
      { name := runTokenVariable, valueFrom := some { secretKeyRef := some ⟨"k", "s", none⟩ } }
    let template : PodSpec :=
      { containers := [{ name := "main", env := some [stale] }, { name := "side" }] }
    let p : RunParams := {
      ns := "prod", checkName := "web", podName := "probe", token := "t"
      reportingUrl := "http://old", timeout := .ofSecs 60 }
    let q : RunParams := { p with token := "u", reportingUrl := "http://new" }
    let now : Instant := .ofNanos 0
    let later : Instant := .ofNanos 90000000000
    let created := ({} : MemoryCluster).perform (.createPod "prod" (build template p now))
    created.1 = .ok (.pod (build template p now))
    ∧ ∃ captured spec, created.2.pods.get? ⟨"prod", "probe"⟩ = some captured
      ∧ captured.spec = some spec
      ∧ build spec q later = build template q later := by
  intro stale template p q now later created
  have hperform : created = (.ok (.pod (build template p now)), created.2) := rfl
  exact ⟨rfl, (build_forgets_earlier_run template p q now later).2 {} created.2 "prod" _ hperform⟩

end RunPod

end PodCheck
