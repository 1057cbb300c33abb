import PodCheck.Proofs.Checker.Turn

/-! # The identity of a run in its pod

A pod carries a token if its label names the token and every one of its containers has the variable
for it exactly once (`Pod.Carries`). The pod that is built for a run carries the token of the run
and nothing else under that name, whatever the template and the extra labels hold
(`RunPod.carries_build`); the same goes for the namespace and the name of the check
(`RunPod.binds_build`). -/

namespace PodCheck

/-- A container has exactly one variable of a name, and that one has the given value. -/
def Container.Binds (c : Container) (name value : String) : Prop :=
  (c.env.getD []).filter (·.name = name) = [{ name := name, value := some value }]

/-- All containers of a pod have exactly one variable of a name, with the given value. -/
def Pod.Binds (pod : Pod) (name value : String) : Prop :=
  ∃ spec, pod.spec = some spec ∧ ∀ c ∈ spec.containers, c.Binds name value

/-- The label of a pod. -/
def Pod.label? (pod : Pod) (name : String) : Option String :=
  pod.metadata.labels.bind (·.get? name)

/-- **A pod carries a token**: its label names it, and each container is told it once. -/
structure Pod.Carries (pod : Pod) (token : String) : Prop where
  /-- The label names the token. -/
  label : pod.label? runTokenLabel = some token
  /-- The containers are told the token. -/
  containers : pod.Binds runTokenVariable token

/-- A pod carries one token only. -/
theorem Pod.Carries.unique {pod : Pod} {t u : String} (ht : pod.Carries t) (hu : pod.Carries u) :
    t = u := by
  have h := hu.label
  rw [ht.label] at h
  exact Option.some.inj h

namespace RunPod

/-- Of variables with different names one alone has a given name. -/
theorem filter_map_of_nodup {vars : List (String × String)} (hnodup : (vars.map (·.1)).Nodup)
    {name value : String} (hmem : (name, value) ∈ vars) :
    (vars.map fun v => ({ name := v.1, value := some v.2 } : EnvVar)).filter (·.name = name)
      = [{ name := name, value := some value }] := by
  induction vars with
  | nil => simp at hmem
  | cons v vars ih =>
    rw [List.map_cons, List.nodup_cons] at hnodup
    rcases List.mem_cons.1 hmem with rfl | hmem
    · have hnone : vars.filter ((fun v : EnvVar => decide (v.name = name)) ∘
          fun v => { name := v.1, value := some v.2 }) = [] := by
        rw [List.filter_eq_nil_iff]
        intro w hw hname
        exact hnodup.1 (List.mem_map.2 ⟨w, hw, of_decide_eq_true hname⟩)
      rw [List.map_cons, List.filter_cons_of_pos (by simp), List.filter_map, hnone, List.map_nil]
    · have hne : v.1 ≠ name := by
        intro e
        exact hnodup.1 (List.mem_map.2 ⟨(name, value), hmem, e.symm⟩)
      rw [List.map_cons, List.filter_cons_of_neg (by simp [hne])]
      exact ih hnodup.2 hmem

/-- **Added variables stand alone**: a container has each of them once, whatever it had before. -/
theorem binds_withVariables {vars : List (String × String)} (hnodup : (vars.map (·.1)).Nodup)
    {name value : String} (hmem : (name, value) ∈ vars) (c : Container) :
    (withVariables vars c).Binds name value := by
  have hkept : ((c.env.getD []).filter fun v => !vars.any (·.1 = v.name)).filter (·.name = name)
      = [] := by
    rw [List.filter_filter, List.filter_eq_nil_iff]
    intro v _ hv
    simp only [Bool.and_eq_true, decide_eq_true_eq, Bool.not_eq_true', List.any_eq_false] at hv
    exact hv.2 (name, value) hmem hv.1.symm
  rw [Container.Binds, withVariables_env, Option.getD_some, List.filter_append, hkept,
    List.nil_append]
  exact filter_map_of_nodup hnodup hmem

/-- The variables of a run have different names. -/
theorem nodup_environment (p : RunParams) (now : Instant) :
    ((environment p now).map (·.1)).Nodup := by
  have h : (environment p now).map (·.1)
      = [reportingUrlVariable, runTokenVariable, runDeadlineVariable, podNamespaceVariable,
        checkNameVariable] := rfl
  rw [h]
  decide

variable (template : PodSpec) (p : RunParams) (now : Instant)

/-- Every variable of a run stands alone in the containers of its pod. -/
theorem binds_build {name value : String} (h : (name, value) ∈ environment p now) :
    (build template p now).Binds name value := by
  refine ⟨spec template p now, rfl, ?_⟩
  intro c hc
  obtain ⟨d, -, rfl⟩ := List.mem_map.1 hc
  exact binds_withVariables (nodup_environment p now) h d

/-- The pod of a run carries its token. -/
theorem carries_build : (build template p now).Carries p.token where
  label := by
    have h : (labels p).get? runTokenLabel = some p.token := by simp [get?_labels]
    exact h
  containers := binds_build template p now (by simp [environment])

/-- The pod of a run names its check. -/
theorem label?_build_checkName :
    (build template p now).label? checkNameLabel = some p.checkName := by
  -- the label of the token is put in later, but it is another one
  have h : (labels p).get? checkNameLabel = some p.checkName := by
    have hne : checkNameLabel ≠ runTokenLabel := by decide
    simp [get?_labels, hne]
  exact h

end RunPod

namespace CheckerConfig

variable (c : CheckerConfig) (token : String) (now : Instant)

/-- The pod of a run carries the token of the run. -/
theorem carries_pod : (c.pod token now).Carries token :=
  RunPod.carries_build c.template (c.runParams token) now

/-- The containers in the pod of a run are told the name of the check. -/
theorem binds_pod_checkName : (c.pod token now).Binds checkNameVariable c.checkName :=
  RunPod.binds_build c.template (c.runParams token) now (by simp [RunPod.environment, runParams])

/-- The containers in the pod of a run are told the namespace of the check. -/
theorem binds_pod_ns : (c.pod token now).Binds podNamespaceVariable c.ns :=
  RunPod.binds_build c.template (c.runParams token) now (by simp [RunPod.environment, runParams])

end CheckerConfig

end PodCheck
