import PodCheck.Proofs.Deployment.Whitelisting

/-! # A cluster is what was done to it

What a cluster in memory holds can be read off the operations that it performed and their outcomes,
whatever they were and whichever faults were switched on between them: the pod at a place, the token
of a check, and every creation with the token at that moment (`MemoryCluster.holds_what_was_done`).
The invariant compares the three collections with the record (`MemoryCluster.Traced`). -/

namespace PodCheck

namespace MemoryCluster

/-! ## Deeds -/

/-- What is done to a cluster from outside. -/
inductive Deed
  /-- An operation. -/
  | operate (call : Call)
  /-- No pods can be created from now on, or they can be again. -/
  | faultCreate (reason? : Option String)
  /-- No pods can be deleted from now on, or they can be again. -/
  | faultDelete (reason? : Option String)
  /-- No tokens can be stored from now on, or they can be again. -/
  | faultWrite (reason? : Option String)

/-- What follows from a deed. -/
def undergo (m : MemoryCluster) : Deed → MemoryCluster
  | .operate call => (m.perform call).2
  | .faultCreate reason? => { m with createFault := reason? }
  | .faultDelete reason? => { m with deleteFault := reason? }
  | .faultWrite reason? => { m with writeFault := reason? }

/-- What follows from deeds, one after the other. -/
def after (m : MemoryCluster) (deeds : List Deed) : MemoryCluster := deeds.foldl undergo m

/-- The operations among some deeds with their outcomes, first one first. -/
def record (m : MemoryCluster) : List Deed → List (Call × Outcome)
  | [] => []
  | .operate call :: deeds => (call, (m.perform call).1) :: (m.undergo (.operate call)).record deeds
  | deed :: deeds => (m.undergo deed).record deeds

/-! ## Reading a record -/

/-- What the last entry of a record tells that tells anything. -/
def latest {α : Type} (tells : Call × Outcome → Option α) (record : List (Call × Outcome)) :
    Option α :=
  (record.filterMap tells).getLast?

/-- The last entry counts if it tells anything. -/
theorem latest_snoc {α : Type} (tells : Call × Outcome → Option α) (record : List (Call × Outcome))
    (e : Call × Outcome) : latest tells (record ++ [e]) = (tells e).or (latest tells record) := by
  rw [latest, List.filterMap_append, List.getLast?_append]
  cases htells : tells e <;> simp [htells, latest]

/-- What an operation makes of the pod at a place: the pod that it created there, or none. -/
def placed? (key : ObjectKey) : Call × Outcome → Option (Option Pod)
  | (.createPod ns pod, .ok _) =>
    if key = ⟨ns, podName pod⟩ then some (some (storedPod ns pod)) else none
  | (.deletePod ns name, .ok _) => if key = ⟨ns, name⟩ then some none else none
  | _ => none

/-- The pod at a place after the operations of a record: that of the last creation, if it was not
deleted since. -/
def podAfter (record : List (Call × Outcome)) (key : ObjectKey) : Option Pod :=
  (latest (placed? key) record).join

/-- The token of a check after the operations of a record: the one stored last, or the empty one if
none was. -/
def tokenAfter (checks : List (String × String)) (record : List (Call × Outcome))
    (ns check : String) : Option String :=
  if checks.contains (ns, check) then
    some ((latest (Deployment.storedToken? ns check) record).getD "")
  else none

/-- The creation by an operation, with the token that the check of the pod had after the operations
before. -/
def creation? (checks : List (String × String)) (before : List (Call × Outcome)) :
    Call × Outcome → Option PodCreation
  | (.createPod ns pod, .ok _) =>
    some ⟨ns, podName pod, (pod.label? checkNameLabel).bind (tokenAfter checks before ns)⟩
  | _ => none

/-- The creations by the operations of a record, which follow others. -/
def creationsAfter (checks : List (String × String)) (before : List (Call × Outcome)) :
    List (Call × Outcome) → List PodCreation
  | [] => []
  | e :: record =>
    (creation? checks before e).toList ++ creationsAfter checks (before ++ [e]) record

/-- A further operation adds its creation. -/
theorem creationsAfter_snoc (checks : List (String × String))
    (before record : List (Call × Outcome)) (e : Call × Outcome) :
    creationsAfter checks before (record ++ [e])
      = creationsAfter checks before record ++ (creation? checks (before ++ record) e).toList := by
  induction record generalizing before with
  | nil => simp [creationsAfter]
  | cons first record ih =>
    rw [List.cons_append, creationsAfter, creationsAfter, ih, List.append_assoc,
      List.append_assoc, List.singleton_append]

/-- A place is empty or has a pod of its own namespace and name. -/
theorem identity_of_podAfter {record : List (Call × Outcome)} {key : ObjectKey} {pod : Pod}
    (h : podAfter record key = some pod) :
    pod.metadata.ns = some key.ns ∧ podName pod = key.name := by
  obtain ⟨e, -, he⟩ : ∃ e ∈ record, placed? key e = some (some pod) := by
    rw [podAfter, Option.join_eq_some_iff, latest] at h
    exact List.mem_filterMap.1 (List.mem_of_getLast? h)
  obtain ⟨call, outcome⟩ := e
  -- only a creation leaves a pod, and only under the key that it has
  cases call with
  | createPod ns created =>
    cases outcome with
    | error _ => simp [placed?] at he
    | ok _ =>
      by_cases hkey : key = ⟨ns, podName created⟩
      · simp only [placed?, if_pos hkey, Option.some.injEq] at he
        rw [← he, hkey]
        exact ⟨rfl, rfl⟩
      · simp [placed?, hkey] at he
  | deletePod ns name =>
    cases outcome with
    | error _ => simp [placed?] at he
    | ok _ => simp [placed?] at he
  | setToken => simp [placed?] at he
  | getToken => simp [placed?] at he

/-! ## A cluster and its record -/

/-- **A cluster holds what its record says.** -/
structure Traced (checks : List (String × String)) (record : List (Call × Outcome))
    (m : MemoryCluster) : Prop where
  /-- The checks have the tokens that were stored last. -/
  tokens : ∀ ns check, m.tokens.get? ⟨ns, check⟩ = tokenAfter checks record ns check
  /-- The places have the pods that were created last and not deleted since. -/
  pods : ∀ key, m.pods.get? key = podAfter record key
  /-- Every creation is listed once, in order, with the token at that moment. -/
  creations : m.creations = creationsAfter checks [] record

variable {checks : List (String × String)} {before : List (Call × Outcome)} {m m' : MemoryCluster}

/-- A new cluster has created no pods. -/
theorem creations_ofChecks (checks : List (String × String)) :
    (ofChecks checks).creations = [] := by
  -- the induction is on the checks, for any cluster to begin with
  have hfold : ∀ m : MemoryCluster,
      (checks.foldl (fun m check => m.withCheck check.1 check.2) m).creations = m.creations := by
    induction checks with
    | nil => exact fun m => rfl
    | cons check checks ih => exact fun m => ih (m.withCheck check.1 check.2)
  exact hfold {}

/-- A new cluster has no record. -/
theorem traced_ofChecks (checks : List (String × String)) : Traced checks [] (ofChecks checks) where
  tokens ns check := by
    rw [get?_tokens_ofChecks, tokenAfter]
    simp only [List.contains_iff_mem]
    rfl
  pods key := by
    rw [(ofChecks_spec checks).1, SortedMap.get?_empty]
    rfl
  creations := creations_ofChecks checks

/-- An entry that tells nothing of a check leaves its token. -/
theorem tokenAfter_snoc_of_none {e : Call × Outcome} {ns check : String}
    (he : Deployment.storedToken? ns check e = none) :
    tokenAfter checks (before ++ [e]) ns check = tokenAfter checks before ns check := by
  rw [tokenAfter, latest_snoc, he, Option.none_or, tokenAfter]

/-- An entry that tells nothing of a place leaves its pod. -/
theorem podAfter_snoc_of_none {e : Call × Outcome} {key : ObjectKey} (he : placed? key e = none) :
    podAfter (before ++ [e]) key = podAfter before key := by
  rw [podAfter, latest_snoc, he, Option.none_or, podAfter]

/-- The place of the last entry has what that entry tells. -/
theorem podAfter_snoc_of_some {e : Call × Outcome} {key : ObjectKey} {pod? : Option Pod}
    (he : placed? key e = some pod?) : podAfter (before ++ [e]) key = pod? := by
  rw [podAfter, latest_snoc, he, Option.some_or, Option.join_some]

/-- Tokens that are not stored anew are those of the longer record, too. -/
theorem Traced.tokens_of_none (h : Traced checks before m) {e : Call × Outcome}
    (he : ∀ ns check, Deployment.storedToken? ns check e = none) (ns check : String) :
    m.tokens.get? ⟨ns, check⟩ = tokenAfter checks (before ++ [e]) ns check := by
  rw [tokenAfter_snoc_of_none (he ns check), h.tokens]

/-- So are pods that are neither created nor deleted. -/
theorem Traced.pods_of_none (h : Traced checks before m) {e : Call × Outcome}
    (he : ∀ key, placed? key e = none) (key : ObjectKey) :
    m.pods.get? key = podAfter (before ++ [e]) key := by
  rw [podAfter_snoc_of_none (he key), h.pods]

/-- So are the creations if there is none. -/
theorem Traced.creations_of_none (h : Traced checks before m) {e : Call × Outcome}
    (he : creation? checks before e = none) :
    m.creations = creationsAfter checks [] (before ++ [e]) := by
  rw [creationsAfter_snoc, List.nil_append, he, Option.toList_none, List.append_nil, h.creations]

/-- **An operation and its outcome go together on the record.** -/
theorem Traced.perform (h : Traced checks before m) {call : Call} {outcome : Outcome}
    (hchange : m.Change call outcome m') : Traced checks (before ++ [(call, outcome)]) m' := by
  cases hchange with
  | failed =>
    exact ⟨h.tokens_of_none fun _ _ => by cases call <;> rfl,
      h.pods_of_none fun _ => by cases call <;> rfl, h.creations_of_none (by cases call <;> rfl)⟩
  | read =>
    exact ⟨h.tokens_of_none fun _ _ => rfl, h.pods_of_none fun _ => rfl, h.creations_of_none rfl⟩
  | @stored ns check token hthere =>
    refine ⟨fun ns' check' => ?_, h.pods_of_none fun _ => rfl, h.creations_of_none rfl⟩
    by_cases hkey : (ns, check) = (ns', check')
    · obtain ⟨rfl, rfl⟩ := Prod.mk.inj hkey
      have hregistered : checks.contains (ns, check) = true := by
        by_contra hnot
        rw [SortedMap.contains, h.tokens, tokenAfter, if_neg hnot] at hthere
        simp at hthere
      rw [SortedMap.get?_insert_self, tokenAfter, if_pos hregistered, latest_snoc]
      simp [Deployment.storedToken?]
    · have hne : (⟨ns', check'⟩ : ObjectKey) ≠ ⟨ns, check⟩ := by
        rintro heq
        obtain ⟨rfl, rfl⟩ := ObjectKey.mk.inj heq
        exact hkey rfl
      have hstored : Deployment.storedToken? ns' check' (.setToken ns check token, .ok .done)
          = none := if_neg hkey
      rw [SortedMap.get?_insert_of_ne _ _ hne, tokenAfter_snoc_of_none hstored, h.tokens]
  | @deleted ns name =>
    refine ⟨h.tokens_of_none fun _ _ => rfl, fun key => ?_, h.creations_of_none rfl⟩
    by_cases hkey : key = ⟨ns, name⟩
    · have hplaced : placed? key (.deletePod ns name, .ok .done) = some none := if_pos hkey
      rw [podAfter_snoc_of_some hplaced, hkey, SortedMap.get?_erase_self]
    · have hplaced : placed? key (.deletePod ns name, .ok .done) = none := if_neg hkey
      rw [podAfter_snoc_of_none hplaced, SortedMap.get?_erase_of_ne _ hkey, h.pods]
  | @created ns pod hfree =>
    refine ⟨h.tokens_of_none fun _ _ => rfl, ?_, ?_⟩
    · intro key
      by_cases hkey : key = ⟨ns, podName pod⟩
      · have hplaced : placed? key (.createPod ns pod, .ok (.pod (storedPod ns pod)))
            = some (some (storedPod ns pod)) := if_pos hkey
        rw [podAfter_snoc_of_some hplaced, hkey, SortedMap.get?_insert_self]
      · have hplaced : placed? key (.createPod ns pod, .ok (.pod (storedPod ns pod))) = none :=
          if_neg hkey
        rw [podAfter_snoc_of_none hplaced, SortedMap.get?_insert_of_ne _ _ hkey, h.pods]
    · have htoken : m.tokenFor ns pod
          = (pod.label? checkNameLabel).bind (tokenAfter checks before ns) := by
        rw [tokenFor, Pod.label?]
        exact congrArg _ (funext (h.tokens ns))
      rw [creationsAfter_snoc, List.nil_append, h.creations, htoken]
      rfl

/-- **Whatever is done to a cluster, it holds what its record says.** -/
theorem Traced.after (h : Traced checks before m) (deeds : List Deed) :
    Traced checks (before ++ m.record deeds) (m.after deeds) := by
  -- the induction is on the deeds, for any record to begin with
  induction deeds generalizing before m with
  | nil =>
    rw [record, List.append_nil]
    exact h
  | cons deed deeds ih =>
    cases deed with
    | operate call =>
      rw [record, List.append_cons]
      exact ih (h.perform (change_of_perform rfl))
    | faultCreate reason? => exact ih (m := m.undergo (.faultCreate reason?)) ⟨h.1, h.2, h.3⟩
    | faultDelete reason? => exact ih (m := m.undergo (.faultDelete reason?)) ⟨h.1, h.2, h.3⟩
    | faultWrite reason? => exact ih (m := m.undergo (.faultWrite reason?)) ⟨h.1, h.2, h.3⟩

/-- An operation switches no faults and records one creation at most. -/
theorem Change.faults_creations {call : Call} {outcome : Outcome} (h : m.Change call outcome m') :
    (m'.createFault = m.createFault ∧ m'.deleteFault = m.deleteFault
      ∧ m'.writeFault = m.writeFault)
    ∧ ∃ created? : Option PodCreation, m'.creations = m.creations ++ created?.toList := by
  cases h with
  | failed => exact ⟨⟨rfl, rfl, rfl⟩, none, (List.append_nil _).symm⟩
  | read => exact ⟨⟨rfl, rfl, rfl⟩, none, (List.append_nil _).symm⟩
  | stored => exact ⟨⟨rfl, rfl, rfl⟩, none, (List.append_nil _).symm⟩
  | deleted => exact ⟨⟨rfl, rfl, rfl⟩, none, (List.append_nil _).symm⟩
  | created => exact ⟨⟨rfl, rfl, rfl⟩, some _, rfl⟩

/-- **A cluster in memory is what was done to it.** After any operations, with faults switched in
between: a pod has the namespace and the name of its place; there is one creation for every
operation that created a pod, in order, with the token that the check named by the pod had then; the
pod at a place is the one created there last, if it was not deleted since; the token of a check is
the one stored last, and no check has come or gone. A further operation that fails leaves
everything, and one that succeeds changes nothing but the token of its check or the pod at its
place, and adds one creation at most. -/
theorem holds_what_was_done (checks : List (String × String)) (deeds : List Deed) :
    let m := (ofChecks checks).after deeds
    let record := (ofChecks checks).record deeds
    (∀ key pod, m.pods.get? key = some pod →
      pod.metadata.ns = some key.ns ∧ podName pod = key.name)
    ∧ m.creations = creationsAfter checks [] record
    ∧ (∀ key, m.pods.get? key = podAfter record key)
    ∧ (∀ ns check, m.tokens.get? ⟨ns, check⟩ = tokenAfter checks record ns check
      ∧ (m.tokens.contains ⟨ns, check⟩ = true ↔ (ns, check) ∈ checks))
    ∧ ∀ call, let m' := m.undergo (.operate call)
      (∀ e, (m.perform call).1 = .error e → m' = m)
      ∧ ChangedOnly (call.check? = some ·) (call.place? = some ·) m m'
      ∧ (m'.createFault = m.createFault ∧ m'.deleteFault = m.deleteFault
        ∧ m'.writeFault = m.writeFault)
      ∧ ∃ created? : Option PodCreation, m'.creations = m.creations ++ created?.toList := by
  intro m record
  have htraced : Traced checks record m := by
    have h := (traced_ofChecks checks).after deeds
    rwa [List.nil_append] at h
  refine ⟨?_, htraced.creations, htraced.pods, ?_, ?_⟩
  · intro key pod hpod
    rw [htraced.pods] at hpod
    exact identity_of_podAfter hpod
  · intro ns check
    refine ⟨htraced.tokens ns check, ?_⟩
    rw [SortedMap.contains, htraced.tokens, tokenAfter]
    by_cases hthere : (ns, check) ∈ checks <;> simp [hthere]
  · intro call
    have hchange : m.Change call (m.perform call).1 (m.undergo (.operate call)) :=
      change_of_perform rfl
    exact ⟨fun e he => perform_of_error he, hchange.changedOnly, hchange.faults_creations⟩

/-- A pod without a name, labelled for a check that has a token, is created once: it stays when it
is created again and while no pods can be deleted, and no refusal changes anything. -/
theorem holds_what_was_done_of_nameless_pod :
    let pod : Pod := { (default : Pod) with
      metadata := { (default : Metadata) with labels := some (.ofList [(checkNameLabel, "web")]) } }
    let deeds : List Deed :=
      [.operate (.setToken "prod" "web" "t"), .operate (.createPod "prod" pod),
        .operate (.createPod "prod" pod), .faultDelete (some "down"),
        .operate (.deletePod "prod" "")]
    let m := (ofChecks [("prod", "web")]).after deeds
    m.pods.get? ⟨"prod", ""⟩ = some (storedPod "prod" pod)
    ∧ m.creations = [⟨"prod", "", some "t"⟩]
    ∧ m.undergo (.operate (.deletePod "prod" "")) = m := by
  intro pod deeds m
  obtain ⟨-, hcreations, hpods, -, hnext⟩ := holds_what_was_done [("prod", "web")] deeds
  refine ⟨?_, ?_, ?_⟩
  · exact (hpods ⟨"prod", ""⟩).trans (by decide +kernel)
  · exact hcreations.trans (by decide +kernel)
  · exact (hnext (.deletePod "prod" "")).1 (.unavailable "down") (by decide +kernel)

end MemoryCluster

end PodCheck
