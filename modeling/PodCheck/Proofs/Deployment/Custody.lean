import PodCheck.Proofs.Deployment
import PodCheck.Whitelist

/-! # A token authorizes one pod of one check

Runs may or may not use the locks of their checks, may be cut off at any time, and tokens may be
revoked at any time. As long as all drawn tokens are different, a token is carried by one pod at
most, a check has only tokens that its own runs drew, and so one pod at most can report for a check:
one that was made for it (`Deployment.token_authorizes_one_pod`). The invariant says where pods and
tokens come from (`Deployment.Custodial`); it does not need the tokens to be different. -/

namespace PodCheck

namespace MemoryCluster

/-- A new cluster with some checks, none of which has a token. -/
def ofChecks (checks : List (String × String)) : MemoryCluster :=
  checks.foldl (fun m check => m.withCheck check.1 check.2) {}

/-- A new cluster has no pods, and the token of a check is empty if there is one. -/
theorem ofChecks_spec (checks : List (String × String)) :
    (ofChecks checks).pods = .empty
    ∧ ∀ key token, (ofChecks checks).tokens.get? key = some token → token = "" := by
  -- the induction is on the checks, for any cluster to begin with
  have hfold : ∀ m : MemoryCluster, m.pods = .empty →
      (∀ key token, m.tokens.get? key = some token → token = "") →
      (checks.foldl (fun m check => m.withCheck check.1 check.2) m).pods = .empty
      ∧ ∀ key token, (checks.foldl (fun m check => m.withCheck check.1 check.2) m).tokens.get? key
          = some token → token = "" := by
    induction checks with
    | nil => exact fun m hpods htokens => ⟨hpods, htokens⟩
    | cons check checks ih =>
      intro m hpods htokens
      refine ih (m.withCheck check.1 check.2) hpods ?_
      intro key token htoken
      by_cases hkey : key = ⟨check.1, check.2⟩
      · subst hkey
        rw [withCheck, SortedMap.get?_insert_self] at htoken
        exact (Option.some.inj htoken).symm
      · rw [withCheck, SortedMap.get?_insert_of_ne _ _ hkey] at htoken
        exact htokens key token htoken
  refine hfold {} rfl ?_
  intro key token htoken
  simp at htoken

/-- What becomes of a report with a token, if the cluster is asked now. -/
def judge (m : MemoryCluster) (ns check reported : String) : Except CheckError Bool :=
  Id.run (Whitelist.authorize (fun call => pure (m.perform call).1) (fun _ => pure ()) ns check
    reported)

/-- A report with a token is judged by the token of its check. -/
theorem judge_eq_authorized (m : MemoryCluster) {ns check reported : String} (h : reported ≠ "") :
    m.judge ns check reported
      = (Whitelist.authorized ns check reported
          (.ok (.token (m.tokens.get? ⟨ns, check⟩)))).1 := by
  rw [judge, Whitelist.authorize_of_ne _ _ _ _ h]
  rfl

/-- A report is authorized exactly if it has the token of its check, and that is not empty. -/
theorem judge_eq_ok_true {m : MemoryCluster} {ns check reported : String} :
    m.judge ns check reported = .ok true
      ↔ reported ≠ "" ∧ m.tokens.get? ⟨ns, check⟩ = some reported := by
  by_cases hempty : reported = ""
  · simp [judge, hempty]
  · rw [judge_eq_authorized m hempty]
    cases htoken : m.tokens.get? ⟨ns, check⟩ with
    | none => simp [Whitelist.authorized, Whitelist.fetched, Answer.token?]
    | some token =>
      rw [Whitelist.authorized_of_token]
      simp [hempty]

end MemoryCluster

/-- Whether a move stores no token for its own sake but to revoke one. -/
def Move.revokesOnly : Move → Bool
  | .act (.assign _ token) => token = ""
  | _ => true

/-- A token was stored for a check, and none after it. -/
def LastWrite (performed : List (Call × Outcome)) (ns check token : String) : Prop :=
  ∃ before answer after, performed = before ++ (.setToken ns check token, .ok answer) :: after
    ∧ ∀ other answer', (.setToken ns check other, .ok answer') ∉ after

/-- The token that was stored last stays so after an operation that stores none for its check. -/
theorem LastWrite.append {performed : List (Call × Outcome)} {ns check token : String}
    (h : LastWrite performed ns check token) {e : Call × Outcome}
    (he : ∀ other answer, e ≠ (.setToken ns check other, .ok answer)) :
    LastWrite (performed ++ [e]) ns check token := by
  obtain ⟨before, answer, after, rfl, hafter⟩ := h
  refine ⟨before, answer, after ++ [e], by simp, ?_⟩
  intro other answer' hmem
  rcases List.mem_append.1 hmem with hmem | hmem
  · exact hafter other answer' hmem
  · exact he other answer' (List.mem_singleton.1 hmem).symm

namespace Deployment

variable {d : Deployment}

/-- A pod was built for a run, and lies where its checker has it. -/
structure BuiltFor (pod : Pod) (key : ObjectKey) (run : Run) (token : String) : Prop where
  /-- The run drew the token. -/
  drawn : run.token? = some token
  /-- The pod was built for it. -/
  built : ∃ now, pod = run.config.pod token now
  /-- The pod lies where the checker of the run has it. -/
  place : key = ⟨run.config.ns, run.config.podName⟩

/-- The pod of a run carries its token. -/
theorem BuiltFor.carries {pod : Pod} {key : ObjectKey} {run : Run} {token : String}
    (h : BuiltFor pod key run token) : pod.Carries token := by
  obtain ⟨now, rfl⟩ := h.built
  exact run.config.carries_pod token now

/-- **Pods and tokens come from runs.** -/
structure Custodial (d : Deployment) : Prop extends d.Sound where
  /-- Tokens are stored for their own sake only to revoke others. -/
  revoking : d.chronicle.coordinator.Assigns (· = "")
  /-- Every pod was built for a run. -/
  built : ∀ key pod, d.cluster.pods.get? key = some pod →
    ∃ run ∈ d.chronicle.runs, ∃ token, BuiltFor pod key run token
  /-- The token of a check was drawn by a run of it, and no token was stored after it. -/
  traced : ∀ ns check token, d.cluster.tokens.get? ⟨ns, check⟩ = some token → token ≠ "" →
    (∃ run ∈ d.chronicle.runs, run.config.ns = ns ∧ run.config.checkName = check
      ∧ run.token? = some token)
    ∧ LastWrite d.performed ns check token

/-- An action that stores no token for its own sake but to revoke one leaves pods and tokens with
their runs. -/
theorem Custodial.acted (hd : d.Custodial) {a : Action} {results : String → Option Outcome}
    (hassign : ∀ id token, a = .assign id token → token = "")
    (hsound : { d with chronicle := d.chronicle.act a, results := results }.Sound) :
    { d with chronicle := d.chronicle.act a, results := results }.Custodial := by
  obtain ⟨l, hruns⟩ := d.chronicle.runs_act a
  have hstay : ∀ run ∈ d.chronicle.runs, run ∈ (d.chronicle.act a).runs := by
    intro run hrun
    rw [hruns]
    exact List.mem_append_left l hrun
  refine ⟨hsound, ?_, ?_, ?_⟩
  · exact Chronicle.assigns_act hd.revoking hassign
  · intro key pod hpod
    obtain ⟨run, hrun, token, hbuilt⟩ := hd.built key pod hpod
    exact ⟨run, hstay run hrun, token, hbuilt⟩
  · intro ns check token htoken hne
    obtain ⟨⟨run, hrun, hdrawn⟩, hlast⟩ := hd.traced ns check token htoken hne
    exact ⟨⟨run, hstay run hrun, hdrawn⟩, hlast⟩

/-- A pod that is created was built for the run that creates it. -/
theorem Custodial.exists_builtFor (hd : d.Custodial) {id ns : String} {pod : Pod}
    (hcall : d.chronicle.coordinator.call? id = some (.createPod ns pod)) :
    ∃ run ∈ d.chronicle.runs, ∃ token, BuiltFor (MemoryCluster.storedPod ns pod)
      ⟨ns, MemoryCluster.podName pod⟩ run token := by
  rcases Coordinator.call?_eq_some hcall with ⟨u, hu, hpending⟩ | ⟨c, token, -, hassign⟩
  · obtain ⟨rfl, token, hp⟩ := Pending.eq_of_call_createPod hpending
    obtain ⟨run, hrun, hconfig, htoken⟩ := hd.toSound.exists_run hu
    obtain ⟨now, rfl⟩ := hd.toSound.exists_pod_eq hu hp
    rw [hp] at htoken
    refine ⟨run, hrun, token, htoken, ⟨now, ?_⟩, ?_⟩
    · rw [hconfig]
      rfl
    · rw [hconfig]
      rfl
  · simp [Checker.assignCall] at hassign

/-- A token that is stored, and revokes no other, was drawn by a run of the check that it is stored
for. -/
theorem Custodial.exists_drawn (hd : d.Custodial) {id ns check token : String}
    (hcall : d.chronicle.coordinator.call? id = some (.setToken ns check token))
    (hne : token ≠ "") :
    ∃ run ∈ d.chronicle.runs, run.config.ns = ns ∧ run.config.checkName = check
      ∧ run.token? = some token := by
  rcases Coordinator.call?_eq_some hcall with ⟨u, hu, hpending⟩ | ⟨c, token', hslot, hassign⟩
  · obtain ⟨rfl, rfl, rfl⟩ := Pending.eq_of_call_setToken hpending
    obtain ⟨run, hrun, hconfig, htoken⟩ := hd.toSound.exists_run hu
    exact ⟨run, hrun, by rw [hconfig], by rw [hconfig], htoken⟩
  · obtain ⟨-, -, rfl⟩ := Call.setToken.inj hassign
    exact absurd (hd.revoking id c _ hslot) hne

/-- Pods come from runs after an operation if they did before. -/
theorem Custodial.built_of_change (hd : d.Custodial) {id : String} {call : Call} {outcome : Outcome}
    {cluster : MemoryCluster} (hcall : d.chronicle.coordinator.call? id = some call)
    (hcluster : d.cluster.Change call outcome cluster) (key : ObjectKey) (pod : Pod)
    (hpod : cluster.pods.get? key = some pod) :
    ∃ run ∈ d.chronicle.runs, ∃ token, BuiltFor pod key run token := by
  cases hcluster with
  | failed => exact hd.built key pod hpod
  | stored => exact hd.built key pod hpod
  | read => exact hd.built key pod hpod
  | @deleted ns name =>
    apply hd.built key pod
    by_cases hkey : key = ⟨ns, name⟩
    · subst hkey
      rw [SortedMap.get?_erase_self] at hpod
      simp at hpod
    · rw [SortedMap.get?_erase_of_ne _ hkey] at hpod
      exact hpod
  | @created ns new =>
    by_cases hkey : key = ⟨ns, MemoryCluster.podName new⟩
    · subst hkey
      rw [SortedMap.get?_insert_self] at hpod
      obtain rfl := Option.some.inj hpod
      exact hd.exists_builtFor hcall
    · rw [SortedMap.get?_insert_of_ne _ _ hkey] at hpod
      exact hd.built key pod hpod

/-- Tokens come from runs after an operation if they did before. -/
theorem Custodial.traced_of_change (hd : d.Custodial) {id : String} {call : Call}
    {outcome : Outcome} {cluster : MemoryCluster}
    (hcall : d.chronicle.coordinator.call? id = some call)
    (hcluster : d.cluster.Change call outcome cluster) (ns check token : String)
    (htoken : cluster.tokens.get? ⟨ns, check⟩ = some token) (hne : token ≠ "") :
    (∃ run ∈ d.chronicle.runs, run.config.ns = ns ∧ run.config.checkName = check
      ∧ run.token? = some token)
    ∧ LastWrite (d.performed ++ [(call, outcome)]) ns check token := by
  -- an operation that stores no token of this check leaves the last write where it was
  have hkept : d.cluster.tokens.get? ⟨ns, check⟩ = some token →
      (∀ other answer, (call, outcome) ≠ (.setToken ns check other, .ok answer)) →
      (∃ run ∈ d.chronicle.runs, run.config.ns = ns ∧ run.config.checkName = check
        ∧ run.token? = some token)
      ∧ LastWrite (d.performed ++ [(call, outcome)]) ns check token := by
    intro hold hother
    obtain ⟨hdrawn, hlast⟩ := hd.traced ns check token hold hne
    exact ⟨hdrawn, hlast.append hother⟩
  cases hcluster with
  | failed => exact hkept htoken (by simp)
  | @stored ns' check' new =>
    by_cases hkey : (⟨ns, check⟩ : ObjectKey) = ⟨ns', check'⟩
    · -- this operation is the last write itself
      obtain ⟨rfl, rfl⟩ := ObjectKey.mk.inj hkey
      rw [SortedMap.get?_insert_self] at htoken
      obtain rfl := Option.some.inj htoken
      exact ⟨hd.exists_drawn hcall hne, d.performed, .done, [], rfl, by simp⟩
    · rw [SortedMap.get?_insert_of_ne _ _ hkey] at htoken
      refine hkept htoken ?_
      intro other answer heq
      obtain ⟨hset, -⟩ := Prod.mk.inj heq
      obtain ⟨rfl, rfl, -⟩ := Call.setToken.inj hset
      exact hkey rfl
  | read => exact hkept htoken (by simp)
  | deleted => exact hkept htoken (by simp)
  | created => exact hkept htoken (by simp)

/-- Every move that stores no token for its own sake but to revoke one leaves pods and tokens with
their runs. -/
theorem Custodial.move (hd : d.Custodial) {m : Move} (hm : m.revokesOnly = true) :
    (d.move m).Custodial := by
  have hchange := change_of_move d m
  have hsound := hd.toSound.move m
  generalize d.move m = d' at hchange hsound ⊢
  cases hchange with
  | none => exact hd
  | acted hcause hstep =>
    subst hstep
    refine hd.acted ?_ hsound
    rintro id token rfl
    cases hcause
    exact of_decide_eq_true hm
  | performed hcall _ hcluster =>
    exact ⟨hsound, hd.revoking, hd.built_of_change hcall hcluster,
      hd.traced_of_change hcall hcluster⟩
  | refused => exact ⟨hsound, hd.revoking, hd.built, hd.traced⟩
  | faults => exact ⟨hsound, hd.revoking, hd.built, hd.traced⟩

/-- Whatever has happened, pods and tokens come from runs. -/
theorem custodial_run (tokens : TokenSource) (epoch : Instant) (checks : List (String × String))
    (moves : List Move) (hmoves : ∀ m ∈ moves, m.revokesOnly = true) :
    ((fresh tokens epoch (.ofChecks checks)).run moves).Custodial := by
  obtain ⟨hpods, htokens⟩ := MemoryCluster.ofChecks_spec checks
  refine run_induction _ moves ⟨sound_fresh .., ?_, ?_, ?_⟩ fun d m hm hd => hd.move (hmoves m hm)
  · intro id c token hslot
    simp [fresh, Chronicle.fresh] at hslot
  · intro key pod hpod
    simp [fresh, hpods] at hpod
  · intro ns check token htoken hne
    exact absurd (htokens _ token htoken) hne

/-! ## What the origin of pods and tokens means -/

/-- If all drawn tokens are different, pods that carry the same token are one pod. -/
theorem Custodial.key_eq_of_carries (hd : d.Custodial) (hdrawn : d.chronicle.drawn.Nodup)
    {key₁ key₂ : ObjectKey} {pod₁ pod₂ : Pod} {token : String}
    (h₁ : d.cluster.pods.get? key₁ = some pod₁) (h₂ : d.cluster.pods.get? key₂ = some pod₂)
    (hc₁ : pod₁.Carries token) (hc₂ : pod₂.Carries token) : key₁ = key₂ := by
  obtain ⟨run₁, hrun₁, token₁, hb₁⟩ := hd.built key₁ pod₁ h₁
  obtain ⟨run₂, hrun₂, token₂, hb₂⟩ := hd.built key₂ pod₂ h₂
  -- the tokens are those of the runs, and only one run drew this one
  obtain rfl := hc₁.unique hb₁.carries
  obtain rfl := hc₂.unique hb₂.carries
  obtain rfl := Chronicle.eq_of_drawn hdrawn hrun₁ hrun₂ hb₁.drawn hb₂.drawn
  rw [hb₁.place, hb₂.place]

/-- If all drawn tokens are different, a pod that may report for a check was made for it. -/
theorem Custodial.made_for (hd : d.Custodial) (hdrawn : d.chronicle.drawn.Nodup) {key : ObjectKey}
    {pod : Pod} {ns check token : String} (hpod : d.cluster.pods.get? key = some pod)
    (hcarries : pod.Carries token) (hjudge : d.cluster.judge ns check token = .ok true) :
    key.ns = ns ∧ pod.metadata.ns = some ns ∧ pod.Binds checkNameVariable check
      ∧ pod.Binds podNamespaceVariable ns := by
  obtain ⟨hne, htoken⟩ := MemoryCluster.judge_eq_ok_true.1 hjudge
  obtain ⟨⟨run, hrun, rfl, rfl, hdrawer⟩, -⟩ := hd.traced ns check token htoken hne
  -- the run that the pod was built for is the run of the check that drew the token
  obtain ⟨maker, hmaker, token', hbuilt⟩ := hd.built key pod hpod
  obtain rfl := hcarries.unique hbuilt.carries
  obtain rfl := Chronicle.eq_of_drawn hdrawn hmaker hrun hbuilt.drawn hdrawer
  obtain ⟨now, rfl⟩ := hbuilt.built
  exact ⟨by rw [hbuilt.place], rfl, maker.config.binds_pod_checkName token now,
    maker.config.binds_pod_ns token now⟩

/-- **A token authorizes one pod of one check**, whatever happens to any number of checkers, with
the locks of their checks or without: every pod carries a token that a run drew, and no two pods the
same one; the token of a check was drawn by a run of that check, and none was stored after it; and
one pod at most may report for a check, one that was made for it. -/
theorem token_authorizes_one_pod (tokens : TokenSource) (epoch : Instant)
    (checks : List (String × String)) (moves : List Move)
    (hmoves : ∀ m ∈ moves, m.revokesOnly = true)
    (hdrawn : ((fresh tokens epoch (.ofChecks checks)).run moves).chronicle.drawn.Nodup) :
    let d := (fresh tokens epoch (.ofChecks checks)).run moves
    (∀ key pod, d.cluster.pods.get? key = some pod → ∃ token ∈ d.chronicle.drawn, pod.Carries token)
    ∧ (∀ key₁ key₂ pod₁ pod₂ token, d.cluster.pods.get? key₁ = some pod₁ →
        d.cluster.pods.get? key₂ = some pod₂ → pod₁.Carries token → pod₂.Carries token →
        key₁ = key₂)
    ∧ (∀ ns check token, d.cluster.tokens.get? ⟨ns, check⟩ = some token → token ≠ "" →
        (∃ run ∈ d.chronicle.runs, run.config.ns = ns ∧ run.config.checkName = check
          ∧ run.token? = some token)
        ∧ LastWrite d.performed ns check token)
    ∧ ∀ ns check key pod token, d.cluster.pods.get? key = some pod → pod.Carries token →
        d.cluster.judge ns check token = .ok true →
        (key.ns = ns ∧ pod.metadata.ns = some ns ∧ pod.Binds checkNameVariable check
          ∧ pod.Binds podNamespaceVariable ns)
        ∧ ∀ key' pod' token', d.cluster.pods.get? key' = some pod' → pod'.Carries token' →
            d.cluster.judge ns check token' = .ok true → key' = key := by
  intro d
  have hd : d.Custodial := custodial_run tokens epoch checks moves hmoves
  refine ⟨?_, ?_, hd.traced, ?_⟩
  · intro key pod hpod
    obtain ⟨run, hrun, token, hbuilt⟩ := hd.built key pod hpod
    exact ⟨token, List.mem_filterMap.2 ⟨run, hrun, hbuilt.drawn⟩, hbuilt.carries⟩
  · intro key₁ key₂ pod₁ pod₂ token h₁ h₂ hc₁ hc₂
    exact hd.key_eq_of_carries hdrawn h₁ h₂ hc₁ hc₂
  · intro ns check key pod token hpod hcarries hjudge
    refine ⟨hd.made_for hdrawn hpod hcarries hjudge, ?_⟩
    intro key' pod' token' hpod' hcarries' hjudge'
    -- a check has one token, so both pods carry the same one
    have htoken := (MemoryCluster.judge_eq_ok_true.1 hjudge).2
    have htoken' := (MemoryCluster.judge_eq_ok_true.1 hjudge').2
    obtain rfl := Option.some.inj (htoken.symm.trans htoken')
    exact hd.key_eq_of_carries hdrawn hpod' hpod hcarries' hcarries

/-- Two runs of one check at once, each with a pod of its own, beside a run of another check whose
token is revoked: the pod of the run that stored its token last may report. -/
theorem token_authorizes_one_pod_of_two :
    let web := Checker.plain "prod" "web" "probe"
    let rival := Checker.plain "prod" "web" "rival"
    let moves : List Move :=
      [.act (.place "a" web), .act (.place "b" rival), .act (.place "c" (.plain "prod" "db" "db")),
        .act (.runOnce "a"), .act (.runOnce "b"), .perform "a", .perform "b", .deliver "b",
        .deliver "a", .perform "a", .perform "b", .act (.runCheck "c"), .act (.grant "c"),
        .perform "c", .act (.drop "c"), .deliver "a", .deliver "b", .act (.assign "c" ""),
        .perform "c", .deliver "c", .perform "a", .perform "b", .deliver "b"]
    let d := (fresh {} (.ofNanos 0) (.ofChecks [("prod", "web"), ("prod", "db")])).run moves
    let pod := rival.config.pod (tokenText 2) (.ofNanos 0)
    (∀ m ∈ moves, m.revokesOnly = true) ∧ d.chronicle.drawn.Nodup
    ∧ d.cluster.pods.entries.length = 2 ∧ d.cluster.pods.get? ⟨"prod", "rival"⟩ = some pod
    ∧ d.cluster.judge "prod" "web" (tokenText 2) = .ok true
    ∧ pod.Binds checkNameVariable "web" ∧ pod.Binds podNamespaceVariable "prod" := by
  intro web rival moves d pod
  have hmoves : ∀ m ∈ moves, m.revokesOnly = true := by decide
  have hdrawn : d.chronicle.drawn.Nodup := by decide +kernel
  have hpod : d.cluster.pods.get? ⟨"prod", "rival"⟩ = some pod := by decide +kernel
  have hjudge : d.cluster.judge "prod" "web" (tokenText 2) = .ok true :=
    MemoryCluster.judge_eq_ok_true.2 ⟨by decide +kernel, by decide +kernel⟩
  have hd : (fresh {} (.ofNanos 0) (.ofChecks [("prod", "web"), ("prod", "db")])).run moves = d :=
    rfl
  obtain ⟨-, -, -, hone⟩ := token_authorizes_one_pod {} (.ofNanos 0)
    [("prod", "web"), ("prod", "db")] moves hmoves hdrawn
  rw [hd] at hone
  obtain ⟨⟨-, -, hcheck, hns⟩, -⟩ :=
    hone "prod" "web" ⟨"prod", "rival"⟩ pod (tokenText 2) hpod (rival.config.carries_pod _ _) hjudge
  exact ⟨hmoves, hdrawn, by decide +kernel, hpod, hjudge, hcheck, hns⟩

end Deployment

end PodCheck
