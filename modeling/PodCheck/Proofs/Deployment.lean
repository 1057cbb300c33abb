import PodCheck.Proofs.Chronicle.CallOrder
import PodCheck.Proofs.Cluster.Change
import PodCheck.Proofs.Coordinator.Lock

/-! # Deployments

Checkers together with the cluster in memory that they run in. An operation has its effect some time
after it was called, and its outcome comes back some time after that; a checker that is cut off in
between neither has an effect any more nor gets an outcome. Faults of the cluster may be switched on
and off at any time. What a move can do is said once (`Deployment.change_of_move`), in terms of what
an action means for the account of runs and what an operation can do to a cluster. -/

namespace PodCheck

/-- The operation that a checker waits for. -/
def Slot.call? (slot : Slot) : Option Call :=
  match slot.activity with
  | .assigning token => some (slot.checker.assignCall token)
  | .running _ pending => some (pending.call slot.checker.config)
  | _ => none

/-- The operation that a checker waits for. -/
def Coordinator.call? (s : Coordinator) (id : String) : Option Call :=
  (s.slots.get? id).bind Slot.call?

/-- An operation is waited for by a run, or by a checker that stores a token for its own sake. -/
theorem Coordinator.call?_eq_some {s : Coordinator} {id : String} {call : Call}
    (h : s.call? id = some call) :
    (∃ u, s.underway? id = some u ∧ call = u.pending.call u.config)
    ∨ ∃ c token, s.slots.get? id = some ⟨c, .assigning token⟩ ∧ call = c.assignCall token := by
  obtain ⟨⟨c, activity⟩, hslot, hcall⟩ := Option.bind_eq_some_iff.1 h
  cases activity with
  | idle => simp [Slot.call?] at hcall
  | assigning token => exact .inr ⟨c, token, hslot, (Option.some.inj hcall).symm⟩
  | queued key lock => simp [Slot.call?] at hcall
  | running lease? pending =>
    exact .inl ⟨⟨c.config, lease?, pending⟩, underway?_of_slot hslot, (Option.some.inj hcall).symm⟩

/-- Checkers and their cluster. -/
structure Deployment where
  /-- The checkers, with the account of their runs. -/
  chronicle : Chronicle
  /-- The cluster. -/
  cluster : MemoryCluster
  /-- The outcomes that checkers have still to get. -/
  results : String → Option Outcome := fun _ => none
  /-- The operations that had their effect or failed in the cluster, first one first. -/
  performed : List (Call × Outcome) := []

/-- Something that happens in a deployment. -/
inductive Move
  /-- Something happens to the checkers, other than that an outcome comes back. -/
  | act (a : Action)
  /-- The operation that a checker waits for has its effect. -/
  | perform (id : String)
  /-- The operation that a checker waits for fails on its way. -/
  | refuse (id : String) (e : ClientError)
  /-- An outcome comes back to its checker. -/
  | deliver (id : String)
  /-- The faults of the cluster are switched on or off. -/
  | setFaults (createFault deleteFault writeFault : Option String)

namespace Deployment

/-- Lets an action happen, if it can. What its checker waited for is lost. -/
def act (d : Deployment) (a : Action) : Deployment :=
  match d.chronicle.coordinator.step a with
  | none => d
  | some _ =>
    { d with
      chronicle := d.chronicle.act a
      results :=
        match a.subject? with
        | some id => Function.update d.results id none
        | none => d.results }

/-- What follows from a move. -/
def move (d : Deployment) : Move → Deployment
  | .act (.answer _ _) => d
  | .act a => d.act a
  | .perform id =>
    match d.chronicle.coordinator.call? id, d.results id with
    | some call, none =>
      let (outcome, cluster) := d.cluster.perform call
      { d with
        cluster
        results := Function.update d.results id (some outcome)
        performed := d.performed ++ [(call, outcome)] }
    | _, _ => d
  | .refuse id e =>
    match d.chronicle.coordinator.call? id, d.results id with
    | some _, none => { d with results := Function.update d.results id (some (.error e)) }
    | _, _ => d
  | .deliver id =>
    match d.results id with
    | some outcome => d.act (.answer id outcome)
    | none => d
  | .setFaults createFault deleteFault writeFault =>
    { d with cluster := { d.cluster with createFault, deleteFault, writeFault } }

/-- Lets moves happen one after the other. -/
def run (d : Deployment) (moves : List Move) : Deployment := moves.foldl move d

/-- A cluster with no checkers yet. -/
def fresh (tokens : TokenSource) (epoch : Instant) (cluster : MemoryCluster) : Deployment where
  chronicle := .fresh tokens epoch
  cluster := cluster

/-- The pod that an operation stored. -/
def storedPod? : Call × Outcome → Option Pod
  | (.createPod _ _, .ok (.pod pod)) => some pod
  | _ => none

/-- The pods that were stored, first one first. -/
def stored (d : Deployment) : List Pod := d.performed.filterMap storedPod?

/-- An operation stores a pod if it creates one. -/
theorem storedPod?_of_change {m m' : MemoryCluster} {call : Call} {outcome : Outcome}
    (h : m.Change call outcome m') :
    (storedPod? (call, outcome) = none ∧ m'.creations = m.creations)
    ∨ ∃ ns pod, call = .createPod ns pod
        ∧ storedPod? (call, outcome) = some (MemoryCluster.storedPod ns pod)
        ∧ m'.creations
          = m.creations ++ [⟨ns, MemoryCluster.podName pod, m.tokenFor ns pod⟩] := by
  cases h with
  | failed => exact .inl ⟨by cases call <;> rfl, rfl⟩
  | stored => exact .inl ⟨rfl, rfl⟩
  | read => exact .inl ⟨rfl, rfl⟩
  | deleted => exact .inl ⟨rfl, rfl⟩
  | created => exact .inr ⟨_, _, rfl, rfl, rfl⟩

/-! ## What a move can do -/

/-- A move makes an action happen. -/
inductive Causes (d : Deployment) : Move → Action → Prop
  /-- It is just that action. -/
  | act {a : Action} (h : ∀ id outcome, a ≠ .answer id outcome) : Causes d (.act a) a
  /-- It brings an outcome back. -/
  | deliver {id : String} {outcome : Outcome} (h : d.results id = some outcome) :
      Causes d (.deliver id) (.answer id outcome)

/-- A change of a deployment by a move. -/
inductive Change (d : Deployment) : Move → Deployment → Prop
  /-- Nothing happens. -/
  | none {m : Move} : Change d m d
  /-- An action happens, and means something for the account of runs. -/
  | acted {m : Move} {a : Action} {h : Chronicle} {results : String → Option Outcome}
      (hcause : d.Causes m a) (hstep : h = d.chronicle.act a)
      (hself : ∀ id, a.subject? = some id → results id = Option.none)
      (hothers : ∀ id, a.subject? ≠ some id → results id = d.results id) :
      Change d m { d with chronicle := h, results := results }
  /-- An operation has its effect. -/
  | performed {id : String} {call : Call} {outcome : Outcome} {cluster : MemoryCluster}
      (hcall : d.chronicle.coordinator.call? id = some call) (hresult : d.results id = Option.none)
      (hcluster : d.cluster.Change call outcome cluster) :
      Change d (.perform id)
        { d with
          cluster := cluster
          results := Function.update d.results id (some outcome)
          performed := d.performed ++ [(call, outcome)] }
  /-- An operation fails on its way. -/
  | refused {id : String} {e : ClientError} (hresult : d.results id = Option.none) :
      Change d (.refuse id e) { d with results := Function.update d.results id (some (.error e)) }
  /-- The faults of the cluster are others. -/
  | faults {createFault deleteFault writeFault : Option String} :
      Change d (.setFaults createFault deleteFault writeFault)
        { d with cluster := { d.cluster with createFault, deleteFault, writeFault } }

variable {d : Deployment}

/-- An action that happens changes the account of runs, and its checker waits for nothing that was
called before. -/
theorem change_of_act {m : Move} {a : Action} (hcause : d.Causes m a) :
    Change d m (d.act a) := by
  unfold act
  split
  · exact .none
  · -- only the checker that the action is about loses its outcome
    refine .acted hcause rfl ?_ ?_
    · intro id hid
      simp only [hid, Function.update_self]
    · intro id hid
      cases hsubject : a.subject? with
      | none => rfl
      | some other =>
        have hne : id ≠ other := by
          rintro rfl
          exact hid hsubject
        exact Function.update_of_ne hne ..

/-- **Every move makes one of the changes.** -/
theorem change_of_move (d : Deployment) (m : Move) : Change d m (d.move m) := by
  cases m with
  | act a =>
    cases a with
    | answer id outcome => exact .none
    | _ => exact change_of_act (.act (by simp))
  | perform id =>
    simp only [move]
    split
    · rename_i call hcall hresult
      exact .performed hcall hresult (MemoryCluster.change_of_perform rfl)
    · exact .none
  | refuse id e =>
    simp only [move]
    split
    · rename_i hresult
      exact .refused hresult
    · exact .none
  | deliver id =>
    simp only [move]
    split
    · rename_i outcome hresult
      exact change_of_act (.deliver hresult)
    · exact .none
  | setFaults createFault deleteFault writeFault => exact .faults

/-- What holds of a deployment, and after each of some moves of every one that it holds of, holds
after all of them. -/
theorem run_induction {motive : Deployment → Prop} (d : Deployment) (moves : List Move)
    (hstart : motive d) (hmove : ∀ d, ∀ m ∈ moves, motive d → motive (d.move m)) :
    motive (d.run moves) := by
  induction moves generalizing d with
  | nil => exact hstart
  | cons m moves ih =>
    refine ih (d.move m) (hmove d m (List.mem_cons_self ..) hstart) ?_
    intro e n hn
    exact hmove e n (List.mem_cons_of_mem _ hn)

/-! ## Checkers in a deployment -/

/-- **The account of runs and the queues of the locks are in order.** -/
structure Sound (d : Deployment) : Prop where
  /-- The account is in order. -/
  orderly : d.chronicle.Orderly
  /-- The queues are in order. -/
  queued : d.chronicle.coordinator.WellQueued

/-- Every move keeps the account and the queues in order. -/
theorem Sound.move (hd : d.Sound) (m : Move) : (d.move m).Sound := by
  have hchange := change_of_move d m
  generalize d.move m = d' at hchange ⊢
  cases hchange with
  | none => exact hd
  | acted _ hstep =>
    subst hstep
    refine ⟨hd.orderly.act _, ?_⟩
    exact Chronicle.act_induction hd.queued fun _ _ hstep => hd.queued.step hstep
  | performed => exact ⟨hd.orderly, hd.queued⟩
  | refused => exact ⟨hd.orderly, hd.queued⟩
  | faults => exact ⟨hd.orderly, hd.queued⟩

/-- Without checkers there is nothing to put in order. -/
theorem sound_fresh (tokens : TokenSource) (epoch : Instant) (cluster : MemoryCluster) :
    (fresh tokens epoch cluster).Sound :=
  ⟨Chronicle.orderly_run tokens epoch [], .of_empty rfl rfl rfl⟩

/-- A run that is under way is on the account, with the token that it drew. -/
theorem Sound.exists_run (hd : d.Sound) {id : String} {u : Underway}
    (hu : d.chronicle.coordinator.underway? id = some u) :
    ∃ run ∈ d.chronicle.runs, run.config = u.config ∧ run.token? = some u.pending.token := by
  obtain ⟨n, hn⟩ := hd.orderly.tidy.current_of_underway hu
  have hrun := (hd.orderly.live id n u ⟨hn, hu⟩).1
  exact ⟨_, List.mem_of_getElem? hrun, rfl, rfl⟩

/-- The pod that a run creates is built for the token of the run. -/
theorem Sound.exists_pod_eq (hd : d.Sound) {id token : String} {u : Underway} {pod : Pod}
    (hu : d.chronicle.coordinator.underway? id = some u)
    (hp : u.pending = .submitting token pod) : ∃ now, pod = u.config.pod token now := by
  obtain ⟨n, hn⟩ := hd.orderly.tidy.current_of_underway hu
  have hawaits := (hd.orderly.live id n u ⟨hn, hu⟩).2
  rw [hp] at hawaits
  exact hawaits.exists_pod_eq

end Deployment

end PodCheck
