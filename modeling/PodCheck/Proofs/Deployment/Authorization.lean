import Mathlib.Data.List.Forall2
import PodCheck.Proofs.Deployment

/-! # Pods are created while their tokens are authorized

If checkers run only with the locks of their checks, and nobody else stores tokens, then the token
of a run stays that of its check from the moment it was stored until the run is over. So every pod
carries the token that its check had when the pod was created
(`Deployment.creations_authorized`). The invariant says this of the runs that are under way
(`Deployment.Guarded`); a run's token cannot be replaced by another run's, as two runs of one check
are never under way together. -/

namespace PodCheck

/-- The token of a run that waits for an operation is stored by now, if that is all that is known of
the outcome of the operation. -/
def Pending.Settled : Pending → Option Outcome → Prop
  | .settingToken _, result? => ∃ answer, result? = some (.ok answer)
  | .removing _, _ => True
  | .submitting _ _, _ => True

namespace Pending

/-- An operation that has succeeded leaves the token stored. -/
theorem settled_of_ok (p : Pending) (answer : Answer) : p.Settled (some (.ok answer)) := by
  cases p with
  | settingToken token => exact ⟨answer, rfl⟩
  | removing token => trivial
  | submitting token pod => trivial

/-- A run that does not store its token has stored it. -/
theorem settled_of_call {c : CheckerConfig} {p : Pending}
    (h : ∀ ns check token, p.call c ≠ .setToken ns check token) (result? : Option Outcome) :
    p.Settled result? := by
  cases p with
  | settingToken token => exact absurd rfl (h _ _ _)
  | removing token => trivial
  | submitting token pod => trivial

/-- Without an outcome, or with an error, the token is stored only if it was stored before. -/
theorem Settled.of_not_ok {p : Pending} {result? other? : Option Outcome} (h : p.Settled result?)
    (hr : ∀ answer, result? ≠ some (.ok answer)) : p.Settled other? := by
  cases p with
  | settingToken token =>
    obtain ⟨answer, hanswer⟩ := h
    exact absurd hanswer (hr answer)
  | removing token => trivial
  | submitting token pod => trivial

end Pending

/-- Whether a move leaves it to the locks when a check is run, and leaves its token to runs. -/
def Move.isCoordinated : Move → Bool
  | .act (.runOnce _) => false
  | .act (.assign _ _) => false
  | _ => true

/-- A pod was stored by a creation, and carries the token that its check had then. -/
structure PodCreation.Authorizes (creation : PodCreation) (pod : Pod) : Prop where
  /-- The pod lies where it was created. -/
  ns : pod.metadata.ns = some creation.ns
  /-- It has the name under which it was created. -/
  name : MemoryCluster.podName pod = creation.pod
  /-- It carries the token that was recorded. -/
  token : ∃ token, creation.token? = some token ∧ pod.Carries token

namespace Deployment

variable {d : Deployment}

/-- **The token of a run stays that of its check**, from the moment it was stored. -/
structure Guarded (d : Deployment) : Prop extends d.Sound where
  /-- Every run has a lock. -/
  leased : ∀ id u, d.chronicle.coordinator.underway? id = some u → u.lease?.isSome = true
  /-- No token is stored for its own sake. -/
  quiet : d.chronicle.coordinator.Assigns fun _ => False
  /-- The token of a run is that of its check. -/
  settled : ∀ id u, d.chronicle.coordinator.underway? id = some u →
    u.pending.Settled (d.results id) →
    d.cluster.tokens.get? ⟨u.config.ns, u.config.checkName⟩ = some u.pending.token
  /-- Every pod carried the token of its check when it was created. -/
  logged : List.Forall₂ PodCreation.Authorizes d.cluster.creations d.stored

/-- An action that leaves it to the locks when a check is run keeps the runs guarded. -/
theorem Guarded.acted (hd : d.Guarded) {a : Action} {results : String → Option Outcome}
    (hrun : ∀ id, a ≠ .runOnce id) (hassign : ∀ id token, a ≠ .assign id token)
    (hanswer : ∀ id outcome, a = .answer id outcome → d.results id = some outcome)
    (hsound : { d with chronicle := d.chronicle.act a, results := results }.Sound)
    (hself : ∀ id, a.subject? = some id → results id = none)
    (hothers : ∀ id, a.subject? ≠ some id → results id = d.results id) :
    { d with chronicle := d.chronicle.act a, results := results }.Guarded := by
  have ht := hd.orderly.tidy
  refine ⟨hsound, ?_, ?_, ?_, hd.logged⟩
  · intro id u hu
    rcases Chronicle.origin_of_act ht hu with hold | ⟨c, lease?, events, token, hopens, rfl⟩ | hnext
    · exact hd.leased id u hold
    · cases hopens with
      | runOnce hslot => exact absurd rfl (hrun id)
      | grant hslot hhold => rfl
    · obtain ⟨v, q, answer, -, hv, -, rfl⟩ := hnext
      exact hd.leased id v hv
  · exact Chronicle.assigns_act hd.quiet hassign
  · intro id u hu (hsettled : u.pending.Settled (results id))
    rcases Chronicle.origin_of_act ht hu with hold | ⟨c, lease?, events, token, hopens, rfl⟩ | hnext
    · refine hd.settled id u hold ?_
      by_cases hid : a.subject? = some id
      · exact hsettled.of_not_ok (by simp [hself id hid])
      · rw [hothers id hid] at hsettled
        exact hsettled
    · -- a run that has just begun has had no outcome yet
      have hid : a.subject? = some id := (Chronicle.before_of_opens hopens {}).2
      obtain ⟨answer, hresult⟩ := hsettled
      simp [hself id hid] at hresult
    · -- a run goes on once its operation has succeeded, and by then its token was stored
      obtain ⟨v, q, answer, rfl, hv, hq, rfl⟩ := hnext
      have hbefore := hd.settled id v hv
      rw [hanswer id _ rfl] at hbefore
      rw [Pending.token_of_next? hq]
      exact hbefore (v.pending.settled_of_ok answer)

/-- An outcome that leaves all tokens alone, and stores none of a run, keeps the tokens of runs. -/
theorem Guarded.settled_of_tokens (hd : d.Guarded) {id : String} {outcome : Outcome}
    {cluster : MemoryCluster} (htokens : cluster.tokens = d.cluster.tokens)
    (hself : ∀ u, d.chronicle.coordinator.underway? id = some u →
      u.pending.Settled (some outcome) → u.pending.Settled (d.results id)) :
    ∀ other v, d.chronicle.coordinator.underway? other = some v →
      v.pending.Settled (Function.update d.results id (some outcome) other) →
      cluster.tokens.get? ⟨v.config.ns, v.config.checkName⟩ = some v.pending.token := by
  intro other v hv hsettled
  rw [htokens]
  apply hd.settled other v hv
  by_cases ho : other = id
  · subst ho
    rw [Function.update_self] at hsettled
    exact hself v hv hsettled
  · rw [Function.update_of_ne ho] at hsettled
    exact hsettled

/-- A run that stores its token replaces that of no other run. -/
theorem Guarded.settled_of_stored (hd : d.Guarded) {id token : String} {u : Underway}
    {outcome : Outcome} (hu : d.chronicle.coordinator.underway? id = some u)
    (htoken : u.pending.token = token) :
    ∀ other v, d.chronicle.coordinator.underway? other = some v →
      v.pending.Settled (Function.update d.results id (some outcome) other) →
      (d.cluster.tokens.insert ⟨u.config.ns, u.config.checkName⟩ token).get?
        ⟨v.config.ns, v.config.checkName⟩ = some v.pending.token := by
  intro other v hv hsettled
  by_cases ho : other = id
  · subst ho
    obtain rfl := Option.some.inj (hu.symm.trans hv)
    rw [SortedMap.get?_insert_self, htoken]
  · -- another run of the same check would hold the same lock
    have hkey : (⟨v.config.ns, v.config.checkName⟩ : ObjectKey)
        ≠ ⟨u.config.ns, u.config.checkName⟩ := by
      intro heq
      obtain ⟨hns, hname⟩ := ObjectKey.mk.inj heq
      exact ho (hd.queued.eq_of_underway hv hu (hd.leased other v hv) (hd.leased id u hu) hns hname)
    rw [Function.update_of_ne ho] at hsettled
    rw [SortedMap.get?_insert_of_ne _ _ hkey]
    exact hd.settled other v hv hsettled

/-- The pod that a run creates carries the token that its check has. -/
theorem Guarded.authorizes (hd : d.Guarded) {id token : String} {u : Underway} {pod : Pod}
    (hu : d.chronicle.coordinator.underway? id = some u)
    (hp : u.pending = .submitting token pod) :
    PodCreation.Authorizes
      ⟨u.config.ns, MemoryCluster.podName pod, d.cluster.tokenFor u.config.ns pod⟩
      (MemoryCluster.storedPod u.config.ns pod) := by
  obtain ⟨now, rfl⟩ := hd.toSound.exists_pod_eq hu hp
  have htoken := hd.settled id u hu (by rw [hp]; trivial)
  rw [hp] at htoken
  constructor
  · rfl
  · rfl
  · refine ⟨token, ?_, u.config.carries_pod token now⟩
    exact (MemoryCluster.tokenFor_build _ _ (u.config.runParams token) now).trans htoken

/-- Every move that leaves it to the locks when a check is run keeps the runs guarded. -/
theorem Guarded.move (hd : d.Guarded) {m : Move} (hm : m.isCoordinated = true) :
    (d.move m).Guarded := by
  have hchange := change_of_move d m
  have hsound := hd.toSound.move m
  generalize d.move m = d' at hchange hsound ⊢
  cases hchange with
  | none => exact hd
  | @acted _ a h results hcause hstep hself hothers =>
    subst hstep
    refine hd.acted ?_ ?_ ?_ hsound hself hothers
    · rintro id rfl
      cases hcause
      simp [Move.isCoordinated] at hm
    · rintro id token rfl
      cases hcause
      simp [Move.isCoordinated] at hm
    · rintro id outcome rfl
      cases hcause with
      | act hne => exact absurd rfl (hne id outcome)
      | deliver hresult => exact hresult
  | @performed id call outcome cluster hcall hresult hcluster =>
    -- no checker stores a token for its own sake, so the operation is that of a run
    rcases Coordinator.call?_eq_some hcall with ⟨u, hu, hpending⟩ | ⟨c, token, hslot, -⟩
    swap
    · exact (hd.quiet id c token hslot).elim
    refine ⟨hsound, hd.leased, hd.quiet, ?_, ?_⟩
    · -- a run that waits for anything but its first operation has stored its token
      have hlater : (∀ ns check token, call ≠ .setToken ns check token) →
          ∀ v, d.chronicle.coordinator.underway? id = some v →
            v.pending.Settled (some outcome) → v.pending.Settled (d.results id) := by
        intro hne v hv _
        obtain rfl := Option.some.inj (hu.symm.trans hv)
        rw [hpending] at hne
        exact Pending.settled_of_call hne _
      cases hcluster with
      | failed =>
        exact hd.settled_of_tokens rfl fun _ _ hsettled => hsettled.of_not_ok (by simp)
      | stored =>
        obtain ⟨rfl, rfl, htoken⟩ := Pending.eq_of_call_setToken hpending
        exact hd.settled_of_stored hu htoken
      | read => exact hd.settled_of_tokens rfl (hlater (by simp))
      | deleted => exact hd.settled_of_tokens rfl (hlater (by simp))
      | created => exact hd.settled_of_tokens rfl (hlater (by simp))
    · rw [stored, List.filterMap_append]
      rcases storedPod?_of_change hcluster with ⟨hpod, hlog⟩ | ⟨ns, pod, rfl, hpod, hlog⟩
      · rw [hlog, List.filterMap_cons_none hpod, List.filterMap_nil, List.append_nil]
        exact hd.logged
      · obtain ⟨rfl, token, hp⟩ := Pending.eq_of_call_createPod hpending
        rw [hlog, List.filterMap_cons_some hpod, List.filterMap_nil]
        exact List.rel_append hd.logged (.cons (hd.authorizes hu hp) .nil)
  | refused =>
    refine ⟨hsound, hd.leased, hd.quiet, ?_, hd.logged⟩
    exact hd.settled_of_tokens rfl fun _ _ hsettled => hsettled.of_not_ok (by simp)
  | faults => exact ⟨hsound, hd.leased, hd.quiet, hd.settled, hd.logged⟩

/-- **Every pod is created while its own token is the authorized one**: the token that its check had
when it was created is the one that it carries. This holds for whatever happens to any number of
checkers that run with the locks of their checks: operations that are delayed or fail, faults of the
cluster, runs that are cut off at their deadlines or dropped. -/
theorem creations_authorized (tokens : TokenSource) (epoch : Instant) (cluster : MemoryCluster)
    (hnew : cluster.creations = []) (moves : List Move)
    (hmoves : ∀ m ∈ moves, m.isCoordinated = true) :
    let d := (fresh tokens epoch cluster).run moves
    List.Forall₂ PodCreation.Authorizes d.cluster.creations d.stored := by
  have hstart : (fresh tokens epoch cluster).Guarded := by
    refine ⟨sound_fresh tokens epoch cluster, ?_, ?_, ?_, ?_⟩
    · rintro id u hu
      simp [fresh, Chronicle.fresh, Coordinator.underway?] at hu
    · rintro id c token hslot
      simp [fresh, Chronicle.fresh] at hslot
    · rintro id u hu
      simp [fresh, Chronicle.fresh, Coordinator.underway?] at hu
    · show List.Forall₂ _ cluster.creations []
      rw [hnew]
      exact .nil
  exact (run_induction _ moves hstart fun d m hm hd => hd.move (hmoves m hm)).logged

/-- A run stores its token and is dropped before it creates its pod; the next run of its check
replaces the token and creates a pod, although that fails at first. -/
theorem creations_authorized_after_drop :
    let checker := Checker.plain "prod" "web" "probe"
    let moves : List Move :=
      [.act (.place "a" checker), .act (.place "b" checker), .act (.runCheck "a"),
        .act (.runCheck "b"), .act (.grant "a"), .perform "a", .deliver "a", .perform "a",
        .act (.drop "a"), .act (.grant "b"), .perform "b", .deliver "b", .perform "b", .deliver "b",
        .setFaults (some "quota") none none, .perform "b", .deliver "b", .act (.runCheck "b"),
        .setFaults none none none, .act (.grant "b"), .perform "b", .deliver "b", .perform "b",
        .deliver "b", .perform "b", .deliver "b"]
    let d := (fresh {} (.ofNanos 0) (MemoryCluster.withCheck {} "prod" "web")).run moves
    (∀ m ∈ moves, m.isCoordinated = true)
    ∧ d.cluster.creations = [⟨"prod", "probe", some (tokenText 3)⟩]
    ∧ List.Forall₂ PodCreation.Authorizes d.cluster.creations d.stored := by
  refine ⟨by decide, by decide +kernel, ?_⟩
  exact creations_authorized {} (.ofNanos 0) (MemoryCluster.withCheck {} "prod" "web") rfl _
    (by decide)

end Deployment

end PodCheck
