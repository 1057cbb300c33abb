import PodCheck.Proofs.Deployment.Course

/-! # What a whole run does

A run that nobody disturbs and that is not cut off, from any state of the cluster and any state of
its checker. It has one of five effects, according to the faults of the cluster and whether the
check exists (`MemoryCluster.Effect`), and leaves everything else as it was
(`Deployment.whole_run_effect`). -/

namespace PodCheck

/-- The moves of a run that is not cut off. -/
def Move.wholeRun (id : String) : List Move :=
  .act (.runOnce id) :: (Move.serve id ++ (Move.serve id ++ Move.serve id))

/-- The faults of a cluster. -/
structure Faults where
  /-- Why no pod can be created, if so. -/
  createFault : Option String := none
  /-- Why no pod can be deleted, if so. -/
  deleteFault : Option String := none
  /-- Why no token can be stored, if so. -/
  writeFault : Option String := none

/-- The moves of a run that is not cut off, with faults switched before it. -/
def Move.round (id : String) (f : Faults) : List Move :=
  .setFaults f.createFault f.deleteFault f.writeFault :: Move.wholeRun id

/-- The moves of such runs one after the other. -/
def Move.rounds (id : String) (faults : List Faults) : List Move :=
  faults.flatMap (Move.round id)

namespace MemoryCluster

section Operations

variable {m : MemoryCluster} {reason : String} (ns check name token : String) (pod : Pod)

theorem setToken_of_fault (h : m.writeFault = some reason) :
    m.setToken ns check token = (.error (.unavailable reason), m) := by
  rw [setToken, h]

theorem setToken_of_unregistered (h : m.writeFault = none)
    (hcheck : m.tokens.contains ⟨ns, check⟩ = false) :
    m.setToken ns check token = (.error (.notFound Check.kind ns check), m) := by
  simp only [setToken, h, hcheck, Bool.false_eq_true, if_false]

theorem setToken_of_registered (h : m.writeFault = none)
    (hcheck : m.tokens.contains ⟨ns, check⟩ = true) :
    m.setToken ns check token
      = (.ok .done, { m with tokens := m.tokens.insert ⟨ns, check⟩ token }) := by
  simp only [setToken, h, hcheck, if_true]

theorem deletePod_of_fault (h : m.deleteFault = some reason) :
    m.deletePod ns name = (.error (.unavailable reason), m) := by
  rw [deletePod, h]

theorem deletePod_of_no_fault (h : m.deleteFault = none) :
    m.deletePod ns name = (.ok .done, { m with pods := m.pods.erase ⟨ns, name⟩ }) := by
  rw [deletePod, h]

theorem createPod_of_fault (h : m.createFault = some reason) :
    m.createPod ns pod = (.error (.unavailable reason), m) := by
  rw [createPod, h]

/-- No pod is created in the place of another one. -/
theorem createPod_of_taken (c : CheckerConfig) (now : Instant) (h : m.createFault = none)
    (htaken : m.pods.contains c.place = true) :
    m.createPod c.ns (c.pod token now)
      = (.error (.unavailable ("pods " ++ Text.quoted c.podName ++ " already exists in namespace "
          ++ Text.quoted c.ns)), m) := by
  simp only [createPod, h]
  exact if_pos htaken

/-- The pod of a run is stored as it was built, and recorded with the token of its check. -/
theorem createPod_of_no_pod (c : CheckerConfig) (now : Instant) (h : m.createFault = none)
    (hfree : m.pods.contains c.place = false) :
    m.createPod c.ns (c.pod token now)
      = (.ok (.pod (c.pod token now)),
          { m with
            pods := m.pods.insert c.place (c.pod token now)
            creations := m.creations ++ [⟨c.ns, c.podName, m.tokens.get? c.checkKey⟩] }) := by
  rw [← tokenFor_pod m c token now]
  simp only [createPod, h]
  exact if_neg (Bool.eq_false_iff.1 hfree)

/-- The pod of a run is stored as it was built, together with the token of its check. -/
theorem createPod_of_free (c : CheckerConfig) (now : Instant) (h : m.createFault = none)
    (hfree : m.pods.contains c.place = false) (htoken : m.tokens.get? c.checkKey = some token) :
    m.createPod c.ns (c.pod token now)
      = (.ok (.pod (c.pod token now)),
          { m with
            pods := m.pods.insert c.place (c.pod token now)
            creations := m.creations ++ [⟨c.ns, c.podName, some token⟩] }) := by
  rw [createPod_of_no_pod token c now h hfree, htoken]

end Operations

/-- What a run with the given token does to a cluster: its result, the token that the checker has
then, and the cluster. -/
inductive Effect (m : MemoryCluster) (c : Checker) (token : String) (now : Instant) :
    Except CheckError Unit → String → MemoryCluster → Prop
  /-- No token can be stored. -/
  | unwritable {reason : String} (hwrite : m.writeFault = some reason) :
      Effect m c token now
        (.error (.persistence c.config.ns c.config.checkName (.unavailable reason))) c.token m
  /-- There is no such check. -/
  | unregistered (hwrite : m.writeFault = none)
      (hcheck : m.tokens.contains c.config.checkKey = false) :
      Effect m c token now
        (.error (.persistence c.config.ns c.config.checkName
          (.notFound Check.kind c.config.ns c.config.checkName))) c.token m
  /-- The token is stored, but no pod can be deleted. -/
  | undeletable {reason : String} (hwrite : m.writeFault = none)
      (hcheck : m.tokens.contains c.config.checkKey = true)
      (hdelete : m.deleteFault = some reason) :
      Effect m c token now (.error (.cluster c.config.ns c.config.podName (.unavailable reason)))
        token { m with tokens := m.tokens.insert c.config.checkKey token }
  /-- The token is stored and the pod of the run before is gone, but no pod can be created. -/
  | uncreatable {reason : String} (hwrite : m.writeFault = none)
      (hcheck : m.tokens.contains c.config.checkKey = true) (hdelete : m.deleteFault = none)
      (hcreate : m.createFault = some reason) :
      Effect m c token now (.error (.cluster c.config.ns c.config.podName (.unavailable reason)))
        token
        { m with
          tokens := m.tokens.insert c.config.checkKey token
          pods := m.pods.erase c.config.place }
  /-- The token is stored and the pod is replaced. -/
  | replaced (hwrite : m.writeFault = none)
      (hcheck : m.tokens.contains c.config.checkKey = true) (hdelete : m.deleteFault = none)
      (hcreate : m.createFault = none) :
      Effect m c token now (.ok ()) token
        { m with
          tokens := m.tokens.insert c.config.checkKey token
          pods := (m.pods.erase c.config.place).insert c.config.place (c.config.pod token now)
          creations := m.creations ++ [⟨c.config.ns, c.config.podName, some token⟩] }

variable {m m' : MemoryCluster} {c : Checker} {token kept : String} {now : Instant}
  {result : Except CheckError Unit}

/-- A run changes nothing but the token of its check and the pod at its place. -/
theorem Effect.changedOnly (h : m.Effect c token now result kept m') :
    ChangedOnly (· = c.config.checkKey) (· = c.config.place) m m' := by
  -- storing the token is all that becomes of other checks
  have htokens : ∀ key, ¬ key = c.config.checkKey →
      (m.tokens.insert c.config.checkKey token).get? key = m.tokens.get? key :=
    fun key hkey => SortedMap.get?_insert_of_ne _ _ hkey
  have hnone : ∃ more, m.creations = m.creations ++ more
      ∧ ∀ e ∈ more, (⟨e.ns, e.pod⟩ : ObjectKey) = c.config.place :=
    ⟨[], (List.append_nil _).symm, by simp⟩
  cases h with
  | unwritable => exact .refl m
  | unregistered => exact .refl m
  | undeletable => exact ⟨htokens, fun _ _ => rfl, hnone⟩
  | uncreatable =>
    exact ⟨htokens, fun key hkey => SortedMap.get?_erase_of_ne _ hkey, hnone⟩
  | replaced =>
    refine ⟨htokens, ?_, _, rfl, ?_⟩
    · intro key hkey
      exact (SortedMap.get?_insert_of_ne _ _ hkey).trans (SortedMap.get?_erase_of_ne _ hkey)
    · intro e he
      rw [List.mem_singleton.1 he]
      rfl

/-- A pod that is not replaced is so because of a fault. -/
theorem Effect.reason_of_cluster {ns pod : String} {source : ClientError}
    (h : m.Effect c token now (.error (.cluster ns pod source)) kept m') :
    ∃ reason, (m.deleteFault = some reason ∨ m.createFault = some reason)
      ∧ source = .unavailable reason := by
  cases h with
  | undeletable _ _ hdelete => exact ⟨_, .inl hdelete, rfl⟩
  | uncreatable _ _ _ hcreate => exact ⟨_, .inr hcreate, rfl⟩

/-- A run that succeeds has its token stored and its pod in place. -/
theorem Effect.of_ok (h : m.Effect c token now (.ok ()) kept m') :
    m'.pods.get? c.config.place = some (c.config.pod token now)
      ∧ m'.tokens.get? c.config.checkKey = some token ∧ kept = token := by
  cases h with
  | replaced =>
    exact ⟨SortedMap.get?_insert_self .., SortedMap.get?_insert_self .., rfl⟩

/-- What a run with the given token has done to a cluster, by the faults of the cluster before. -/
structure Aftermath (m : MemoryCluster) (c : Checker) (token : String) (now : Instant)
    (result : Except CheckError Unit) (kept : String) (m' : MemoryCluster) : Prop where
  /-- If the token is refused, nothing has changed. -/
  refused : m.writeFault ≠ none ∨ m.tokens.contains c.config.checkKey = false →
    (∃ source, result = .error (.persistence c.config.ns c.config.checkName source))
      ∧ m' = m ∧ kept = c.token
  /-- Otherwise check and checker have it. -/
  stored : m.writeFault = none → m.tokens.contains c.config.checkKey = true →
    m'.tokens.get? c.config.checkKey = some token ∧ kept = token
  /-- If then no pod can be deleted, the pods have not changed. -/
  undeleted : m.writeFault = none → m.tokens.contains c.config.checkKey = true →
    ∀ reason, m.deleteFault = some reason →
      result = .error (.cluster c.config.ns c.config.podName (.unavailable reason))
        ∧ m'.pods = m.pods ∧ m'.creations = m.creations
  /-- If then no pod can be created, the pod of the run before is gone. -/
  uncreated : m.writeFault = none → m.tokens.contains c.config.checkKey = true →
    m.deleteFault = none → ∀ reason, m.createFault = some reason →
      result = .error (.cluster c.config.ns c.config.podName (.unavailable reason))
        ∧ m'.pods.get? c.config.place = none ∧ m'.creations = m.creations
  /-- Otherwise the pod of the run is in its place. -/
  replaced : m.writeFault = none → m.tokens.contains c.config.checkKey = true →
    m.deleteFault = none → m.createFault = none →
      result = .ok () ∧ m'.pods.get? c.config.place = some (c.config.pod token now)
        ∧ m'.creations = m.creations ++ [⟨c.config.ns, c.config.podName, some token⟩]
  /-- Nothing else has changed. -/
  rest : ChangedOnly (· = c.config.checkKey) (· = c.config.place) m m'
  /-- The faults are those of before. -/
  faults : m'.createFault = m.createFault ∧ m'.deleteFault = m.deleteFault
    ∧ m'.writeFault = m.writeFault

/-- The effect of a run is that of the faults of the cluster. -/
theorem Effect.aftermath (h : m.Effect c token now result kept m') :
    m.Aftermath c token now result kept m' := by
  have hrest := h.changedOnly
  -- in each case one of the fields tells what has happened, and the faults rule out the others
  cases h with
  | unwritable hwrite =>
    refine ⟨fun _ => ⟨⟨_, rfl⟩, rfl, rfl⟩, ?_, ?_, ?_, ?_, hrest, rfl, rfl, rfl⟩ <;> simp [hwrite]
  | unregistered hwrite hcheck =>
    refine ⟨fun _ => ⟨⟨_, rfl⟩, rfl, rfl⟩, ?_, ?_, ?_, ?_, hrest, rfl, rfl, rfl⟩ <;> simp [hcheck]
  | undeletable hwrite hcheck hdelete =>
    have hstored := SortedMap.get?_insert_self m.tokens c.config.checkKey token
    refine ⟨?_, fun _ _ => ⟨hstored, rfl⟩, ?_, ?_, ?_, hrest, rfl, rfl, rfl⟩ <;>
      simp [hwrite, hcheck, hdelete]
  | uncreatable hwrite hcheck hdelete hcreate =>
    have hstored := SortedMap.get?_insert_self m.tokens c.config.checkKey token
    refine ⟨?_, fun _ _ => ⟨hstored, rfl⟩, ?_, ?_, ?_, hrest, rfl, rfl, rfl⟩ <;>
      simp [hwrite, hcheck, hdelete, hcreate]
  | replaced hwrite hcheck hdelete hcreate =>
    have hstored := SortedMap.get?_insert_self m.tokens c.config.checkKey token
    refine ⟨?_, fun _ _ => ⟨hstored, rfl⟩, ?_, ?_, ?_, hrest, rfl, rfl, rfl⟩ <;>
      simp [hwrite, hcheck, hdelete, hcreate]

end MemoryCluster

namespace Deployment

/-! ## Turns of a run that nobody disturbs -/

/-- How a checker stands in a deployment. -/
structure Stands (d : Deployment) (id : String) (slot : Slot) (m : MemoryCluster)
    (now : Instant) : Prop where
  /-- The checker and what it is doing. -/
  slot : d.chronicle.coordinator.slots.get? id = some slot
  /-- It has no outcome to get. -/
  result : d.results id = none
  /-- The cluster. -/
  cluster : d.cluster = m
  /-- The time. -/
  now : d.chronicle.coordinator.now = now

variable {d : Deployment} {id : String} {c : Checker} {p : Pending} {m m' : MemoryCluster}
  {now : Instant} {outcome : Outcome}

/-- What becomes of a run whose operation has its effect and gets its outcome back at once. -/
inductive Served (d : Deployment) (id : String) (c : Checker) (p : Pending) (m : MemoryCluster)
    (now : Instant) : Outcome → Prop
  /-- The run goes on to its next operation. -/
  | next {q : Pending} {answer : Answer} (hq : p.next? c.config now = some q)
      (h : (d.run (Move.serve id)).Stands id ⟨c.amid q, .running none q⟩ m now)
      (hreturns : d.returns id (Move.serve id) = []) : Served d id c p m now (.ok answer)
  /-- The run is over. -/
  | last {outcome : Outcome} {result : Except CheckError Unit} {c' : Checker}
      (hc : c.Concludes p outcome result c')
      (h : (d.run (Move.serve id)).Stands id ⟨c', .idle⟩ m now)
      (hreturns : d.returns id (Move.serve id) = [result]) : Served d id c p m now outcome

/-- An operation that has its effect at once takes the run on, or ends it. -/
theorem served_of_stands (h : d.Stands id ⟨c.amid p, .running none p⟩ m now)
    (hperform : m.perform (p.call c.config) = (outcome, m')) :
    d.Served id c p m' now outcome := by
  obtain ⟨hslot, hresult, hcluster, hnow⟩ := h
  have hcall : d.chronicle.coordinator.call? id = some (p.call c.config) := by
    rw [Coordinator.call?, hslot, Option.bind_some, Slot.call?, Checker.config_amid]
  obtain ⟨⟨s, r⟩, hs⟩ : ∃ next, d.chronicle.coordinator.step (.answer id outcome) = some next :=
    ⟨_, by rw [Coordinator.step, Coordinator.answer?, hslot]⟩
  -- the deployment in which the operation has had its effect
  have hperformed := move_perform hcall hresult (hcluster ▸ hperform)
  generalize he : d.move (.perform id) = e at hperformed
  have haction : e.action? (.deliver id) = some (.answer id outcome) := by
    simp [hperformed, action?]
  have hsame : e.chronicle.coordinator = d.chronicle.coordinator := by rw [hperformed]
  have hrun : d.run (Move.serve id) = e.act (.answer id outcome) := by
    rw [← move_of_action? haction, ← he]
    rfl
  have hreturns : d.returns id (Move.serve id) = r.result?.toList := by
    have hfirst : d.returned? id (.perform id) = none := rfl
    rw [Move.serve, returns, returns, returns, he, hfirst, returned?_of_action? haction, hsame,
      Coordinator.returned?_of_step hs rfl]
    simp
  have hstands : ∀ slot, s.slots.get? id = some slot →
      (d.run (Move.serve id)).Stands id slot m' now := by
    intro slot hslot'
    rw [hrun]
    refine ⟨?_, results_act_of_step (hsame ▸ hs) rfl, ?_, ?_⟩
    · rw [coordinator_act, hsame, Coordinator.act_of_step hs, hslot']
    · rw [cluster_act, hperformed]
    · rw [coordinator_act, hsame, Coordinator.act_of_step hs, Coordinator.now_of_step hs (by simp),
        hnow]
  cases Coordinator.fate_of_step hslot hs with
  | aside hne => simp [Action.subject?] at hne
  | proceed hq hslot' _ hr => exact .next (hnow ▸ hq) (hstands _ hslot') (by rw [hreturns, hr]; rfl)
  | conclude hc hslot' _ hr => exact .last hc (hstands _ hslot') (by rw [hreturns, hr]; rfl)

/-- Some moves take a run to its end. -/
structure Leads (d : Deployment) (id : String) (moves : List Move)
    (result : Except CheckError Unit) (c : Checker) (m : MemoryCluster) (now : Instant) :
    Prop where
  /-- The checker does nothing any more. -/
  stands : (d.run moves).Stands id ⟨c, .idle⟩ m now
  /-- It has returned once. -/
  returns : d.returns id moves = [result]

variable {moves : List Move} {result : Except CheckError Unit} {c' : Checker}

/-- A run that is over stays so, as there is no operation to be served. -/
theorem Leads.serve (h : d.Leads id moves result c m now) :
    d.Leads id (moves ++ Move.serve id) result c m now := by
  obtain ⟨hslot, hresult, -, -⟩ := h.stands
  have hcall : (d.run moves).chronicle.coordinator.call? id = none := by
    rw [Coordinator.call?, hslot, Option.bind_some, Slot.call?]
  have hperform : (d.run moves).move (.perform id) = d.run moves := by simp only [move, hcall]
  have hdeliver : (d.run moves).move (.deliver id) = d.run moves := by simp only [move, hresult]
  have haction : (d.run moves).action? (.deliver id) = none := by simp [action?, hresult]
  constructor
  · rw [run_append, Move.serve, run, List.foldl_cons, List.foldl_cons, List.foldl_nil, hperform,
      hdeliver]
    exact h.stands
  · rw [returns_append, h.returns, Move.serve, Deployment.returns, Deployment.returns,
      Deployment.returns, hperform, returned?, returned?, haction]
    rfl

/-- A run that has gone on is over when it is over from there. -/
theorem Leads.of_next (hreturns : d.returns id (Move.serve id) = [])
    (h : (d.run (Move.serve id)).Leads id moves result c m now) :
    d.Leads id (Move.serve id ++ moves) result c m now := by
  constructor
  · rw [run_append]
    exact h.stands
  · rw [returns_append, hreturns, h.returns, List.nil_append]

/-- An operation that succeeds takes a run to the next one. -/
theorem next_of_ok {q : Pending} {answer : Answer}
    (h : d.Stands id ⟨c.amid p, .running none p⟩ m now)
    (hperform : m.perform (p.call c.config) = (.ok answer, m'))
    (hq : p.next? c.config now = some q) :
    (d.run (Move.serve id)).Stands id ⟨c.amid q, .running none q⟩ m' now
      ∧ d.returns id (Move.serve id) = [] := by
  cases served_of_stands h hperform with
  | next hq' hstands hreturns =>
    obtain rfl := Option.some.inj (hq.symm.trans hq')
    exact ⟨hstands, hreturns⟩
  | last hc =>
    cases hc
    simp [Pending.next?] at hq

/-- An operation that fails is the end of a run. -/
theorem leads_of_error {source : ClientError}
    (h : d.Stands id ⟨c.amid p, .running none p⟩ m now)
    (hperform : m.perform (p.call c.config) = (.error source, m')) :
    d.Leads id (Move.serve id) (.error (p.failure c.config source)) (c.amid p).abandon m' now := by
  cases served_of_stands h hperform with
  | last hc hstands hreturns =>
    cases hc
    exact ⟨hstands, hreturns⟩

/-- The creation of its pod is the end of a run. -/
theorem leads_of_created {token : String} {pod : Pod} {answer : Answer}
    (h : d.Stands id ⟨c.amid (.submitting token pod), .running none (.submitting token pod)⟩ m now)
    (hperform : m.perform (.createPod c.config.ns pod) = (.ok answer, m')) :
    d.Leads id (Move.serve id) (.ok ()) { c with token, state := .submitted } m' now := by
  cases served_of_stands h hperform with
  | next hq => simp [Pending.next?] at hq
  | last hc hstands hreturns =>
    cases hc
    exact ⟨hstands, hreturns⟩

/-- A run begins with its token to be stored. -/
theorem stands_of_runOnce (hslot : d.chronicle.coordinator.slots.get? id = some ⟨c, .idle⟩)
    (hready : c.config.check = .ok ()) :
    let p := Pending.settingToken d.chronicle.coordinator.tokens.draw.1
    (d.move (.act (.runOnce id))).Stands id ⟨c.amid p, .running none p⟩ d.cluster
        d.chronicle.coordinator.now
      ∧ d.returned? id (.act (.runOnce id)) = none := by
  have hopens : d.chronicle.coordinator.Opens (.runOnce id) id c none [] := .runOnce hslot
  rcases hstart : d.chronicle.coordinator.startRun id c none [] with ⟨s, r⟩
  have hs := hstart ▸ Coordinator.step_of_opens hopens
  have haction : d.action? (.act (.runOnce id)) = some (.runOnce id) := rfl
  rw [move_of_action? haction, returned?_of_action? haction, Coordinator.returned?_of_step hs rfl]
  cases Coordinator.beginning_of_step hopens hs with
  | refused hf => simp [CheckerConfig.fault?_of_check hready] at hf
  | begun _ hslot' _ hresult =>
    refine ⟨⟨?_, results_act_of_step hs rfl, cluster_act .., ?_⟩, hresult⟩
    · rw [coordinator_act, Coordinator.act_of_step hs, hslot']
    · rw [coordinator_act, Coordinator.act_of_step hs, Coordinator.now_of_step hs (by simp)]

/-- **A whole run has one of its five effects.** -/
theorem effect_of_wholeRun (hslot : d.chronicle.coordinator.slots.get? id = some ⟨c, .idle⟩)
    (hready : c.config.check = .ok ()) :
    ∃ result c' m', d.cluster.Effect c d.chronicle.coordinator.tokens.draw.1
        d.chronicle.coordinator.now result c'.token m'
      ∧ d.Leads id (Move.wholeRun id) result c' m' d.chronicle.coordinator.now
      ∧ c'.config = c.config := by
  obtain ⟨hset, hnone⟩ := stands_of_runOnce hslot hready
  generalize d.chronicle.coordinator.tokens.draw.1 = token at hset ⊢
  generalize d.chronicle.coordinator.now = now at hset ⊢
  generalize d.cluster = m at hset ⊢
  -- the run is over with what its first move leads to
  have hbegun : ∀ {result c' m'},
      (d.move (.act (.runOnce id))).Leads id
        (Move.serve id ++ (Move.serve id ++ Move.serve id)) result c' m' now →
      d.Leads id (Move.wholeRun id) result c' m' now := by
    intro result c' m' h
    constructor
    · rw [Move.wholeRun, run_cons]
      exact h.stands
    · rw [Move.wholeRun, returns, hnone, h.returns, Option.toList_none, List.nil_append]
  generalize d.move (.act (.runOnce id)) = e at hset hbegun
  rcases hwrite : m.writeFault with _ | reason
  · rcases hcheck : m.tokens.contains c.config.checkKey
    · -- the run ends with its first operation, and the moves that are left find nothing to do
      have hover := (leads_of_error hset
        (MemoryCluster.setToken_of_unregistered _ _ token hwrite hcheck)).serve.serve
      rw [List.append_assoc] at hover
      exact ⟨_, (c.amid (.settingToken token)).abandon, m, .unregistered hwrite hcheck,
        hbegun hover, rfl⟩
    obtain ⟨hremove, hstored⟩ := next_of_ok hset
      (MemoryCluster.setToken_of_registered _ _ token hwrite hcheck) rfl
    rcases hdelete : m.deleteFault with _ | reason
    · obtain ⟨hsubmit, hremoved⟩ := next_of_ok hremove
        (MemoryCluster.deletePod_of_no_fault _ _ hdelete) rfl
      rcases hcreate : m.createFault with _ | reason
      · -- the name is free, as the pod of the run before was deleted, whatever it was
        have hfree : (m.pods.erase c.config.place).contains c.config.place = false := by
          rw [SortedMap.contains, SortedMap.get?_erase_self, Option.isSome_none]
        have hover := leads_of_created hsubmit
          (MemoryCluster.createPod_of_free token c.config now hcreate hfree
            (SortedMap.get?_insert_self ..))
        exact ⟨_, { c with token, state := .submitted }, _,
          .replaced hwrite hcheck hdelete hcreate,
          hbegun (.of_next hstored (.of_next hremoved hover)), rfl⟩
      · have hover := leads_of_error hsubmit (MemoryCluster.createPod_of_fault _ _ hcreate)
        exact ⟨_, _, _, .uncreatable hwrite hcheck hdelete hcreate,
          hbegun (.of_next hstored (.of_next hremoved hover)), rfl⟩
    · have hover := (leads_of_error hremove
        (MemoryCluster.deletePod_of_fault _ _ hdelete)).serve
      exact ⟨_, _, _, .undeletable hwrite hcheck hdelete, hbegun (.of_next hstored hover), rfl⟩
  · have hover := (leads_of_error hset
      (MemoryCluster.setToken_of_fault _ _ token hwrite)).serve.serve
    rw [List.append_assoc] at hover
    exact ⟨_, (c.amid (.settingToken token)).abandon, m, .unwritable hwrite, hbegun hover, rfl⟩

/-! ## Runs one after the other -/

/-- A run with faults switched before it has the effect of a run with these faults. -/
theorem effect_of_round (hslot : d.chronicle.coordinator.slots.get? id = some ⟨c, .idle⟩)
    (hready : c.config.check = .ok ()) (f : Faults) :
    ∃ result c' m', { d.cluster with
          createFault := f.createFault
          deleteFault := f.deleteFault
          writeFault := f.writeFault }.Effect c d.chronicle.coordinator.tokens.draw.1
        d.chronicle.coordinator.now result c'.token m'
      ∧ d.Leads id (Move.round id f) result c' m' d.chronicle.coordinator.now
      ∧ c'.config = c.config := by
  have hreturned : d.returned? id (.setFaults f.createFault f.deleteFault f.writeFault) = none :=
    rfl
  obtain ⟨result, c', m', heffect, hleads, hconfig⟩ := effect_of_wholeRun
    (d := d.move (.setFaults f.createFault f.deleteFault f.writeFault)) hslot hready
  refine ⟨result, c', m', heffect, ⟨?_, ?_⟩, hconfig⟩
  · rw [Move.round, run_cons]
    exact hleads.stands
  · rw [Move.round, returns, hreturned, hleads.returns, Option.toList_none, List.nil_append]

/-- Runs one after the other leave the checker idle as it was configured, and none of them fails to
replace a pod but for a fault of the cluster. -/
theorem rounds_spec (hslot : d.chronicle.coordinator.slots.get? id = some ⟨c, .idle⟩)
    (hready : c.config.check = .ok ()) (faults : List Faults) :
    (∃ c', (d.run (Move.rounds id faults)).chronicle.coordinator.slots.get? id = some ⟨c', .idle⟩
      ∧ c'.config = c.config)
    ∧ (d.run (Move.rounds id faults)).chronicle.coordinator.now = d.chronicle.coordinator.now
    ∧ ∀ ns pod source, .error (.cluster ns pod source) ∈ d.returns id (Move.rounds id faults) →
        ∃ f ∈ faults, ∃ reason, (f.deleteFault = some reason ∨ f.createFault = some reason)
          ∧ source = .unavailable reason := by
  induction faults generalizing d c with
  | nil => exact ⟨⟨c, hslot, rfl⟩, rfl, by simp [Move.rounds, returns]⟩
  | cons f faults ih =>
    obtain ⟨result, c', m', heffect, hleads, hconfig⟩ := effect_of_round hslot hready f
    obtain ⟨⟨c'', hslot'', hconfig''⟩, hnow, hfaults⟩ :=
      ih hleads.stands.slot (hconfig ▸ hready)
    rw [Move.rounds, List.flatMap_cons, run_append, returns_append, hleads.returns]
    refine ⟨⟨c'', hslot'', hconfig''.trans hconfig⟩, hnow.trans hleads.stands.now, ?_⟩
    intro ns pod source hmem
    rcases List.mem_cons.1 hmem with rfl | hmem
    · exact ⟨f, List.mem_cons_self .., heffect.reason_of_cluster⟩
    · obtain ⟨g, hg, hreason⟩ := hfaults ns pod source hmem
      exact ⟨g, List.mem_cons_of_mem _ hg, hreason⟩

/-- **The complete effect of a whole run**, on a cluster in any state and with any faults, for a
checker in any state that is ready: it returns once; if the token is refused, nothing has changed,
and otherwise check and checker have the token, and the pod is replaced as far as the faults allow;
all other pods and tokens and the configuration are left. After any number of runs, with faults
coming and going between them, the pod of a run that succeeds is in its place, whatever was there
before, and carries the token that the check has then; and no pod is denied for any reason but a
fault. -/
theorem whole_run_effect (d : Deployment) {id : String} {c : Checker}
    (hslot : d.chronicle.coordinator.slots.get? id = some ⟨c, .idle⟩)
    (hready : c.config.check = .ok ()) :
    (∃ result c', d.returns id (Move.wholeRun id) = [result]
      ∧ (d.run (Move.wholeRun id)).chronicle.coordinator.slots.get? id = some ⟨c', .idle⟩
      ∧ c'.config = c.config
      ∧ d.cluster.Aftermath c d.chronicle.coordinator.tokens.draw.1 d.chronicle.coordinator.now
          result c'.token (d.run (Move.wholeRun id)).cluster)
    ∧ ∀ faults f, let e := d.run (Move.rounds id faults)
        let e' := d.run (Move.rounds id (faults ++ [f]))
        let token := e.chronicle.coordinator.tokens.draw.1
        let pod := c.config.pod token d.chronicle.coordinator.now
        (∀ ns pod source, .error (.cluster ns pod source) ∈ d.returns id (Move.rounds id faults) →
          ∃ f ∈ faults, ∃ reason, (f.deleteFault = some reason ∨ f.createFault = some reason)
            ∧ source = .unavailable reason)
        ∧ ∃ result, d.returns id (Move.rounds id (faults ++ [f]))
            = d.returns id (Move.rounds id faults) ++ [result]
          ∧ (result = .ok () →
              e'.cluster.pods.get? c.config.place = some pod ∧ pod.Carries token
              ∧ e'.cluster.tokens.get? c.config.checkKey = some token
              ∧ ∃ c', e'.chronicle.coordinator.slots.get? id = some ⟨c', .idle⟩
                ∧ c'.config = c.config ∧ c'.token = token) := by
  constructor
  · obtain ⟨result, c', m', heffect, hleads, hconfig⟩ := effect_of_wholeRun hslot hready
    refine ⟨result, c', hleads.returns, hleads.stands.slot, hconfig, ?_⟩
    rw [hleads.stands.cluster]
    exact heffect.aftermath
  · intro faults f e e' token pod
    obtain ⟨⟨c₁, hslot₁, hconfig₁⟩, hnow, hfaults⟩ := rounds_spec hslot hready faults
    obtain ⟨result, c', m', heffect, hleads, hconfig⟩ :=
      effect_of_round (d := e) hslot₁ (hconfig₁ ▸ hready) f
    have hrounds : Move.rounds id (faults ++ [f]) = Move.rounds id faults ++ Move.round id f := by
      rw [Move.rounds, List.flatMap_append, List.flatMap_singleton, Move.rounds]
    have hrun : e' = e.run (Move.round id f) := by
      rw [← run_append, ← hrounds]
    refine ⟨hfaults, result, ?_, ?_⟩
    · rw [hrounds, returns_append, hleads.returns]
    · rintro rfl
      obtain ⟨hpod, htoken, hkept⟩ := heffect.of_ok
      rw [hconfig₁, hnow] at hpod
      rw [hconfig₁] at htoken
      rw [hrun, hleads.stands.cluster]
      exact ⟨hpod, c.config.carries_pod _ _, htoken, c', hleads.stands.slot,
        hconfig.trans hconfig₁, hkept⟩

/-- A checker with a pod that somebody else made, and a run that cannot create its own, in between
two that can. -/
theorem whole_run_effect_in_three_rounds :
    let checker := Checker.plain "prod" "web" "probe"
    let d := (fresh {} (.ofNanos 0)
      { MemoryCluster.withCheck {} "prod" "web" with
        pods := SortedMap.empty.insert ⟨"prod", "probe"⟩ default }).move (.act (.place "a" checker))
    let up : Faults := {}
    let down : Faults := { createFault := some "down" }
    let pod := checker.config.pod (tokenText 3) d.chronicle.coordinator.now
    d.returns "a" (Move.rounds "a" ([up, down] ++ [up]))
      = [.ok (), .error (.cluster "prod" "probe" (.unavailable "down")), .ok ()]
    ∧ (d.run (Move.rounds "a" ([up, down] ++ [up]))).cluster.pods.get? checker.config.place
      = some pod
    ∧ pod.Carries (tokenText 3)
    ∧ (d.run (Move.rounds "a" ([up, down] ++ [up]))).cluster.tokens.get? checker.config.checkKey
      = some (tokenText 3) := by
  intro checker d up down pod
  have hreturns : d.returns "a" (Move.rounds "a" ([up, down] ++ [up]))
      = [.ok (), .error (.cluster "prod" "probe" (.unavailable "down")), .ok ()] := by
    decide +kernel
  have hbefore : d.returns "a" (Move.rounds "a" [up, down])
      = [.ok (), .error (.cluster "prod" "probe" (.unavailable "down"))] := by decide +kernel
  have hready : checker.config.check = .ok () := by decide +kernel
  have hslot : d.chronicle.coordinator.slots.get? "a" = some ⟨checker, .idle⟩ := by decide +kernel
  obtain ⟨-, result, hresult, hok⟩ := (whole_run_effect d hslot hready).2 [up, down] up
  rw [hreturns, hbefore] at hresult
  obtain ⟨hpod, hcarries, htoken, -⟩ := hok (by simpa using hresult.symm)
  have htokenText : (d.run (Move.rounds "a" [up, down])).chronicle.coordinator.tokens.draw.1
      = tokenText 3 := by decide +kernel
  rw [htokenText] at hpod hcarries htoken
  exact ⟨hreturns, hpod, hcarries, htoken⟩

end Deployment

end PodCheck
