import PodCheck.Proofs.Deployment.Course

/-! # What a run leaves behind that is given up

A coordinated run may be given up at its deadline between any two effects, and between an effect and
its outcome. What the cluster holds for its checker then depends on the operation that the run
waited for and on whether that had its effect (`Pending.leaves`), so only a few half-done states
exist, and the next run that succeeds repairs all of them (`Deployment.expired_run_leaves`). The
invariant follows the run through the moves (`Deployment.Passage`); the operations of other checkers
may not concern the same check or place, and change what they concern. -/

namespace PodCheck

/-! ## What a cluster holds for a checker -/

/-- What a cluster holds for a checker. -/
structure Holding where
  /-- The token of its check. -/
  token? : Option String
  /-- The pod at its place. -/
  pod? : Option Pod
  /-- The creations of pods at its place. -/
  creations : List PodCreation

/-- What a cluster holds for a checker. -/
def MemoryCluster.holding (m : MemoryCluster) (c : CheckerConfig) : Holding where
  token? := m.tokens.get? c.checkKey
  pod? := m.pods.get? c.place
  creations := m.creations.filter fun e => (⟨e.ns, e.pod⟩ : ObjectKey) = c.place

/-- What a cluster holds for a checker whose run waits for an operation, before the operation has
had its effect and after that, given what it held when the run began. -/
def Pending.leaves (c : CheckerConfig) (before : Holding) : Pending → Bool → Holding
  | .settingToken _, false => before
  | .settingToken token, true => { before with token? := some token }
  | .removing token, false => { before with token? := some token }
  | .removing token, true => { before with token? := some token, pod? := none }
  | .submitting token _, false => { before with token? := some token, pod? := none }
  | .submitting token pod, true =>
    { token? := some token
      pod? := some pod
      creations := before.creations ++ [⟨c.ns, c.podName, some token⟩] }

/-- An operation concerns neither the check nor the place of a checker. -/
structure Call.Spares (c : CheckerConfig) (call : Call) : Prop where
  /-- It stores no token of the check. -/
  check : call.check? ≠ some c.checkKey
  /-- It deletes and creates no pod at the place. -/
  place : call.place? ≠ some c.place

/-- The checks that a checker and some operations of others concern. -/
def CheckerConfig.checksWith (c : CheckerConfig) (others : List Call) (key : ObjectKey) : Prop :=
  key = c.checkKey ∨ Call.checks others key

/-- The places that a checker and some operations of others concern. -/
def CheckerConfig.placesWith (c : CheckerConfig) (others : List Call) (key : ObjectKey) : Prop :=
  key = c.place ∨ Call.places others key

/-- An operation that has had its effect leaves what the next one finds. -/
theorem Pending.leaves_next {c : CheckerConfig} {now : Instant} {p q : Pending} (before : Holding)
    (hq : p.next? c now = some q) : q.leaves c before false = p.leaves c before true := by
  cases p with
  | settingToken token =>
    obtain rfl := Option.some.inj hq
    rfl
  | removing token =>
    obtain rfl := Option.some.inj hq
    rfl
  | submitting token pod => simp [next?] at hq

namespace MemoryCluster

variable {m m' : MemoryCluster} {c : CheckerConfig} {call : Call} {outcome : Outcome}

/-- What a cluster holds for a checker stays if nothing changes at its check and its place. -/
theorem ChangedOnly.holding_eq {checks places : ObjectKey → Prop}
    (h : ChangedOnly checks places m m') (hcheck : ¬ checks c.checkKey)
    (hplace : ¬ places c.place) : m'.holding c = m.holding c := by
  obtain ⟨more, hmore, hmem⟩ := h.creations
  have hnone : more.filter (fun e => (⟨e.ns, e.pod⟩ : ObjectKey) = c.place) = [] := by
    rw [List.filter_eq_nil_iff]
    intro e he heq
    exact hplace (of_decide_eq_true heq ▸ hmem e he)
  rw [holding, holding, h.tokens _ hcheck, h.pods _ hplace, hmore, List.filter_append, hnone,
    List.append_nil]

/-- What changes by the operations of others leaves what is held for a checker that they spare. -/
theorem ChangedOnly.holding_of_spares {others : List Call}
    (h : m.ChangedOnly (Call.checks others) (Call.places others) m')
    (hspares : ∀ call ∈ others, call.Spares c) : m'.holding c = m.holding c := by
  apply h.holding_eq
  · rintro ⟨call, hcall, hcheck⟩
    exact (hspares call hcall).check hcheck
  · rintro ⟨call, hcall, hplace⟩
    exact (hspares call hcall).place hplace

/-- Nothing has changed at the place of a checker for which the cluster holds the same pod and the
same creations. -/
theorem ChangedOnly.of_holding {checks places : ObjectKey → Prop}
    (h : ChangedOnly checks (fun key => key = c.place ∨ places key) m m')
    (hpod : (m'.holding c).pod? = (m.holding c).pod?)
    (hcreations : (m'.holding c).creations = (m.holding c).creations) :
    ChangedOnly checks places m m' := by
  obtain ⟨more, hmore, hmem⟩ := h.creations
  refine ⟨h.tokens, ?_, more, hmore, ?_⟩
  · intro key hkey
    by_cases hplace : key = c.place
    · rw [hplace]
      exact hpod
    · exact h.pods key fun hor => hor.elim hplace hkey
  · -- a creation at the place of the checker would be one more of those that are held for it
    have hnone : more.filter (fun e => (⟨e.ns, e.pod⟩ : ObjectKey) = c.place) = [] := by
      simpa [holding, hmore] using hcreations
    intro e he
    rcases hmem e he with hplace | hplace
    · exact absurd (decide_eq_true hplace) (List.filter_eq_nil_iff.1 hnone e he)
    · exact hplace

/-- The operation of a run that succeeds has its effect on what is held for the checker. -/
theorem Change.holding_of_ok {p : Pending} {token : String} {answer : Answer} {before : Holding}
    (hp : p.Of c token) (h : m.Change (p.call c) (.ok answer) m')
    (hbefore : m.holding c = p.leaves c before false) : m'.holding c = p.leaves c before true := by
  obtain ⟨htoken, hpod, hcreations⟩ := Holding.mk.inj hbefore
  cases hp with
  | settingToken =>
    change m.Change (.setToken c.ns c.checkName token) _ _ at h
    cases h with
    | stored =>
      refine congr (congrArg₂ Holding.mk ?_ hpod) hcreations
      exact SortedMap.get?_insert_self m.tokens c.checkKey token
  | removing =>
    change m.Change (.deletePod c.ns c.podName) _ _ at h
    cases h with
    | deleted =>
      refine congr (congrArg₂ Holding.mk htoken ?_) hcreations
      exact SortedMap.get?_erase_self m.pods c.place
  | submitting now =>
    change m.Change (.createPod c.ns (c.pod token now)) _ _ at h
    cases h with
    | created =>
      refine congr (congrArg₂ Holding.mk htoken ?_) ?_
      · exact SortedMap.get?_insert_self m.pods c.place (c.pod token now)
      · have hrecorded : m.tokenFor c.ns (c.pod token now) = some token :=
          (m.tokenFor_pod c token now).trans htoken
        have hself : (⟨c.ns, podName (c.pod token now)⟩ : ObjectKey) = c.place := rfl
        rw [hrecorded, List.filter_append, hcreations]
        simp only [List.filter_singleton, hself, decide_true]
        rfl

end MemoryCluster

namespace Deployment

/-! ## Before the run -/

/-- A checker has not begun its run yet: it queues for its lock, or nobody waits for it any more. -/
structure Unbegun (d : Deployment) (id : String) (c : Checker) (before : Holding) : Prop where
  /-- What the checker is doing. -/
  slot : ∃ activity, d.chronicle.coordinator.slots.get? id = some ⟨c, activity⟩
    ∧ (activity = .idle ∨ ∃ key lock, activity = .queued key lock)
  /-- What the cluster holds for it. -/
  holding : d.cluster.holding c.config = before

variable {d : Deployment} {id : String} {c : Checker} {before : Holding} {m : Move} {a : Action}

/-- A checker that has not begun its run waits for no operation. -/
theorem Unbegun.call? (h : d.Unbegun id c before) :
    d.chronicle.coordinator.call? id = none := by
  obtain ⟨activity, hslot, rfl | ⟨key, lock, rfl⟩⟩ := h.slot <;>
    rw [Coordinator.call?, hslot, Option.bind_some, Slot.call?]

/-- An action that asks nothing of a checker does not begin its run. -/
theorem Unbegun.act (h : d.Unbegun id c before) (ha : a.asksNothingOf id = true) :
    (d.act a).Unbegun id c before ∧ d.chronicle.coordinator.returned? id a = none := by
  obtain ⟨activity, hslot, hactivity⟩ := h.slot
  by_cases hnone : a.subject? = some id → d.chronicle.coordinator.step a = none
  · refine ⟨⟨⟨activity, ?_, hactivity⟩, ?_⟩, Coordinator.returned?_eq_none hnone⟩
    · rw [coordinator_act, Coordinator.slot_act hnone, hslot]
    · rw [cluster_act, h.holding]
  -- all that can happen is that nobody waits for the checker any more
  obtain ⟨hid, hsome⟩ := Classical.not_imp.1 hnone
  rcases hactivity with rfl | ⟨key, lock, rfl⟩
  · exact absurd (Coordinator.step_of_idle hslot ha hid) hsome
  · have hdrop : a = .drop id :=
      by_contra fun hdrop => hsome (Coordinator.step_of_queued hslot ha hdrop hid)
    subst hdrop
    have hs := Coordinator.step_drop_of_queued hslot
    refine ⟨⟨⟨.idle, ?_, .inl rfl⟩, ?_⟩, Coordinator.returned?_of_step hs rfl⟩
    · rw [coordinator_act, Coordinator.act_of_step hs]
      exact SortedMap.get?_insert_self ..
    · rw [cluster_act, h.holding]

/-- What has become of a run that is not waiting any more: what it has returned, its checker, and
what the cluster holds for it. -/
inductive Over (c : Checker) (token : String) (before : Holding) :
    List (Except CheckError Unit) → Checker → Holding → Prop
  /-- The checker was not ready. -/
  | refused {fault : ConfigFault} :
      Over c token before [.error (c.config.faultError fault)]
        { c with state := .failed .validating } before
  /-- An operation has failed. -/
  | failed {p : Pending} {source : ClientError} (hp : p.Of c.config token) :
      Over c token before [.error (p.failure c.config source)] (c.amid p).abandon
        (p.leaves c.config before false)
  /-- The pod was created. -/
  | submitted {now : Instant} :
      Over c token before [.ok ()] { c with token, state := .submitted }
        ((Pending.submitting token (c.config.pod token now)).leaves c.config before true)
  /-- The run was given up at its deadline, before the operation had its effect or after that. -/
  | expired {p : Pending} {limit : Duration} (hp : p.Of c.config token) (effective : Bool) :
      Over c token before [.error (.deadlineExceeded c.config.ns c.config.checkName limit)]
        (c.amid p).abandon (p.leaves c.config before effective)
  /-- The run was dropped, before the operation had its effect or after that. -/
  | dropped {p : Pending} (hp : p.Of c.config token) (effective : Bool) :
      Over c token before [] (c.amid p) (p.leaves c.config before effective)

/-- Whether an operation is known to have succeeded. -/
def succeeded : Option Outcome → Bool
  | some (.ok _) => true
  | _ => false

/-- **What has become of a run** that has begun, by what it has returned. -/
inductive Passage (d : Deployment) (id : String) (c : Checker) (token : String) (before : Holding)
    (results : List (Except CheckError Unit)) : Prop
  /-- It waits for an operation, which has had its effect if it succeeded. -/
  | waiting {p : Pending} {lease? : Option Lease} (hp : p.Of c.config token)
      (hslot : d.chronicle.coordinator.slots.get? id = some ⟨c.amid p, .running lease? p⟩)
      (hholding : d.cluster.holding c.config
        = p.leaves c.config before (succeeded (d.results id))) (hresults : results = [])
  /-- It does not wait any more. -/
  | ended {c' : Checker} (h : Over c token before results c' (d.cluster.holding c.config))
      (hslot : d.chronicle.coordinator.slots.get? id = some ⟨c', .idle⟩)

variable {token : String} {results : List (Except CheckError Unit)}

/-- A run that has ended stays as it is, whatever happens that asks nothing of its checker. -/
theorem Passage.act_of_over {c' : Checker}
    (h : Over c token before results c' (d.cluster.holding c.config))
    (hslot : d.chronicle.coordinator.slots.get? id = some ⟨c', .idle⟩)
    (ha : a.asksNothingOf id = true) :
    (d.act a).Passage id c token before
      (results ++ (d.chronicle.coordinator.returned? id a).toList) := by
  have hnone := Coordinator.step_of_idle hslot ha
  rw [Coordinator.returned?_eq_none hnone, Option.toList_none, List.append_nil]
  have hover : Over c token before results c' ((d.act a).cluster.holding c.config) := by
    rwa [cluster_act]
  exact .ended hover (by rw [coordinator_act, Coordinator.slot_act hnone, hslot])

/-- **An action continues a run.** -/
theorem Passage.act (h : d.Passage id c token before results) (ha : a.asksNothingOf id = true)
    (hanswer : ∀ outcome, a = .answer id outcome → d.results id = some outcome) :
    (d.act a).Passage id c token before
      (results ++ (d.chronicle.coordinator.returned? id a).toList) := by
  cases h with
  | ended h hslot => exact act_of_over h hslot ha
  | @waiting p lease? hp hslot hholding hresults =>
  subst hresults
  rcases hs : d.chronicle.coordinator.step a with _ | ⟨s, r⟩
  · rw [act_of_step_eq_none hs, Coordinator.returned?_of_step_eq_none hs]
    exact .waiting hp hslot hholding rfl
  have hcoordinator : (d.act a).chronicle.coordinator = s := by
    rw [coordinator_act, Coordinator.act_of_step hs]
  rw [List.nil_append]
  cases Coordinator.fate_of_step hslot hs with
  | aside hne hslot' =>
    rw [Coordinator.returned?_of_ne hne]
    refine .waiting hp (by rw [hcoordinator, hslot']) ?_ rfl
    rw [cluster_act, results_act_of_ne hne, hholding]
  | @proceed q answer _ _ hq hslot' hcall hresult =>
    rw [Coordinator.returned?_of_step hs rfl, hresult]
    refine .waiting (hp.next hq) (by rw [hcoordinator, hslot']) ?_ rfl
    -- the operation has had its effect, and the next one has not
    rw [cluster_act, results_act_of_step hs rfl, hholding, hanswer _ rfl]
    exact (Pending.leaves_next before hq).symm
  | conclude hc hslot' hcall hresult =>
    rw [Coordinator.returned?_of_step hs rfl, hresult]
    refine .ended ?_ (by rw [hcoordinator, hslot'])
    rw [cluster_act, hholding, hanswer _ rfl]
    cases hc with
    | failed => exact .failed hp
    | submitted =>
      cases hp
      exact .submitted
  | expire hlease hslot' hcall hresult =>
    rw [Coordinator.returned?_of_step hs rfl, hresult]
    refine .ended ?_ (by rw [hcoordinator, hslot'])
    rw [cluster_act, hholding]
    exact .expired hp _
  | drop hslot' hcall hresult =>
    rw [Coordinator.returned?_of_step hs rfl, hresult]
    refine .ended ?_ (by rw [hcoordinator, hslot'])
    rw [cluster_act, hholding]
    exact .dropped hp _

/-- A move does to the cluster what the checker and some operations of others concern. -/
def Keeps (d : Deployment) (c : CheckerConfig) (others : List Call) (d' : Deployment) : Prop :=
  d.cluster.ChangedOnly (c.checksWith others) (c.placesWith others) d'.cluster

/-- **A move continues a run**, if the operation of another checker that it has performed spares its
check and its place. -/
theorem Passage.move (h : d.Passage id c token before results) (hm : m.asksNothingOf id = true)
    (hspares : ∀ call ∈ (d.foreign? id m).toList, call.Spares c.config) :
    (d.move m).Passage id c token before (results ++ (d.returned? id m).toList)
      ∧ d.Keeps c.config (d.foreign? id m).toList (d.move m) := by
  cases bearing_of_move d id m with
  | acts hasks hanswer hmove hreturned =>
    rw [hmove, hreturned, Keeps, cluster_act]
    exact ⟨h.act (hasks hm) hanswer, .refl _⟩
  | @performs call outcome hcall hresult hcluster hchronicle hresult' hreturned =>
    rw [hreturned, Option.toList_none, List.append_nil]
    cases h with
    | ended _ hslot =>
      -- a run that has ended waits for no operation
      simp [Coordinator.call?, hslot, Slot.call?] at hcall
    | @waiting p lease? hp hslot hholding hresults =>
      -- the run waits for this very operation, which had no outcome yet
      have hcall' : call = p.call c.config := by
        rw [Coordinator.call?, hslot, Option.bind_some, Slot.call?, Checker.config_amid] at hcall
        exact (Option.some.inj hcall).symm
      subst hcall'
      rw [hresult] at hholding
      refine ⟨.waiting hp (by rw [hchronicle, hslot]) ?_ hresults, ?_⟩
      · rw [hresult']
        cases outcome with
        | ok answer => exact hcluster.holding_of_ok hp hholding
        | error source =>
          rw [hcluster.eq_of_error]
          exact hholding
      · exact hcluster.changedOnly.mono (fun key hkey => .inl (hp.check?_call hkey))
          (fun key hkey => .inl (hp.place?_call hkey))
  | loses hresult hcluster hchronicle hresult' hreturned =>
    rw [hreturned, Option.toList_none, List.append_nil, Keeps, hcluster]
    refine ⟨?_, .refl _⟩
    cases h with
    | ended h hslot => exact .ended (by rwa [hcluster]) (by rw [hchronicle, hslot])
    | waiting hp hslot hholding hresults =>
      -- an operation that is lost has had no effect, as if it had no outcome yet
      refine .waiting hp (by rw [hchronicle, hslot]) ?_ hresults
      rw [hcluster, hholding, hresult, hresult']
      rfl
  | others hcluster hchronicle hresult' hreturned =>
    rw [hreturned, Option.toList_none, List.append_nil]
    have hsame := hcluster.holding_of_spares hspares
    refine ⟨?_, hcluster.mono (fun key hkey => .inr hkey) (fun key hkey => .inr hkey)⟩
    cases h with
    | ended h hslot => exact .ended (by rwa [hsame]) (by rw [hchronicle, hslot])
    | waiting hp hslot hholding hresults =>
      exact .waiting hp (by rw [hchronicle, hslot]) (by rw [hsame, hresult', hholding]) hresults

/-- A move does not begin a run whose checker it asks nothing of. -/
theorem Unbegun.move (h : d.Unbegun id c before) (hm : m.asksNothingOf id = true)
    (hspares : ∀ call ∈ (d.foreign? id m).toList, call.Spares c.config) :
    (d.move m).Unbegun id c before ∧ d.returned? id m = none
      ∧ d.Keeps c.config (d.foreign? id m).toList (d.move m) := by
  cases bearing_of_move d id m with
  | acts hasks hanswer hmove hreturned =>
    obtain ⟨hact, hnone⟩ := h.act (hasks hm)
    rw [hmove, hreturned, Keeps, cluster_act]
    exact ⟨hact, hnone, .refl _⟩
  | performs hcall => simp [h.call?] at hcall
  | loses hresult hcluster hchronicle hresult' hreturned =>
    rw [Keeps, hcluster]
    exact ⟨⟨hchronicle ▸ h.slot, hcluster ▸ h.holding⟩, hreturned, .refl _⟩
  | others hcluster hchronicle hresult' hreturned =>
    exact ⟨⟨hchronicle ▸ h.slot, (hcluster.holding_of_spares hspares).trans h.holding⟩, hreturned,
      hcluster.mono (fun key hkey => .inr hkey) (fun key hkey => .inr hkey)⟩

/-! ## Moves one after the other -/

/-- What is kept with the operations of some others is kept with more of them. -/
theorem Keeps.mono {d d' : Deployment} {c : CheckerConfig} {others more : List Call}
    (h : d.Keeps c others d') (hmore : ∀ call ∈ others, call ∈ more) : d.Keeps c more d' := by
  refine MemoryCluster.ChangedOnly.mono h ?_ ?_
  · rintro key (hkey | ⟨call, hcall, hkey⟩)
    · exact .inl hkey
    · exact .inr ⟨call, hmore call hcall, hkey⟩
  · rintro key (hkey | ⟨call, hcall, hkey⟩)
    · exact .inl hkey
    · exact .inr ⟨call, hmore call hcall, hkey⟩

/-- What is kept first with some others, and then with further ones. -/
theorem Keeps.append {d d' d'' : Deployment} {c : CheckerConfig} {others more : List Call}
    (h : d.Keeps c others d') (h' : d'.Keeps c more d'') : d.Keeps c (others ++ more) d'' :=
  (h.mono fun _ hcall => List.mem_append_left _ hcall).trans
    (h'.mono fun _ hcall => List.mem_append_right _ hcall)

/-- What happens to checkers leaves the cluster. -/
theorem keeps_act (d : Deployment) (c : CheckerConfig) (others : List Call) (a : Action) :
    d.Keeps c others (d.move (.act a)) := by
  rw [Keeps]
  cases a with
  | answer => exact .refl _
  | _ =>
    rw [move, cluster_act]
    · exact .refl _
    · simp

/-- Moves continue a run. -/
theorem Passage.run {moves : List Move} (h : d.Passage id c token before results)
    (hmoves : ∀ m ∈ moves, m.asksNothingOf id = true)
    (hspares : ∀ call ∈ d.foreign id moves, call.Spares c.config) :
    (d.run moves).Passage id c token before (results ++ d.returns id moves)
      ∧ d.Keeps c.config (d.foreign id moves) (d.run moves) := by
  induction moves generalizing d results with
  | nil =>
    rw [returns, List.append_nil]
    exact ⟨h, .refl _⟩
  | cons m moves ih =>
    obtain ⟨hmove, hkeeps⟩ := h.move (hmoves m (List.mem_cons_self ..)) fun call hcall =>
      hspares call (List.mem_append_left _ hcall)
    obtain ⟨hrun, hkeeps'⟩ := ih hmove (fun n hn => hmoves n (List.mem_cons_of_mem _ hn))
      fun call hcall => hspares call (List.mem_append_right _ hcall)
    rw [List.append_assoc] at hrun
    exact ⟨hrun, hkeeps.append hkeeps'⟩

/-- Moves do not begin a run whose checker they ask nothing of. -/
theorem Unbegun.run {moves : List Move} (h : d.Unbegun id c before)
    (hmoves : ∀ m ∈ moves, m.asksNothingOf id = true)
    (hspares : ∀ call ∈ d.foreign id moves, call.Spares c.config) :
    (d.run moves).Unbegun id c before ∧ d.returns id moves = []
      ∧ d.Keeps c.config (d.foreign id moves) (d.run moves) := by
  induction moves generalizing d with
  | nil => exact ⟨h, rfl, .refl _⟩
  | cons m moves ih =>
    obtain ⟨hmove, hreturned, hkeeps⟩ := h.move (hmoves m (List.mem_cons_self ..))
      fun call hcall => hspares call (List.mem_append_left _ hcall)
    obtain ⟨hrun, hreturns, hkeeps'⟩ := ih hmove (fun n hn => hmoves n (List.mem_cons_of_mem _ hn))
      fun call hcall => hspares call (List.mem_append_right _ hcall)
    refine ⟨hrun, ?_, hkeeps.append hkeeps'⟩
    rw [returns, hreturned, hreturns, Option.toList_none, List.nil_append]

/-! ## A coordinated run -/

/-- The moves of a coordinated run: its checker is to run, gets its lock after some moves, and
others follow. -/
def Move.coordinatedRun (id : String) (waiting during : List Move) : List Move :=
  .act (.runCheck id) :: (waiting ++ .act (.grant id) :: during)

/-- A checker that is to run queues first. -/
theorem unbegun_of_runCheck
    (hslot : d.chronicle.coordinator.slots.get? id = some ⟨c, .idle⟩) :
    (d.move (.act (.runCheck id))).Unbegun id c (d.cluster.holding c.config)
      ∧ d.returned? id (.act (.runCheck id)) = none := by
  have haction : d.action? (.act (.runCheck id)) = some (.runCheck id) := rfl
  rcases hs : d.chronicle.coordinator.step (.runCheck id) with _ | ⟨s, r⟩
  · simp [Coordinator.step, Coordinator.runCheck?, Coordinator.idleChecker?_eq_some.2 hslot] at hs
  rw [move_of_action? haction, returned?_of_action? haction, Coordinator.returned?_of_step hs rfl]
  have hcoordinator : (d.act (.runCheck id)).chronicle.coordinator = s := by
    rw [coordinator_act, Coordinator.act_of_step hs]
  cases Coordinator.change_of_step hs with
  | @queue _ e hidle =>
    obtain rfl : e = c := congrArg Slot.checker (Option.some.inj (hidle.symm.trans hslot))
    have hqueued : (d.act (.runCheck id)).chronicle.coordinator.slots.get? id
        = some ⟨e, .queued (lockKey e.config)
            (d.chronicle.coordinator.lockFor (lockKey e.config)).1⟩ := by
      rw [hcoordinator]
      exact SortedMap.get?_insert_self ..
    exact ⟨⟨⟨_, hqueued, .inr ⟨_, _, rfl⟩⟩, by rw [cluster_act]⟩, rfl⟩
  | refuse hopens => cases hopens
  | begin hopens => cases hopens

/-- A checker that gets its lock begins its run, and it begins none if it does not get it. -/
theorem Unbegun.grant (h : d.Unbegun id c before) :
    ((d.move (.act (.grant id))).Unbegun id c before
      ∧ d.returned? id (.act (.grant id)) = none)
    ∨ (d.move (.act (.grant id))).Passage id c d.chronicle.coordinator.tokens.draw.1 before
        (d.returned? id (.act (.grant id))).toList := by
  have haction : d.action? (.act (.grant id)) = some (.grant id) := rfl
  rw [move_of_action? haction, returned?_of_action? haction]
  rcases hs : d.chronicle.coordinator.step (.grant id) with _ | ⟨s, r⟩
  · rw [act_of_step_eq_none hs, Coordinator.returned?_of_step_eq_none hs]
    exact .inl ⟨h, rfl⟩
  obtain ⟨activity, hslot, hactivity⟩ := h.slot
  have hopens : ∃ lease? events, d.chronicle.coordinator.Opens (.grant id) id c lease? events := by
    rcases hactivity with rfl | ⟨key, lock, rfl⟩
    · simp [Coordinator.step, Coordinator.grant?, hslot] at hs
    · by_cases hold : d.chronicle.coordinator.holds id lock = true
      · exact ⟨_, _, .grant hslot hold⟩
      · simp [Coordinator.step, Coordinator.grant?, hslot, hold] at hs
  obtain ⟨lease?, events, hopens⟩ := hopens
  right
  rw [Coordinator.returned?_of_step hs rfl]
  have hcoordinator : (d.act (.grant id)).chronicle.coordinator = s := by
    rw [coordinator_act, Coordinator.act_of_step hs]
  cases Coordinator.beginning_of_step hopens hs with
  | refused hf hslot' _ hresult =>
    rw [hresult]
    refine .ended ?_ (by rw [hcoordinator, hslot'])
    rw [cluster_act, h.holding]
    exact .refused
  | begun hf hslot' _ hresult =>
    rw [hresult]
    refine .waiting .settingToken (by rw [hcoordinator, hslot']) ?_ rfl
    rw [cluster_act, h.holding, results_act_of_step hs rfl]
    rfl

/-- What has become of a run that may begin with the first of some moves. -/
theorem Unbegun.passage_of_grant {during : List Move} (h : d.Unbegun id c before)
    (hquiet : ∀ m ∈ during, m.asksNothingOf id = true)
    (hspares : ∀ call ∈ d.foreign id (.act (.grant id) :: during), call.Spares c.config) :
    (d.returns id (.act (.grant id) :: during) = []
      ∨ (d.run (.act (.grant id) :: during)).Passage id c d.chronicle.coordinator.tokens.draw.1
          before (d.returns id (.act (.grant id) :: during)))
    ∧ d.Keeps c.config (d.foreign id (.act (.grant id) :: during))
        (d.run (.act (.grant id) :: during)) := by
  have hkeeps := d.keeps_act c.config [] (.grant id)
  rw [run_cons, returns]
  rcases h.grant with ⟨hunbegun, hnone⟩ | hpassage
  · obtain ⟨-, hreturns, hkeeps'⟩ := hunbegun.run hquiet hspares
    exact ⟨.inl (by rw [hnone, hreturns]; rfl), hkeeps.append hkeeps'⟩
  · obtain ⟨hrun, hkeeps'⟩ := hpassage.run hquiet hspares
    exact ⟨.inr hrun, hkeeps.append hkeeps'⟩

/-- **What has become of a coordinated run** after some moves that ask nothing else of its checker
and in which others spare its check and its place: it has not begun, or has come as far as what it
has returned says. -/
theorem passage_of_coordinatedRun {waiting during : List Move}
    (hslot : d.chronicle.coordinator.slots.get? id = some ⟨c, .idle⟩)
    (hquiet : ∀ m ∈ waiting ++ during, m.asksNothingOf id = true)
    (hspares : ∀ call ∈ d.foreign id (Move.coordinatedRun id waiting during),
      call.Spares c.config) :
    (d.returns id (Move.coordinatedRun id waiting during) = []
      ∨ (d.run (Move.coordinatedRun id waiting during)).Passage id c
          (d.run (.act (.runCheck id) :: waiting)).chronicle.coordinator.tokens.draw.1
          (d.cluster.holding c.config) (d.returns id (Move.coordinatedRun id waiting during)))
    ∧ d.Keeps c.config (d.foreign id (Move.coordinatedRun id waiting during))
        (d.run (Move.coordinatedRun id waiting during)) := by
  have hmoves : Move.coordinatedRun id waiting during
      = (.act (.runCheck id) :: waiting) ++ .act (.grant id) :: during := rfl
  rw [hmoves, foreign_append] at hspares
  rw [hmoves, run_append, returns_append, foreign_append]
  obtain ⟨hqueued, hnone⟩ := unbegun_of_runCheck hslot
  obtain ⟨hunbegun, hreturns, hkeeps⟩ :=
    hqueued.run (fun m hm => hquiet m (List.mem_append_left _ hm))
      fun call hcall => hspares call (List.mem_append_left _ hcall)
  obtain ⟨hpassage, hkeeps'⟩ :=
    hunbegun.passage_of_grant (fun m hm => hquiet m (List.mem_append_right _ hm))
      fun call hcall => hspares call (List.mem_append_right _ hcall)
  have hfirst : d.returns id (.act (.runCheck id) :: waiting) = [] := by
    rw [returns, hnone, hreturns]
    rfl
  rw [hfirst]
  exact ⟨hpassage, ((d.keeps_act c.config [] (.runCheck id)).append hkeeps).append hkeeps'⟩

/-! ## What is left -/

/-- A run that has returned that its deadline is over was given up while it waited for one of its
operations. -/
theorem Passage.of_deadline {ns check : String} {limit : Duration}
    (h : d.Passage id c token before results)
    (hmem : .error (.deadlineExceeded ns check limit) ∈ results) :
    ∃ p effective, p.Of c.config token
      ∧ d.chronicle.coordinator.slots.get? id = some ⟨(c.amid p).abandon, .idle⟩
      ∧ d.cluster.holding c.config = p.leaves c.config before effective := by
  cases h with
  | waiting _ _ _ hresults => simp [hresults] at hmem
  | ended h hslot =>
    generalize d.cluster.holding c.config = held at h ⊢
    cases h with
    | refused => simp [CheckerConfig.faultError] at hmem
    | @failed p source _ => cases p <;> simp [Pending.failure] at hmem
    | submitted => simp at hmem
    | expired hp effective => exact ⟨_, effective, hp, hslot, rfl⟩
    | dropped => simp at hmem

/-- A run that has returned success has its pod in place. -/
theorem Passage.of_ok (h : d.Passage id c token before results) (hmem : .ok () ∈ results) :
    ∃ now, d.chronicle.coordinator.slots.get? id
        = some ⟨{ c with token, state := .submitted }, .idle⟩
      ∧ d.cluster.holding c.config
        = (Pending.submitting token (c.config.pod token now)).leaves c.config before true := by
  cases h with
  | waiting _ _ _ hresults => simp [hresults] at hmem
  | ended h hslot =>
    generalize d.cluster.holding c.config = held at h ⊢
    cases h with
    | submitted => exact ⟨_, hslot, rfl⟩
    | refused => simp at hmem
    | failed => simp at hmem
    | expired => simp at hmem
    | dropped => simp at hmem

/-- **A coordinated run that succeeds repairs everything**, from any state of its checker and of the
cluster: the pod in its place is its own, the one it has created beyond those before, built for the
token it drew, and check and checker have that token. -/
theorem repaired_of_ok {waiting during : List Move}
    (hslot : d.chronicle.coordinator.slots.get? id = some ⟨c, .idle⟩)
    (hquiet : ∀ m ∈ waiting ++ during, m.asksNothingOf id = true)
    (hspares : ∀ call ∈ d.foreign id (Move.coordinatedRun id waiting during),
      call.Spares c.config)
    (hok : .ok () ∈ d.returns id (Move.coordinatedRun id waiting during)) :
    ∃ c' pod, (d.run (Move.coordinatedRun id waiting during)).chronicle.coordinator.slots.get? id
        = some ⟨c', .idle⟩
      ∧ (d.run (Move.coordinatedRun id waiting during)).cluster.pods.get? c.config.place = some pod
      ∧ (∃ now, pod = c.config.pod c'.token now) ∧ pod.Carries c'.token
      ∧ (d.run (Move.coordinatedRun id waiting during)).cluster.tokens.get? c.config.checkKey
        = some c'.token
      ∧ c'.token
        = (d.run (.act (.runCheck id) :: waiting)).chronicle.coordinator.tokens.draw.1
      ∧ c'.state = .submitted
      ∧ ((d.run (Move.coordinatedRun id waiting during)).cluster.holding c.config).creations
        = (d.cluster.holding c.config).creations
          ++ [⟨c.config.ns, c.config.podName, some c'.token⟩] := by
  rcases (passage_of_coordinatedRun hslot hquiet hspares).1 with hnone | hpassage
  · simp [hnone] at hok
  · obtain ⟨now, hslot', hholding⟩ := hpassage.of_ok hok
    obtain ⟨htoken, hpod, hcreated⟩ := Holding.mk.inj hholding
    exact ⟨_, _, hslot', hpod, ⟨now, rfl⟩, c.config.carries_pod _ now, htoken, rfl, rfl, hcreated⟩

/-- **What a run leaves that is given up at its deadline**, on a cluster in any state, whatever was
late and wherever the run was cut off, if no other run concerns its check or its place. While the
token was being stored, check and pods are as they were, but that the check may have the token of
the run; while the pod was being replaced, check and checker have the token of the run, and the pod
is the one from before, gone, or that of the run. Everything else is as others have left it.
Whatever happens then, a run that follows and succeeds leaves exactly its own pod in its place: the
one pod it has created there, which carries the token that this run drew, and that token is the one
of the check and of the checker. -/
theorem expired_run_leaves (d : Deployment) {id : String} {c : Checker}
    (hslot : d.chronicle.coordinator.slots.get? id = some ⟨c, .idle⟩) (waiting during : List Move)
    (hquiet : ∀ m ∈ waiting ++ during, m.asksNothingOf id = true)
    (hspares : ∀ call ∈ d.foreign id (Move.coordinatedRun id waiting during), call.Spares c.config)
    {ns check : String} {limit : Duration}
    (hexpired : .error (.deadlineExceeded ns check limit)
      ∈ d.returns id (Move.coordinatedRun id waiting during)) :
    let token := (d.run (.act (.runCheck id) :: waiting)).chronicle.coordinator.tokens.draw.1
    let d' := d.run (Move.coordinatedRun id waiting during)
    let others := d.foreign id (Move.coordinatedRun id waiting during)
    (∃ c', d'.chronicle.coordinator.slots.get? id = some ⟨c', .idle⟩ ∧ c'.config = c.config
      ∧ ((c'.state = .failed .tokenRotating ∧ c'.token = c.token
          ∧ (d'.cluster.tokens.get? c.config.checkKey = d.cluster.tokens.get? c.config.checkKey
            ∨ d'.cluster.tokens.get? c.config.checkKey = some token)
          ∧ d.cluster.ChangedOnly (c.config.checksWith others) (Call.places others) d'.cluster)
        ∨ (c'.state = .failed .podSubmitting ∧ c'.token = token
          ∧ d'.cluster.tokens.get? c.config.checkKey = some token
          ∧ (d'.cluster.pods.get? c.config.place = d.cluster.pods.get? c.config.place
            ∨ d'.cluster.pods.get? c.config.place = none
            ∨ ∃ now, d'.cluster.pods.get? c.config.place = some (c.config.pod token now))
          ∧ d.cluster.ChangedOnly (c.config.checksWith others) (c.config.placesWith others)
              d'.cluster)))
    ∧ ∀ between waiting' during' c₁,
        (d'.run between).chronicle.coordinator.slots.get? id = some ⟨c₁, .idle⟩ →
        c₁.config = c.config →
        (∀ m ∈ waiting' ++ during', m.asksNothingOf id = true) →
        (∀ call ∈ (d'.run between).foreign id (Move.coordinatedRun id waiting' during'),
          call.Spares c.config) →
        .ok () ∈ (d'.run between).returns id (Move.coordinatedRun id waiting' during') →
        let e := (d'.run between).run (Move.coordinatedRun id waiting' during')
        ∃ c₂ pod, e.chronicle.coordinator.slots.get? id = some ⟨c₂, .idle⟩
          ∧ e.cluster.pods.get? c.config.place = some pod
          ∧ (∃ now, pod = c.config.pod c₂.token now) ∧ pod.Carries c₂.token
          ∧ e.cluster.tokens.get? c.config.checkKey = some c₂.token
          ∧ c₂.token = ((d'.run between).run
              (.act (.runCheck id) :: waiting')).chronicle.coordinator.tokens.draw.1
          ∧ c₂.state = .submitted
          ∧ (e.cluster.holding c.config).creations
            = ((d'.run between).cluster.holding c.config).creations
              ++ [⟨c.config.ns, c.config.podName, some c₂.token⟩] := by
  intro token d' others
  obtain ⟨hpassage, hkeeps⟩ := passage_of_coordinatedRun hslot hquiet hspares
  constructor
  · rcases hpassage with hnone | hpassage
    · simp [hnone] at hexpired
    obtain ⟨p, effective, hp, hslot', hholding⟩ := hpassage.of_deadline hexpired
    refine ⟨(c.amid p).abandon, hslot', c.config_amid p, ?_⟩
    have hstate := c.state_abandon_amid p
    cases hp with
    | settingToken =>
      -- pods and creations are those of before, so nothing has changed at the place either
      have hsame : (d'.cluster.holding c.config).pod? = (d.cluster.holding c.config).pod?
          ∧ (d'.cluster.holding c.config).creations = (d.cluster.holding c.config).creations := by
        rw [hholding]
        cases effective <;> exact ⟨rfl, rfl⟩
      refine .inl ⟨hstate, rfl, ?_, hkeeps.of_holding hsame.1 hsame.2⟩
      cases effective with
      | false => exact .inl (congrArg Holding.token? hholding)
      | true => exact .inr (congrArg Holding.token? hholding)
    | removing =>
      refine .inr ⟨hstate, rfl, ?_, ?_, hkeeps⟩
      · cases effective <;> exact congrArg Holding.token? hholding
      · cases effective with
        | false => exact .inl (congrArg Holding.pod? hholding)
        | true => exact .inr (.inl (congrArg Holding.pod? hholding))
    | submitting now =>
      refine .inr ⟨hstate, rfl, ?_, ?_, hkeeps⟩
      · cases effective <;> exact congrArg Holding.token? hholding
      · cases effective with
        | false => exact .inr (.inl (congrArg Holding.pod? hholding))
        | true => exact .inr (.inr ⟨now, congrArg Holding.pod? hholding⟩)
  · -- what the first run has left does not matter to the next one that succeeds
    intro between waiting' during' c₁ hslot₁ hconfig hquiet' hspares' hok
    rw [← hconfig] at hspares' ⊢
    exact repaired_of_ok hslot₁ hquiet' hspares' hok

/-- A run whose token is stored, but too late for it to know, beside a run of another check: the
token is that of the check and not that of the checker. The next run repairs that with the third
token drawn: its pod is the only one that was ever created in its place. -/
theorem expired_run_leaves_unknown_token :
    let checker := Checker.plain "prod" "web" "probe"
    let d := (fresh {} (.ofNanos 0)
        ((MemoryCluster.withCheck {} "prod" "web").withCheck "prod" "db")).run
      [.act (.place "a" checker), .act (.place "b" (.plain "prod" "db" "db")),
        .act (.setDeadline (.ofSecs 1))]
    let late : List Move :=
      [.act (.runOnce "b"), .perform "b", .act (.pass 1000), .perform "a", .act (.expire "a")]
    let inTime := Move.serve "a" ++ Move.serve "a" ++ Move.serve "a"
    ∃ e e', e = d.run (Move.coordinatedRun "a" [] late)
      ∧ d.foreign "a" (Move.coordinatedRun "a" [] late)
        = [.setToken "prod" "db" (tokenText 2)]
      ∧ d.returns "a" (Move.coordinatedRun "a" [] late)
        = [.error (.deadlineExceeded "prod" "web" (.ofSecs 1))]
      ∧ e.cluster.tokens.get? checker.config.checkKey = some (tokenText 1)
      ∧ (∃ c', e.chronicle.coordinator.slots.get? "a" = some ⟨c', .idle⟩
        ∧ c'.state = .failed .tokenRotating ∧ c'.token = "")
      ∧ e' = e.run (Move.coordinatedRun "a" [] inTime)
      ∧ e.returns "a" (Move.coordinatedRun "a" [] inTime) = [.ok ()]
      ∧ ∃ c₂ pod, e'.chronicle.coordinator.slots.get? "a" = some ⟨c₂, .idle⟩
        ∧ e'.cluster.pods.get? checker.config.place = some pod ∧ pod.Carries c₂.token
        ∧ e'.cluster.tokens.get? checker.config.checkKey = some c₂.token
        ∧ c₂.token = tokenText 3 ∧ c₂.state = .submitted
        ∧ (e'.cluster.holding checker.config).creations
          = [⟨"prod", "probe", some (tokenText 3)⟩] := by
  intro checker d late inTime
  have hslot : d.chronicle.coordinator.slots.get? "a" = some ⟨checker, .idle⟩ := by decide +kernel
  have hforeign : d.foreign "a" (Move.coordinatedRun "a" [] late)
      = [.setToken "prod" "db" (tokenText 2)] := by decide +kernel
  have hspares : ∀ call ∈ d.foreign "a" (Move.coordinatedRun "a" [] late),
      call.Spares checker.config := by
    rw [hforeign]
    intro call hcall
    rw [List.mem_singleton.1 hcall]
    exact ⟨by decide, by decide⟩
  have hreturns : d.returns "a" (Move.coordinatedRun "a" [] late)
      = [.error (.deadlineExceeded "prod" "web" (.ofSecs 1))] := by decide +kernel
  have hslot' : (d.run (Move.coordinatedRun "a" [] late)).chronicle.coordinator.slots.get? "a"
      = some ⟨{ checker with state := .failed .tokenRotating }, .idle⟩ := by decide +kernel
  have htoken : (d.run (Move.coordinatedRun "a" [] late)).cluster.tokens.get?
      checker.config.checkKey = some (tokenText 1) := by decide +kernel
  have hagain : (d.run (Move.coordinatedRun "a" [] late)).returns "a"
      (Move.coordinatedRun "a" [] inTime) = [.ok ()] := by decide +kernel
  have hothers : (d.run (Move.coordinatedRun "a" [] late)).foreign "a"
      (Move.coordinatedRun "a" [] inTime) = [] := by decide +kernel
  have hdraws : ((d.run (Move.coordinatedRun "a" [] late)).run
      [.act (.runCheck "a")]).chronicle.coordinator.tokens.draw.1 = tokenText 3 := by decide +kernel
  have hfirst : ((d.run (Move.coordinatedRun "a" [] late)).cluster.holding
      checker.config).creations = [] := by decide +kernel
  obtain ⟨⟨c', hc', -, hcase⟩, hnext⟩ := expired_run_leaves d hslot [] late (by decide) hspares
    (hreturns ▸ List.mem_singleton_self _)
  -- the deployments are not to be computed again
  generalize d.run (Move.coordinatedRun "a" [] late) = e at *
  obtain rfl : c' = { checker with state := .failed .tokenRotating } :=
    congrArg Slot.checker (Option.some.inj (hc'.symm.trans hslot'))
  obtain ⟨hstate, hkept, -⟩ | ⟨hstate, -⟩ := hcase
  case inr => cases hstate
  obtain ⟨c₂, pod, hslot₂, hpod, -, hcarries, htoken₂, hdrawn, hdone, hcreated⟩ :=
    hnext [] [] inTime _ hslot' rfl
      (by decide) (by intro call hcall; rw [run_nil, hothers] at hcall; cases hcall)
      (by rw [run_nil, hagain]; exact List.mem_singleton_self _)
  rw [run_nil] at hslot₂ hpod htoken₂ hdrawn hcreated
  have hthird : c₂.token = tokenText 3 := hdrawn.trans hdraws
  exact ⟨e, _, rfl, hforeign, hreturns, htoken, ⟨_, hslot', hstate, hkept⟩, rfl, hagain, c₂, pod,
    hslot₂, hpod, hcarries, htoken₂, hthird, hdone, by rw [hcreated, hfirst, hthird]; rfl⟩

end Deployment

end PodCheck
