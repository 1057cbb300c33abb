import PodCheck.Proofs.Coordinator.Course
import PodCheck.Proofs.Deployment

/-! # One run in a deployment

What a move means for one checker is one of four things: an action happens, the operation that the
checker waits for is performed or lost, or it all has to do with others
(`Deployment.bearing_of_move`). So the results that a checker returns in the course of some moves
are those that its coordinator has it return (`Deployment.returns`), and what the moves change in
the cluster is what the operations of the checker and those of the others concern
(`Deployment.foreign`). The operations of a run concern the token of its own check and the pod at
its own place (`Pending.Of`). -/

namespace PodCheck

/-- Whether a move asks nothing of a checker: at most it ends what the checker is doing, or has to
do with the operation that the checker waits for. -/
def Move.asksNothingOf (id : String) : Move → Bool
  | .act a => a.asksNothingOf id
  | _ => true

/-- An operation has its effect and its outcome comes back at once. -/
def Move.serve (id : String) : List Move := [.perform id, .deliver id]

namespace CheckerConfig

/-- The check of a checker, as the cluster knows it. -/
def checkKey (c : CheckerConfig) : ObjectKey := ⟨c.ns, c.checkName⟩

/-- Where the pods of a checker are. -/
def place (c : CheckerConfig) : ObjectKey := ⟨c.ns, c.podName⟩

end CheckerConfig

/-- The token that is recorded with the creation of a run's pod is that of the run's check. -/
theorem MemoryCluster.tokenFor_pod (m : MemoryCluster) (c : CheckerConfig) (token : String)
    (now : Instant) : m.tokenFor c.ns (c.pod token now) = m.tokens.get? c.checkKey :=
  m.tokenFor_build c.template (c.runParams token) now

namespace Pending

/-- The operations that a run with the given token may wait for. -/
inductive Of (c : CheckerConfig) (token : String) : Pending → Prop
  /-- The token is being stored. -/
  | settingToken : Of c token (.settingToken token)
  /-- The pod of the run before is being deleted. -/
  | removing : Of c token (.removing token)
  /-- The pod of the run is being created. -/
  | submitting (now : Instant) : Of c token (.submitting token (c.pod token now))

variable {c : CheckerConfig} {token : String} {p q : Pending} {key : ObjectKey}

/-- A run goes on with its own token. -/
theorem Of.next {now : Instant} (h : p.Of c token) (hq : p.next? c now = some q) :
    q.Of c token := by
  cases h with
  | settingToken =>
    obtain rfl := Option.some.inj hq
    exact .removing
  | removing =>
    obtain rfl := Option.some.inj hq
    exact .submitting now
  | submitting now => simp [next?] at hq

/-- A run stores no token but that of its own check. -/
theorem Of.check?_call (h : p.Of c token) (hkey : (p.call c).check? = some key) :
    key = c.checkKey := by
  cases h with
  | settingToken => exact (Option.some.inj hkey).symm
  | removing => simp [call, Call.check?] at hkey
  | submitting now => simp [call, Call.check?] at hkey

/-- A run deletes and creates no pods but at its own place. -/
theorem Of.place?_call (h : p.Of c token) (hkey : (p.call c).place? = some key) :
    key = c.place := by
  cases h with
  | settingToken => simp [call, Call.place?] at hkey
  | removing => exact (Option.some.inj hkey).symm
  | submitting now => exact (Option.some.inj hkey).symm

end Pending

namespace Deployment

variable {d : Deployment} {id : String} {a : Action} {m : Move}

/-! ## Moves one after the other -/

theorem run_nil (d : Deployment) : d.run [] = d := rfl

theorem run_cons (d : Deployment) (move : Move) (moves : List Move) :
    d.run (move :: moves) = (d.move move).run moves := rfl

theorem run_append (d : Deployment) (moves more : List Move) :
    d.run (moves ++ more) = (d.run moves).run more := List.foldl_append ..

/-! ## Actions of moves -/

/-- An action happens to the coordinator. -/
theorem coordinator_act (d : Deployment) (a : Action) :
    (d.act a).chronicle.coordinator = d.chronicle.coordinator.act a := by
  unfold act Chronicle.act Coordinator.act
  rcases d.chronicle.coordinator.step a with _ | ⟨s, r⟩
  · rfl
  · rfl

/-- An action that happens to the checkers leaves the cluster. -/
theorem cluster_act (d : Deployment) (a : Action) : (d.act a).cluster = d.cluster := by
  unfold act
  split <;> rfl

/-- An action leaves the outcomes for checkers that it is not about. -/
theorem results_act_of_ne (ha : a.subject? ≠ some id) : (d.act a).results id = d.results id := by
  unfold act
  split
  · rfl
  · cases hsubject : a.subject? with
    | none => rfl
    | some other =>
      have hne : id ≠ other := by
        rintro rfl
        exact ha hsubject
      exact Function.update_of_ne hne ..

/-- An action that happens loses the outcome for its checker. -/
theorem results_act_of_step {s : Coordinator} {r : Reaction}
    (hs : d.chronicle.coordinator.step a = some (s, r)) (ha : a.subject? = some id) :
    (d.act a).results id = none := by
  simp only [act, hs, ha, Function.update_self]

/-- An action that cannot happen has no consequences. -/
theorem act_of_step_eq_none (hs : d.chronicle.coordinator.step a = none) : d.act a = d := by
  rw [act, hs]

/-- The action that a move makes happen, if it can. -/
def action? (d : Deployment) : Move → Option Action
  | .act (.answer _ _) => none
  | .act a => some a
  | .deliver id => (d.results id).map (.answer id)
  | _ => none

/-- A move that is made for an action makes it happen. -/
theorem move_of_action? (h : d.action? m = some a) : d.move m = d.act a := by
  cases m with
  | act b =>
    cases b with
    | answer => simp [action?] at h
    | _ =>
      obtain rfl := Option.some.inj h
      rfl
  | deliver id =>
    obtain ⟨outcome, houtcome, rfl⟩ := Option.map_eq_some_iff.1 h
    rw [move, houtcome]
  | perform id => simp [action?] at h
  | refuse id e => simp [action?] at h
  | setFaults createFault deleteFault writeFault => simp [action?] at h

/-- The result that a checker returns with a move, if it does. -/
def returned? (d : Deployment) (id : String) (m : Move) : Option (Except CheckError Unit) :=
  (d.action? m).bind (d.chronicle.coordinator.returned? id)

/-- The results that a checker returns in the course of some moves. -/
def returns (d : Deployment) (id : String) : List Move → List (Except CheckError Unit)
  | [] => []
  | m :: moves => (d.returned? id m).toList ++ (d.move m).returns id moves

theorem returned?_of_action? (h : d.action? m = some a) :
    d.returned? id m = d.chronicle.coordinator.returned? id a := by
  rw [returned?, h, Option.bind_some]

/-- The operation that a checker waits for has its effect. -/
theorem move_perform {call : Call} {outcome : Outcome} {cluster : MemoryCluster}
    (hcall : d.chronicle.coordinator.call? id = some call) (hresult : d.results id = none)
    (hperform : d.cluster.perform call = (outcome, cluster)) :
    d.move (.perform id)
      = { d with
          cluster := cluster
          results := Function.update d.results id (some outcome)
          performed := d.performed ++ [(call, outcome)] } := by
  simp only [move, hcall, hresult, hperform]

theorem returns_append (d : Deployment) (id : String) (moves more : List Move) :
    d.returns id (moves ++ more) = d.returns id moves ++ (d.run moves).returns id more := by
  induction moves generalizing d with
  | nil => rfl
  | cons m moves ih => rw [List.cons_append, returns, returns, ih, List.append_assoc]; rfl

/-! ## Operations of others -/

/-- The operation of another checker that a move has performed. -/
def foreign? (d : Deployment) (id : String) : Move → Option Call
  | .perform other =>
    if other = id ∨ (d.results other).isSome then none else d.chronicle.coordinator.call? other
  | _ => none

/-- The operations of other checkers that some moves have performed. -/
def foreign (d : Deployment) (id : String) : List Move → List Call
  | [] => []
  | m :: moves => (d.foreign? id m).toList ++ (d.move m).foreign id moves

theorem foreign_append (d : Deployment) (id : String) (moves more : List Move) :
    d.foreign id (moves ++ more) = d.foreign id moves ++ (d.run moves).foreign id more := by
  induction moves generalizing d with
  | nil => rfl
  | cons m moves ih => rw [List.cons_append, foreign, foreign, ih, List.append_assoc]; rfl

/-! ## What a move means for one checker -/

/-- What a move means for one checker. -/
inductive Bearing (d : Deployment) (id : String) (m : Move) : Prop
  /-- It makes an action happen. -/
  | acts {a : Action} (hasks : m.asksNothingOf id = true → a.asksNothingOf id = true)
      (hanswer : ∀ outcome, a = .answer id outcome → d.results id = some outcome)
      (hmove : d.move m = d.act a)
      (hreturned : d.returned? id m = d.chronicle.coordinator.returned? id a)
  /-- The operation that the checker waits for is performed. -/
  | performs {call : Call} {outcome : Outcome}
      (hcall : d.chronicle.coordinator.call? id = some call) (hresult : d.results id = none)
      (hcluster : d.cluster.Change call outcome (d.move m).cluster)
      (hchronicle : (d.move m).chronicle = d.chronicle)
      (hresult' : (d.move m).results id = some outcome) (hreturned : d.returned? id m = none)
  /-- The operation that the checker waits for fails on its way. -/
  | loses {e : ClientError} (hresult : d.results id = none)
      (hcluster : (d.move m).cluster = d.cluster)
      (hchronicle : (d.move m).chronicle = d.chronicle)
      (hresult' : (d.move m).results id = some (.error e)) (hreturned : d.returned? id m = none)
  /-- It has to do with others only. -/
  | others
      (hcluster : MemoryCluster.ChangedOnly (Call.checks (d.foreign? id m).toList)
        (Call.places (d.foreign? id m).toList) d.cluster (d.move m).cluster)
      (hchronicle : (d.move m).chronicle = d.chronicle)
      (hresult' : (d.move m).results id = d.results id) (hreturned : d.returned? id m = none)

/-- An action that a move causes is the one that it makes happen. -/
theorem action?_of_causes (h : d.Causes m a) : d.action? m = some a := by
  cases h with
  | @act a hanswer =>
    cases a with
    | answer id outcome => exact absurd rfl (hanswer id outcome)
    | _ => rfl
  | deliver hresult => rw [action?, hresult, Option.map_some]

/-- An action that a move makes happen asks nothing of a checker if the move does not, and brings no
outcome but the one that was there. -/
theorem action?_spec (h : d.action? m = some a) :
    (m.asksNothingOf id = true → a.asksNothingOf id = true)
    ∧ ∀ outcome, a = .answer id outcome → d.results id = some outcome := by
  cases m with
  | act b =>
    cases b with
    | answer => simp [action?] at h
    | _ =>
      obtain rfl := Option.some.inj h
      exact ⟨fun hasks => hasks, fun outcome heq => by simp at heq⟩
  | deliver other =>
    obtain ⟨result, hresult, rfl⟩ := Option.map_eq_some_iff.1 h
    refine ⟨fun _ => rfl, ?_⟩
    intro outcome heq
    obtain ⟨rfl, rfl⟩ := Action.answer.inj heq
    exact hresult
  | perform other => simp [action?] at h
  | refuse other e => simp [action?] at h
  | setFaults createFault deleteFault writeFault => simp [action?] at h

/-- **A move means one of four things for a checker.** -/
theorem bearing_of_move (d : Deployment) (id : String) (m : Move) : Bearing d id m := by
  rcases haction : d.action? m with _ | a
  · -- no action: an operation is performed or lost, for this checker or another, or faults switch
    have hreturned : d.returned? id m = none := by rw [returned?, haction, Option.bind_none]
    have hchange := change_of_move d m
    generalize hd : d.move m = d' at hchange
    cases hchange with
    | none => exact .others (by rw [hd]; exact .refl _) (by rw [hd]) (by rw [hd]) hreturned
    | acted hcause => simp [action?_of_causes hcause] at haction
    | @performed other call outcome cluster hcall hresult hcluster =>
      by_cases hother : other = id
      · subst hother
        exact .performs hcall hresult (by rw [hd]; exact hcluster) (by rw [hd])
          (by rw [hd]; exact Function.update_self ..) hreturned
      · have hforeign : call ∈ (d.foreign? id (.perform other)).toList := by
          simp [foreign?, hother, hresult, hcall]
        refine .others ?_ (by rw [hd]) (by rw [hd]; exact Function.update_of_ne (Ne.symm hother) ..)
          hreturned
        rw [hd]
        exact hcluster.changedOnly.mono (fun key hkey => ⟨call, hforeign, hkey⟩)
          (fun key hkey => ⟨call, hforeign, hkey⟩)
    | @refused other e hresult =>
      by_cases hother : other = id
      · subst hother
        exact .loses hresult (by rw [hd]) (by rw [hd]) (by rw [hd]; exact Function.update_self ..)
          hreturned
      · exact .others (by rw [hd]; exact .refl _) (by rw [hd])
          (by rw [hd]; exact Function.update_of_ne (Ne.symm hother) ..) hreturned
    | faults =>
      refine .others ?_ (by rw [hd]) (by rw [hd]) hreturned
      rw [hd]
      exact ⟨fun _ _ => rfl, fun _ _ => rfl, [], (List.append_nil _).symm, by simp⟩
  · obtain ⟨hasks, hanswer⟩ := action?_spec haction
    exact .acts hasks hanswer (move_of_action? haction) (returned?_of_action? haction)

end Deployment

end PodCheck
