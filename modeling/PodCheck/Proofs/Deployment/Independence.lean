import PodCheck.Proofs.Deployment.Alone

/-! # Runs that do not interfere

Runs of different checks with different places for their pods, which go on side by side on one
cluster, end as if they had been made one after the other in any order
(`Deployment.independent_runs`). Each run finds what it would have found if it were alone, since the
operations of the others concern neither its check nor its place; so the invariant compares what has
become of a run with what becomes of it alone on the cluster of the beginning
(`Deployment.Standing`). -/

namespace PodCheck

/-- A move takes some runs on: it begins one, gives it its lock, has its operation performed or its
outcome delivered, or lets time pass. No run is cut off, and no faults are switched. -/
inductive Move.Furthers (ids : List String) : Move → Prop
  /-- A run begins at once. -/
  | runOnce {id : String} (h : id ∈ ids) : Furthers ids (.act (.runOnce id))
  /-- A run is to begin when the lock of its check is free. -/
  | runCheck {id : String} (h : id ∈ ids) : Furthers ids (.act (.runCheck id))
  /-- A run gets the lock of its check. -/
  | grant {id : String} (h : id ∈ ids) : Furthers ids (.act (.grant id))
  /-- The operation of a run has its effect. -/
  | perform {id : String} (h : id ∈ ids) : Furthers ids (.perform id)
  /-- The outcome of an operation comes back to its run. -/
  | deliver {id : String} (h : id ∈ ids) : Furthers ids (.deliver id)
  /-- Time passes. -/
  | pass {ms : Nat} : Furthers ids (.act (.pass ms))

/-- The checker that a move asks to run. -/
def Move.begins? : Move → Option String
  | .act (.runOnce id) | .act (.runCheck id) => some id
  | _ => none

namespace Deployment

/-- What has become of a run, compared with what becomes of it alone on the cluster of the
beginning: whether it was begun, its checker and what that is doing, the outcome that it has still
to get, the cluster, and what it has returned. -/
inductive Standing (c : Checker) (sources : TokenSource → Prop) (instants : Instant → Prop)
    (m₀ : MemoryCluster) :
    Bool → Slot → Option Outcome → MemoryCluster → List (Except CheckError Unit) → Prop
  /-- It was not begun. -/
  | unbegun {o : Option Outcome} {m : MemoryCluster} (ha : m.Agree c.config m₀) :
      Standing c sources instants m₀ false ⟨c, .idle⟩ o m []
  /-- It waits for its lock. -/
  | queued {key : String} {lock : Nat} {o : Option Outcome} {m : MemoryCluster}
      (ha : m.Agree c.config m₀) :
      Standing c sources instants m₀ true ⟨c, .queued key lock⟩ o m []
  /-- It waits for an operation that has had no effect yet. -/
  | waiting {tokens : TokenSource} {state : Turn × MemoryCluster} {lease? : Option Lease}
      {p : Pending} {m : MemoryCluster} (hs : sources tokens)
      (hc : c.Comes tokens instants m₀ state) (hn : state.1.next = .waiting p)
      (ha : m.Agree c.config state.2) :
      Standing c sources instants m₀ true ⟨state.1.checker, .running lease? p⟩ none m []
  /-- It waits for the outcome of an operation that has had its effect. -/
  | performed {tokens : TokenSource} {state : Turn × MemoryCluster} {lease? : Option Lease}
      {p : Pending} {m : MemoryCluster} (hs : sources tokens)
      (hc : c.Comes tokens instants m₀ state) (hn : state.1.next = .waiting p)
      (ha : m.Agree c.config (state.2.perform (p.call c.config)).2) :
      Standing c sources instants m₀ true ⟨state.1.checker, .running lease? p⟩
        (some (state.2.perform (p.call c.config)).1) m []
  /-- It is over. -/
  | ended {tokens : TokenSource} {state : Turn × MemoryCluster} {o : Option Outcome}
      {result : Except CheckError Unit} {m : MemoryCluster} (hs : sources tokens)
      (hc : c.Comes tokens instants m₀ state) (hn : state.1.next = .finished result)
      (ha : m.Agree c.config state.2) :
      Standing c sources instants m₀ true ⟨state.1.checker, .idle⟩ o m [result]

/-- What has become of a run in a deployment. -/
def Follows (d : Deployment) (id : String) (c : Checker) (sources : TokenSource → Prop)
    (instants : Instant → Prop) (m₀ : MemoryCluster) (begun : Bool)
    (results : List (Except CheckError Unit)) : Prop :=
  ∃ slot, d.chronicle.coordinator.slots.get? id = some slot
    ∧ Standing c sources instants m₀ begun slot (d.results id) d.cluster results

section Steps

variable {d d' : Deployment} {id : String} {c : Checker} {sources : TokenSource → Prop}
  {instants : Instant → Prop} {m m' m₀ : MemoryCluster} {begun : Bool} {slot : Slot}
  {o : Option Outcome} {results : List (Except CheckError Unit)} {a : Action}

/-- What others do to the cluster does not matter to a run that it is spared. -/
theorem Standing.congr (h : Standing c sources instants m₀ begun slot o m results)
    (ha : m'.Agree c.config m) : Standing c sources instants m₀ begun slot o m' results := by
  cases h with
  | unbegun h => exact .unbegun (ha.trans h)
  | queued h => exact .queued (ha.trans h)
  | waiting hs hc hn h => exact .waiting hs hc hn (ha.trans h)
  | performed hs hc hn h => exact .performed hs hc hn (ha.trans h)
  | ended hs hc hn h => exact .ended hs hc hn (ha.trans h)

/-- A run waits for its own operations. -/
theorem Standing.call (h : Standing c sources instants m₀ begun slot o m results) {call : Call}
    (hcall : slot.call? = some call) :
    ∃ p token, Pending.Of c.config token p ∧ call = p.call c.config := by
  cases h with
  | unbegun | queued | ended => simp [Slot.call?] at hcall
  | waiting _ hc hn | performed _ hc hn =>
    obtain rfl := Option.some.inj hcall
    exact ⟨_, _, hc.of_waiting hn, by rw [hc.config]⟩

/-- A run is followed through whatever leaves its checker, its outcome and what is held for it. -/
theorem Follows.congr (h : d.Follows id c sources instants m₀ begun results)
    (hslot : d'.chronicle.coordinator.slots.get? id = d.chronicle.coordinator.slots.get? id)
    (hresult : d'.results id = d.results id) (ha : d'.cluster.Agree c.config d.cluster) :
    d'.Follows id c sources instants m₀ begun results := by
  obtain ⟨slot, hd, h⟩ := h
  exact ⟨slot, hslot.trans hd, hresult ▸ h.congr ha⟩

/-! ## Moves of others -/

/-- An action that is about something else. -/
theorem Follows.act_of_ne (h : d.Follows id c sources instants m₀ begun results)
    (ha : a.subject? ≠ some id) : (d.act a).Follows id c sources instants m₀ begun results := by
  refine h.congr ?_ (results_act_of_ne ha) ?_
  · rw [coordinator_act]
    exact Coordinator.slot_act (absurd · ha)
  · rw [cluster_act]

/-- An action that cannot happen. -/
theorem Follows.act_of_none (h : d.Follows id c sources instants m₀ begun results)
    (ha : d.chronicle.coordinator.step a = none) :
    (d.act a).Follows id c sources instants m₀ begun results := by
  rwa [act_of_step_eq_none ha]

/-- The operation of another run, which spares this one. -/
theorem Follows.perform_of_ne {other : String}
    (h : d.Follows id c sources instants m₀ begun results) (hne : id ≠ other)
    (hspares : ∀ call, d.chronicle.coordinator.call? other = some call → call.Spares c.config) :
    (d.move (.perform other)).Follows id c sources instants m₀ begun results := by
  have hchange := change_of_move d (.perform other)
  generalize d.move (.perform other) = d' at hchange ⊢
  cases hchange with
  | none => exact h
  | acted hcause => cases hcause
  | performed hcall _ hcluster =>
    exact h.congr rfl (Function.update_of_ne hne ..) (hcluster.agree_of_spares (hspares _ hcall))

/-! ## Moves of the run itself -/

/-- What becomes of a checker that takes a turn. -/
theorem slot_takeTurn {s s' : Coordinator} {r : Reaction} {lease? : Option Lease} {turn : Turn}
    {before : List Event} (hs : s.takeTurn id lease? turn before = (s', r)) :
    (∀ q, turn.next = .waiting q →
      s'.slots.get? id = some ⟨turn.checker, .running lease? q⟩ ∧ r.result? = none)
    ∧ ∀ result, turn.next = .finished result →
      s'.slots.get? id = some ⟨turn.checker, .idle⟩ ∧ r.result? = some result := by
  constructor
  · intro q hq
    simp only [Coordinator.takeTurn, hq] at hs
    obtain ⟨rfl, rfl⟩ := Prod.mk.inj hs
    exact ⟨SortedMap.get?_insert_self .., rfl⟩
  · intro result hresult
    simp only [Coordinator.takeTurn, hresult] at hs
    obtain ⟨rfl, rfl⟩ := Prod.mk.inj hs
    rw [Coordinator.slots_releaseLease]
    exact ⟨SortedMap.get?_insert_self .., rfl⟩

/-- A turn of a run that does as it does alone. -/
theorem Follows.of_turn {t : Coordinator} {tokens : TokenSource} {state : Turn × MemoryCluster}
    {lease? : Option Lease} {before : List Event} (hsubject : a.subject? = some id)
    (hstep : d.chronicle.coordinator.step a = some (t.takeTurn id lease? state.1 before))
    (hs : sources tokens) (hc : c.Comes tokens instants m₀ state)
    (ha : d.cluster.Agree c.config state.2) :
    (d.act a).Follows id c sources instants m₀ true
      (d.chronicle.coordinator.returned? id a).toList := by
  rcases hturn : t.takeTurn id lease? state.1 before with ⟨s', r⟩
  obtain ⟨hwaiting, hfinished⟩ := slot_takeTurn hturn
  rw [hturn] at hstep
  have hresult : (d.act a).results id = none := results_act_of_step hstep hsubject
  rw [← cluster_act d a] at ha
  rw [Coordinator.returned?_of_step hstep hsubject, Follows, coordinator_act,
    Coordinator.act_of_step hstep, hresult]
  cases hn : state.1.next with
  | waiting q =>
    obtain ⟨hslot, hr⟩ := hwaiting q hn
    rw [hr]
    exact ⟨_, hslot, .waiting hs hc hn ha⟩
  | finished result =>
    obtain ⟨hslot, hr⟩ := hfinished result hn
    rw [hr]
    exact ⟨_, hslot, .ended hs hc hn ha⟩

/-- A run begins as it begins alone. -/
theorem Follows.opens {lease? : Option Lease} {events : List Event}
    (ho : d.chronicle.coordinator.Opens a id c lease? events)
    (ha : d.cluster.Agree c.config m₀) (hs : sources d.chronicle.coordinator.tokens) :
    (d.act a).Follows id c sources instants m₀ true
      (d.chronicle.coordinator.returned? id a).toList := by
  have hstep : d.chronicle.coordinator.step a
      = some (Coordinator.takeTurn
          { d.chronicle.coordinator with tokens := (c.start d.chronicle.coordinator.tokens).2 }
          id lease? (c.start d.chronicle.coordinator.tokens).1 events) :=
    Coordinator.step_of_opens ho
  have hcomes : c.Comes d.chronicle.coordinator.tokens instants m₀
      ((c.start d.chronicle.coordinator.tokens).1, m₀) := .start
  exact .of_turn (Coordinator.subject_of_opens ho) hstep hs hcomes ha

/-- A run is asked for, and waits for its lock. -/
theorem Follows.runCheck (h : d.Follows id c sources instants m₀ false results) :
    (d.act (.runCheck id)).Follows id c sources instants m₀ true
      (results ++ (d.chronicle.coordinator.returned? id (.runCheck id)).toList) := by
  obtain ⟨slot, hslot, h⟩ := h
  cases h with
  | unbegun ha =>
    have hstep := Coordinator.WellQueued.step_runCheck hslot
    rw [← cluster_act d (.runCheck id)] at ha
    rw [Coordinator.returned?_of_step hstep rfl, Follows, coordinator_act,
      Coordinator.act_of_step hstep]
    exact ⟨_, SortedMap.get?_insert_self .., .queued ha⟩

/-- A run is begun at once. -/
theorem Follows.runOnce (h : d.Follows id c sources instants m₀ false results)
    (hs : ∀ lease? events, d.chronicle.coordinator.Opens (.runOnce id) id c lease? events →
      sources d.chronicle.coordinator.tokens) :
    (d.act (.runOnce id)).Follows id c sources instants m₀ true
      (results ++ (d.chronicle.coordinator.returned? id (.runOnce id)).toList) := by
  obtain ⟨slot, hslot, h⟩ := h
  cases h with
  | unbegun ha => exact .opens (.runOnce hslot) ha (hs _ _ (.runOnce hslot))

/-- A run gets its lock if it waits for it and is first in the line. -/
theorem Follows.grant (h : d.Follows id c sources instants m₀ begun results)
    (hs : ∀ lease? events, d.chronicle.coordinator.Opens (.grant id) id c lease? events →
      sources d.chronicle.coordinator.tokens) :
    (d.act (.grant id)).Follows id c sources instants m₀ begun
      (results ++ (d.chronicle.coordinator.returned? id (.grant id)).toList) := by
  by_cases hstep : d.chronicle.coordinator.step (.grant id) = none
  · rw [Coordinator.returned?_of_step_eq_none hstep, Option.toList_none, List.append_nil]
    exact h.act_of_none hstep
  obtain ⟨slot, hslot, h⟩ := h
  generalize d.results id = o at h
  cases h with
  | @queued _ lock _ _ ha =>
    have hold : d.chronicle.coordinator.holds id lock = true := by
      by_contra hnot
      simp [Coordinator.step, Coordinator.grant?, hslot, hnot] at hstep
    exact .opens (.grant hslot hold) ha (hs _ _ (.grant hslot hold))
  | unbegun | waiting | performed | ended =>
    simp [Coordinator.step, Coordinator.grant?, hslot] at hstep

/-- Nothing is performed for a checker that waits for nothing, or whose operation has had its
effect. -/
theorem move_perform_of_none
    (h : d.chronicle.coordinator.call? id = none ∨ ∃ outcome, d.results id = some outcome) :
    d.move (.perform id) = d := by
  rw [move]
  rcases h with h | ⟨outcome, h⟩
  · rw [h]
  · cases d.chronicle.coordinator.call? id <;> rw [h]

/-- Nothing is delivered to a checker that has no outcome to get. -/
theorem move_deliver_of_none (h : d.results id = none) : d.move (.deliver id) = d := by
  rw [move, h]

/-- An operation of a run has the outcome and the effect that it has alone. -/
theorem Follows.perform (h : d.Follows id c sources instants m₀ begun results) :
    (d.move (.perform id)).Follows id c sources instants m₀ begun results := by
  by_cases hnone : d.chronicle.coordinator.call? id = none ∨ ∃ outcome, d.results id = some outcome
  · rwa [move_perform_of_none hnone]
  obtain ⟨hsome, hresult⟩ := not_or.1 hnone
  obtain ⟨slot, hslot, h⟩ := h
  have hcall : d.chronicle.coordinator.call? id = slot.call? := by
    rw [Coordinator.call?, hslot, Option.bind_some]
  generalize ho : d.results id = o at h
  cases h with
  | unbegun | queued | ended => exact absurd hcall hsome
  | performed => exact absurd ⟨_, ho⟩ hresult
  | @waiting tokens state lease? p _ hs hc hn ha =>
    have hmine : d.chronicle.coordinator.call? id = some (p.call c.config) := by
      rw [hcall, Slot.call?, hc.config]
    obtain ⟨houtcome, hafter⟩ := ha.perform (hc.of_waiting hn)
    rcases hperform : d.cluster.perform (p.call c.config) with ⟨outcome, cluster⟩
    rw [hperform] at houtcome hafter
    obtain rfl : outcome = _ := houtcome
    rw [move_perform hmine ho hperform]
    refine ⟨_, hslot, ?_⟩
    show Standing _ _ _ _ _ _ (Function.update d.results id _ id) _ _
    rw [Function.update_self]
    exact .performed hs hc hn hafter

/-- A run takes the outcome of its operation as it does alone. -/
theorem Follows.deliver (h : d.Follows id c sources instants m₀ begun results)
    (hnow : instants d.chronicle.coordinator.now) :
    (d.move (.deliver id)).Follows id c sources instants m₀ begun
      (results ++ (d.returned? id (.deliver id)).toList) := by
  cases ho : d.results id with
  | none =>
    have haction : d.action? (.deliver id) = none := by rw [action?, ho, Option.map_none]
    rw [returned?, haction, move_deliver_of_none ho]
    simpa using h
  | some outcome =>
    have haction : d.action? (.deliver id) = some (.answer id outcome) := by
      rw [action?, ho, Option.map_some]
    rw [move_of_action? haction, returned?_of_action? haction]
    by_cases hstep : d.chronicle.coordinator.step (.answer id outcome) = none
    · rw [Coordinator.returned?_of_step_eq_none hstep, Option.toList_none, List.append_nil]
      exact h.act_of_none hstep
    -- a run that takes an outcome waits for it, so this is the outcome of its own operation
    obtain ⟨slot, hslot, h⟩ := h
    rw [ho] at h
    cases h with
    | unbegun | queued | ended =>
      simp [Coordinator.step, Coordinator.answer?, hslot] at hstep
    | @performed tokens state lease? p _ hs hc hn ha =>
      have hadvance := Turn.advance_of_waiting hn d.chronicle.coordinator.now
      rw [hc.config] at hadvance
      have hturn : d.chronicle.coordinator.step
          (.answer id (state.2.perform (p.call c.config)).1)
          = some (d.chronicle.coordinator.takeTurn id lease?
              (Turn.advance d.chronicle.coordinator.now state).1 []) := by
        rw [Coordinator.step, Coordinator.answer?, hslot, hadvance]
      refine .of_turn rfl hturn hs (hc.advance hnow) ?_
      rwa [hadvance]

/-! ## Every move -/

/-- **Whatever takes runs on keeps a run on the course that it takes alone**, if it was not begun
twice and the others spare it. -/
theorem Follows.move {ids : List String} {mv : Move}
    (h : d.Follows id c sources instants m₀ begun results) (hm : mv.Furthers ids)
    (hspares : ∀ other ∈ ids, id ≠ other → ∀ call,
      d.chronicle.coordinator.call? other = some call → call.Spares c.config)
    (hnow : instants d.chronicle.coordinator.now)
    (hsource : ∀ a lease? events, mv = .act a →
      d.chronicle.coordinator.Opens a id c lease? events → sources d.chronicle.coordinator.tokens)
    (hfirst : mv.begins? = some id → begun = false) :
    (d.move mv).Follows id c sources instants m₀ (begun || mv.begins? = some id)
      (results ++ (d.returned? id mv).toList) := by
  -- what is about another checker is about nothing of this one
  have haside : ∀ a, d.action? mv = some a → a.subject? ≠ some id →
      mv.begins? ≠ some id → (d.move mv).Follows id c sources instants m₀
        (begun || mv.begins? = some id) (results ++ (d.returned? id mv).toList) := by
    intro a haction ha hbegins
    rw [move_of_action? haction, returned?_of_action? haction, Coordinator.returned?_of_ne ha]
    simpa [hbegins] using h.act_of_ne ha
  cases hm with
  | pass => exact haside _ rfl (by simp [Action.subject?]) (by simp [Move.begins?])
  | @runOnce other =>
    have haction : d.action? (.act (.runOnce other)) = some (.runOnce other) := rfl
    by_cases hid : other = id
    · subst hid
      obtain rfl := hfirst rfl
      rw [move_of_action? haction, returned?_of_action? haction]
      simpa [Move.begins?] using h.runOnce (hsource _ · · rfl)
    · exact haside _ haction (by simpa [Action.subject?]) (by simpa [Move.begins?])
  | @runCheck other =>
    have haction : d.action? (.act (.runCheck other)) = some (.runCheck other) := rfl
    by_cases hid : other = id
    · subst hid
      obtain rfl := hfirst rfl
      rw [move_of_action? haction, returned?_of_action? haction]
      simpa [Move.begins?] using h.runCheck
    · exact haside _ haction (by simpa [Action.subject?]) (by simpa [Move.begins?])
  | @grant other =>
    have haction : d.action? (.act (.grant other)) = some (.grant other) := rfl
    by_cases hid : other = id
    · subst hid
      rw [move_of_action? haction, returned?_of_action? haction]
      simpa [Move.begins?] using h.grant (hsource _ · · rfl)
    · exact haside _ haction (by simpa [Action.subject?]) (by simp [Move.begins?])
  | @perform other hother =>
    have hreturned : d.returned? id (.perform other) = none := rfl
    rw [hreturned]
    by_cases hid : id = other
    · subst hid
      simpa [Move.begins?] using h.perform
    · simpa [Move.begins?] using h.perform_of_ne hid (hspares other hother hid)
  | @deliver other =>
    by_cases hid : other = id
    · subst hid
      simpa [Move.begins?] using h.deliver hnow
    · cases haction : d.action? (.deliver other) with
      | none =>
        have hnone : d.results other = none := Option.map_eq_none_iff.1 haction
        rw [returned?, haction, move_deliver_of_none hnone]
        simpa [Move.begins?] using h
      | some a =>
        have hsubject : a.subject? = some other := by
          obtain ⟨outcome, -, rfl⟩ := Option.map_eq_some_iff.1 haction
          rfl
        exact haside _ haction (by simpa [hsubject]) (by simp [Move.begins?])

end Steps

/-! ## All moves -/

section Runs

variable {d : Deployment} {ids : List String} {checker : String → Checker} {moves : List Move}

/-- A run draws its token, in the course of some moves, from this source: the one at the moment at
which the run begins. -/
def DrawsFrom (d : Deployment) (moves : List Move) (id : String) (c : Checker)
    (tokens : TokenSource) : Prop :=
  ∃ before a after lease? events, moves = before ++ .act a :: after
    ∧ (d.run before).chronicle.coordinator.Opens a id c lease? events
    ∧ tokens = (d.run before).chronicle.coordinator.tokens

/-- An instant in the course of some moves. -/
def Passes (d : Deployment) (moves : List Move) (now : Instant) : Prop :=
  ∃ before after, moves = before ++ after ∧ now = (d.run before).chronicle.coordinator.now

/-- A move that takes some runs on changes nothing but the tokens of their checks and the pods at
their places, if whatever is performed is an operation of theirs. -/
theorem changedOnly_move {mv : Move} (hmv : mv.Furthers ids)
    (hcalls : ∀ id ∈ ids, ∀ call, d.chronicle.coordinator.call? id = some call →
      ∃ p token, Pending.Of (checker id).config token p ∧ call = p.call (checker id).config) :
    MemoryCluster.ChangedOnly (fun key => ∃ id ∈ ids, key = (checker id).config.checkKey)
      (fun key => ∃ id ∈ ids, key = (checker id).config.place) d.cluster (d.move mv).cluster := by
  have hchange := change_of_move d mv
  generalize d.move mv = e at hchange
  cases hchange with
  | none | acted | refused => exact .refl _
  | faults => cases hmv
  | performed hcall _ hcluster =>
    cases hmv with
    | perform hid =>
      obtain ⟨p, token, hp, rfl⟩ := hcalls _ hid _ hcall
      exact hcluster.changedOnly.mono (fun key hkey => ⟨_, hid, hp.check?_call hkey⟩)
        fun key hkey => ⟨_, hid, hp.place?_call hkey⟩

/-- **All runs stay on the courses that they take alone**, and nothing changes but the tokens of
their checks and the pods at their places. -/
theorem follows_run (hidle : ∀ id ∈ ids, d.chronicle.coordinator.slots.get? id
      = some ⟨checker id, .idle⟩)
    (hapart : ids.Pairwise fun id other => (checker id).config.Apart (checker other).config)
    (hmoves : ∀ mv ∈ moves, mv.Furthers ids) (hbegins : (moves.filterMap Move.begins?).Nodup)
    {done rest : List Move} (hdone : moves = done ++ rest) :
    (∀ id ∈ ids, ∃ begun, (d.run done).Follows id (checker id)
        (d.DrawsFrom moves id (checker id)) (d.Passes moves) d.cluster begun (d.returns id done)
      ∧ (begun = true → id ∈ done.filterMap Move.begins?))
    ∧ MemoryCluster.ChangedOnly (fun key => ∃ id ∈ ids, key = (checker id).config.checkKey)
        (fun key => ∃ id ∈ ids, key = (checker id).config.place) d.cluster
        (d.run done).cluster := by
  -- on the moves made so far; that a run was begun among them keeps it from being begun again
  induction done using List.reverseRecOn generalizing rest with
  | nil =>
    refine ⟨?_, .refl _⟩
    intro id hid
    exact ⟨false, ⟨_, hidle id hid, .unbegun (.refl ..)⟩, by simp⟩
  | append_singleton done mv ih =>
    rw [List.append_assoc] at hdone
    obtain ⟨hfollows, hchanged⟩ := ih hdone
    have hmv : mv.Furthers ids := hmoves mv (by simp [hdone])
    have hrun : d.run (done ++ [mv]) = (d.run done).move mv := by
      rw [run_append]
      rfl
    -- whatever is performed is an operation of one of the runs
    have hcalls : ∀ other ∈ ids, ∀ call,
        (d.run done).chronicle.coordinator.call? other = some call →
        ∃ p token, Pending.Of (checker other).config token p
          ∧ call = p.call (checker other).config := by
      intro other hother call hcall
      obtain ⟨_, ⟨slot, hslot, hstanding⟩, -⟩ := hfollows other hother
      rw [Coordinator.call?, hslot, Option.bind_some] at hcall
      exact hstanding.call hcall
    constructor
    · intro id hid
      obtain ⟨begun, hfollow, hbegun⟩ := hfollows id hid
      have hspares : ∀ other ∈ ids, id ≠ other → ∀ call,
          (d.run done).chronicle.coordinator.call? other = some call →
          call.Spares (checker id).config := by
        intro other hother hne call hcall
        obtain ⟨p, token, hp, rfl⟩ := hcalls other hother call hcall
        exact hp.spares (hapart.forall hother hid hne.symm)
      have hfirst : mv.begins? = some id → begun = false := by
        intro hmine
        rw [hdone, List.filterMap_append, List.nodup_append] at hbegins
        by_contra hnot
        exact hbegins.2.2 id (hbegun (by simpa using hnot)) id (by simp [hmine]) rfl
      have hmove := hfollow.move hmv hspares ⟨done, _, hdone, rfl⟩
        (fun a lease? events hact ho => ⟨done, a, rest, lease?, events, hact ▸ hdone, ho, rfl⟩)
        hfirst
      refine ⟨begun || mv.begins? = some id, ?_, ?_⟩
      · rw [hrun, returns_append]
        simpa [returns] using hmove
      · intro hnow
        rw [Bool.or_eq_true, decide_eq_true_eq] at hnow
        rw [List.filterMap_append, List.mem_append]
        rcases hnow with hnow | hnow
        · exact .inl (hbegun hnow)
        · exact .inr (by simp [hnow])
    · rw [hrun]
      exact hchanged.trans (changedOnly_move hmv hcalls)

/-- Clusters that have changed only for some checkers, and agree for each of these, are the same up
to the order of their creations. -/
theorem same_of_agree {m₀ m n : MemoryCluster}
    (hm : m₀.ChangedOnly (fun key => ∃ id ∈ ids, key = (checker id).config.checkKey)
      (fun key => ∃ id ∈ ids, key = (checker id).config.place) m)
    (hn : m₀.ChangedOnly (fun key => ∃ id ∈ ids, key = (checker id).config.checkKey)
      (fun key => ∃ id ∈ ids, key = (checker id).config.place) n)
    (ha : ∀ id ∈ ids, m.Agree (checker id).config n) :
    m.pods = n.pods ∧ m.tokens = n.tokens ∧ m.creations.Perm n.creations := by
  refine ⟨SortedMap.ext_get? ?_, SortedMap.ext_get? ?_, List.perm_iff_count.2 ?_⟩
  · intro key
    by_cases hkey : ∃ id ∈ ids, key = (checker id).config.place
    · obtain ⟨id, hid, rfl⟩ := hkey
      exact congrArg Holding.pod? (ha id hid).holding
    · rw [hm.pods key hkey, hn.pods key hkey]
  · intro key
    by_cases hkey : ∃ id ∈ ids, key = (checker id).config.checkKey
    · obtain ⟨id, hid, rfl⟩ := hkey
      exact congrArg Holding.token? (ha id hid).holding
    · rw [hm.tokens key hkey, hn.tokens key hkey]
  · intro e
    by_cases hkey : ∃ id ∈ ids, (⟨e.ns, e.pod⟩ : ObjectKey) = (checker id).config.place
    · -- its place is that of a checker, for which both clusters hold the same creations
      obtain ⟨id, hid, hplace⟩ := hkey
      have hcount : ∀ m' : MemoryCluster,
          (m'.holding (checker id).config).creations.count e = m'.creations.count e := fun m' =>
        List.count_filter (by simpa using hplace)
      rw [← hcount m, ← hcount n, (ha id hid).holding]
    · obtain ⟨more, hmore, hplaces⟩ := hm.creations
      obtain ⟨more', hmore', hplaces'⟩ := hn.creations
      rw [hmore, hmore', List.count_append, List.count_append,
        List.count_eq_zero.2 fun he => hkey (hplaces e he),
        List.count_eq_zero.2 fun he => hkey (hplaces' e he)]

/-- A run that has returned did what it does alone. -/
theorem Follows.eq_alone {e : Deployment} {id : String} {c : Checker}
    {sources : TokenSource → Prop} {instants : Instant → Prop} {m₀ : MemoryCluster} {begun : Bool}
    {results : List (Except CheckError Unit)}
    (h : e.Follows id c sources instants m₀ begun results) (hresults : results ≠ [])
    (hinstants : ∃ now, instants now) :
    ∃ r : PlannedRun, (r.checker = c ∧ sources r.tokens ∧ instants r.now)
      ∧ (∃ result, (r.alone m₀).1.next = .finished result ∧ results = [result])
      ∧ e.chronicle.coordinator.slots.get? id = some ⟨(r.alone m₀).1.checker, .idle⟩
      ∧ e.cluster.Agree c.config (r.alone m₀).2 := by
  obtain ⟨slot, hslot, h⟩ := h
  generalize e.results id = o at h
  cases h with
  | unbegun | queued | waiting | performed => exact absurd rfl hresults
  | @ended tokens state _ result _ hs hc hn ha =>
    obtain ⟨now, hnow, heq⟩ := hc.eq_alone hinstants hn
    refine ⟨⟨c, tokens, now⟩, ⟨rfl, hs, hnow⟩, ⟨result, ?_, rfl⟩, ?_, ?_⟩
    · rw [heq, hn]
    · rw [heq, hslot]
    · rwa [heq]

/-- **Runs of different checks with different places do not interfere.** However the runs of some
checkers go on side by side, on any cluster and with any faults, each of them drawing its token and
building its pod when it gets there: once all have returned, every run has the result and every
checker the state and the token, the pods and the tokens of all checks are the same, and the
creations the same up to their order, as when the runs are made one after the other with these
tokens and times, each alone on the cluster, in whichever order. -/
theorem independent_runs (d : Deployment) (ids : List String) (checker : String → Checker)
    (moves : List Move)
    (hidle : ∀ id ∈ ids, d.chronicle.coordinator.slots.get? id = some ⟨checker id, .idle⟩)
    (hapart : ids.Pairwise fun id other => (checker id).config.Apart (checker other).config)
    (hmoves : ∀ mv ∈ moves, mv.Furthers ids) (hbegins : (moves.filterMap Move.begins?).Nodup)
    (hreturned : ∀ id ∈ ids, d.returns id moves ≠ []) :
    ∃ plan : String → PlannedRun,
      (∀ id ∈ ids, (plan id).checker = checker id
        ∧ d.DrawsFrom moves id (checker id) (plan id).tokens ∧ d.Passes moves (plan id).now)
      ∧ ∀ order : List String, order.Perm ids →
        let after := d.run moves
        let turns := (PlannedRun.oneByOne plan order d.cluster).1
        let cluster := (PlannedRun.oneByOne plan order d.cluster).2
        turns.map (·.1) = order
        ∧ (∀ id turn, (id, turn) ∈ turns → ∃ result, turn.next = .finished result
          ∧ d.returns id moves = [result]
          ∧ after.chronicle.coordinator.slots.get? id = some ⟨turn.checker, .idle⟩)
        ∧ after.cluster.pods = cluster.pods ∧ after.cluster.tokens = cluster.tokens
        ∧ after.cluster.creations.Perm cluster.creations := by
  obtain ⟨hfollows, hchanged⟩ :=
    follows_run hidle hapart hmoves hbegins (List.append_nil moves).symm
  have hnow : ∃ now, d.Passes moves now := ⟨_, [], moves, rfl, rfl⟩
  have halone : ∀ id ∈ ids, ∃ r : PlannedRun, (r.checker = checker id
        ∧ d.DrawsFrom moves id (checker id) r.tokens ∧ d.Passes moves r.now)
      ∧ (∃ result, (r.alone d.cluster).1.next = .finished result ∧ d.returns id moves = [result])
      ∧ (d.run moves).chronicle.coordinator.slots.get? id
        = some ⟨(r.alone d.cluster).1.checker, .idle⟩
      ∧ (d.run moves).cluster.Agree (checker id).config (r.alone d.cluster).2 := by
    intro id hid
    obtain ⟨begun, hfollow, -⟩ := hfollows id hid
    exact hfollow.eq_alone (hreturned id hid) hnow
  -- one plan tells for every run from where it draws and when it builds its pod
  have : Nonempty PlannedRun := ⟨⟨checker "", {}, d.chronicle.coordinator.now⟩⟩
  choose! plan hplan hresult hslot hagree using halone
  refine ⟨plan, hplan, ?_⟩
  intro order horder after turns cluster
  have hmem : ∀ id ∈ order, id ∈ ids := fun id hid => horder.mem_iff.1 hid
  have horderApart : order.Pairwise fun id other =>
      (plan id).checker.config.Apart (plan other).checker.config := by
    refine (horder.symm.pairwise hapart fun h => h.symm).imp_of_mem ?_
    intro id other hid hother h
    rwa [(hplan id (hmem id hid)).1, (hplan other (hmem other hother)).1]
  -- whatever the order, each run finds what it finds alone
  obtain ⟨hturns, hlast⟩ := PlannedRun.oneByOne_spec horderApart (m := d.cluster)
    fun id _ => .refl _ d.cluster
  change turns = _ at hturns
  refine ⟨?_, ?_, ?_⟩
  · rw [hturns, List.map_map]
    exact List.map_id' order
  · intro id turn hid
    rw [hturns, List.mem_map] at hid
    obtain ⟨_, hid, heq⟩ := hid
    obtain ⟨rfl, rfl⟩ := Prod.mk.inj heq
    obtain ⟨result, hnext, hreturns⟩ := hresult _ (hmem _ hid)
    exact ⟨result, hnext, hreturns, hslot _ (hmem _ hid)⟩
  · refine same_of_agree hchanged (PlannedRun.oneByOne_changedOnly.mono ?_ ?_) ?_
    · rintro key ⟨id, hid, rfl⟩
      exact ⟨id, hmem id hid, by rw [(hplan id (hmem id hid)).1]⟩
    · rintro key ⟨id, hid, rfl⟩
      exact ⟨id, hmem id hid, by rw [(hplan id (hmem id hid)).1]⟩
    · intro id hid
      have hafter := hlast id (horder.mem_iff.2 hid)
      rw [(hplan id hid).1] at hafter
      exact (hagree id hid).trans hafter.symm

/-- Three runs, of which the last one begun creates its pod first and one finds no check of its
own. -/
theorem independent_runs_of_three :
    let ids := ["a", "b", "c"]
    let checker : String → Checker := fun id => .plain id "web" "probe"
    let cluster := (MemoryCluster.withCheck {} "a" "web").withCheck "c" "web"
    let d := (fresh {} (.ofNanos 0) cluster).run
      (ids.map fun id => .act (.place id (checker id)))
    let moves : List Move :=
      [.act (.runCheck "a"), .act (.runOnce "b"), .act (.grant "a"), .perform "a",
        .act (.runCheck "c"), .act (.grant "c"), .perform "c", .perform "b", .deliver "c",
        .act (.pass 5), .deliver "a", .perform "c", .deliver "c", .perform "a", .perform "c",
        .deliver "b", .deliver "a", .deliver "c", .perform "a", .deliver "a"]
    ids.map (d.returns · moves)
        = [[.ok ()], [.error (.persistence "b" "web" (.notFound Check.kind "b" "web"))],
          [.ok ()]]
      ∧ (d.run moves).cluster.creations.map (·.ns) = ["c", "a"]
      ∧ ∃ plan : String → PlannedRun, ∀ order : List String, order.Perm ids →
        (d.run moves).cluster.pods = (PlannedRun.oneByOne plan order d.cluster).2.pods := by
  intro ids checker cluster d moves
  have hreturns : ids.map (d.returns · moves)
      = [[.ok ()], [.error (.persistence "b" "web" (.notFound Check.kind "b" "web"))],
        [.ok ()]] := by
    decide +kernel
  have hapart : ids.Pairwise fun id other => (checker id).config.Apart (checker other).config := by
    simp [ids, checker, CheckerConfig.Apart, CheckerConfig.checkKey, CheckerConfig.place,
      Checker.plain]
  have hmoves : ∀ mv ∈ moves, mv.Furthers ids := by
    rw [← List.forall_iff_forall_mem]
    and_intros <;> constructor <;> decide
  obtain ⟨plan, -, hplan⟩ := independent_runs d ids checker moves (by decide +kernel) hapart hmoves
    (by decide) (by decide +kernel)
  exact ⟨hreturns, by decide +kernel, plan, fun order horder => (hplan order horder).2.2.1⟩

end Runs

end Deployment

end PodCheck
