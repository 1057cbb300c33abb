import PodCheck.Proofs.Deployment.Whitelisting
import PodCheck.Proofs.Deployment.WholeRun

/-! # Checker and cluster keep the same token

A checker keeps the token of its check in memory, and the cluster stores it. Whatever the cluster
answers, the one in memory changes with the acknowledgement that a token was stored, and to that
token (`Coordinator.token_of_run`). Where a checker is the only one that stores tokens for its check
and nothing of it is cut off, both are the same from the first token on that the cluster accepted
(`Deployment.token_agreement`). Between the effect of an operation and its acknowledgement they
differ, and the invariant says by how much (`Deployment.Agrees`). -/

namespace PodCheck

/-- The token that a checker waits to be stored for its check. -/
def Slot.storing? (slot : Slot) : Option String :=
  match slot.call? with
  | some (.setToken ns check token) =>
    if (⟨ns, check⟩ : ObjectKey) = slot.checker.config.checkKey then some token else none
  | _ => none

/-- A checker that stores a token for its own sake waits for that. -/
@[simp] theorem Slot.storing?_assigning (c : Checker) (token : String) :
    Slot.storing? ⟨c, .assigning token⟩ = some token := if_pos rfl

/-- What a run waits for is that its token is stored, or something else. -/
@[simp] theorem Slot.storing?_running (c : Checker) (lease? : Option Lease) (p : Pending) :
    Slot.storing? ⟨c, .running lease? p⟩
      = match p with
        | .settingToken token => some token
        | _ => none := by
  cases p with
  | settingToken token => exact if_pos rfl
  | removing token => rfl
  | submitting token pod => rfl

/-- A checker waits for a token to be stored if it waits for just that operation. -/
theorem Slot.storing?_eq_some {slot : Slot} {token : String} :
    slot.storing? = some token
      ↔ slot.call?
        = some (.setToken slot.checker.config.ns slot.checker.config.checkName token) := by
  obtain ⟨c, activity⟩ := slot
  cases activity with
  | idle => simp [storing?, call?]
  | assigning t => simp [call?, Checker.assignCall]
  | queued key lock => simp [storing?, call?]
  | running lease? p => cases p <;> simp [call?, Pending.call]

/-- The token that a checker has once it has got the outcome that there is for it. -/
def Slot.foreseen (slot : Slot) : Option Outcome → String
  | some (.ok _) => slot.storing?.getD slot.checker.token
  | _ => slot.checker.token

/-- A failure leaves a checker the token that it has. -/
theorem Slot.foreseen_error (slot : Slot) (e : ClientError) :
    slot.foreseen (some (.error e)) = slot.foreseen none := rfl

/-- A success brings a checker the token that it waits to be stored. -/
theorem Slot.foreseen_ok {slot : Slot} {token : String} (h : slot.storing? = some token)
    (answer : Answer) : slot.foreseen (some (.ok answer)) = token := by
  rw [foreseen, h, Option.getD_some]

/-- What a checker is about to have is what it has, unless it waits for a token to be stored. -/
theorem Slot.foreseen_of_not_storing {slot : Slot} (h : slot.storing? = none)
    (result? : Option Outcome) : slot.foreseen result? = slot.checker.token := by
  unfold foreseen
  split
  · rw [h, Option.getD_none]
  · rfl

/-- A run keeps a token once it was stored. -/
theorem Checker.token_resume (c : Checker) (p : Pending) (outcome : Outcome) (now : Instant) :
    (c.resume p outcome now).checker.token
      = match p, outcome with
        | .settingToken token, .ok _ => token
        | _, _ => c.token := by
  cases p <;> cases outcome <;> rfl

namespace Coordinator

variable {s s' : Coordinator} {r : Reaction} {a : Action} {id : String} {slot : Slot}

/-- The token whose storing for the check of a checker an action acknowledges to it. -/
def acknowledged? (s : Coordinator) (id : String) : Action → Option String
  | .answer other (.ok _) => if other = id then (s.slots.get? id).bind Slot.storing? else none
  | _ => none

/-- The tokens whose storing some actions acknowledge to a checker, first one first. -/
def acknowledged (s : Coordinator) (id : String) : List Action → List String
  | [] => []
  | a :: actions => (s.acknowledged? id a).toList ++ (s.act a).acknowledged id actions

/-- An outcome acknowledges what the checker waits for. -/
theorem acknowledged?_answer (hslot : s.slots.get? id = some slot) (answer : Answer) :
    s.acknowledged? id (.answer id (.ok answer)) = slot.storing? := by
  rw [acknowledged?, if_pos rfl, hslot, Option.bind_some]

/-- What is acknowledged to a checker it has waited for. -/
theorem acknowledged?_eq_some {token : String} (hslot : s.slots.get? id = some slot)
    (h : s.acknowledged? id a = some token) :
    ∃ answer, a = .answer id (.ok answer) ∧ slot.storing? = some token := by
  cases a with
  | answer other outcome =>
    cases outcome with
    | error e => simp [acknowledged?] at h
    | ok answer =>
      by_cases hother : other = id
      · subst hother
        rw [acknowledged?_answer hslot] at h
        exact ⟨answer, rfl, h⟩
      · simp [acknowledged?, hother] at h
  | _ => simp [acknowledged?] at h

/-- An action that brings the checker no outcome acknowledges nothing. -/
theorem acknowledged?_of_ne_answer (ha : ∀ outcome, a ≠ .answer id outcome) :
    s.acknowledged? id a = none := by
  cases a with
  | answer other outcome =>
    cases outcome with
    | error e => rfl
    | ok answer =>
      refine if_neg ?_
      rintro rfl
      exact ha _ rfl
  | _ => rfl

/-- An outcome that cannot come acknowledges nothing. -/
theorem acknowledged?_of_step_eq_none (hs : s.step a = none) : s.acknowledged? id a = none := by
  by_cases hanswer : ∃ outcome, a = .answer id outcome
  · obtain ⟨outcome, rfl⟩ := hanswer
    -- a checker that waits for a token to be stored takes any outcome
    rcases hslot : s.slots.get? id with _ | ⟨c, activity⟩
    · cases outcome <;> simp [acknowledged?, hslot]
    · cases activity with
      | idle | queued => cases outcome <;> simp [acknowledged?, hslot, Slot.storing?, Slot.call?]
      | assigning | running => simp [step, answer?, hslot] at hs
  · exact acknowledged?_of_ne_answer fun outcome heq => hanswer ⟨outcome, heq⟩

/-- A checker is found as it was put back with its lock given up. -/
theorem get?_slots_releaseLease (s : Coordinator) (id : String) (c : Checker) (activity : Activity)
    (lease? : Option Lease) :
    ((s.put id c activity).releaseLease id lease?).slots.get? id = some ⟨c, activity⟩ := by
  rw [slots_releaseLease, slots_put, SortedMap.get?_insert_self]

/-- The beginning of a run acknowledges nothing. -/
theorem acknowledged?_of_opens {c : Checker} {lease? : Option Lease} {events : List Event}
    (ho : s.Opens a id c lease? events) :
    s.acknowledged? id a = none ∧ ∃ activity, s.slots.get? id = some ⟨c, activity⟩ := by
  cases ho with
  | runOnce h => exact ⟨rfl, _, h⟩
  | grant h => exact ⟨rfl, _, h⟩

/-- A turn of a run keeps the token that its outcome acknowledges. -/
theorem token_of_resume {c : Checker} {lease? : Option Lease} {p : Pending} (outcome : Outcome)
    (hslot : s.slots.get? id = some ⟨c, .running lease? p⟩) :
    (c.resume p outcome s.now).checker.token
      = (s.acknowledged? id (.answer id outcome)).getD c.token := by
  rw [Checker.token_resume]
  cases outcome with
  | error e => cases p <;> rfl
  | ok answer =>
    rw [acknowledged?_answer hslot, Slot.storing?_running]
    cases p <;> rfl

/-- **A step changes the token in memory by an acknowledgement only**, and the configuration only if
it is told to. -/
theorem token_of_step (hs : s.step a = some (s', r)) (hslot : s.slots.get? id = some slot)
    (ha : ∀ checker, a ≠ .place id checker) :
    ∃ slot', s'.slots.get? id = some slot'
      ∧ slot'.checker.token = (s.acknowledged? id a).getD slot.checker.token
      ∧ (slot'.checker.config = slot.checker.config
        ∨ a = .configure id slot'.checker.config) := by
  by_cases hne : a.subject? ≠ some id
  · have hanswer : ∀ outcome, a ≠ .answer id outcome := by
      rintro outcome rfl
      exact hne rfl
    rw [acknowledged?_of_ne_answer hanswer]
    exact ⟨slot, (slot_of_step hs hne).trans hslot, rfl, .inl rfl⟩
  have hid : a.subject? = some id := Decidable.not_not.1 hne
  -- the step is about this checker and puts it back, as it was found but for what it was told
  cases change_of_step hs with
  | setDeadline | pass => simp [Action.subject?] at hid
  | place =>
    obtain rfl := Option.some.inj hid
    exact absurd rfl (ha _)
  | configure h =>
    obtain rfl := Option.some.inj hid
    obtain rfl := Option.some.inj (hslot.symm.trans h)
    exact ⟨_, SortedMap.get?_insert_self .., rfl, .inr rfl⟩
  | abandon h | assign h | dropToken h | queue h | unqueue h =>
    obtain rfl := Option.some.inj hid
    obtain rfl := Option.some.inj (hslot.symm.trans h)
    exact ⟨_, SortedMap.get?_insert_self .., rfl, .inl rfl⟩
  | refuseToken h =>
    obtain rfl := Option.some.inj hid
    exact ⟨slot, hslot, rfl, .inl rfl⟩
  | @assigned _ token c outcome h =>
    obtain rfl := Option.some.inj hid
    obtain rfl := Option.some.inj (hslot.symm.trans h)
    cases outcome with
    | error e => exact ⟨_, SortedMap.get?_insert_self .., rfl, .inl rfl⟩
    | ok answer =>
      rw [acknowledged?_answer h, Slot.storing?_assigning]
      exact ⟨_, SortedMap.get?_insert_self .., rfl, .inl rfl⟩
  | refuse ho =>
    obtain rfl := Option.some.inj ((subject_of_opens ho).symm.trans hid)
    obtain ⟨hnone, activity, h⟩ := acknowledged?_of_opens ho
    obtain rfl := Option.some.inj (hslot.symm.trans h)
    rw [hnone]
    exact ⟨_, get?_slots_releaseLease .., rfl, .inl rfl⟩
  | begin ho =>
    obtain rfl := Option.some.inj ((subject_of_opens ho).symm.trans hid)
    obtain ⟨hnone, activity, h⟩ := acknowledged?_of_opens ho
    obtain rfl := Option.some.inj (hslot.symm.trans h)
    rw [hnone]
    exact ⟨_, SortedMap.get?_insert_self .., rfl, .inl rfl⟩
  | proceed h hq =>
    obtain rfl := Option.some.inj hid
    obtain rfl := Option.some.inj (hslot.symm.trans h)
    exact ⟨_, SortedMap.get?_insert_self .., token_of_resume _ h, .inl (Checker.config_resume ..)⟩
  | finish h hr =>
    obtain rfl := Option.some.inj hid
    obtain rfl := Option.some.inj (hslot.symm.trans h)
    exact ⟨_, get?_slots_releaseLease .., token_of_resume _ h, .inl (Checker.config_resume ..)⟩
  | expire h | cut h =>
    obtain rfl := Option.some.inj hid
    obtain rfl := Option.some.inj (hslot.symm.trans h)
    exact ⟨_, get?_slots_releaseLease .., rfl, .inl rfl⟩

/-- An action does so too, whether it can happen or not. -/
theorem token_of_act (hslot : s.slots.get? id = some slot) (ha : ∀ checker, a ≠ .place id checker) :
    ∃ slot', (s.act a).slots.get? id = some slot'
      ∧ slot'.checker.token = (s.acknowledged? id a).getD slot.checker.token
      ∧ (slot'.checker.config = slot.checker.config
        ∨ a = .configure id slot'.checker.config) := by
  rcases hs : s.step a with _ | ⟨s', r⟩
  · rw [act_of_step_eq_none hs, acknowledged?_of_step_eq_none hs]
    exact ⟨slot, hslot, rfl, .inl rfl⟩
  · rw [act_of_step hs]
    exact token_of_step hs hslot ha

/-- **The token in memory is the one whose storing was acknowledged last**, whatever else happened
and whatever the cluster answered. -/
theorem token_of_run (hslot : s.slots.get? id = some slot) (actions : List Action)
    (ha : ∀ checker, .place id checker ∉ actions) :
    ∃ slot', (s.run actions).slots.get? id = some slot'
      ∧ slot'.checker.token = (s.acknowledged id actions).getLast?.getD slot.checker.token := by
  induction actions generalizing s slot with
  | nil => exact ⟨slot, hslot, rfl⟩
  | cons a actions ih =>
    obtain ⟨slot', hslot', htoken, -⟩ := token_of_act (a := a) hslot
      fun checker heq => ha checker (heq ▸ List.mem_cons_self ..)
    obtain ⟨slot'', hslot'', htoken'⟩ := ih hslot'
      fun checker hmem => ha checker (List.mem_cons_of_mem _ hmem)
    refine ⟨slot'', hslot'', ?_⟩
    rw [htoken', htoken, acknowledged, List.getLast?_append]
    cases s.acknowledged? id a with
    | none => simp
    | some token => cases hlast : ((s.act a).acknowledged id actions).getLast? <;> simp

/-- A checker was added by a step or was there before. -/
theorem placed_or_found_of_step (hs : s.step a = some (s', r))
    (hslot : s'.slots.get? id = some slot) :
    a = .place id slot.checker
      ∨ ∃ slot₀, s.slots.get? id = some slot₀ ∧ ∀ checker, a ≠ .place id checker := by
  by_cases hne : a.subject? ≠ some id
  · refine .inr ⟨slot, (slot_of_step hs hne).symm.trans hslot, ?_⟩
    rintro checker rfl
    exact hne rfl
  have hid : a.subject? = some id := Decidable.not_not.1 hne
  cases change_of_step hs with
  | setDeadline | pass => simp [Action.subject?] at hid
  | place =>
    obtain rfl := Option.some.inj hid
    rw [slots_put, SortedMap.get?_insert_self] at hslot
    obtain rfl := Option.some.inj hslot
    exact .inl rfl
  | configure h | abandon h | refuseToken h | assign h | assigned h | dropToken h | queue h
  | unqueue h | proceed h | finish h | expire h | cut h =>
    obtain rfl := Option.some.inj hid
    exact .inr ⟨_, h, by simp⟩
  | refuse ho | begin ho =>
    obtain rfl := Option.some.inj ((subject_of_opens ho).symm.trans hid)
    cases ho with
    | runOnce h | grant h => exact .inr ⟨_, h, by simp⟩

/-- What does not bring an outcome to a checker or cut it off finds it waiting for no token to be
stored. -/
theorem storing?_of_step (hs : s.step a = some (s', r)) (hslot : s.slots.get? id = some slot)
    (hid : a.subject? = some id) (hanswer : ∀ outcome, a ≠ .answer id outcome)
    (hcut : a ≠ .expire id ∧ a ≠ .drop id) : slot.storing? = none := by
  cases change_of_step hs with
  | setDeadline | pass => simp [Action.subject?] at hid
  | place h =>
    obtain rfl := Option.some.inj hid
    obtain ⟨c, activity⟩ := slot
    obtain rfl : activity = .idle := h _ hslot
    rfl
  | configure h | abandon h | refuseToken h | assign h | queue h =>
    obtain rfl := Option.some.inj hid
    obtain rfl := Option.some.inj (hslot.symm.trans h)
    rfl
  | refuse ho | begin ho =>
    obtain rfl := Option.some.inj ((subject_of_opens ho).symm.trans hid)
    cases ho with
    | runOnce h | grant h =>
      obtain rfl := Option.some.inj (hslot.symm.trans h)
      rfl
  | assigned | proceed | finish =>
    obtain rfl := Option.some.inj hid
    exact absurd rfl (hanswer _)
  | expire =>
    obtain rfl := Option.some.inj hid
    exact absurd rfl hcut.1
  | dropToken | unqueue | cut =>
    obtain rfl := Option.some.inj hid
    exact absurd rfl hcut.2

end Coordinator

/-- An action leaves a check to a checker: no other checker is to store tokens for it, and this one
stays at it and is not cut off. -/
def Action.LeavesTo (id : String) (key : ObjectKey) : Action → Prop
  | .place other checker => other ≠ id ∧ checker.config.checkKey ≠ key
  | .configure other config => config.checkKey = key ↔ other = id
  | .expire other | .drop other => other ≠ id
  | _ => True

namespace Deployment

/-- An occurrence leaves a check to a checker: nobody else stores tokens for it either. -/
def Occurrence.LeavesTo (id : String) (key : ObjectKey) : Occurrence → Prop
  | .move (.act a) => a.LeavesTo id key
  | .move _ => True
  | .store ns check _ => (⟨ns, check⟩ : ObjectKey) ≠ key

variable {d : Deployment} {id : String} {key : ObjectKey} {count : Nat} {slot : Slot}

/-- The tokens that were stored for a check. -/
abbrev written (d : Deployment) (key : ObjectKey) : List String := d.writes key.ns key.name

/-- **A check is left to a checker, and has the token that the checker has or is about to have**, if
more tokens were stored than at the start. -/
structure Agrees (id : String) (key : ObjectKey) (count : Nat) (d : Deployment) : Prop where
  /-- The checker is one of this check, which has its token. -/
  checker : ∃ slot, d.chronicle.coordinator.slots.get? id = some slot
    ∧ slot.checker.config.checkKey = key
    ∧ (count < (d.written key).length →
        d.cluster.tokens.get? key = some (slot.foreseen (d.results id)))
  /-- Other checkers are of other checks. -/
  others : ∀ other slot, other ≠ id → d.chronicle.coordinator.slots.get? other = some slot →
    slot.checker.config.checkKey ≠ key

/-- An action leaves the operations that were performed. -/
theorem performed_act (d : Deployment) (a : Action) : (d.act a).performed = d.performed := by
  unfold act
  split <;> rfl

/-- Other checkers stay with other checks. -/
theorem Agrees.others_act (h : Agrees id key count d) {a : Action} (ha : a.LeavesTo id key) :
    ∀ other slot, other ≠ id → (d.act a).chronicle.coordinator.slots.get? other = some slot →
      slot.checker.config.checkKey ≠ key := by
  intro other slot hne hslot
  rw [coordinator_act] at hslot
  rcases hs : d.chronicle.coordinator.step a with _ | ⟨s, r⟩
  · rw [Coordinator.act_of_step_eq_none hs] at hslot
    exact h.others other slot hne hslot
  rw [Coordinator.act_of_step hs] at hslot
  rcases Coordinator.placed_or_found_of_step hs hslot with rfl | ⟨slot₀, hslot₀, hplace⟩
  · exact ha.2
  obtain ⟨slot', hslot', -, hconfig⟩ := Coordinator.token_of_step hs hslot₀ hplace
  obtain rfl := Option.some.inj (hslot'.symm.trans hslot)
  rcases hconfig with hconfig | rfl
  · rw [hconfig]
    exact h.others other slot₀ hne hslot₀
  · exact fun hkey => hne (ha.1 hkey)

/-- What a checker is about to have it has after the action, or is still about to have. -/
theorem foreseen_act {a : Action} {slot' : Slot}
    (hslot : d.chronicle.coordinator.slots.get? id = some slot)
    (hslot' : (d.act a).chronicle.coordinator.slots.get? id = some slot')
    (ha : a.LeavesTo id key)
    (hanswer : ∀ outcome, a = .answer id outcome → d.results id = some outcome) :
    slot'.foreseen ((d.act a).results id) = slot.foreseen (d.results id) := by
  have hplace : ∀ checker, a ≠ .place id checker := by
    rintro checker rfl
    exact ha.1 rfl
  have hcut : a ≠ .expire id ∧ a ≠ .drop id := by
    constructor <;> rintro rfl <;> exact ha rfl
  rcases hs : d.chronicle.coordinator.step a with _ | ⟨s, r⟩
  · rw [act_of_step_eq_none hs] at hslot' ⊢
    obtain rfl := Option.some.inj (hslot'.symm.trans hslot)
    rfl
  rw [coordinator_act, Coordinator.act_of_step hs] at hslot'
  by_cases hid : a.subject? = some id
  · obtain ⟨slot'', hslot'', htoken, -⟩ := Coordinator.token_of_step hs hslot hplace
    obtain rfl := Option.some.inj (hslot''.symm.trans hslot')
    rw [results_act_of_step hs hid]
    refine htoken.trans ?_
    by_cases houtcome : ∃ outcome, a = .answer id outcome
    · obtain ⟨outcome, rfl⟩ := houtcome
      rw [hanswer outcome rfl]
      cases outcome with
      | error e => rfl
      | ok answer => rw [Coordinator.acknowledged?_answer hslot, Slot.foreseen]
    · have hother : ∀ outcome, a ≠ .answer id outcome := fun outcome heq => houtcome ⟨outcome, heq⟩
      rw [Coordinator.acknowledged?_of_ne_answer hother,
        Slot.foreseen_of_not_storing (Coordinator.storing?_of_step hs hslot hid hother hcut)]
      rfl
  · rw [Coordinator.slot_of_step hs hid] at hslot'
    obtain rfl := Option.some.inj (hslot'.symm.trans hslot)
    rw [results_act_of_ne hid]

/-- What happens to the checkers keeps them in agreement with the check. -/
theorem Agrees.act (h : Agrees id key count d) {a : Action} (ha : a.LeavesTo id key)
    (hanswer : ∀ outcome, a = .answer id outcome → d.results id = some outcome) :
    Agrees id key count (d.act a) := by
  refine ⟨?_, h.others_act ha⟩
  obtain ⟨slot, hslot, hkey, hagree⟩ := h.checker
  have hplace : ∀ checker, a ≠ .place id checker := by
    rintro checker rfl
    exact ha.1 rfl
  obtain ⟨slot', hslot', -, hconfig⟩ := Coordinator.token_of_act hslot hplace
  rw [← coordinator_act] at hslot'
  refine ⟨slot', hslot', ?_, ?_⟩
  · rcases hconfig with hconfig | rfl
    · rw [hconfig, hkey]
    · exact ha.2 rfl
  · rw [written, writes, performed_act, cluster_act, foreseen_act hslot hslot' ha hanswer]
    exact hagree

/-- An operation that does not store a token of a check leaves what was stored for it. -/
theorem untouched_of_change {call : Call} {outcome : Outcome} {m m' : MemoryCluster}
    (hcluster : m.Change call outcome m') (hcall : call.check? ≠ some key) :
    m'.tokens.get? key = m.tokens.get? key
      ∧ storedToken? key.ns key.name (call, outcome) = none := by
  refine ⟨hcluster.changedOnly.tokens key hcall, ?_⟩
  cases hcluster with
  | failed => cases call <;> rfl
  | stored =>
    refine if_neg ?_
    intro heq
    obtain ⟨rfl, rfl⟩ := Prod.mk.inj heq
    exact hcall rfl
  | read => rfl
  | deleted => rfl
  | created => rfl

/-- What is performed for others, or fails, keeps a checker in agreement with its check. -/
theorem Agrees.untouched (h : Agrees id key count d) {d' : Deployment}
    (hchronicle : d'.chronicle = d.chronicle)
    (htokens : d'.cluster.tokens.get? key = d.cluster.tokens.get? key)
    (hwritten : d'.written key = d.written key)
    (hforeseen : ∀ slot, d.chronicle.coordinator.slots.get? id = some slot →
      slot.foreseen (d'.results id) = slot.foreseen (d.results id)) : Agrees id key count d' := by
  refine ⟨?_, by rw [hchronicle]; exact h.others⟩
  obtain ⟨slot, hslot, hkey, hagree⟩ := h.checker
  refine ⟨slot, by rw [hchronicle, hslot], hkey, ?_⟩
  rw [hwritten, htokens, hforeseen slot hslot]
  exact hagree

/-- What is on record for a check after a further operation. -/
theorem written_append {d' : Deployment} {e : Call × Outcome}
    (hperformed : d'.performed = d.performed ++ [e]) :
    d'.written key = d.written key ++ (storedToken? key.ns key.name e).toList := by
  rw [written, writes, hperformed, List.filterMap_append, written, writes]
  cases he : storedToken? key.ns key.name e <;> simp [he]

/-- A checker that stores a token of the check is the one that the check is left to. -/
theorem Agrees.eq_of_check? (h : Agrees id key count d) {other : String} {call : Call}
    (hslot : d.chronicle.coordinator.slots.get? other = some slot) (hcall : slot.call? = some call)
    (hcheck : call.check? = some key) :
    other = id ∧ ∃ token, call = .setToken key.ns key.name token ∧ slot.storing? = some token := by
  cases call with
  | setToken ns check token =>
    obtain rfl := Option.some.inj hcheck
    obtain ⟨hns, hname⟩ := identity_of_call_setToken hcall
    refine ⟨?_, token, rfl, ?_⟩
    · by_contra hne
      refine h.others other slot hne hslot ?_
      rw [CheckerConfig.checkKey, hns, hname]
    · rw [Slot.storing?_eq_some, hcall, hns, hname]
  | getToken | deletePod | createPod => simp [Call.check?] at hcheck

/-- **An operation that has its effect keeps a checker in agreement with its check.** -/
theorem Agrees.performed (h : Agrees id key count d) {d' : Deployment} {other : String}
    {call : Call} {outcome : Outcome}
    (hcall : d.chronicle.coordinator.call? other = some call) (hresult : d.results other = none)
    (hchronicle : d'.chronicle = d.chronicle)
    (hcluster : d.cluster.Change call outcome d'.cluster)
    (hresults : d'.results = Function.update d.results other (some outcome))
    (hperformed : d'.performed = d.performed ++ [(call, outcome)]) : Agrees id key count d' := by
  obtain ⟨slot, hslot, hslotCall⟩ := Option.bind_eq_some_iff.1 hcall
  have hwritten : d'.written key
      = d.written key ++ (storedToken? key.ns key.name (call, outcome)).toList :=
    written_append hperformed
  by_cases hcheck : call.check? = some key
  · obtain ⟨rfl, token, rfl, hstoring⟩ := h.eq_of_check? hslot hslotCall hcheck
    have hresult' : d'.results other = some outcome := by rw [hresults, Function.update_self]
    generalize hcluster' : d'.cluster = cluster at hcluster
    cases hcluster with
    | failed =>
      refine h.untouched hchronicle (by rw [hcluster']) ?_ fun slot _ => ?_
      · rw [hwritten]
        exact List.append_nil _
      · rw [hresult', hresult, Slot.foreseen_error]
    | stored =>
      -- the outcome is there, and the checker has the token once it has got it
      obtain ⟨slot', hslot', hkey, -⟩ := h.checker
      obtain rfl := Option.some.inj (hslot'.symm.trans hslot)
      refine ⟨⟨slot', by rw [hchronicle, hslot], hkey, fun _ => ?_⟩, by rw [hchronicle]; exact h.2⟩
      rw [hcluster', hresult', Slot.foreseen_ok hstoring]
      exact SortedMap.get?_insert_self ..
  · obtain ⟨htokens, hnone⟩ := untouched_of_change hcluster hcheck
    refine h.untouched hchronicle htokens ?_ fun slot' hslot' => ?_
    · rw [hwritten, hnone, Option.toList_none, List.append_nil]
    by_cases hother : other = id
    · subst hother
      obtain rfl := Option.some.inj (hslot'.symm.trans hslot)
      have hstoring : slot'.storing? = none := by
        rw [Option.eq_none_iff_forall_ne_some]
        intro token hstoring
        rw [Slot.storing?_eq_some.1 hstoring, Option.some.injEq] at hslotCall
        obtain ⟨slot'', hslot'', hkey, -⟩ := h.checker
        obtain rfl := Option.some.inj (hslot''.symm.trans hslot)
        exact hcheck (hslotCall ▸ congrArg some hkey)
      rw [Slot.foreseen_of_not_storing hstoring, Slot.foreseen_of_not_storing hstoring]
    · rw [hresults, Function.update_of_ne (Ne.symm hother)]

/-- **Nothing that leaves a check to its checker brings the two apart.** -/
theorem Agrees.occur (h : Agrees id key count d) {o : Occurrence} (ho : o.LeavesTo id key) :
    Agrees id key count (d.occur o) := by
  cases o with
  | store ns check token =>
    have hchange : d.cluster.Change (.setToken ns check token) _ (d.store ns check token).cluster :=
      MemoryCluster.change_of_perform rfl
    obtain ⟨htokens, hnone⟩ := untouched_of_change hchange fun heq => ho (Option.some.inj heq)
    refine h.untouched rfl htokens ?_ fun slot _ => rfl
    rw [written_append (d := d) rfl, hnone, Option.toList_none, List.append_nil]
  | move m =>
    rw [Deployment.occur]
    rcases haction : d.action? m with _ | a
    · have hchange := change_of_move d m
      generalize d.move m = d' at hchange
      cases hchange with
      | none => exact h
      | acted hcause => simp [action?_of_causes hcause] at haction
      | faults => exact h.untouched rfl rfl rfl fun slot _ => rfl
      | performed hcall hresult hcluster => exact h.performed hcall hresult rfl hcluster rfl rfl
      | @refused other e hresult =>
        refine h.untouched rfl rfl rfl fun slot _ => ?_
        by_cases hother : other = id
        · subst hother
          rw [hresult, ← Slot.foreseen_error slot e]
          exact congrArg slot.foreseen (Function.update_self ..)
        · exact congrArg slot.foreseen (Function.update_of_ne (Ne.symm hother) ..)
    · have ha : a.LeavesTo id key := by
        cases m with
        | act b =>
          cases b with
          | answer => simp [action?] at haction
          | _ =>
            obtain rfl := Option.some.inj haction
            exact ho
        | deliver other =>
          obtain ⟨outcome, -, rfl⟩ := Option.map_eq_some_iff.1 haction
          trivial
        | perform | refuse | setFaults => simp [action?] at haction
      rw [move_of_action? haction]
      exact h.act ha (action?_spec haction).2

/-- Whatever happens that leaves a check to its checker, the two agree. -/
theorem Agrees.live (h : Agrees id key count d) (history : List Occurrence)
    (hleaves : ∀ o ∈ history, o.LeavesTo id key) : Agrees id key count (d.live history) := by
  induction history generalizing d with
  | nil => exact h
  | cons o history ih =>
    refine ih (h.occur (hleaves o (List.mem_cons_self ..))) ?_
    exact fun o' ho' => hleaves o' (List.mem_cons_of_mem _ ho')

/-- A checker that does nothing has the token of its check, if one was stored since the start. -/
theorem Agrees.fetch_of_idle (h : Agrees id key count d) {c : Checker}
    (hslot : d.chronicle.coordinator.slots.get? id = some ⟨c, .idle⟩)
    (hcount : count < (d.written key).length) : d.cluster.fetch key.ns key.name = .ok c.token := by
  obtain ⟨slot, hslot', -, hagree⟩ := h.checker
  obtain rfl := Option.some.inj (hslot'.symm.trans hslot)
  have htoken := hagree hcount
  rw [Slot.foreseen_of_not_storing rfl] at htoken
  exact MemoryCluster.fetch_of_some htoken

/-! ## Calls from beginning to end -/

/-- Something that is done with a checker from beginning to end, or with its cluster. -/
inductive Task
  /-- The checker stores a token. -/
  | assign (token : String)
  /-- The checker runs. -/
  | run
  /-- The checker is configured anew. -/
  | configure (config : CheckerConfig)
  /-- The faults of the cluster are switched on or off. -/
  | switch (f : Faults)

/-- The moves of a task. -/
def Task.moves (id : String) : Task → List Move
  | .assign token => .act (.assign id token) :: Move.serve id
  | .run => Move.wholeRun id
  | .configure config => [.act (.configure id config)]
  | .switch f => [.setFaults f.createFault f.deleteFault f.writeFault]

/-- A task leaves the checker at its check. -/
def Task.StaysAt (key : ObjectKey) : Task → Prop
  | .configure config => config.checkKey = key
  | _ => True

variable {c : Checker}

/-- The moves of a task that leaves a checker at its check leave the check to it. -/
theorem Task.leavesTo {task : Task} (h : task.StaysAt key) :
    ∀ m ∈ task.moves id, (Occurrence.move m).LeavesTo id key := by
  intro m hm
  cases task with
  | assign token =>
    simp only [moves, Move.serve, List.mem_cons, List.not_mem_nil, or_false] at hm
    rcases hm with rfl | rfl | rfl <;> trivial
  | run =>
    simp only [moves, Move.wholeRun, Move.serve, List.mem_cons, List.mem_append, List.not_mem_nil,
      or_false] at hm
    rcases hm with rfl | (rfl | rfl) | (rfl | rfl) | rfl | rfl <;> trivial
  | configure config =>
    obtain rfl := List.mem_singleton.1 hm
    exact ⟨fun _ => rfl, fun _ => h⟩
  | switch f =>
    obtain rfl := List.mem_singleton.1 hm
    trivial

/-- A checker that does nothing is served nothing. -/
theorem run_serve_of_idle (hslot : d.chronicle.coordinator.slots.get? id = some ⟨c, .idle⟩) :
    d.run (Move.serve id) = d := by
  have hcall : d.chronicle.coordinator.call? id = none := by
    rw [Coordinator.call?, hslot, Option.bind_some, Slot.call?]
  have hperform : d.move (.perform id) = d := by simp only [move, hcall]
  have hdeliver : d.move (.deliver id) = d := by
    rw [move]
    split
    · refine act_of_step_eq_none ?_
      rw [Coordinator.step, Coordinator.answer?, hslot]
    · rfl
  rw [Move.serve, run_cons, run_cons, run_nil, hperform, hdeliver]

/-- A checker that stores a token does nothing any more once it was served. -/
theorem idle_of_serve_assigning {token : String}
    (hslot : d.chronicle.coordinator.slots.get? id = some ⟨c, .assigning token⟩)
    (hresult : d.results id = none) :
    ∃ c', (d.run (Move.serve id)).chronicle.coordinator.slots.get? id = some ⟨c', .idle⟩ := by
  have hcall : d.chronicle.coordinator.call? id = some (c.assignCall token) := by
    rw [Coordinator.call?, hslot, Option.bind_some, Slot.call?]
  rcases hperform : d.cluster.perform (c.assignCall token) with ⟨outcome, cluster⟩
  have hperformed := move_perform hcall hresult hperform
  generalize he : d.move (.perform id) = e at hperformed
  have haction : e.action? (.deliver id) = some (.answer id outcome) := by
    simp [hperformed, action?]
  have hsame : e.chronicle.coordinator = d.chronicle.coordinator := by rw [hperformed]
  obtain ⟨r, hs⟩ : ∃ r, d.chronicle.coordinator.step (.answer id outcome)
      = some (d.chronicle.coordinator.put id (c.assigned token outcome).1 .idle, r) :=
    ⟨_, by rw [Coordinator.step, Coordinator.answer?, hslot]⟩
  refine ⟨(c.assigned token outcome).1, ?_⟩
  rw [Move.serve, run_cons, run_cons, run_nil, he, move_of_action? haction, coordinator_act, hsame,
    Coordinator.act_of_step hs]
  exact SortedMap.get?_insert_self ..

/-- A checker that was told to store a token and then served does nothing. -/
theorem idle_of_assign (hslot : d.chronicle.coordinator.slots.get? id = some ⟨c, .idle⟩)
    (token : String) :
    ∃ c', (d.run (Task.moves id (.assign token))).chronicle.coordinator.slots.get? id
      = some ⟨c', .idle⟩ := by
  have hmove : d.move (.act (.assign id token)) = d.act (.assign id token) := rfl
  rw [Task.moves, run_cons, hmove]
  rcases hs : d.chronicle.coordinator.step (.assign id token) with _ | ⟨s, r⟩
  · rw [act_of_step_eq_none hs, run_serve_of_idle hslot]
    exact ⟨c, hslot⟩
  have hresult : (d.act (.assign id token)).results id = none := results_act_of_step hs rfl
  have hcoordinator : (d.act (.assign id token)).chronicle.coordinator = s := by
    rw [coordinator_act, Coordinator.act_of_step hs]
  cases Coordinator.change_of_step hs with
  | refuse ho | begin ho => cases ho
  | refuseToken h he =>
    rw [run_serve_of_idle (by rw [hcoordinator, h])]
    exact ⟨_, by rw [hcoordinator, h]⟩
  | @assign _ _ c' h he =>
    have hassigning : (d.act (.assign id token)).chronicle.coordinator.slots.get? id
        = some ⟨c', .assigning token⟩ := by
      rw [hcoordinator]
      exact SortedMap.get?_insert_self ..
    exact idle_of_serve_assigning hassigning hresult

/-- A checker that is told to run and then served does nothing, whatever has become of the run. -/
theorem idle_of_wholeRun (hslot : d.chronicle.coordinator.slots.get? id = some ⟨c, .idle⟩) :
    ∃ c', (d.run (Move.wholeRun id)).chronicle.coordinator.slots.get? id = some ⟨c', .idle⟩ := by
  rcases hready : c.config.check with e | ⟨⟩
  · have hopens : d.chronicle.coordinator.Opens (.runOnce id) id c none [] := .runOnce hslot
    rcases hstart : d.chronicle.coordinator.startRun id c none [] with ⟨s, r⟩
    have hs := hstart ▸ Coordinator.step_of_opens hopens
    have hmove : d.move (.act (.runOnce id)) = d.act (.runOnce id) := rfl
    cases Coordinator.beginning_of_step hopens hs with
    | refused hf hslot' =>
      have hidle : (d.act (.runOnce id)).chronicle.coordinator.slots.get? id
          = some ⟨{ c with state := .failed .validating }, .idle⟩ := by
        rw [coordinator_act, Coordinator.act_of_step hs, hslot']
      rw [Move.wholeRun, run_cons, hmove, run_append, run_append, run_serve_of_idle hidle,
        run_serve_of_idle hidle, run_serve_of_idle hidle]
      exact ⟨_, hidle⟩
    | begun hf => simp [CheckerConfig.check, hf] at hready
  · obtain ⟨result, c', m', -, hleads, -⟩ := effect_of_wholeRun hslot hready
    exact ⟨c', hleads.stands.slot⟩

/-- **After a task its checker does nothing.** -/
theorem idle_of_task (hslot : d.chronicle.coordinator.slots.get? id = some ⟨c, .idle⟩)
    (task : Task) :
    ∃ c', (d.run (task.moves id)).chronicle.coordinator.slots.get? id = some ⟨c', .idle⟩ := by
  cases task with
  | assign token => exact idle_of_assign hslot token
  | run => exact idle_of_wholeRun hslot
  | configure config =>
    refine ⟨{ c with config }, ?_⟩
    have hmove : d.run (Task.moves id (.configure config)) = d.act (.configure id config) := rfl
    have hs : d.chronicle.coordinator.step (.configure id config)
        = some (d.chronicle.coordinator.put id { c with config } .idle, {}) := by
      rw [Coordinator.step, Coordinator.idleChecker?_eq_some.2 hslot, Option.map_some]
    rw [hmove, coordinator_act, Coordinator.act_of_step hs]
    exact SortedMap.get?_insert_self ..
  | switch f => exact ⟨c, hslot⟩

/-- After tasks one after the other a checker does nothing, and they leave its check to it if they
leave it at the check. -/
theorem idle_of_tasks (hslot : d.chronicle.coordinator.slots.get? id = some ⟨c, .idle⟩)
    (tasks : List Task) :
    ∃ c', (d.run (tasks.flatMap (Task.moves id))).chronicle.coordinator.slots.get? id
      = some ⟨c', .idle⟩ := by
  induction tasks generalizing d c with
  | nil => exact ⟨c, hslot⟩
  | cons task tasks ih =>
    obtain ⟨c', hslot'⟩ := idle_of_task hslot task
    rw [List.flatMap_cons, run_append]
    exact ih hslot'

/-- Moves are occurrences. -/
theorem live_moves (d : Deployment) (moves : List Move) :
    d.live (moves.map .move) = d.run moves := List.foldl_map ..

/-- **Checker and cluster keep the same token.** Whatever the client answers to the checkers, the
token of a checker is the one whose storing was acknowledged to it last: it changes only when the
storing of a token for its own check was, and to just that token. In a cluster in memory, where
nobody else stores tokens for a check and nothing of its checker is cut off, the token of the
checker is what the whitelist reads whenever the checker does nothing, from the first token on that
was stored. The checker does nothing after storing tokens, runs and new configurations one after the
other, whichever of them failed at whatever operation. -/
theorem token_agreement (d : Deployment) {id : String} {c : Checker}
    (hslot : d.chronicle.coordinator.slots.get? id = some ⟨c, .idle⟩) :
    (∀ actions : List Action, (∀ checker, .place id checker ∉ actions) →
      let s := d.chronicle.coordinator.run actions
      ∃ slot, s.slots.get? id = some slot
        ∧ slot.checker.token
          = (d.chronicle.coordinator.acknowledged id actions).getLast?.getD c.token
        ∧ ∀ a, (∀ checker, a ≠ .place id checker) →
          ∃ slot', (s.act a).slots.get? id = some slot'
            ∧ (slot'.checker.token = slot.checker.token
              ∨ ∃ answer token, a = .answer id (.ok answer)
                ∧ slot.call?
                  = some (.setToken slot.checker.config.ns slot.checker.config.checkName token)
                ∧ slot'.checker.token = token))
    ∧ ((∀ other slot, other ≠ id → d.chronicle.coordinator.slots.get? other = some slot →
        slot.checker.config.checkKey ≠ c.config.checkKey) →
      let written := fun e : Deployment => (e.writes c.config.ns c.config.checkName).length
      (∀ history, (∀ o ∈ history, o.LeavesTo id c.config.checkKey) →
        ∀ c', (d.live history).chronicle.coordinator.slots.get? id = some ⟨c', .idle⟩ →
          written d < written (d.live history) →
          (d.live history).cluster.fetch c.config.ns c.config.checkName = .ok c'.token)
      ∧ ∀ tasks : List Task, (∀ task ∈ tasks, task.StaysAt c.config.checkKey) →
        let e := d.run (tasks.flatMap (Task.moves id))
        ∃ c', e.chronicle.coordinator.slots.get? id = some ⟨c', .idle⟩
          ∧ (written d < written e →
            e.cluster.fetch c.config.ns c.config.checkName = .ok c'.token)) := by
  constructor
  · intro actions hactions s
    obtain ⟨slot, hslot', htoken⟩ := Coordinator.token_of_run hslot actions hactions
    refine ⟨slot, hslot', htoken, ?_⟩
    intro a ha
    obtain ⟨slot', hslot'', htoken', -⟩ := Coordinator.token_of_act hslot' ha
    refine ⟨slot', hslot'', ?_⟩
    rcases hack : s.acknowledged? id a with _ | token
    · rw [hack] at htoken'
      exact .inl htoken'
    · rw [hack] at htoken'
      obtain ⟨answer, ha, hstoring⟩ := Coordinator.acknowledged?_eq_some hslot' hack
      exact .inr ⟨answer, token, ha, Slot.storing?_eq_some.1 hstoring, htoken'⟩
  · intro hothers written
    have hstart : Agrees id c.config.checkKey (d.written c.config.checkKey).length d :=
      ⟨⟨_, hslot, rfl, fun h => absurd h (Nat.lt_irrefl _)⟩, hothers⟩
    have hlive : ∀ history, (∀ o ∈ history, o.LeavesTo id c.config.checkKey) →
        ∀ c', (d.live history).chronicle.coordinator.slots.get? id = some ⟨c', .idle⟩ →
          written d < written (d.live history) →
          (d.live history).cluster.fetch c.config.ns c.config.checkName = .ok c'.token :=
      fun history hleaves c' hidle hcount =>
        (hstart.live history hleaves).fetch_of_idle hidle hcount
    refine ⟨hlive, ?_⟩
    intro tasks hstay e
    obtain ⟨c', hidle⟩ := idle_of_tasks hslot tasks
    refine ⟨c', hidle, ?_⟩
    intro hcount
    have hmoves := live_moves d (tasks.flatMap (Task.moves id))
    have h := hlive ((tasks.flatMap (Task.moves id)).map .move) ?_ c'
    · rw [hmoves] at h
      exact h hidle hcount
    · intro o ho
      obtain ⟨m, hm, rfl⟩ := List.mem_map.1 ho
      obtain ⟨task, htask, hm⟩ := List.mem_flatMap.1 hm
      exact Task.leavesTo (hstay task htask) m hm

/-- A checker whose pod cannot be created, then cannot store a token, and then revokes it: after
each the whitelist reads what the checker has. -/
theorem token_agreement_in_three_tasks :
    let checker := Checker.plain "prod" "web" "probe"
    let d := (fresh {} (.ofNanos 0) (MemoryCluster.withCheck {} "prod" "web")).move
      (.act (.place "a" checker))
    let first : List Task := [.switch { createFault := some "down" }, .run]
    let second : List Task := first ++ [.switch { writeFault := some "down" }, .assign "x"]
    let third : List Task :=
      second ++ [.switch {}, .configure { checker.config with debug := true }, .assign ""]
    let read := fun tasks : List Task =>
      (d.run (tasks.flatMap (Task.moves "a"))).cluster.fetch "prod" "web"
    read first = .ok (tokenText 1) ∧ read second = .ok (tokenText 1) ∧ read third = .ok ""
    ∧ ∀ tasks ∈ [first, second, third], ∃ c',
        (d.run (tasks.flatMap (Task.moves "a"))).chronicle.coordinator.slots.get? "a"
          = some ⟨c', .idle⟩ ∧ read tasks = .ok c'.token := by
  intro checker d first second third read
  have hslot : d.chronicle.coordinator.slots.get? "a" = some ⟨checker, .idle⟩ := by decide +kernel
  have hothers : ∀ other slot, other ≠ "a" →
      d.chronicle.coordinator.slots.get? other = some slot →
      slot.checker.config.checkKey ≠ checker.config.checkKey := by
    intro other slot hne hother
    have hslots : d.chronicle.coordinator.slots = SortedMap.empty.insert "a" ⟨checker, .idle⟩ := rfl
    rw [hslots, SortedMap.get?_insert_of_ne _ _ hne] at hother
    simp at hother
  have htasks := ((token_agreement d hslot).2 hothers).2
  have hstay : ∀ tasks ∈ [first, second, third], ∀ task ∈ tasks,
      task.StaysAt checker.config.checkKey := by
    intro tasks htasks task htask
    have hthird : task ∈ third := by
      simp only [List.mem_cons, List.not_mem_nil, or_false] at htasks
      rcases htasks with rfl | rfl | rfl
      · exact List.mem_append_left _ (List.mem_append_left _ htask)
      · exact List.mem_append_left _ htask
      · exact htask
    simp only [third, second, first, List.mem_append, List.mem_cons, List.not_mem_nil,
      or_false] at hthird
    rcases hthird with ((rfl | rfl) | rfl | rfl) | rfl | rfl | rfl <;> trivial
  refine ⟨by decide +kernel, by decide +kernel, by decide +kernel, ?_⟩
  intro tasks hmem
  obtain ⟨c', hidle, hfetch⟩ := htasks tasks (hstay tasks hmem)
  refine ⟨c', hidle, hfetch ?_⟩
  simp only [List.mem_cons, List.not_mem_nil, or_false] at hmem
  rcases hmem with rfl | rfl | rfl <;> decide +kernel

end Deployment

end PodCheck
