import Mathlib.Logic.Function.Basic
import PodCheck.Proofs.Coordinator.Change

/-! # Runs that are under way

What a coordinator's checkers have to do with their clusters, with all else left out: which of them
are in a run, with which configuration, and what they wait for (`Coordinator.underway?`). Seen like
this a step begins a run, takes one on to its next operation, ends one, or leaves all of them alone
(`Coordinator.runChange_of_step`). -/

namespace PodCheck

/-- A run that is under way. -/
structure Underway where
  /-- The configuration of its checker. -/
  config : CheckerConfig
  /-- Its hold on a lock, if it is coordinated. -/
  lease? : Option Lease
  /-- The operation that it waits for. -/
  pending : Pending

/-- The run that a checker is in. -/
def Slot.underway? (slot : Slot) : Option Underway :=
  match slot.activity with
  | .running lease? pending => some ⟨slot.checker.config, lease?, pending⟩
  | _ => none

namespace Coordinator

variable {s s' : Coordinator} {id : String} {u : Underway}

/-- The run that a checker is in. -/
def underway? (s : Coordinator) (id : String) : Option Underway :=
  (s.slots.get? id).bind Slot.underway?

theorem underway?_of_slot {slot : Slot} (h : s.slots.get? id = some slot) :
    s.underway? id = slot.underway? := by
  rw [underway?, h, Option.bind_some]

/-- A checker is in a run if its slot says so. -/
theorem underway?_eq_some :
    s.underway? id = some u
      ↔ ∃ c, s.slots.get? id = some ⟨c, .running u.lease? u.pending⟩ ∧ c.config = u.config := by
  constructor
  · intro h
    obtain ⟨⟨c, activity⟩, hslot, hu⟩ := Option.bind_eq_some_iff.1 h
    cases activity with
    | running lease? pending =>
      obtain rfl := Option.some.inj hu
      exact ⟨c, hslot, rfl⟩
    | _ => simp [Slot.underway?] at hu
  · rintro ⟨c, hslot, hc⟩
    rw [underway?_of_slot hslot, Slot.underway?, hc]

/-- Replacing a checker and what it is doing concerns its own run only. -/
theorem underway?_put (s : Coordinator) (id : String) (c : Checker) (activity : Activity) :
    (s.put id c activity).underway?
      = Function.update s.underway? id (Slot.underway? ⟨c, activity⟩) := by
  funext other
  by_cases ho : other = id
  · subst ho
    rw [Function.update_self, underway?, slots_put, SortedMap.get?_insert_self, Option.bind_some]
  · rw [Function.update_of_ne ho, underway?, underway?, slots_put,
      SortedMap.get?_insert_of_ne _ _ ho]

/-- Giving a lock back concerns no run. -/
theorem underway?_releaseLease (s : Coordinator) (id : String) (lease? : Option Lease) :
    (s.releaseLease id lease?).underway? = s.underway? := by
  funext other
  rw [underway?, underway?, slots_releaseLease]

/-- Looking up a lock concerns no run. -/
theorem underway?_lockFor (s : Coordinator) (key : String) :
    (s.lockFor key).2.underway? = s.underway? := by
  funext other
  rw [underway?, underway?, slots_lockFor]

/-- A checker that is in no run, and does something else that is no run, leaves all runs alone. -/
theorem update_underway?_none (h : s.underway? id = none) :
    Function.update s.underway? id none = s.underway? := by
  rw [← h, Function.update_eq_self]

/-- A change of the runs that are under way. -/
inductive RunChange (s : Coordinator) : Action → Coordinator → Reaction → Prop
  /-- No run is concerned. -/
  | rest {a : Action} {s' : Coordinator} {r : Reaction} (hafter : s'.underway? = s.underway?)
      (hsubject : ∀ id, a.subject? = some id → s.underway? id = none)
      (hopen : ∀ id, a ≠ .runOnce id ∧ a ≠ .grant id)
      (hcall : r.call? = none ∨ ∃ id token, a = .assign id token) : RunChange s a s' r
  /-- A run is refused. -/
  | refuse {a : Action} {id : String} {c : Checker} {lease? : Option Lease} {events : List Event}
      {s' : Coordinator} {r : Reaction} (h : Opens s a id c lease? events)
      (hafter : s'.underway? = s.underway?) (hcall : r.call? = none) : RunChange s a s' r
  /-- A run begins. -/
  | begin {a : Action} {id : String} {c : Checker} {lease? : Option Lease} {events : List Event}
      {s' : Coordinator} {r : Reaction} (h : Opens s a id c lease? events)
      (hf : c.config.fault? = none)
      (hafter : s'.underway? = Function.update s.underway? id
        (some ⟨c.config, lease?, .settingToken s.tokens.draw.1⟩))
      (hcall : r.call? = some (.setToken c.config.ns c.config.checkName s.tokens.draw.1)) :
      RunChange s a s' r
  /-- A run goes on to its next operation. -/
  | proceed {id : String} {u : Underway} {q : Pending} {answer : Answer} {s' : Coordinator}
      {r : Reaction} (hu : s.underway? id = some u) (hq : u.pending.next? u.config s.now = some q)
      (hafter : s'.underway? = Function.update s.underway? id (some { u with pending := q }))
      (hcall : r.call? = some (q.call u.config)) :
      RunChange s (.answer id (.ok answer)) s' r
  /-- A run is over. -/
  | finish {id : String} {u : Underway} {outcome : Outcome} {s' : Coordinator} {r : Reaction}
      (hu : s.underway? id = some u) (hafter : s'.underway? = Function.update s.underway? id none)
      (hcall : r.call? = none) : RunChange s (.answer id outcome) s' r
  /-- A run is cut off, at its deadline or because nobody waits for it any more. -/
  | cut {a : Action} {id : String} {u : Underway} {s' : Coordinator} {r : Reaction}
      (ha : a = .expire id ∨ a = .drop id) (hu : s.underway? id = some u)
      (hafter : s'.underway? = Function.update s.underway? id none) (hcall : r.call? = none) :
      RunChange s a s' r

/-- A checker that is to run is in no run yet. -/
theorem underway?_of_opens {a : Action} {c : Checker} {lease? : Option Lease} {events : List Event}
    (h : Opens s a id c lease? events) : s.underway? id = none := by
  cases h with
  | runOnce hslot => exact underway?_of_slot hslot
  | grant hslot hold => exact underway?_of_slot hslot

/-- A change that concerns one checker which is in no run before and after it. -/
theorem RunChange.of_free {a : Action} {r : Reaction}
    (hafter : s'.underway? = Function.update s.underway? id none) (hsubject : a.subject? = some id)
    (hbefore : s.underway? id = none) (hopen : ∀ id, a ≠ .runOnce id ∧ a ≠ .grant id)
    (hcall : r.call? = none ∨ ∃ id token, a = .assign id token) : RunChange s a s' r := by
  refine .rest (hafter.trans (update_underway?_none hbefore)) ?_ hopen hcall
  intro other hother
  obtain rfl : id = other := Option.some.inj (hsubject.symm.trans hother)
  exact hbefore

/-- **Every step begins a run, takes one on, ends one, or leaves all of them alone.** -/
theorem runChange_of_step {a : Action} {r : Reaction} (h : s.step a = some (s', r)) :
    RunChange s a s' r := by
  cases change_of_step h with
  | place hidle =>
    -- what the checker replaces, if anything, does nothing
    refine .of_free (underway?_put ..) rfl ?_ (by simp) (by simp)
    rw [underway?, Option.bind_eq_none_iff]
    intro slot hslot
    rw [Slot.underway?, hidle slot hslot]
  | configure hslot =>
    exact .of_free (underway?_put ..) rfl (underway?_of_slot hslot) (by simp) (by simp)
  | abandon hslot =>
    exact .of_free (underway?_put ..) rfl (underway?_of_slot hslot) (by simp) (by simp)
  | setDeadline => exact .rest rfl (by simp [Action.subject?]) (by simp) (by simp)
  | pass => exact .rest rfl (by simp [Action.subject?]) (by simp) (by simp)
  | refuseToken hslot =>
    refine .rest rfl ?_ (by simp) (by simp)
    intro id hid
    obtain rfl := Option.some.inj hid
    exact underway?_of_slot hslot
  | assign hslot =>
    exact .of_free (underway?_put ..) rfl (underway?_of_slot hslot) (by simp) (by simp)
  | assigned hslot =>
    exact .of_free (underway?_put ..) rfl (underway?_of_slot hslot) (by simp) (by simp)
  | dropToken hslot =>
    exact .of_free (underway?_put ..) rfl (underway?_of_slot hslot) (by simp) (by simp)
  | @queue id c hslot =>
    -- neither making the lock nor its queue concerns a run
    refine .of_free ?_ rfl (underway?_of_slot hslot) (by simp) (by simp)
    rw [← underway?_lockFor s (lockKey c.config)]
    exact underway?_put ..
  | unqueue hslot =>
    exact .of_free (underway?_put ..) rfl (underway?_of_slot hslot) (by simp) (by simp)
  | refuse ho =>
    refine .refuse ho ?_ rfl
    rw [underway?_releaseLease, underway?_put]
    exact update_underway?_none (underway?_of_opens ho)
  | begin ho hf => exact .begin ho hf (underway?_put ..) rfl
  | @proceed id c lease? p q answer hslot hq =>
    refine .proceed (u := ⟨c.config, lease?, p⟩) (underway?_of_slot hslot) hq ?_ rfl
    rw [underway?_put, Slot.underway?, Checker.config_resume]
  | finish hslot =>
    refine .finish (underway?_of_slot hslot) ?_ rfl
    rw [underway?_releaseLease, underway?_put]
    rfl
  | expire hslot =>
    refine .cut (.inl rfl) (underway?_of_slot hslot) ?_ rfl
    rw [underway?_releaseLease, underway?_put]
    rfl
  | cut hslot =>
    refine .cut (.inr rfl) (underway?_of_slot hslot) ?_ rfl
    rw [underway?_releaseLease, underway?_put]
    rfl

/-! ## Tokens stored for their own sake -/

/-- Tokens that are being stored for their own sake have a property. -/
def Assigns (s : Coordinator) (P : String → Prop) : Prop :=
  ∀ id c token, s.slots.get? id = some ⟨c, .assigning token⟩ → P token

section Assigns

variable {P : String → Prop}

/-- Only checkers count. -/
theorem Assigns.congr (h : s.Assigns P) (hslots : s'.slots = s.slots) : s'.Assigns P := by
  intro id c token hslot
  rw [hslots] at hslot
  exact h id c token hslot

/-- A checker may do anything but store another token for its own sake. -/
theorem Assigns.put (h : s.Assigns P) {c : Checker} {activity : Activity}
    (ha : ∀ token, activity = .assigning token → P token) : (s.put id c activity).Assigns P := by
  intro other d token hslot
  rw [slots_put] at hslot
  by_cases ho : other = id
  · subst ho
    rw [SortedMap.get?_insert_self] at hslot
    exact ha token (congrArg Slot.activity (Option.some.inj hslot))
  · rw [SortedMap.get?_insert_of_ne _ _ ho] at hslot
    exact h other d token hslot

/-- A checker may stop whatever it does, and give its lock back. -/
theorem Assigns.put_releaseLease (h : s.Assigns P) {c : Checker} {lease? : Option Lease} :
    ((s.put id c .idle).releaseLease id lease?).Assigns P :=
  (h.put (by simp)).congr (slots_releaseLease ..)

/-- Every step keeps the tokens that are being stored for their own sake, and may add the one that
it is told to. -/
theorem Assigns.step (h : s.Assigns P) {a : Action} {r : Reaction}
    (ha : ∀ id token, a = .assign id token → P token) (hs : s.step a = some (s', r)) :
    s'.Assigns P := by
  cases change_of_step hs with
  | place => exact h.put (by simp)
  | configure => exact h.put (by simp)
  | abandon => exact h.put (by simp)
  | setDeadline => exact h.congr rfl
  | pass => exact h.congr rfl
  | refuseToken => exact h
  | @assign id token =>
    apply h.put
    intro other hother
    rw [← Activity.assigning.inj hother]
    exact ha id token rfl
  | assigned => exact h.put (by simp)
  | dropToken => exact h.put (by simp)
  | @queue id c =>
    have hlock : (s.lockFor (lockKey c.config)).2.Assigns P := h.congr (slots_lockFor ..)
    exact (hlock.put (by simp)).congr (slots_enqueue ..)
  | unqueue => exact (h.put (by simp)).congr (slots_release ..)
  | refuse => exact h.put_releaseLease
  | begin =>
    have htokens : Assigns { s with tokens := s.tokens.draw.2 } P := h.congr rfl
    exact htokens.put (by simp)
  | proceed => exact h.put (by simp)
  | finish => exact h.put_releaseLease
  | expire => exact h.put_releaseLease
  | cut => exact h.put_releaseLease

end Assigns

end Coordinator

end PodCheck
