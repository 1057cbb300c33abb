import PodCheck.Proofs.Coordinator.Underway

/-! # Locks

The queues of the locks agree with what the checkers are doing: a checker is in the queue of the
lock that it waits for or holds and in no other, a run that holds a lock is at the head of its
queue, and a key leads to the same lock for ever (`Coordinator.WellQueued`). Every step keeps this
(`Coordinator.WellQueued.step`), whichever way a run ends. So two runs of one check never hold a
lock together (`Coordinator.WellQueued.eq_of_underway`), and a lock that nobody uses is taken at
once (`Coordinator.WellQueued.opens_of_unused`). -/

namespace PodCheck

/-- The lock that a checker waits for or holds. -/
def Activity.lock? : Activity → Option Nat
  | .queued _ lock => some lock
  | .running (some lease) _ => some lease.lock
  | _ => none

namespace Coordinator

variable {s s' : Coordinator} {id : String} {lock : Nat}

/-- The lock that a checker waits for or holds. -/
def lockOf? (s : Coordinator) (id : String) : Option Nat :=
  (s.slots.get? id).bind (·.activity.lock?)

theorem lockOf?_of_slot {slot : Slot} (h : s.slots.get? id = some slot) :
    s.lockOf? id = slot.activity.lock? := by
  rw [lockOf?, h, Option.bind_some]

/-- A lock that is made when it is looked up has nobody in its queue. -/
theorem queue_lockFor (s : Coordinator) (key : String) : (s.lockFor key).2.queue = s.queue := by
  unfold lockFor
  cases s.locks.get? key with
  | some lock => rfl
  | none =>
    funext lock
    unfold queue
    rcases Nat.lt_trichotomy lock s.queues.length with hlt | heq | hgt
    · simp [List.getElem?_append_left hlt]
    · simp [heq]
    · rw [List.getElem?_eq_none (by simp; omega), List.getElem?_eq_none (by omega)]

/-- Nobody waits for the lock of a key or holds it. -/
def Unused (s : Coordinator) (key : String) : Prop :=
  ∀ e ∈ s.slots.entries, ∀ lock ∈ e.2.activity.lock?, s.locks.get? key ≠ some lock

instance (s : Coordinator) (key : String) : Decidable (s.Unused key) :=
  inferInstanceAs (Decidable (∀ e ∈ s.slots.entries, ∀ lock ∈ e.2.activity.lock?, _))

/-- **The queues agree with what the checkers are doing.** -/
structure WellQueued (s : Coordinator) : Prop where
  /-- A checker is in the queue of the lock that it waits for or holds. -/
  mem_iff : ∀ lock id, id ∈ s.queue lock ↔ s.lockOf? id = some lock
  /-- A checker is in a queue once. -/
  nodup : ∀ lock, (s.queue lock).Nodup
  /-- A run with a lock holds it. -/
  holder : ∀ id c lease p, s.slots.get? id = some ⟨c, .running (some lease) p⟩ →
    s.holds id lease.lock = true
  /-- The lock is that of the checker's check. -/
  keyed : ∀ id slot lock, s.slots.get? id = some slot → slot.activity.lock? = some lock →
    s.locks.get? (lockKey slot.checker.config) = some lock
  /-- Every lock has a queue. -/
  inRange : ∀ key lock, s.locks.get? key = some lock → lock < s.queues.length

namespace WellQueued

/-- Without checkers and locks there is nothing to agree. -/
theorem of_empty (hslots : s.slots = .empty) (hlocks : s.locks = .empty) (hqueues : s.queues = []) :
    WellQueued s where
  mem_iff lock id := by simp [queue, hqueues, lockOf?, hslots]
  nodup lock := by simp [queue, hqueues]
  holder id c lease p h := by simp [hslots] at h
  keyed id slot lock h := by simp [hslots] at h
  inRange key lock h := by simp [hlocks] at h

/-- Only checkers and locks count. -/
theorem congr (h : WellQueued s) (hslots : s'.slots = s.slots) (hlocks : s'.locks = s.locks)
    (hqueues : s'.queues = s.queues) : WellQueued s' := by
  have hqueue : s'.queue = s.queue := by
    funext lock
    rw [queue, queue, hqueues]
  have hholds : s'.holds = s.holds := by
    funext id lock
    rw [holds, holds, hqueue]
  constructor
  · intro lock id
    rw [hqueue, lockOf?, hslots]
    exact h.mem_iff lock id
  · intro lock
    rw [hqueue]
    exact h.nodup lock
  · intro id c lease p hslot
    rw [hslots] at hslot
    rw [hholds]
    exact h.holder id c lease p hslot
  · intro id slot lock hslot
    rw [hslots] at hslot
    rw [hlocks]
    exact h.keyed id slot lock hslot
  · intro key lock hkey
    rw [hlocks] at hkey
    rw [hqueues]
    exact h.inRange key lock hkey

/-! ## Parts of steps -/

/-- A checker does something else and changes nothing in the queues but its own place. -/
theorem of_slot (h : WellQueued s) {c : Checker} {activity : Activity}
    (hslots : s'.slots = s.slots.insert id ⟨c, activity⟩) (hlocks : s'.locks = s.locks)
    (hlength : s'.queues.length = s.queues.length)
    (hself : ∀ lock, id ∈ s'.queue lock ↔ activity.lock? = some lock)
    (hothers : ∀ lock x, x ≠ id → (x ∈ s'.queue lock ↔ x ∈ s.queue lock))
    (hnodup : ∀ lock, (s'.queue lock).Nodup)
    (hheads : ∀ lock x, x ≠ id → s.holds x lock = true → s'.holds x lock = true)
    (hhold : ∀ lease p, activity = .running (some lease) p → s'.holds id lease.lock = true)
    (hkey : ∀ lock, activity.lock? = some lock → s.locks.get? (lockKey c.config) = some lock) :
    WellQueued s' where
  mem_iff lock x := by
    by_cases hx : x = id
    · subst hx
      rw [hself, lockOf?, hslots, SortedMap.get?_insert_self, Option.bind_some]
    · rw [hothers lock x hx, h.mem_iff, lockOf?, lockOf?, hslots,
        SortedMap.get?_insert_of_ne _ _ hx]
  nodup := hnodup
  holder x d lease p hslot := by
    rw [hslots] at hslot
    by_cases hx : x = id
    · subst hx
      rw [SortedMap.get?_insert_self] at hslot
      exact hhold lease p (congrArg Slot.activity (Option.some.inj hslot))
    · rw [SortedMap.get?_insert_of_ne _ _ hx] at hslot
      exact hheads lease.lock x hx (h.holder x d lease p hslot)
  keyed x slot lock hslot hlock := by
    rw [hslots] at hslot
    rw [hlocks]
    by_cases hx : x = id
    · subst hx
      rw [SortedMap.get?_insert_self] at hslot
      obtain rfl := Option.some.inj hslot
      exact hkey lock hlock
    · rw [SortedMap.get?_insert_of_ne _ _ hx] at hslot
      exact h.keyed x slot lock hslot hlock
  inRange key lock hl := by
    rw [hlocks] at hl
    rw [hlength]
    exact h.inRange key lock hl

/-- A checker may do something else as long as it stays with its lock. -/
theorem put (h : WellQueued s) {c : Checker} {activity : Activity}
    (hlock : activity.lock? = s.lockOf? id)
    (hhold : ∀ lease p, activity = .running (some lease) p → s.holds id lease.lock = true)
    (hkey : ∀ lock, activity.lock? = some lock → s.locks.get? (lockKey c.config) = some lock) :
    WellQueued (s.put id c activity) := by
  refine h.of_slot rfl rfl rfl ?_ (fun _ _ _ => Iff.rfl) h.nodup (fun _ _ _ hx => hx) hhold hkey
  intro lock
  rw [hlock]
  exact h.mem_iff lock id

/-- A checker that has no lock may do anything that needs none. -/
theorem put_free (h : WellQueued s) {c : Checker} {activity : Activity}
    (hfree : s.lockOf? id = none) (hlock : activity.lock? = none) :
    WellQueued (s.put id c activity) := by
  refine h.put (by rw [hlock, hfree]) ?_ ?_
  · intro lease p ha
    simp [ha, Activity.lock?] at hlock
  · intro lock hl
    simp [hlock] at hl

/-- A checker that does nothing any more leaves the queue that it is in. -/
theorem put_release (h : WellQueued s) {c : Checker} (hlock : s.lockOf? id = some lock) :
    WellQueued ((s.put id c .idle).release id lock) := by
  -- the checker is in no other queue, and whoever is at the head of this one stays there
  refine h.of_slot (slots_release ..) rfl (by simp [release]) ?_ ?_ ?_ ?_ ?_ ?_
  · intro other
    rw [queue_release, queue_put]
    by_cases ho : other = lock
    · simp [ho, Activity.lock?]
    · rw [if_neg ho, h.mem_iff, hlock]
      simp [Ne.symm ho, Activity.lock?]
  · intro other x hx
    rw [queue_release, queue_put]
    split <;> simp [hx]
  · intro other
    rw [queue_release, queue_put]
    split
    · exact (h.nodup other).filter _
    · exact h.nodup other
  · intro other x hx hold
    obtain ⟨rest, hrest⟩ := holds_iff.1 hold
    rw [holds_iff, queue_release, queue_put, hrest]
    split
    · exact ⟨rest.filter (· ≠ id), by simp [hx]⟩
    · exact ⟨rest, rfl⟩
  · intro lease p hidle
    simp at hidle
  · intro other hidle
    simp [Activity.lock?] at hidle

/-- A run that is over gives back its lock, if it has one. -/
theorem put_releaseLease (h : WellQueued s) {c : Checker} {lease? : Option Lease}
    (hlock : s.lockOf? id = lease?.map (·.lock)) :
    WellQueued ((s.put id c .idle).releaseLease id lease?) := by
  cases lease? with
  | none => exact h.put_free hlock rfl
  | some lease => exact h.put_release hlock

/-- Looking up a lock, which may make it, leads to it from then on. -/
theorem lockFor (h : WellQueued s) (key : String) :
    WellQueued (s.lockFor key).2
      ∧ (s.lockFor key).2.locks.get? key = some (s.lockFor key).1 := by
  have hqueue := queue_lockFor s key
  unfold Coordinator.lockFor at hqueue ⊢
  cases hl : s.locks.get? key with
  | some lock => exact ⟨h, hl⟩
  | none =>
    simp only [hl] at hqueue
    -- nobody is in the new queue, and no lock in use has the key
    refine ⟨⟨?_, ?_, ?_, ?_, ?_⟩, SortedMap.get?_insert_self ..⟩
    · intro lock id
      rw [hqueue]
      exact h.mem_iff lock id
    · intro lock
      rw [hqueue]
      exact h.nodup lock
    · intro id c lease p hslot
      show holds _ id lease.lock = true
      rw [holds, hqueue]
      exact h.holder id c lease p hslot
    · intro id slot lock hslot hlock
      have hk := h.keyed id slot lock hslot hlock
      have hne : lockKey slot.checker.config ≠ key := by
        intro e
        rw [e, hl] at hk
        simp at hk
      exact (SortedMap.get?_insert_of_ne _ _ hne).trans hk
    · intro other lock hother
      have hlen : (s.queues ++ [[]]).length = s.queues.length + 1 := by simp
      by_cases ho : other = key
      · subst ho
        rw [SortedMap.get?_insert_self] at hother
        rw [hlen, ← Option.some.inj hother]
        omega
      · rw [SortedMap.get?_insert_of_ne _ _ ho] at hother
        have := h.inRange other lock hother
        rw [hlen]
        omega

/-- A checker without a lock may queue for that of its check. -/
theorem put_enqueue (h : WellQueued s) {c : Checker} {key : String} (hfree : s.lockOf? id = none)
    (hkey : s.locks.get? (lockKey c.config) = some lock) :
    WellQueued ((s.put id c (.queued key lock)).enqueue id lock) := by
  have hlt : lock < (s.put id c (.queued key lock)).queues.length := h.inRange _ lock hkey
  have hout : ∀ other, id ∉ s.queue other := by
    intro other
    rw [h.mem_iff, hfree]
    simp
  -- the checker comes last, so the head of the queue is the same unless there was none
  refine h.of_slot (slots_enqueue ..) rfl (by simp [enqueue]) ?_ ?_ ?_ ?_ ?_ ?_
  · intro other
    rw [queue_enqueue id hlt, queue_put]
    by_cases ho : other = lock
    · simp [ho, Activity.lock?]
    · simp [ho, hout, Ne.symm ho, Activity.lock?]
  · intro other x hx
    rw [queue_enqueue id hlt, queue_put]
    split <;> simp [hx]
  · intro other
    rw [queue_enqueue id hlt, queue_put]
    split
    · refine List.nodup_append.2 ⟨h.nodup other, by simp, ?_⟩
      intro x hx y hy e
      rw [List.mem_singleton.1 hy] at e
      exact hout other (e ▸ hx)
    · exact h.nodup other
  · intro other x hx hold
    obtain ⟨rest, hrest⟩ := holds_iff.1 hold
    rw [holds_iff, queue_enqueue id hlt, queue_put, hrest]
    split
    · exact ⟨rest ++ [id], rfl⟩
    · exact ⟨rest, rfl⟩
  · intro lease p hqueued
    simp at hqueued
  · intro other hqueued
    rw [← Option.some.inj hqueued]
    exact hkey

/-! ## Steps -/

/-- A checker that is to run has the lock that the run needs. -/
theorem lockOf?_of_opens {a : Action} {c : Checker} {lease? : Option Lease} {events : List Event}
    (ho : s.Opens a id c lease? events) : s.lockOf? id = lease?.map (·.lock) := by
  cases ho with
  | runOnce hslot => exact lockOf?_of_slot hslot
  | grant hslot hold => exact lockOf?_of_slot hslot

/-- **Every step keeps the queues in agreement.** -/
theorem step (h : WellQueued s) {a : Action} {r : Reaction} (hs : s.step a = some (s', r)) :
    WellQueued s' := by
  cases change_of_step hs with
  | place hidle =>
    refine h.put_free ?_ rfl
    rw [lockOf?, Option.bind_eq_none_iff]
    intro slot hslot
    rw [hidle slot hslot]
    rfl
  | configure hslot => exact h.put_free (lockOf?_of_slot hslot) rfl
  | abandon hslot => exact h.put_free (lockOf?_of_slot hslot) rfl
  | setDeadline => exact h.congr rfl rfl rfl
  | pass => exact h.congr rfl rfl rfl
  | refuseToken => exact h
  | assign hslot => exact h.put_free (lockOf?_of_slot hslot) rfl
  | assigned hslot => exact h.put_free (lockOf?_of_slot hslot) rfl
  | dropToken hslot => exact h.put_free (lockOf?_of_slot hslot) rfl
  | @queue id c hslot =>
    obtain ⟨hw, hkey⟩ := h.lockFor (lockKey c.config)
    refine hw.put_enqueue ?_ hkey
    rw [lockOf?, slots_lockFor]
    exact lockOf?_of_slot hslot
  | unqueue hslot => exact h.put_release (lockOf?_of_slot hslot)
  | refuse ho => exact h.put_releaseLease (lockOf?_of_opens ho)
  | begin ho =>
    have hw : WellQueued { s with tokens := s.tokens.draw.2 } := h.congr rfl rfl rfl
    cases ho with
    | runOnce hslot => exact hw.put_free (lockOf?_of_slot hslot) rfl
    | grant hslot hold =>
      -- the checker waited at the head of the queue and stays there as the holder
      refine hw.put (lockOf?_of_slot hslot).symm ?_ ?_
      · intro lease p ha
        obtain ⟨hl, -⟩ := Activity.running.inj ha
        rw [← Option.some.inj hl]
        exact hold
      · intro lock hlock
        exact h.keyed _ _ lock hslot hlock
  | @proceed id c lease? p q answer hslot =>
    refine h.put ?_ ?_ ?_
    · rw [lockOf?_of_slot hslot]
      cases lease? <;> rfl
    · intro lease q' ha
      obtain ⟨rfl, -⟩ := Activity.running.inj ha
      exact h.holder id c lease p hslot
    · intro lock hlock
      rw [Checker.config_resume]
      refine h.keyed id _ lock hslot ?_
      cases lease? <;> exact hlock
  | @finish id c lease? p outcome result hslot =>
    refine h.put_releaseLease ?_
    rw [lockOf?_of_slot hslot]
    cases lease? <;> rfl
  | expire hslot => exact h.put_releaseLease (lockOf?_of_slot hslot)
  | @cut id c lease? p hslot =>
    refine h.put_releaseLease ?_
    rw [lockOf?_of_slot hslot]
    cases lease? <;> rfl

/-! ## Consequences -/

/-- **Two runs of one check do not hold its lock together.** -/
theorem eq_of_underway (h : WellQueued s) {id₁ id₂ : String} {u₁ u₂ : Underway}
    (h₁ : s.underway? id₁ = some u₁) (h₂ : s.underway? id₂ = some u₂)
    (hl₁ : u₁.lease?.isSome = true) (hl₂ : u₂.lease?.isSome = true)
    (hns : u₁.config.ns = u₂.config.ns) (hname : u₁.config.checkName = u₂.config.checkName) :
    id₁ = id₂ := by
  obtain ⟨c₁, hs₁, hc₁⟩ := underway?_eq_some.1 h₁
  obtain ⟨c₂, hs₂, hc₂⟩ := underway?_eq_some.1 h₂
  obtain ⟨l₁, hl₁⟩ := Option.isSome_iff_exists.1 hl₁
  obtain ⟨l₂, hl₂⟩ := Option.isSome_iff_exists.1 hl₂
  rw [hl₁] at hs₁
  rw [hl₂] at hs₂
  have hkey : lockKey c₁.config = lockKey c₂.config := by
    rw [lockKey, lockKey, hc₁, hc₂, hns, hname]
  have hlock : l₁.lock = l₂.lock := by
    have hk₁ := h.keyed id₁ _ l₁.lock hs₁ rfl
    have hk₂ := h.keyed id₂ _ l₂.lock hs₂ rfl
    rw [hkey] at hk₁
    exact Option.some.inj (hk₁.symm.trans hk₂)
  -- both are at the head of one queue
  obtain ⟨rest₁, hq₁⟩ := holds_iff.1 (h.holder id₁ c₁ l₁ u₁.pending hs₁)
  obtain ⟨rest₂, hq₂⟩ := holds_iff.1 (h.holder id₂ c₂ l₂ u₂.pending hs₂)
  rw [hlock, hq₂] at hq₁
  exact (List.cons.inj hq₁).1.symm

/-- A lock that nobody uses has nobody in its queue. -/
theorem queue_eq_nil (h : WellQueued s) (hunused : ∀ id, s.lockOf? id ≠ some lock) :
    s.queue lock = [] := by
  rw [List.eq_nil_iff_forall_not_mem]
  intro id hid
  exact hunused id ((h.mem_iff lock id).1 hid)

/-- Looking up a lock that nobody uses finds nobody in its queue. -/
theorem queue_lockFor_eq_nil (h : WellQueued s) {key : String} (hunused : s.Unused key) :
    (s.lockFor key).2.queue (s.lockFor key).1 = [] := by
  obtain ⟨hw, hkey⟩ := h.lockFor key
  apply hw.queue_eq_nil
  intro id hid
  rw [lockOf?, slots_lockFor, Option.bind_eq_some_iff] at hid
  obtain ⟨slot, hslot, hlock⟩ := hid
  cases hl : s.locks.get? key with
  | none =>
    -- the lock is new, but every lock in use is that of some key
    have hold := h.inRange _ _ (h.keyed id slot _ hslot hlock)
    simp [Coordinator.lockFor, hl] at hold
  | some lock =>
    have hsame : (s.lockFor key).1 = lock := by simp [Coordinator.lockFor, hl]
    rw [hsame] at hlock
    exact hunused _ (SortedMap.mem_entries_of_get? hslot) lock hlock hl

/-- A checker that does nothing may always queue for the lock of its check. -/
theorem step_runCheck {c : Checker} (hslot : s.slots.get? id = some ⟨c, .idle⟩) :
    s.step (.runCheck id)
      = some (((s.lockFor (lockKey c.config)).2.put id c
          (.queued (lockKey c.config) (s.lockFor (lockKey c.config)).1)).enqueue id
            (s.lockFor (lockKey c.config)).1, {}) := by
  rw [Coordinator.step, runCheck?, idleChecker?_eq_some.2 hslot, Option.map_some]

/-- No time passes while a checker waits for a lock that it may take. -/
theorem pass_eq_none {c : Checker} {key : String} {ms : Nat}
    (hslot : s.slots.get? id = some ⟨c, .queued key lock⟩) (hold : s.holds id lock = true)
    (hms : 0 < ms) : s.step (.pass ms) = none := by
  have hbusy : s.mayPass ms = false := by
    rw [mayPass, List.all_eq_false]
    exact ⟨(id, ⟨c, .queued key lock⟩), SortedMap.mem_entries_of_get? hslot, by simp [hold]⟩
  simp only [Coordinator.step, hbusy, Nat.ne_of_gt hms, decide_false, Bool.or_self,
    Bool.false_eq_true, if_false]

/-- **A lock that nobody uses is there at once**: whoever asks for it may take it before any time
can pass. -/
theorem opens_of_unused (h : WellQueued s) {c : Checker} (hslot : s.slots.get? id = some ⟨c, .idle⟩)
    (hunused : s.Unused (lockKey c.config)) :
    ∃ s₁ lease, s.step (.runCheck id) = some (s₁, {})
      ∧ s₁.Opens (.grant id) id c (some lease) [.lockAcquired (lockKey c.config)]
      ∧ ∀ ms, 0 < ms → s₁.step (.pass ms) = none := by
  obtain ⟨hw, hkey⟩ := h.lockFor (lockKey c.config)
  have hnil := h.queue_lockFor_eq_nil hunused
  have hrun := step_runCheck hslot
  rcases hl : s.lockFor (lockKey c.config) with ⟨lock, s₀⟩
  rw [hl] at hw hkey hnil hrun
  have hmine : ((s₀.put id c (.queued (lockKey c.config) lock)).enqueue id lock).slots.get? id
      = some ⟨c, .queued (lockKey c.config) lock⟩ := by
    rw [slots_enqueue, slots_put, SortedMap.get?_insert_self]
  have hhold : ((s₀.put id c (.queued (lockKey c.config) lock)).enqueue id lock).holds id lock
      = true := by
    have hlt : lock < (s₀.put id c (.queued (lockKey c.config) lock)).queues.length :=
      hw.inRange _ lock hkey
    rw [holds_iff, queue_enqueue id hlt, if_pos rfl, queue_put, hnil]
    exact ⟨[], rfl⟩
  exact ⟨_, _, hrun, .grant hmine hhold, fun ms hms => pass_eq_none hmine hhold hms⟩

end WellQueued

end Coordinator

end PodCheck
