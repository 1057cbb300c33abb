import PodCheck.Proofs.Coordinator.LockKey

/-! # The line at a lock

Whoever uses the lock of a key stands in one line, the holder first. A step lets time pass, puts a
checker at the end of the line, takes one out of it, gives the lock to the first one, or leaves the
line and the holds on the lock as they are (`Coordinator.lineChange_of_step`). Who leaves has a
result, unless nobody waited for it any more; so a checker that has left the line has come to an end
(`Coordinator.ends_of_left`). -/

namespace PodCheck

namespace Coordinator

variable {s s' : Coordinator} {a : Action} {r : Reaction} {id key : String} {lock : Nat}

/-! ## Lines -/

/-- Who waits for the lock of a key, its holder first. -/
def line (s : Coordinator) (key : String) : List String :=
  match s.locks.get? key with
  | some lock => s.queue lock
  | none => []

theorem line_of_get? (h : s.locks.get? key = some lock) : s.line key = s.queue lock := by
  rw [line, h]

/-- Looking up a lock leaves all lines. -/
theorem line_lockFor (s : Coordinator) (other key : String) :
    (s.lockFor other).2.line key = s.line key := by
  have hqueue := queue_lockFor s other
  unfold lockFor at hqueue ⊢
  cases hl : s.locks.get? other with
  | some lock => rfl
  | none =>
    simp only [hl] at hqueue
    by_cases hk : key = other
    · -- the lock is new, and its number is beyond all queues
      subst hk
      rw [line_of_get? (SortedMap.get?_insert_self ..), hqueue, line, hl]
      simp [queue]
    · unfold line
      rw [hqueue, SortedMap.get?_insert_of_ne _ _ hk]

/-- Putting a checker at the end of a queue makes one line longer. -/
theorem line_enqueue (h : s.KeysApart) (hlt : lock < s.queues.length) {own : String}
    (hown : s.locks.get? own = some lock) (id key : String) :
    (s.enqueue id lock).line key = if key = own then s.line key ++ [id] else s.line key := by
  have hlocks : (s.enqueue id lock).locks = s.locks := rfl
  unfold line
  rw [hlocks]
  by_cases hk : key = own
  · subst hk
    rw [hown, if_pos rfl]
    exact (queue_enqueue id hlt lock).trans (if_pos rfl)
  · rw [if_neg hk]
    cases hl : s.locks.get? key with
    | none => rfl
    | some other =>
      refine (queue_enqueue id hlt other).trans (if_neg ?_)
      rintro rfl
      exact hk (h _ _ _ hl hown)

/-- The lease of a checker's run is that of the run that it is in. -/
theorem lease?_eq (s : Coordinator) (id : String) :
    s.lease? id = (s.underway? id).bind (·.lease?) := by
  rw [lease?, underway?]
  rcases s.slots.get? id with _ | ⟨c, activity⟩
  · rfl
  · cases activity <;> rfl

theorem lease?_of_slot {slot : Slot} (h : s.slots.get? id = some slot) :
    s.lease? id = slot.underway?.bind (·.lease?) := by
  rw [lease?_eq, underway?_of_slot h]

theorem lease?_congr (h : s'.slots.get? id = s.slots.get? id) :
    s'.lease? id = s.lease? id := by
  rw [lease?_eq, lease?_eq, underway?, underway?, h]

namespace WellQueued

/-- Everybody in a line stands at its lock. -/
theorem lockOf?_of_mem_line (h : s.WellQueued) (hmem : id ∈ s.line key) :
    ∃ lock, s.locks.get? key = some lock ∧ s.lockOf? id = some lock := by
  unfold line at hmem
  split at hmem
  · rename_i lock hl
    exact ⟨lock, hl, (h.mem_iff lock id).1 hmem⟩
  · simp at hmem

/-- Whoever uses the lock of its check stands in its line. -/
theorem mem_line (h : s.WellQueued) {slot : Slot} (hslot : s.slots.get? id = some slot)
    (hlock : slot.activity.lock? = some lock) : id ∈ s.line (lockKey slot.checker.config) := by
  rw [line_of_get? (h.keyed id slot lock hslot hlock), h.mem_iff, lockOf?_of_slot hslot]
  exact hlock

/-- A checker that uses no lock stands in no line. -/
theorem not_mem_line (h : s.WellQueued) (hfree : s.lockOf? id = none) : id ∉ s.line key := by
  intro hmem
  obtain ⟨lock, -, hlock⟩ := h.lockOf?_of_mem_line hmem
  simp [hfree] at hlock

/-- Whoever stands in a line waits for the lock or has it. -/
theorem slot_of_mem_line (h : s.WellQueued) (hmem : id ∈ s.line key) :
    ∃ c lock, s.locks.get? key = some lock
      ∧ ((∃ k, s.slots.get? id = some ⟨c, .queued k lock⟩)
        ∨ ∃ lease p, lease.lock = lock
          ∧ s.slots.get? id = some ⟨c, .running (some lease) p⟩) := by
  obtain ⟨lock, hl, hlock⟩ := h.lockOf?_of_mem_line hmem
  obtain ⟨⟨c, activity⟩, hslot, hactivity⟩ := Option.bind_eq_some_iff.1 hlock
  refine ⟨c, lock, hl, ?_⟩
  cases activity with
  | idle | assigning => simp [Activity.lock?] at hactivity
  | queued k other =>
    obtain rfl := Option.some.inj hactivity
    exact .inl ⟨k, hslot⟩
  | running lease? p =>
    cases lease? with
    | none => simp [Activity.lock?] at hactivity
    | some lease => exact .inr ⟨lease, p, Option.some.inj hactivity, hslot⟩

/-- Whoever has a lease comes first in its line. -/
theorem head?_of_lease (h : s.WellQueued) (hmem : id ∈ s.line key) {lease : Lease}
    (hlease : s.lease? id = some lease) : (s.line key).head? = some id := by
  obtain ⟨c, lock, hl, ⟨k, hslot⟩ | ⟨other, p, hother, hslot⟩⟩ := h.slot_of_mem_line hmem
  · simp [lease?_of_slot hslot, Slot.underway?] at hlease
  · rw [line_of_get? hl, ← hother]
    exact of_decide_eq_true (h.holder id c other p hslot)

/-- Nobody uses a lock whose line is empty. -/
theorem unused_iff (h : s.WellQueued) (hapart : s.KeysApart) :
    s.Unused key ↔ s.line key = [] := by
  constructor
  · intro hunused
    rw [List.eq_nil_iff_forall_not_mem]
    intro id hmem
    obtain ⟨lock, hl, hlock⟩ := h.lockOf?_of_mem_line hmem
    obtain ⟨slot, hslot, hactivity⟩ := Option.bind_eq_some_iff.1 hlock
    exact hunused _ (SortedMap.mem_entries_of_get? hslot) lock hactivity hl
  · intro hline e he lock hlock hl
    have hmem := h.mem_line (SortedMap.get?_of_mem_entries he) hlock
    have hkey := h.keyed _ _ _ (SortedMap.get?_of_mem_entries he) hlock
    rw [hapart _ _ _ hkey hl, hline] at hmem
    simp at hmem

/-- Who gives a lock back, or waits for it no more, leaves the line and nobody else does. -/
theorem line_release (h : s.WellQueued) (hlock : s.lockOf? id = some lock) (key : String) :
    (s.release id lock).line key = (s.line key).filter (· ≠ id) := by
  have hlocks : (s.release id lock).locks = s.locks := rfl
  unfold line
  rw [hlocks]
  cases hl : s.locks.get? key with
  | none => rfl
  | some other =>
    refine (queue_release s id lock other).trans ?_
    split
    · rfl
    · rename_i hne
      refine (List.filter_eq_self.2 ?_).symm
      intro x hx
      have hother := (h.mem_iff other x).1 hx
      apply decide_eq_true
      rintro rfl
      exact hne (Option.some.inj (hother.symm.trans hlock))

/-- A run that is over leaves the line, if it is in one. -/
theorem line_releaseLease (h : s.WellQueued) {c : Checker} {lease? : Option Lease}
    (hlock : s.lockOf? id = lease?.map (·.lock)) (key : String) :
    ((s.put id c .idle).releaseLease id lease?).line key = (s.line key).filter (· ≠ id) := by
  cases lease? with
  | some lease => exact h.line_release hlock key
  | none =>
    refine (List.filter_eq_self.2 ?_).symm
    intro x hx
    apply decide_eq_true
    rintro rfl
    exact h.not_mem_line hlock hx

end WellQueued

/-! ## Steps -/

/-- What a step does to the line at the lock of a key. -/
inductive LineChange (s : Coordinator) (key : String) : Action → Coordinator → Reaction → Prop
  /-- Time passes. -/
  | pass {ms : Nat} (h : ms = 0 ∨ s.mayPass ms = true) :
      LineChange s key (.pass ms) { s with clock := s.clock + ms } {}
  /-- A checker takes its place at the end. -/
  | join {id : String} {c : Checker} {s' : Coordinator} {r : Reaction}
      (hslot : s.slots.get? id = some ⟨c, .idle⟩) (hkey : lockKey c.config = key)
      (hline : s'.line key = s.line key ++ [id]) (hlease : s'.lease? id = none) :
      LineChange s key (.runCheck id) s' r
  /-- A checker leaves, with a result if anybody waits for one. -/
  | leave {a : Action} {id : String} {s' : Coordinator} {r : Reaction}
      (ha : a.subject? = some id) (hmem : id ∈ s.line key)
      (hline : s'.line key = (s.line key).filter (· ≠ id))
      (hend : a = .drop id ∨ ∃ result, r.result? = some result) : LineChange s key a s' r
  /-- The first one gets the lock. -/
  | take {id : String} {lease : Lease} {s' : Coordinator} {r : Reaction}
      (hmem : id ∈ s.line key) (hline : s'.line key = s.line key) (hfree : s.lease? id = none)
      (hlease : s'.lease? id = some lease) (hsince : lease.since = s.clock)
      (hlimit : lease.limit = s.deadline) (hresult : r.result? = none) :
      LineChange s key (.grant id) s' r
  /-- Nothing happens there. -/
  | rest {a : Action} {s' : Coordinator} {r : Reaction} (ha : ∀ ms, a ≠ .pass ms)
      (hasked : ∀ id c, a = .runCheck id → s.slots.get? id = some ⟨c, .idle⟩ →
        lockKey c.config ≠ key)
      (hline : s'.line key = s.line key)
      (hlease : ∀ x ∈ s.line key, s'.lease? x = s.lease? x)
      (hresult : ∀ x ∈ s.line key, a.subject? = some x → r.result? = none) :
      LineChange s key a s' r

/-- A step that is about a checker outside the line, and leaves the line. -/
theorem LineChange.of_outside (hs : s.step a = some (s', r)) (hsubject : a.subject? = some id)
    (hout : id ∉ s.line key) (hask : ∀ id, a ≠ .runCheck id) (hline : s'.line key = s.line key) :
    LineChange s key a s' r := by
  refine .rest ?_ (fun id _ h => absurd h (hask id)) hline ?_ ?_
  · rintro ms rfl
    simp [Action.subject?] at hsubject
  · intro x hx
    refine lease?_congr (slot_of_step hs ?_)
    rw [hsubject]
    rintro ⟨⟩
    exact hout hx
  · intro x hx hid
    rw [hsubject] at hid
    obtain rfl := Option.some.inj hid
    exact absurd hx hout

/-- A step that ends what a checker was doing. -/
theorem LineChange.of_end (hs : s.step a = some (s', r)) (hsubject : a.subject? = some id)
    (hask : ∀ id, a ≠ .runCheck id) (hline : s'.line key = (s.line key).filter (· ≠ id))
    (hend : a = .drop id ∨ ∃ result, r.result? = some result) : LineChange s key a s' r := by
  by_cases hmem : id ∈ s.line key
  · exact .leave hsubject hmem hline hend
  · refine .of_outside hs hsubject hmem hask (hline.trans (List.filter_eq_self.2 ?_))
    intro x hx
    apply decide_eq_true
    rintro rfl
    exact hmem hx

/-- **What a step does to a line.** -/
theorem lineChange_of_step (h : s.WellQueued) (hapart : s.KeysApart)
    (hs : s.step a = some (s', r)) (key : String) : LineChange s key a s' r := by
  cases change_of_step hs with
  | pass hms => exact .pass hms
  | setDeadline => exact .rest (by simp) (by simp) rfl (fun _ _ => rfl) fun _ _ _ => rfl
  | place hidle =>
    refine .of_outside hs rfl (h.not_mem_line ?_) (by simp) rfl
    rw [lockOf?, Option.bind_eq_none_iff]
    intro slot hslot
    rw [hidle slot hslot]
    rfl
  | configure hslot | abandon hslot | refuseToken hslot | assign hslot | assigned hslot
  | dropToken hslot =>
    exact .of_outside hs rfl (h.not_mem_line (lockOf?_of_slot hslot)) (by simp) rfl
  | @queue id c hslot =>
    obtain ⟨hw, hkey⟩ := h.lockFor (lockKey c.config)
    -- the line of the checker's own key gets longer, all others stay
    have hnew : (s.lockFor (lockKey c.config)).2.KeysApart :=
      fun key₁ key₂ lock => hapart.step h hs key₁ key₂ lock
    have hline := line_enqueue hnew (hw.inRange _ _ hkey) hkey id key
    rw [line_lockFor] at hline
    by_cases hk : key = lockKey c.config
    · rw [if_pos hk] at hline
      refine .join hslot hk.symm hline ?_
      rw [lease?_eq, underway?, slots_enqueue, slots_put, SortedMap.get?_insert_self]
      rfl
    · rw [if_neg hk] at hline
      refine .rest (by simp) ?_ hline ?_ fun _ _ _ => rfl
      · rintro other d hother hslot'
        obtain rfl := Action.runCheck.inj hother
        obtain ⟨rfl, -⟩ := Slot.mk.inj (Option.some.inj (hslot.symm.trans hslot'))
        exact Ne.symm hk
      · intro x hx
        refine lease?_congr (slot_of_step hs ?_)
        rintro ⟨⟩
        exact h.not_mem_line (lockOf?_of_slot hslot) hx
  | unqueue hslot =>
    exact .of_end hs rfl (by simp) (h.line_release (lockOf?_of_slot hslot) key) (.inl rfl)
  | refuse ho =>
    refine .of_end hs (subject_of_opens ho) ?_
      (h.line_releaseLease (WellQueued.lockOf?_of_opens ho) key) (.inr ⟨_, rfl⟩)
    cases ho <;> simp
  | @begin a id c lease? events ho hf =>
    cases ho with
    | runOnce hslot =>
      exact .of_outside hs rfl (h.not_mem_line (lockOf?_of_slot hslot)) (by simp) rfl
    | @grant id k lock c hslot hold =>
      by_cases hmem : id ∈ s.line key
      · refine .take hmem rfl ((lease?_of_slot hslot).trans rfl)
          (?_ : _ = some ⟨k, lock, s.clock, s.deadline⟩) rfl rfl rfl
        rw [lease?_eq, underway?, slots_put, SortedMap.get?_insert_self]
        rfl
      · exact .of_outside hs rfl hmem (by simp) rfl
  | @proceed id c lease? p q answer hslot hq =>
    refine .rest (by simp) (by simp) rfl ?_ fun _ _ _ => rfl
    intro x _
    by_cases hx : x = id
    · -- the run goes on with the lease that it has
      subst hx
      rw [lease?_of_slot hslot, lease?_of_slot (SortedMap.get?_insert_self ..)]
      rfl
    · exact lease?_congr (get?_slots_put_of_ne s _ _ hx)
  | @finish id c lease? p outcome result hslot =>
    refine .of_end hs rfl (by simp) (h.line_releaseLease ?_ key) (.inr ⟨_, rfl⟩)
    rw [lockOf?_of_slot hslot]
    cases lease? <;> rfl
  | expire hslot =>
    exact .of_end hs rfl (by simp) (h.line_releaseLease (lockOf?_of_slot hslot) key) (.inr ⟨_, rfl⟩)
  | @cut id c lease? p hslot =>
    refine .of_end hs rfl (by simp) (h.line_releaseLease ?_ key) (.inl rfl)
    rw [lockOf?_of_slot hslot]
    cases lease? <;> rfl

/-! ## Leaving a line -/

/-- Who stays in a line is returned nothing. -/
theorem LineChange.returned?_eq_none (h : LineChange s key a s' r) (hw : s.WellQueued)
    (hs : s.step a = some (s', r)) (hmem : id ∈ s.line key) (hmem' : id ∈ s'.line key) :
    s.returned? id a = none := by
  by_cases hid : a.subject? = some id
  · rw [returned?_of_step hs hid]
    cases h with
    | pass => rfl
    | join hslot =>
      obtain rfl := Option.some.inj hid
      exact absurd hmem (hw.not_mem_line (lockOf?_of_slot hslot))
    | leave ha _ hline =>
      obtain rfl := Option.some.inj (ha.symm.trans hid)
      simp [hline] at hmem'
    | take _ _ _ _ _ _ hresult => exact hresult
    | rest _ _ _ _ hresult => exact hresult id hmem hid
  · exact returned?_of_ne hid

/-- Who leaves a line does so with a result, or because nobody waits for one. -/
theorem LineChange.leaves (h : LineChange s key a s' r) (hs : s.step a = some (s', r))
    (hmem : id ∈ s.line key) (hmem' : id ∉ s'.line key) :
    a = .drop id ∨ ∃ result, s.returned? id a = some result := by
  cases h with
  | pass => exact absurd hmem hmem'
  | join _ _ hline => exact absurd (by simp [hline, hmem]) hmem'
  | @leave _ other _ _ ha _ hline hend =>
    obtain rfl : id = other := by
      by_contra hne
      exact hmem' (by simp [hline, hmem, hne])
    rw [returned?_of_step hs ha]
    exact hend
  | take _ hline => exact absurd (hline ▸ hmem) hmem'
  | rest _ _ hline => exact absurd (hline ▸ hmem) hmem'

/-- **A checker that has left a line has come to an end**: at some moment until which it stood in
the line and was returned nothing, it was returned a result, or nobody waited for it any more. -/
theorem ends_of_left {actions : List Action} (hw : s.WellQueued) (hapart : s.KeysApart)
    (hmem : id ∈ s.line key) (hleft : id ∉ (s.run actions).line key) :
    ∃ mid a last, actions = mid ++ a :: last ∧ s.returns id mid = [] ∧ id ∈ (s.run mid).line key
      ∧ (a = .drop id ∨ ∃ result, (s.run mid).returned? id a = some result) := by
  induction actions generalizing s with
  | nil => exact absurd hmem hleft
  | cons a actions ih =>
    -- while the checker stays in the line, the moment is found later on
    have later : (s.act a).WellQueued → (s.act a).KeysApart → id ∈ (s.act a).line key →
        s.returned? id a = none →
        ∃ mid b last, a :: actions = mid ++ b :: last ∧ s.returns id mid = []
          ∧ id ∈ (s.run mid).line key
          ∧ (b = .drop id ∨ ∃ result, (s.run mid).returned? id b = some result) := by
      intro hw' hapart' hstays hnone
      obtain ⟨mid, b, last, rfl, hreturns, hrest⟩ := ih hw' hapart' hstays hleft
      refine ⟨a :: mid, b, last, rfl, ?_, hrest⟩
      rw [returns, hnone, hreturns]
      rfl
    rcases hs : s.step a with _ | ⟨s', r⟩
    · rw [act_of_step_eq_none hs] at later
      exact later hw hapart hmem (returned?_of_step_eq_none hs)
    · rw [act_of_step hs] at later
      have hchange := lineChange_of_step hw hapart hs key
      by_cases hmem' : id ∈ s'.line key
      · exact later (hw.step hs) (hapart.step hw hs) hmem'
          (hchange.returned?_eq_none hw hs hmem hmem')
      · exact ⟨[], a, actions, rfl, rfl, hmem, hchange.leaves hs hmem hmem'⟩

end Coordinator

end PodCheck
