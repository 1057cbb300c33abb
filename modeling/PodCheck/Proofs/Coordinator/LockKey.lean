import Mathlib.Data.List.Basic
import PodCheck.Proofs.Coordinator.Course
import PodCheck.Proofs.Coordinator.Lock

/-! # Who waits for whom

Runs wait for each other if their checks have one lock, and a lock is found by a text in which
namespace and name are joined by a colon. Two different checks have one text just if a colon in the
namespace of the one can be taken for the joint of the other (`lockKey_eq_iff`), so not where
namespaces have no colons (`CheckerConfig.SharesKey.same_check`). Two texts never lead to one lock
(`Coordinator.KeysApart`). So a run is held back by a run with its text and by no other, and starts
before any time passes if there is none (`Coordinator.waits_only_for_lock_key`); runs of different
checks may wait for each other (`Coordinator.different_checks_share_lock`). -/

namespace PodCheck

/-! ## Keys -/

/-- A list that is split in two ways at the same element is split at one place, or the one part
reaches beyond the other and over its split. -/
theorem append_cons_eq_append_cons_iff {α : Type*} {x : α} {l₁ r₁ l₂ r₂ : List α} :
    l₁ ++ x :: r₁ = l₂ ++ x :: r₂
      ↔ (l₁ = l₂ ∧ r₁ = r₂) ∨ (∃ t, l₁ = l₂ ++ x :: t ∧ r₂ = t ++ x :: r₁)
        ∨ ∃ t, l₂ = l₁ ++ x :: t ∧ r₁ = t ++ x :: r₂ := by
  constructor
  · intro h
    rcases List.append_eq_append_iff.1 h with ⟨t, hl, hr⟩ | ⟨t, hl, hr⟩
    · cases t with
      | nil => exact .inl ⟨by simpa using hl.symm, (List.cons.inj hr).2⟩
      | cons y t =>
        obtain ⟨rfl, htail⟩ := List.cons.inj hr
        exact .inr (.inr ⟨t, hl, htail⟩)
    · cases t with
      | nil => exact .inl ⟨by simpa using hl, (List.cons.inj hr).2.symm⟩
      | cons y t =>
        obtain ⟨rfl, htail⟩ := List.cons.inj hr
        exact .inr (.inl ⟨t, hl, htail⟩)
  · rintro (⟨rfl, rfl⟩ | ⟨t, rfl, rfl⟩ | ⟨t, rfl, rfl⟩) <;> simp

/-- The key of a lock, as a list. -/
theorem toList_lockKey (c : CheckerConfig) :
    (lockKey c).toList = c.ns.toList ++ ':' :: c.checkName.toList := by
  simp [lockKey]

namespace CheckerConfig

/-- The joint of the key of a check can be taken for a colon in the name of another check, whose
own joint is then a colon in the namespace of the first one. -/
def Collides (c d : CheckerConfig) : Prop :=
  ∃ t, c.ns.toList = d.ns.toList ++ ':' :: t ∧ d.checkName.toList = t ++ ':' :: c.checkName.toList

/-- Two checkers have the same check, or checks whose keys are one text. -/
def SharesKey (c d : CheckerConfig) : Prop :=
  (c.ns = d.ns ∧ c.checkName = d.checkName) ∨ c.Collides d ∨ d.Collides c

/-- **Checks whose namespaces have no colon share a key with themselves only.** -/
theorem SharesKey.same_check {c d : CheckerConfig} (h : c.SharesKey d) (hc : ':' ∉ c.ns.toList)
    (hd : ':' ∉ d.ns.toList) : c.ns = d.ns ∧ c.checkName = d.checkName := by
  rcases h with h | ⟨t, ht, -⟩ | ⟨t, ht, -⟩
  · exact h
  · exact absurd (by simp [ht]) hc
  · exact absurd (by simp [ht]) hd

end CheckerConfig

/-- **Two checks have one key if they are the same, or a colon can be taken for the joint.** -/
theorem lockKey_eq_iff {c d : CheckerConfig} : lockKey c = lockKey d ↔ c.SharesKey d := by
  rw [← String.toList_inj, toList_lockKey, toList_lockKey, append_cons_eq_append_cons_iff,
    String.toList_inj, String.toList_inj]
  rfl

/-! ## Locks -/

namespace Coordinator

variable {s s' : Coordinator} {a : Action} {r : Reaction}

/-- A step makes one lock at most, which gets the next number. -/
theorem locks_of_step (hs : s.step a = some (s', r)) :
    s'.locks = s.locks
      ∨ ∃ key, s.locks.get? key = none ∧ s'.locks = s.locks.insert key s.queues.length := by
  have hrelease : ∀ (t : Coordinator) (id : String) (lease? : Option Lease),
      (t.releaseLease id lease?).locks = t.locks := by
    intro t id lease?
    cases lease? <;> rfl
  cases change_of_step hs with
  | @queue id c =>
    show (s.lockFor (lockKey c.config)).2.locks = _ ∨ ∃ key, _ ∧ (s.lockFor _).2.locks = _
    unfold lockFor
    cases hl : s.locks.get? (lockKey c.config) with
    | some lock => exact .inl rfl
    | none => exact .inr ⟨_, hl, rfl⟩
  | refuse | finish | expire | cut => exact .inl (hrelease ..)
  | _ => exact .inl rfl

/-- Different keys lead to different locks. -/
def KeysApart (s : Coordinator) : Prop :=
  ∀ key₁ key₂ lock, s.locks.get? key₁ = some lock → s.locks.get? key₂ = some lock → key₁ = key₂

/-- Every step keeps the locks of different keys apart: a new lock has a number that no other lock
has. -/
theorem KeysApart.step (h : s.KeysApart) (hw : s.WellQueued) (hs : s.step a = some (s', r)) :
    s'.KeysApart := by
  rcases locks_of_step hs with hlocks | ⟨key, -, hlocks⟩
  · rwa [KeysApart, hlocks]
  intro key₁ key₂ lock h₁ h₂
  rw [hlocks, SortedMap.get?_insert] at h₁ h₂
  split at h₁ <;> split at h₂
  · simp_all
  · have := hw.inRange _ _ h₂
    simp_all
  · have := hw.inRange _ _ h₁
    simp_all
  · exact h _ _ _ h₁ h₂

/-- From the beginning on, queues and checkers agree and different keys lead to different locks. -/
theorem wellQueued_keysApart_run (tokens : TokenSource) (epoch : Instant) (actions : List Action) :
    (({ tokens, epoch } : Coordinator).run actions).WellQueued
      ∧ (({ tokens, epoch } : Coordinator).run actions).KeysApart := by
  refine run_induction (P := fun t => t.WellQueued ∧ t.KeysApart) ?_ ⟨.of_empty rfl rfl rfl, ?_⟩
    actions
  · rintro t t' a r ⟨hw, ha⟩ hs
    exact ⟨hw.step hs, ha.step hw hs⟩
  · intro key₁ key₂ lock h₁
    simp at h₁

/-- Two checkers use one lock just if their checks share a key. -/
theorem KeysApart.eq_iff (h : s.KeysApart) (hw : s.WellQueued) {id₁ id₂ : String}
    {slot₁ slot₂ : Slot} {lock₁ lock₂ : Nat} (hs₁ : s.slots.get? id₁ = some slot₁)
    (hs₂ : s.slots.get? id₂ = some slot₂) (hl₁ : slot₁.activity.lock? = some lock₁)
    (hl₂ : slot₂.activity.lock? = some lock₂) :
    lock₁ = lock₂ ↔ slot₁.checker.config.SharesKey slot₂.checker.config := by
  have hk₁ := hw.keyed _ _ _ hs₁ hl₁
  have hk₂ := hw.keyed _ _ _ hs₂ hl₂
  rw [← lockKey_eq_iff]
  constructor
  · rintro rfl
    exact h _ _ _ hk₁ hk₂
  · intro hkey
    rw [hkey] at hk₁
    exact Option.some.inj (hk₁.symm.trans hk₂)

/-- A checker that waits for a lock may take it, or another one holds it or may take it first. -/
theorem WellQueued.holds_or_waits (h : s.WellQueued) {id key : String} {lock : Nat} {c : Checker}
    (hslot : s.slots.get? id = some ⟨c, .queued key lock⟩) :
    s.holds id lock = true
      ∨ ∃ other slot, other ≠ id ∧ s.holds other lock = true ∧ s.slots.get? other = some slot
          ∧ slot.activity.lock? = some lock := by
  have hmem : id ∈ s.queue lock := (h.mem_iff lock id).2 (lockOf?_of_slot hslot)
  obtain ⟨other, rest, hq⟩ := List.exists_cons_of_ne_nil (List.ne_nil_of_mem hmem)
  have hhead : s.holds other lock = true := holds_iff.2 ⟨rest, hq⟩
  by_cases ho : other = id
  · exact .inl (ho ▸ hhead)
  have hother : s.lockOf? other = some lock :=
    (h.mem_iff lock other).1 (by rw [hq]; exact List.mem_cons_self ..)
  obtain ⟨slot, hslot', hlock⟩ := Option.bind_eq_some_iff.1 hother
  exact .inr ⟨other, slot, ho, hhead, hslot', hlock⟩

/-- **A run waits for runs that share the key of its check, and for no others.** Whatever has
happened, two checkers use one lock just if their checks share a key. A checker that waits for a
lock may take it, before any time passes, unless another checker has it or comes first, and the
checks of these two share a key. They are one check if their namespaces have no colons. -/
theorem waits_only_for_lock_key (tokens : TokenSource) (epoch : Instant) (actions : List Action) :
    let s := ({ tokens, epoch } : Coordinator).run actions
    (∀ id₁ id₂ slot₁ slot₂ lock₁ lock₂, s.slots.get? id₁ = some slot₁ →
      s.slots.get? id₂ = some slot₂ → slot₁.activity.lock? = some lock₁ →
      slot₂.activity.lock? = some lock₂ →
      (lock₁ = lock₂ ↔ slot₁.checker.config.SharesKey slot₂.checker.config))
    ∧ (∀ id c key lock, s.slots.get? id = some ⟨c, .queued key lock⟩ →
      (s.Opens (.grant id) id c (some ⟨key, lock, s.clock, s.deadline⟩) [.lockAcquired key]
        ∧ ∀ ms, 0 < ms → s.step (.pass ms) = none)
      ∨ ∃ other slot, other ≠ id ∧ s.holds other lock = true ∧ s.slots.get? other = some slot
          ∧ slot.activity.lock? = some lock ∧ c.config.SharesKey slot.checker.config)
    ∧ ∀ c d : CheckerConfig, ':' ∉ c.ns.toList → ':' ∉ d.ns.toList →
      (c.SharesKey d ↔ c.ns = d.ns ∧ c.checkName = d.checkName) := by
  intro s
  obtain ⟨hw, hapart⟩ : s.WellQueued ∧ s.KeysApart := wellQueued_keysApart_run ..
  refine ⟨?_, ?_, ?_⟩
  · intro id₁ id₂ slot₁ slot₂ lock₁ lock₂ hs₁ hs₂ hl₁ hl₂
    exact hapart.eq_iff hw hs₁ hs₂ hl₁ hl₂
  · intro id c key lock hslot
    rcases hw.holds_or_waits hslot with hold | ⟨other, slot, ho, hhead, hother, hlock⟩
    · exact .inl ⟨.grant hslot hold, fun ms hms => WellQueued.pass_eq_none hslot hold hms⟩
    · exact .inr ⟨other, slot, ho, hhead, hother, hlock,
        (hapart.eq_iff hw hslot hother rfl hlock).1 rfl⟩
  · intro c d hc hd
    exact ⟨fun h => h.same_check hc hd, .inl⟩

/-- Two checks of different namespaces and names share a lock: the one cannot start for as long as
a run of the other hangs. -/
theorem different_checks_share_lock :
    let x := Checker.plain "a:b" "c" "x"
    let y := Checker.plain "a" "b:c" "y"
    let s := ({ epoch := .ofNanos 0 } : Coordinator).run
      [.place "x" x, .place "y" y, .runCheck "x", .grant "x", .runCheck "y"]
    x.config.check = .ok () ∧ y.config.check = .ok ()
    ∧ (x.config.ns, x.config.checkName) ≠ (y.config.ns, y.config.checkName)
    ∧ s.lockOf? "x" = some 0 ∧ s.lockOf? "y" = some 0
    ∧ s.step (.grant "y") = none
    ∧ (s.act (.pass 300000)).clock = 300000 ∧ (s.act (.pass 300000)).step (.grant "y") = none := by
  decide +kernel

end Coordinator

end PodCheck
