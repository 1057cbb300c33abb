import PodCheck.Proofs.Deployment.Expiry
import PodCheck.Proofs.Deployment.WholeRun

/-! # Runs that are alone on a cluster

A run that has a cluster to itself: each operation has its effect and its outcome is taken at once
(`PlannedRun.alone`). What a run does depends only on what the cluster holds for its checker and on
the faults, so on two clusters that agree in these it ends in the same way and leaves them in
agreement (`PlannedRun.alone_congr`). Runs of different checks with different places therefore end,
one after the other in any order, as if each had been the only one (`PlannedRun.oneByOne_spec`). -/

namespace PodCheck

namespace MemoryCluster

/-! ## Clusters that agree -/

/-- The faults of a cluster. -/
def faults (m : MemoryCluster) : Faults where
  createFault := m.createFault
  deleteFault := m.deleteFault
  writeFault := m.writeFault

/-- Two clusters hold the same for a checker and have the same faults. -/
structure Agree (c : CheckerConfig) (m n : MemoryCluster) : Prop where
  /-- They hold the same. -/
  holding : m.holding c = n.holding c
  /-- They have the same faults. -/
  faults : m.faults = n.faults

variable {c : CheckerConfig} {m m' n : MemoryCluster} {call : Call} {outcome : Outcome}

namespace Agree

@[refl] theorem refl (c : CheckerConfig) (m : MemoryCluster) : Agree c m m := ⟨rfl, rfl⟩

theorem symm (h : Agree c m n) : Agree c n m := ⟨h.holding.symm, h.faults.symm⟩

theorem trans (h : Agree c m n) (h' : Agree c n m') : Agree c m m' :=
  ⟨h.holding.trans h'.holding, h.faults.trans h'.faults⟩

/-- Clusters agree if they have the same token, pod and creations for a checker. -/
theorem of_parts (htoken : m.tokens.get? c.checkKey = n.tokens.get? c.checkKey)
    (hpod : m.pods.get? c.place = n.pods.get? c.place)
    (hcreations : (m.holding c).creations = (n.holding c).creations)
    (hfaults : m.faults = n.faults) : Agree c m n where
  holding := by
    show Holding.mk (m.tokens.get? c.checkKey) (m.pods.get? c.place) (m.holding c).creations = _
    rw [htoken, hpod, hcreations]
    rfl
  faults := hfaults

/-- Storing a token has the same outcome and the same effect on clusters that agree. -/
theorem setToken (h : Agree c m n) (token : String) :
    (m.setToken c.ns c.checkName token).1 = (n.setToken c.ns c.checkName token).1
      ∧ Agree c (m.setToken c.ns c.checkName token).2 (n.setToken c.ns c.checkName token).2 := by
  obtain ⟨htoken, hpod, hcreations⟩ := Holding.mk.inj h.holding
  obtain ⟨-, -, hwrite⟩ := Faults.mk.inj h.faults
  have hcheck : m.tokens.contains c.checkKey = n.tokens.contains c.checkKey := by
    rw [SortedMap.contains, SortedMap.contains, htoken]
  cases hw : m.writeFault with
  | some reason =>
    rw [setToken_of_fault _ _ _ hw, setToken_of_fault _ _ _ (hwrite ▸ hw)]
    exact ⟨rfl, h⟩
  | none =>
    cases hc : m.tokens.contains c.checkKey with
    | false =>
      rw [setToken_of_unregistered _ _ _ hw hc,
        setToken_of_unregistered _ _ _ (hwrite ▸ hw) (hcheck ▸ hc)]
      exact ⟨rfl, h⟩
    | true =>
      rw [setToken_of_registered _ _ _ hw hc,
        setToken_of_registered _ _ _ (hwrite ▸ hw) (hcheck ▸ hc)]
      refine ⟨rfl, .of_parts ?_ hpod hcreations h.faults⟩
      exact (SortedMap.get?_insert_self ..).trans (SortedMap.get?_insert_self ..).symm

/-- Deleting a pod has the same outcome and the same effect on clusters that agree. -/
theorem deletePod (h : Agree c m n) :
    (m.deletePod c.ns c.podName).1 = (n.deletePod c.ns c.podName).1
      ∧ Agree c (m.deletePod c.ns c.podName).2 (n.deletePod c.ns c.podName).2 := by
  obtain ⟨htoken, hpod, hcreations⟩ := Holding.mk.inj h.holding
  obtain ⟨-, hdelete, -⟩ := Faults.mk.inj h.faults
  cases hd : m.deleteFault with
  | some reason =>
    rw [deletePod_of_fault _ _ hd, deletePod_of_fault _ _ (hdelete ▸ hd)]
    exact ⟨rfl, h⟩
  | none =>
    rw [deletePod_of_no_fault _ _ hd, deletePod_of_no_fault _ _ (hdelete ▸ hd)]
    refine ⟨rfl, .of_parts htoken ?_ hcreations h.faults⟩
    exact (SortedMap.get?_erase_self ..).trans (SortedMap.get?_erase_self ..).symm

/-- Creating the pod of a run has the same outcome and the same effect on clusters that agree. -/
theorem createPod (h : Agree c m n) (token : String) (now : Instant) :
    (m.createPod c.ns (c.pod token now)).1 = (n.createPod c.ns (c.pod token now)).1
      ∧ Agree c (m.createPod c.ns (c.pod token now)).2
          (n.createPod c.ns (c.pod token now)).2 := by
  obtain ⟨htoken, hpod, hcreations⟩ := Holding.mk.inj h.holding
  obtain ⟨hcreate, -, -⟩ := Faults.mk.inj h.faults
  have hplace : m.pods.contains c.place = n.pods.contains c.place := by
    rw [SortedMap.contains, SortedMap.contains, hpod]
  cases hc : m.createFault with
  | some reason =>
    rw [createPod_of_fault _ _ hc, createPod_of_fault _ _ (hcreate ▸ hc)]
    exact ⟨rfl, h⟩
  | none =>
    cases hp : m.pods.contains c.place with
    | true =>
      rw [createPod_of_taken _ _ _ hc hp, createPod_of_taken _ _ _ (hcreate ▸ hc) (hplace ▸ hp)]
      exact ⟨rfl, h⟩
    | false =>
      rw [createPod_of_no_pod _ _ _ hc hp, createPod_of_no_pod _ _ _ (hcreate ▸ hc) (hplace ▸ hp),
        htoken]
      refine ⟨rfl, .of_parts htoken ?_ ?_ h.faults⟩
      · exact (SortedMap.get?_insert_self ..).trans (SortedMap.get?_insert_self ..).symm
      · simp only [MemoryCluster.holding, List.filter_append]
        exact congrArg (· ++ _) hcreations

/-- **The operation of a run has the same outcome and the same effect on clusters that agree.** -/
theorem perform {token : String} {p : Pending} (h : Agree c m n) (hp : p.Of c token) :
    (m.perform (p.call c)).1 = (n.perform (p.call c)).1
      ∧ Agree c (m.perform (p.call c)).2 (n.perform (p.call c)).2 := by
  cases hp with
  | settingToken => exact h.setToken token
  | removing => exact h.deletePod
  | submitting now => exact h.createPod token now

end Agree

/-- An operation leaves the faults. -/
theorem Change.faults (h : m.Change call outcome m') : m'.faults = m.faults := by
  cases h <;> rfl

/-- An operation that spares a checker leaves what is held for it. -/
theorem Change.agree_of_spares (h : m.Change call outcome m') (hspares : call.Spares c) :
    Agree c m' m :=
  ⟨h.changedOnly.holding_eq hspares.check hspares.place, h.faults⟩

end MemoryCluster

/-- Two checkers have different checks, and different places for their pods. -/
def CheckerConfig.Apart (c c' : CheckerConfig) : Prop :=
  c.checkKey ≠ c'.checkKey ∧ c.place ≠ c'.place

theorem CheckerConfig.Apart.symm {c c' : CheckerConfig} (h : c.Apart c') : c'.Apart c :=
  ⟨h.1.symm, h.2.symm⟩

instance (config : String → CheckerConfig) :
    Std.Symm fun id other => (config id).Apart (config other) :=
  ⟨fun _ _ h => h.symm⟩

/-- The operation of a run spares the checkers that are apart from its own. -/
theorem Pending.Of.spares {p : Pending} {token : String} {c c' : CheckerConfig}
    (h : p.Of c token) (hapart : c.Apart c') : (p.call c).Spares c' where
  check hkey := hapart.1 (h.check?_call hkey).symm
  place hkey := hapart.2 (h.place?_call hkey).symm

/-! ## Turns that follow each other -/

/-- A run goes on by a turn: the operation that it waits for has its effect, and the run takes the
outcome. A run that is over stays as it is. -/
def Turn.advance (now : Instant) (state : Turn × MemoryCluster) : Turn × MemoryCluster :=
  match state.1.next with
  | .waiting p =>
    let (outcome, m) := state.2.perform (p.call state.1.checker.config)
    (state.1.checker.resume p outcome now, m)
  | .finished _ => state

/-- How many operations are left of a run. -/
def Next.left : Next → Nat
  | .waiting p => p.left
  | .finished _ => 0

/-- A run has all its operations before it when it begins, or none if its checker is not ready. -/
theorem Checker.left_start (c : Checker) (tokens : TokenSource) :
    (c.start tokens).1.next.left = 0 ∨ (c.start tokens).1.next.left = 3 := by
  cases hf : c.config.fault? with
  | some fault =>
    rw [start_of_fault _ hf]
    exact .inl rfl
  | none =>
    rw [start_of_ready _ hf]
    exact .inr rfl

/-- What a run has come to that draws its token from a source and begins on a cluster, when it takes
its outcomes at some of the given instants. -/
inductive Checker.Comes (c : Checker) (tokens : TokenSource) (instants : Instant → Prop)
    (m : MemoryCluster) : Turn × MemoryCluster → Prop
  /-- It begins. -/
  | start : Comes c tokens instants m ((c.start tokens).1, m)
  /-- It goes on. -/
  | advance {state : Turn × MemoryCluster} {now : Instant} (h : Comes c tokens instants m state)
      (hnow : instants now) : Comes c tokens instants m (Turn.advance now state)

namespace Turn

variable {state : Turn × MemoryCluster} {p : Pending} {now : Instant}

theorem advance_of_waiting (h : state.1.next = .waiting p) (now : Instant) :
    advance now state
      = (state.1.checker.resume p (state.2.perform (p.call state.1.checker.config)).1 now,
          (state.2.perform (p.call state.1.checker.config)).2) := by
  rw [advance, h]

theorem advance_of_finished {result : Except CheckError Unit} (h : state.1.next = .finished result)
    (now : Instant) : advance now state = state := by
  rw [advance, h]

/-- What is waited for after a turn is what comes next. -/
theorem next?_of_advance {q : Pending} (h : (advance now state).1.next = .waiting q) :
    ∃ p, state.1.next = .waiting p ∧ p.next? state.1.checker.config now = some q := by
  cases hn : state.1.next with
  | waiting p =>
    rw [advance_of_waiting hn] at h
    exact ⟨p, rfl, (Checker.next_resume_eq_waiting_iff.1 h).2⟩
  | finished result =>
    rw [advance_of_finished hn, hn] at h
    simp at h

/-- A turn leaves an operation less. -/
theorem left_advance (now : Instant) (state : Turn × MemoryCluster) :
    (advance now state).1.next.left ≤ state.1.next.left - 1 := by
  cases hq : (advance now state).1.next with
  | finished result => exact Nat.zero_le _
  | waiting q =>
    obtain ⟨p, hp, hnext⟩ := next?_of_advance hq
    rw [hp]
    cases p with
    | settingToken token =>
      obtain rfl := Option.some.inj hnext
      exact Nat.le_refl _
    | removing token =>
      obtain rfl := Option.some.inj hnext
      exact Nat.le_refl _
    | submitting token pod => simp [Pending.next?] at hnext

/-- Only the turn that builds the pod takes notice of the time. -/
theorem advance_congr (h : state.1.next.left ≠ 2) (now now' : Instant) :
    advance now state = advance now' state := by
  cases hn : state.1.next with
  | finished result => rw [advance_of_finished hn, advance_of_finished hn]
  | waiting p =>
    rw [advance_of_waiting hn, advance_of_waiting hn]
    cases p with
    | settingToken token => rfl
    | removing token => simp [hn, Next.left, Pending.left] at h
    | submitting token pod => rfl

/-- A run of which nothing is left is over. -/
theorem exists_finished (h : state.1.next.left = 0) :
    ∃ result, state.1.next = .finished result := by
  cases hn : state.1.next with
  | finished result => exact ⟨result, rfl⟩
  | waiting p => cases p <;> simp [hn, Next.left, Pending.left] at h

/-- What a run makes of its cluster, and how it goes on, is the same on clusters that agree. -/
theorem advance_agree {c : CheckerConfig} {token : String} {n : MemoryCluster}
    (hconfig : state.1.checker.config = c) (hof : ∀ p, state.1.next = .waiting p → p.Of c token)
    (ha : state.2.Agree c n) (now : Instant) :
    (advance now state).1 = (advance now (state.1, n)).1
      ∧ (advance now state).2.Agree c (advance now (state.1, n)).2 := by
  have hsame : ((state.1, n) : Turn × MemoryCluster).1.next = state.1.next := rfl
  cases hn : state.1.next with
  | finished result =>
    rw [advance_of_finished hn, advance_of_finished (hsame.trans hn)]
    exact ⟨rfl, ha⟩
  | waiting p =>
    obtain ⟨houtcome, hafter⟩ := ha.perform (hof p hn)
    rw [advance_of_waiting hn, advance_of_waiting (hsame.trans hn)]
    subst hconfig
    exact ⟨by rw [houtcome], hafter⟩

end Turn

namespace Checker.Comes

variable {c : Checker} {tokens : TokenSource} {instants : Instant → Prop} {m : MemoryCluster}
  {state : Turn × MemoryCluster}

/-- A run leaves the configuration. -/
theorem config (h : c.Comes tokens instants m state) : state.1.checker.config = c.config := by
  induction h with
  | start =>
    cases hf : c.config.fault? with
    | some fault => rw [start_of_fault _ hf]
    | none => rw [start_of_ready _ hf]
  | @advance state now _ _ ih =>
    rw [← ih]
    cases hn : state.1.next with
    | waiting p => rw [Turn.advance_of_waiting hn, config_resume]
    | finished result => rw [Turn.advance_of_finished hn]

/-- A run waits for its own operations. -/
theorem of_waiting (h : c.Comes tokens instants m state) {p : Pending}
    (hn : state.1.next = .waiting p) : p.Of c.config tokens.draw.1 := by
  induction h generalizing p with
  | start =>
    cases hf : c.config.fault? with
    | some fault => simp [start_of_fault _ hf] at hn
    | none =>
      rw [start_of_ready _ hf] at hn
      obtain rfl := Next.waiting.inj hn
      exact .settingToken
  | advance hstate _ ih =>
    obtain ⟨q, hq, hnext⟩ := Turn.next?_of_advance hn
    rw [hstate.config] at hnext
    exact (ih hq).next hnext

/-- A run changes nothing but the token of its check and the pod at its place, and no faults. -/
theorem changedOnly (h : c.Comes tokens instants m state) :
    MemoryCluster.ChangedOnly (· = c.config.checkKey) (· = c.config.place) m state.2
      ∧ state.2.faults = m.faults := by
  induction h with
  | start => exact ⟨.refl m, rfl⟩
  | @advance state now hstate _ ih =>
    cases hn : state.1.next with
    | finished result =>
      rw [Turn.advance_of_finished hn]
      exact ih
    | waiting p =>
      rw [Turn.advance_of_waiting hn, hstate.config]
      have hchange := MemoryCluster.change_of_perform
        (rfl : state.2.perform (p.call c.config) = (_, (state.2.perform (p.call c.config)).2))
      refine ⟨ih.1.trans (hchange.changedOnly.mono ?_ ?_), hchange.faults.trans ih.2⟩
      · exact fun key hkey => (hstate.of_waiting hn).check?_call hkey
      · exact fun key hkey => (hstate.of_waiting hn).place?_call hkey

end Checker.Comes

/-! ## Runs that are alone -/

/-- A run that is to be made. -/
structure PlannedRun where
  /-- Its checker. -/
  checker : Checker
  /-- Where its token comes from. -/
  tokens : TokenSource
  /-- When its pod is built. -/
  now : Instant

namespace PlannedRun

variable (r : PlannedRun) (m n : MemoryCluster)

/-- The run up to some operation, on a cluster that it has to itself. -/
def upTo (k : Nat) : Turn × MemoryCluster :=
  (Turn.advance r.now)^[k] ((r.checker.start r.tokens).1, m)

/-- The run on a cluster that it has to itself: its last turn and what becomes of the cluster. -/
def alone : Turn × MemoryCluster := r.upTo m 3

theorem upTo_succ (k : Nat) : r.upTo m (k + 1) = Turn.advance r.now (r.upTo m k) :=
  Function.iterate_succ_apply' ..

/-- Not more than three operations are left at the beginning. -/
theorem left_upTo (k : Nat) : (r.upTo m k).1.next.left ≤ 3 - k := by
  induction k with
  | zero =>
    show (r.checker.start r.tokens).1.next.left ≤ 3
    rcases r.checker.left_start r.tokens with h | h <;> omega
  | succ k ih =>
    rw [upTo_succ]
    have := Turn.left_advance r.now (r.upTo m k)
    omega

theorem comes_upTo (k : Nat) : r.checker.Comes r.tokens (· = r.now) m (r.upTo m k) := by
  induction k with
  | zero => exact .start
  | succ k ih =>
    rw [upTo_succ]
    exact ih.advance rfl

variable {r m n}

/-- A run that is alone leaves what it does not concern. -/
theorem alone_agree {c : CheckerConfig} (h : r.checker.config.Apart c) :
    (r.alone m).2.Agree c m := by
  obtain ⟨hchanged, hfaults⟩ := (r.comes_upTo m 3).changedOnly
  exact ⟨hchanged.holding_eq h.1.symm h.2.symm, hfaults⟩

/-- **A run does the same on clusters that agree.** -/
theorem alone_congr (h : m.Agree r.checker.config n) :
    (r.alone m).1 = (r.alone n).1 ∧ (r.alone m).2.Agree r.checker.config (r.alone n).2 := by
  have hupTo : ∀ k, (r.upTo m k).1 = (r.upTo n k).1
      ∧ (r.upTo m k).2.Agree r.checker.config (r.upTo n k).2 := by
    intro k
    induction k with
    | zero => exact ⟨rfl, h⟩
    | succ k ih =>
      have hcomes := r.comes_upTo m k
      rw [upTo_succ, upTo_succ]
      have hstep := Turn.advance_agree hcomes.config (fun p => hcomes.of_waiting) ih.2 r.now
      rwa [ih.1] at hstep
  exact hupTo 3

/-- A run that is over stays so. -/
theorem upTo_of_finished {k : Nat} {result : Except CheckError Unit}
    (h : (r.upTo m k).1.next = .finished result) (j : Nat) : r.upTo m (k + j) = r.upTo m k := by
  induction j with
  | zero => rfl
  | succ j ih => rw [← Nat.add_assoc, upTo_succ, ih, Turn.advance_of_finished h]

end PlannedRun

/-- A run has come as far as it comes alone, with its pod built at one of the instants. -/
theorem Checker.Comes.exists_upTo {c : Checker} {tokens : TokenSource} {instants : Instant → Prop}
    {m : MemoryCluster} {state : Turn × MemoryCluster} (h : c.Comes tokens instants m state)
    (hinstants : ∃ now, instants now) :
    ∃ now, instants now ∧ ∃ k, k ≤ 3 ∧ state = (⟨c, tokens, now⟩ : PlannedRun).upTo m k := by
  induction h with
  | start =>
    obtain ⟨now, hnow⟩ := hinstants
    exact ⟨now, hnow, 0, by omega, rfl⟩
  | @advance _ now' _ hnow' ih =>
    obtain ⟨now, hnow, k, hk, rfl⟩ := ih
    have hleft := (⟨c, tokens, now⟩ : PlannedRun).left_upTo m k
    match k, hk with
    | 0, _ => exact ⟨now', hnow', 1, by omega, rfl⟩
    | 1, _ =>
      -- the first turn may as well have been made at the instant of the second
      refine ⟨now', hnow', 2, by omega, ?_⟩
      have hfirst : (⟨c, tokens, now⟩ : PlannedRun).upTo m 1
          = (⟨c, tokens, now'⟩ : PlannedRun).upTo m 1 := by
        refine Turn.advance_congr ?_ now now'
        show (c.start tokens).1.next.left ≠ 2
        rcases c.left_start tokens with h | h <;> omega
      rw [hfirst]
      exact (PlannedRun.upTo_succ ..).symm
    | 2, _ =>
      refine ⟨now, hnow, 3, by omega, ?_⟩
      exact (Turn.advance_congr (by omega) now' now).trans (PlannedRun.upTo_succ ..).symm
    | 3, _ =>
      obtain ⟨result, hresult⟩ := Turn.exists_finished (Nat.le_zero.1 hleft)
      exact ⟨now, hnow, 3, by omega, Turn.advance_of_finished hresult now'⟩

/-- **A run that is over has done what it does alone**, with its pod built at one of the instants at
which it took its outcomes. -/
theorem Checker.Comes.eq_alone {c : Checker} {tokens : TokenSource} {instants : Instant → Prop}
    {m : MemoryCluster} {state : Turn × MemoryCluster} (h : c.Comes tokens instants m state)
    (hinstants : ∃ now, instants now) {result : Except CheckError Unit}
    (hresult : state.1.next = .finished result) :
    ∃ now, instants now ∧ (⟨c, tokens, now⟩ : PlannedRun).alone m = state := by
  obtain ⟨now, hnow, k, hk, rfl⟩ := h.exists_upTo hinstants
  refine ⟨now, hnow, ?_⟩
  rw [PlannedRun.alone, ← Nat.add_sub_of_le hk]
  exact PlannedRun.upTo_of_finished hresult (3 - k)

/-! ## Runs one after the other -/

namespace PlannedRun

/-- Runs one after the other, each alone on the cluster: their last turns, and what becomes of the
cluster. -/
def oneByOne (plan : String → PlannedRun) :
    List String → MemoryCluster → List (String × Turn) × MemoryCluster
  | [], m => ([], m)
  | id :: order, m =>
    let (turn, after) := (plan id).alone m
    let (turns, last) := oneByOne plan order after
    ((id, turn) :: turns, last)

variable {plan : String → PlannedRun} {order : List String} {m m₀ : MemoryCluster}

/-- A run that comes after others which are apart from it finds what it would have found first. -/
theorem agree_alone {id other : String}
    (h : (plan id).checker.config.Apart (plan other).checker.config)
    (ha : m.Agree (plan other).checker.config m₀) :
    ((plan id).alone m).2.Agree (plan other).checker.config m₀ :=
  (alone_agree h).trans ha

/-- Runs change nothing but the tokens of their checks and the pods at their places. -/
theorem oneByOne_changedOnly :
    MemoryCluster.ChangedOnly (fun key => ∃ id ∈ order, key = (plan id).checker.config.checkKey)
      (fun key => ∃ id ∈ order, key = (plan id).checker.config.place) m
      (oneByOne plan order m).2 := by
  induction order generalizing m with
  | nil => exact .refl m
  | cons id order ih =>
    have hfirst := ((plan id).comes_upTo m 3).changedOnly.1
    refine (hfirst.mono ?_ ?_).trans (ih.mono ?_ ?_)
    · exact fun key hkey => ⟨id, List.mem_cons_self .., hkey⟩
    · exact fun key hkey => ⟨id, List.mem_cons_self .., hkey⟩
    · exact fun key ⟨other, hother, hkey⟩ => ⟨other, List.mem_cons_of_mem _ hother, hkey⟩
    · exact fun key ⟨other, hother, hkey⟩ => ⟨other, List.mem_cons_of_mem _ hother, hkey⟩

/-- Runs that are apart from a checker leave what is held for it. -/
theorem oneByOne_agree {other : String}
    (h : ∀ id ∈ order, (plan id).checker.config.Apart (plan other).checker.config)
    (ha : m.Agree (plan other).checker.config m₀) :
    (oneByOne plan order m).2.Agree (plan other).checker.config m₀ := by
  induction order generalizing m with
  | nil => exact ha
  | cons id order ih =>
    exact ih (fun x hx => h x (List.mem_cons_of_mem _ hx))
      (agree_alone (h id (List.mem_cons_self ..)) ha)

/-- **Runs that are apart do one after the other what each does alone.** -/
theorem oneByOne_spec
    (hapart : order.Pairwise fun id other =>
      (plan id).checker.config.Apart (plan other).checker.config)
    (hm : ∀ id ∈ order, m.Agree (plan id).checker.config m₀) :
    (oneByOne plan order m).1 = order.map (fun id => (id, ((plan id).alone m₀).1))
      ∧ ∀ id ∈ order,
        (oneByOne plan order m).2.Agree (plan id).checker.config ((plan id).alone m₀).2 := by
  induction order generalizing m with
  | nil => exact ⟨rfl, by simp⟩
  | cons id order ih =>
    obtain ⟨hhead, htail⟩ := List.pairwise_cons.1 hapart
    obtain ⟨hturn, hafter⟩ := alone_congr (hm id (List.mem_cons_self ..))
    obtain ⟨hturns, hagree⟩ := ih htail fun other hother =>
      agree_alone (hhead other hother) (hm other (List.mem_cons_of_mem _ hother))
    refine ⟨?_, ?_⟩
    · show (id, ((plan id).alone m).1) :: (oneByOne plan order ((plan id).alone m).2).1 = _
      rw [hturn, hturns]
      rfl
    · intro other hother
      rcases List.mem_cons.1 hother with rfl | hother
      · show (oneByOne plan order ((plan other).alone m).2).2.Agree _ _
        exact oneByOne_agree (fun x hx => (hhead x hx).symm) hafter
      · exact hagree other hother

end PlannedRun

end PodCheck
