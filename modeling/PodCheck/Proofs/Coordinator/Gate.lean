import PodCheck.Proofs.Coordinator.Results

/-! # The gate before the cluster

Before a checker has anything to do with its cluster, its configuration is looked at: all of it for
a run, and only what the whitelist needs for storing a token. The faults have an order, and the
first one is reported (`CheckerConfig.check_eq_error_iff`, `CheckerConfig.checkToken_eq_error_iff`).
A run has an error of the configuration just if the gate has refused it, and then nothing was
called, drawn or changed but the state; storing a token is refused by the first part of the same
gate (`Coordinator.gate_decides_before_cluster`). Storing a token is followed from its beginning to
its end like a run (`Coordinator.Storing`). -/

namespace PodCheck

/-! ## Faults in their order -/

namespace ConfigFault

/-- The faults that keep a checker from storing a token, first one first. -/
def ofTokens : List ConfigFault := [.noNamespace, .noCheckName, .noClient]

/-- The faults that keep a checker from running, first one first. -/
def ofRuns : List ConfigFault := ofTokens ++ [.noPodName, .noContainers]

/-- A configuration has a fault. -/
def Holds (c : CheckerConfig) : ConfigFault → Prop
  | .noNamespace => c.ns = ""
  | .noCheckName => c.checkName = ""
  | .noClient => c.hasClient = false
  | .noPodName => c.podName = ""
  | .noContainers => c.template.containers = []

instance (c : CheckerConfig) : DecidablePred (Holds c)
  | .noNamespace => inferInstanceAs (Decidable (c.ns = ""))
  | .noCheckName => inferInstanceAs (Decidable (c.checkName = ""))
  | .noClient => inferInstanceAs (Decidable (c.hasClient = false))
  | .noPodName => inferInstanceAs (Decidable (c.podName = ""))
  | .noContainers => inferInstanceAs (Decidable (c.template.containers = []))

/-- A fault is the first one of some that a configuration has. -/
def IsFirst (c : CheckerConfig) (faults : List ConfigFault) (fault : ConfigFault) : Prop :=
  ∃ before after, faults = before ++ fault :: after ∧ fault.Holds c
    ∧ ∀ other ∈ before, ¬ other.Holds c

/-- The first fault of some is found by looking at one after the other. -/
theorem isFirst_iff {c : CheckerConfig} {faults : List ConfigFault} {fault : ConfigFault} :
    IsFirst c faults fault ↔ faults.find? (fun f => Holds c f) = some fault := by
  rw [List.find?_eq_some_iff_append]
  constructor
  · rintro ⟨before, after, hsplit, hholds, hbefore⟩
    exact ⟨by simpa using hholds, before, after, hsplit, by simpa using hbefore⟩
  · rintro ⟨hholds, before, after, hsplit, hbefore⟩
    exact ⟨before, after, hsplit, by simpa using hholds, by simpa using hbefore⟩

end ConfigFault

namespace CheckerConfig

variable (c : CheckerConfig)

/-- What keeps a checker from storing a token is looked for in order. -/
theorem tokenFault?_eq_find? :
    c.tokenFault? = ConfigFault.ofTokens.find? fun f => f.Holds c := by
  unfold tokenFault?
  by_cases hns : c.ns = "" <;> by_cases hname : c.checkName = "" <;>
    cases hclient : c.hasClient <;>
    simp [ConfigFault.ofTokens, ConfigFault.Holds, hns, hname, hclient]

/-- What keeps a checker from running is looked for in order, first of all what keeps it from
storing a token. -/
theorem fault?_eq_find? : c.fault? = ConfigFault.ofRuns.find? fun f => f.Holds c := by
  rw [fault?, ConfigFault.ofRuns, List.find?_append, tokenFault?_eq_find?]
  congr 1
  by_cases hpod : c.podName = "" <;> by_cases hcontainers : c.template.containers = [] <;>
    simp [ConfigFault.Holds, hpod, hcontainers]

variable {c}

/-- **A checker that cannot run has the error of its first fault.** -/
theorem check_eq_error_iff {e : CheckError} :
    c.check = .error e
      ↔ ∃ fault, ConfigFault.IsFirst c ConfigFault.ofRuns fault ∧ e = c.faultError fault := by
  simp only [ConfigFault.isFirst_iff, ← fault?_eq_find?]
  unfold check
  cases c.fault? with
  | none => simp
  | some fault => simp [eq_comm]

/-- **A checker that cannot store a token has the error of its first fault.** -/
theorem checkToken_eq_error_iff {e : CheckError} :
    c.checkToken = .error e
      ↔ ∃ fault, ConfigFault.IsFirst c ConfigFault.ofTokens fault ∧ e = c.faultError fault := by
  simp only [ConfigFault.isFirst_iff, ← tokenFault?_eq_find?]
  unfold checkToken
  cases c.tokenFault? with
  | none => simp
  | some fault => simp [eq_comm]

/-- A checker can store a token if it has none of the faults that keep it from that. -/
theorem checkToken_eq_ok_iff :
    c.checkToken = .ok () ↔ ∀ fault ∈ ConfigFault.ofTokens, ¬ fault.Holds c := by
  have hnone : c.tokenFault? = none ↔ ∀ fault ∈ ConfigFault.ofTokens, ¬ fault.Holds c := by
    rw [tokenFault?_eq_find?, List.find?_eq_none]
    simp
  rw [← hnone]
  unfold checkToken
  cases c.tokenFault? <;> simp

/-- A checker that can run can store a token: the gate of runs begins with that of tokens. So a run
that was let in is not refused when it stores its token. -/
theorem checkToken_of_check (h : c.check = .ok ()) : c.checkToken = .ok () := by
  have hf := fault?_of_check h
  rw [fault?, Option.or_eq_none_iff] at hf
  rw [checkToken, hf.1]

end CheckerConfig

namespace Coordinator

variable {s s' : Coordinator} {r : Reaction} {a : Action} {id : String} {c : Checker}
  {lease? : Option Lease} {events : List Event} {token : String} {notes : List Note}
  {results : List (Except CheckError Unit)} {slot : Slot}

/-- Of a checker that does nothing, nothing comes until something is asked of it. -/
theorem run_of_idle (hslot : s.slots.get? id = some ⟨c, .idle⟩) {actions : List Action}
    (ha : ∀ b ∈ actions, b.asksNothingOf id = true) :
    (s.run actions).slots.get? id = some ⟨c, .idle⟩ ∧ s.returns id actions = []
      ∧ s.dialogue id actions = [] := by
  induction actions generalizing s with
  | nil => exact ⟨hslot, rfl, rfl⟩
  | cons a actions ih =>
    have hnone := step_of_idle hslot (ha a (List.mem_cons_self ..))
    obtain ⟨hafter, hreturns, hdialogue⟩ := ih ((slot_act hnone).trans hslot)
      fun b hb => ha b (List.mem_cons_of_mem _ hb)
    refine ⟨hafter, ?_, ?_⟩
    · rw [returns, returned?_eq_none hnone, hreturns]
      rfl
    · rw [dialogue, noted_eq_nil hnone, hdialogue]
      rfl

/-! ## Runs at the gate -/

/-- **A run that is refused at the gate leaves nothing but its state and its error.** -/
theorem refused_of_opens (ho : s.Opens a id c lease? events) {fault : ConfigFault}
    (hf : c.config.fault? = some fault) {actions : List Action}
    (ha : ∀ b ∈ actions, b.asksNothingOf id = true) :
    s.returns id (a :: actions) = [.error (c.config.faultError fault)]
      ∧ s.dialogue id (a :: actions) = [] ∧ (s.act a).tokens = s.tokens
      ∧ (s.run (a :: actions)).slots.get? id
          = some ⟨{ c with state := .failed .validating }, .idle⟩ := by
  have hs := step_of_opens ho
  have hsubject := subject_of_opens ho
  have hanswer : a.outcome? = none := by cases ho <;> rfl
  rcases hstep : s.startRun id c lease? events with ⟨s', r⟩
  have htokens : s'.tokens = s.tokens := by
    rw [startRun, Checker.start_of_fault _ hf] at hstep
    obtain ⟨rfl, -⟩ := Prod.mk.inj hstep
    cases lease? <;> rfl
  rw [hstep] at hs
  cases beginning_of_step ho hs with
  | begun hready => simp [hf] at hready
  | @refused fault' _ _ hf' hslot hcall hresult =>
    obtain rfl : fault = fault' := Option.some.inj (hf.symm.trans hf')
    rw [← act_of_step hs] at hslot htokens
    obtain ⟨hafter, hreturns, hdialogue⟩ := run_of_idle hslot ha
    refine ⟨?_, ?_, htokens, hafter⟩
    · rw [returns, returned?_of_step hs hsubject, hresult, hreturns]
      rfl
    · rw [dialogue, noted_of_step hs hsubject, hanswer, hcall, hdialogue]
      rfl

/-- A run that has passed the gate has no error of the configuration. -/
theorem Course.not_configError (h : Course c lease? token notes results slot)
    (hf : c.config.fault? = none) {e : CheckError} (he : .error e ∈ results) :
    e.isConfigError = false := by
  cases h with
  | waiting | dropped => simp at he
  | expired =>
    obtain rfl := Except.error.inj (List.mem_singleton.1 he)
    rfl
  | ended hend =>
    obtain rfl := List.mem_singleton.1 he
    cases hend with
    | refused hfault => simp [hf] at hfault
    | unstored | unremoved | uncreated => rfl

/-- **A run has an error of the configuration just if its checker is not ready, and has the error
that the gate gives.** -/
theorem configError_iff_of_opens (ho : s.Opens a id c lease? events) {actions : List Action}
    (ha : ∀ b ∈ actions, b.asksNothingOf id = true) {e : CheckError} :
    .error e ∈ s.returns id (a :: actions) ∧ e.isConfigError = true
      ↔ c.config.check = .error e := by
  cases hf : c.config.fault? with
  | none =>
    have hcheck : c.config.check = .ok () := by rw [CheckerConfig.check, hf]
    obtain ⟨slot₀, hslot₀, hcourse₀⟩ := course_of_opens ho
    obtain ⟨slot, -, hcourse⟩ := hcourse₀.run hslot₀ ha
    rw [hcheck]
    constructor
    · rintro ⟨he, hconfig⟩
      rw [hcourse.not_configError hf he] at hconfig
      exact absurd hconfig Bool.false_ne_true
    · intro he
      cases he
  | some fault =>
    have hcheck : c.config.check = .error (c.config.faultError fault) := by
      rw [CheckerConfig.check, hf]
    obtain ⟨hreturns, -⟩ := refused_of_opens ho hf ha
    rw [hcheck, hreturns, List.mem_singleton]
    constructor
    · rintro ⟨he, -⟩
      exact he.symm
    · rintro he
      obtain rfl := Except.error.inj he
      exact ⟨rfl, rfl⟩

/-! ## Storing a token at the gate -/

/-- What has become of storing a token that has passed the gate: what it had to do with the cluster,
what it has returned, and its checker. -/
inductive Storing (c : Checker) (token : String) :
    List Note → List (Except CheckError Unit) → Slot → Prop
  /-- The cluster has not answered. -/
  | waiting : Storing c token [.called (c.assignCall token)] [] ⟨c, .assigning token⟩
  /-- The cluster has answered. -/
  | ended (outcome : Outcome) :
      Storing c token [.called (c.assignCall token), .answered outcome]
        [(c.assigned token outcome).2.2] ⟨(c.assigned token outcome).1, .idle⟩
  /-- Nobody waits for the answer any more. -/
  | dropped : Storing c token [.called (c.assignCall token)] [] ⟨c, .idle⟩

/-- While a token is being stored, a step about its checker takes the answer or drops it. -/
theorem step_of_assigning (hslot : s.slots.get? id = some ⟨c, .assigning token⟩)
    (ha : a.asksNothingOf id = true) (hid : a.subject? = some id) :
    s.step a = none
      ∨ (∃ outcome, a = .answer id outcome
        ∧ s.step a = some (s.put id (c.assigned token outcome).1 .idle,
          { events := (c.assigned token outcome).2.1
            result? := some (c.assigned token outcome).2.2 }))
      ∨ (a = .drop id ∧ s.step a = some (s.put id c .idle, {})) := by
  cases a with
  | answer other outcome =>
    obtain rfl := Option.some.inj hid
    exact .inr (.inl ⟨outcome, rfl, by rw [step, answer?, hslot]⟩)
  | drop other =>
    obtain rfl := Option.some.inj hid
    exact .inr (.inr ⟨rfl, by rw [step, drop?, hslot]⟩)
  | expire other =>
    obtain rfl := Option.some.inj hid
    exact .inl (by rw [step, expire?, hslot])
  | _ => simp_all [Action.asksNothingOf, Action.subject?]

/-- Whatever happens continues the storing of a token. -/
theorem Storing.act (h : Storing c token notes results slot)
    (hslot : s.slots.get? id = some slot) (ha : a.asksNothingOf id = true) :
    ∃ slot, (s.act a).slots.get? id = some slot
      ∧ Storing c token (notes ++ s.noted id a) (results ++ (s.returned? id a).toList) slot := by
  -- an action that cannot happen, or is about another checker, is no part of the account
  have hquiet : (a.subject? = some id → s.step a = none) →
      ∃ slot, (s.act a).slots.get? id = some slot
        ∧ Storing c token (notes ++ s.noted id a) (results ++ (s.returned? id a).toList) slot := by
    intro hnone
    rw [slot_act hnone, noted_eq_nil hnone, returned?_eq_none hnone]
    exact ⟨slot, hslot, by simpa using h⟩
  cases h with
  | ended => exact hquiet (step_of_idle hslot ha)
  | dropped => exact hquiet (step_of_idle hslot ha)
  | waiting =>
    by_cases hid : a.subject? = some id
    · rcases step_of_assigning hslot ha hid with hs | ⟨outcome, rfl, hs⟩ | ⟨rfl, hs⟩
      · exact hquiet fun _ => hs
      · rw [act_of_step hs, noted_of_step hs hid, returned?_of_step hs hid]
        exact ⟨_, SortedMap.get?_insert_self .., .ended outcome⟩
      · rw [act_of_step hs, noted_of_step hs hid, returned?_of_step hs hid]
        exact ⟨_, SortedMap.get?_insert_self .., .dropped⟩
    · exact hquiet fun h => absurd h hid

/-- The storing of a token, whatever happens one after the other. -/
theorem Storing.run {actions : List Action} (h : Storing c token notes results slot)
    (hslot : s.slots.get? id = some slot) (ha : ∀ b ∈ actions, b.asksNothingOf id = true) :
    ∃ slot, (s.run actions).slots.get? id = some slot
      ∧ Storing c token (notes ++ s.dialogue id actions) (results ++ s.returns id actions)
          slot := by
  induction actions generalizing s notes results slot with
  | nil => exact ⟨slot, hslot, by simpa [dialogue, returns] using h⟩
  | cons a actions ih =>
    obtain ⟨slot', hslot', h'⟩ := h.act hslot (ha a (List.mem_cons_self ..))
    obtain ⟨slot'', hslot'', h''⟩ := ih h' hslot' fun b hb => ha b (List.mem_cons_of_mem _ hb)
    refine ⟨slot'', hslot'', ?_⟩
    rwa [List.append_assoc, List.append_assoc] at h''

/-- A checker that is to store a token is refused at the gate, and that is all, or calls the
operation and waits. -/
theorem step_assign (hslot : s.slots.get? id = some ⟨c, .idle⟩) (token : String) :
    s.step (.assign id token)
      = some (match c.config.checkToken with
        | .error e => (s, { result? := some (.error e) })
        | .ok () => (s.put id c (.assigning token), { call? := some (c.assignCall token) })) := by
  exact congrArg (Option.map _) (idleChecker?_eq_some.2 hslot)

/-- **A token that is refused at the gate leaves nothing but an error.** -/
theorem refused_of_assign (token : String) (hslot : s.slots.get? id = some ⟨c, .idle⟩)
    {e : CheckError} (he : c.config.checkToken = .error e) {actions : List Action}
    (ha : ∀ b ∈ actions, b.asksNothingOf id = true) :
    s.returns id (.assign id token :: actions) = [.error e]
      ∧ s.dialogue id (.assign id token :: actions) = []
      ∧ (s.run (.assign id token :: actions)).slots.get? id = some ⟨c, .idle⟩ := by
  have hs := step_assign hslot token
  rw [he] at hs
  obtain ⟨hafter, hreturns, hdialogue⟩ := run_of_idle hslot ha
  have hact : s.act (.assign id token) = s := act_of_step hs
  refine ⟨?_, ?_, ?_⟩
  · rw [returns, returned?_of_step hs rfl, hact, hreturns]
    rfl
  · rw [dialogue, noted_of_step hs rfl, hact, hdialogue]
    rfl
  · show ((s.act (.assign id token)).run actions).slots.get? id = _
    rw [hact, hafter]

/-- **A token that passes the gate is stored by the cluster or not.** -/
theorem storing_of_assign (token : String) (hslot : s.slots.get? id = some ⟨c, .idle⟩)
    (he : c.config.checkToken = .ok ()) {actions : List Action}
    (ha : ∀ b ∈ actions, b.asksNothingOf id = true) :
    ∃ slot, (s.run (.assign id token :: actions)).slots.get? id = some slot
      ∧ Storing c token (s.dialogue id (.assign id token :: actions))
          (s.returns id (.assign id token :: actions)) slot := by
  have hs := step_assign hslot token
  rw [he] at hs
  have hwaiting : (s.act (.assign id token)).slots.get? id = some ⟨c, .assigning token⟩ := by
    rw [act_of_step hs]
    exact SortedMap.get?_insert_self ..
  obtain ⟨slot, hafter, hstoring⟩ := (Storing.waiting (c := c)).run hwaiting ha
  refine ⟨slot, hafter, ?_⟩
  rw [dialogue, noted_of_step hs rfl, returns, returned?_of_step hs rfl]
  exact hstoring

/-- Storing a token that has passed the gate calls that operation, and no other. -/
theorem Storing.head?_notes (h : Storing c token notes results slot) :
    notes.head? = some (.called (c.assignCall token)) := by
  cases h <;> rfl

/-- Storing a token that has passed the gate is not refused for the configuration any more. -/
theorem Storing.not_validation (h : Storing c token notes results slot) (check reason : String) :
    .error (.validation check reason) ∉ results := by
  cases h with
  | waiting | dropped => simp
  | ended outcome => cases outcome <;> simp [Checker.assigned]

/-- A token that the cluster has stored is that of the checker. -/
theorem Storing.of_answered (h : Storing c token notes results slot) {answer : Answer}
    (hanswer : .answered (.ok answer) ∈ notes) :
    results = [.ok ()] ∧ slot = ⟨{ c with token }, .idle⟩ := by
  cases h with
  | waiting | dropped => simp at hanswer
  | ended outcome =>
    obtain rfl : .ok answer = outcome := by simpa using hanswer
    exact ⟨rfl, rfl⟩

/-- **Storing a token has a fault of the configuration just if the first part of the gate finds
one.** -/
theorem validation_iff_of_assign (hslot : s.slots.get? id = some ⟨c, .idle⟩)
    {actions : List Action} (ha : ∀ b ∈ actions, b.asksNothingOf id = true) {e : CheckError} :
    .error e ∈ s.returns id (.assign id token :: actions)
        ∧ (∃ check reason, e = .validation check reason)
      ↔ c.config.checkToken = .error e := by
  cases hgate : c.config.checkToken with
  | error e' =>
    obtain ⟨hreturns, -⟩ := refused_of_assign token hslot hgate ha
    rw [hreturns, List.mem_singleton]
    constructor
    · rintro ⟨he, -⟩
      exact he.symm
    · intro he
      obtain ⟨fault, -, rfl⟩ := CheckerConfig.checkToken_eq_error_iff.1 (hgate.trans he)
      exact ⟨he.symm, _, _, rfl⟩
  | ok =>
    obtain ⟨slot, -, hstoring⟩ := storing_of_assign token hslot hgate ha
    constructor
    · rintro ⟨he, check, reason, rfl⟩
      exact absurd he (hstoring.not_validation check reason)
    · intro he
      cases he

/-! ## One gate -/

/-- **One gate decides before anything is asked of the cluster.** A checker is refused with its
first fault in the order namespace, name, cluster, pod name, containers. Whatever the cluster and
other checkers do, a run has an error of the configuration just if its checker is refused, and the
same one; then nothing was called, no token was drawn, the checker has failed at validating and is
otherwise as before, and it is refused again when it runs again. Storing a token is refused just for
the first three faults, before anything is called and without a change; without them it calls the
operation, and has stored the token once the cluster says so. A checker that can run has none of
the three. -/
theorem gate_decides_before_cluster (c : Checker) :
    (∀ e, c.config.check = .error e
      ↔ ∃ fault, ConfigFault.IsFirst c.config ConfigFault.ofRuns fault
        ∧ e = .validation c.config.checkName fault.reason)
    ∧ (∀ (s : Coordinator) (a : Action) (id : String) (lease? : Option Lease)
        (events : List Event) (actions : List Action), s.Opens a id c lease? events →
        (∀ b ∈ actions, b.asksNothingOf id = true) →
        let after := s.run (a :: actions)
        (∀ e, .error e ∈ s.returns id (a :: actions) ∧ e.isConfigError = true
          ↔ c.config.check = .error e)
        ∧ ∀ e, c.config.check = .error e →
          s.returns id (a :: actions) = [.error e] ∧ s.dialogue id (a :: actions) = []
          ∧ (s.act a).tokens = s.tokens
          ∧ after.slots.get? id = some ⟨{ c with state := .failed .validating }, .idle⟩
          ∧ ∀ more, (∀ b ∈ more, b.asksNothingOf id = true) →
            after.returns id (.runOnce id :: more) = [.error e]
            ∧ after.dialogue id (.runOnce id :: more) = [])
    ∧ (∀ (s : Coordinator) (id token : String) (actions : List Action),
        s.slots.get? id = some ⟨c, .idle⟩ → (∀ b ∈ actions, b.asksNothingOf id = true) →
        let notes := s.dialogue id (.assign id token :: actions)
        let results := s.returns id (.assign id token :: actions)
        let slot? := (s.run (.assign id token :: actions)).slots.get? id
        (∀ e, .error e ∈ results ∧ (∃ check reason, e = .validation check reason)
          ↔ ∃ fault, ConfigFault.IsFirst c.config ConfigFault.ofTokens fault
            ∧ e = .validation c.config.checkName fault.reason)
        ∧ ((∃ fault ∈ ConfigFault.ofTokens, fault.Holds c.config) →
          notes = [] ∧ slot? = some ⟨c, .idle⟩)
        ∧ ((∀ fault ∈ ConfigFault.ofTokens, ¬ fault.Holds c.config) →
          notes.head? = some (.called (.setToken c.config.ns c.config.checkName token))
          ∧ ∀ answer, .answered (.ok answer) ∈ notes →
            results = [.ok ()] ∧ slot? = some ⟨{ c with token }, .idle⟩))
    ∧ (c.config.check = .ok () → ∀ fault ∈ ConfigFault.ofTokens, ¬ fault.Holds c.config) := by
  refine ⟨fun e => CheckerConfig.check_eq_error_iff, ?_, ?_, ?_⟩
  · intro s a id lease? events actions hopens hquiet after
    refine ⟨fun e => configError_iff_of_opens hopens hquiet, ?_⟩
    intro e he
    obtain ⟨fault, hfault, rfl⟩ := CheckerConfig.check_eq_error_iff.1 he
    have hf : c.config.fault? = some fault := by
      rw [CheckerConfig.fault?_eq_find?, ← ConfigFault.isFirst_iff]
      exact hfault
    obtain ⟨hreturns, hdialogue, htokens, hslot⟩ := refused_of_opens hopens hf hquiet
    refine ⟨hreturns, hdialogue, htokens, hslot, ?_⟩
    intro more hmore
    -- the checker that failed has the configuration that it had before
    obtain ⟨hreturns', hdialogue', -⟩ := refused_of_opens (.runOnce hslot) hf hmore
    exact ⟨hreturns', hdialogue'⟩
  · intro s id token actions hslot hquiet notes results slot?
    refine ⟨fun e => ?_, ?_, ?_⟩
    · rw [validation_iff_of_assign hslot hquiet]
      exact CheckerConfig.checkToken_eq_error_iff
    · rintro ⟨fault, hmem, hholds⟩
      rcases hgate : c.config.checkToken with e | ⟨⟩
      · obtain ⟨-, hdialogue, hafter⟩ := refused_of_assign token hslot hgate hquiet
        exact ⟨hdialogue, hafter⟩
      · exact absurd hholds (CheckerConfig.checkToken_eq_ok_iff.1 hgate fault hmem)
    · intro hnone
      obtain ⟨slot, hafter, hstoring⟩ := storing_of_assign token hslot
        (CheckerConfig.checkToken_eq_ok_iff.2 hnone) hquiet
      refine ⟨hstoring.head?_notes, ?_⟩
      intro answer hanswer
      obtain ⟨hresults, rfl⟩ := hstoring.of_answered hanswer
      exact ⟨hresults, hafter⟩
  · intro h
    exact CheckerConfig.checkToken_eq_ok_iff.1 (CheckerConfig.checkToken_of_check h)

/-- A checker without pod name and containers: its run is refused for the pod name, though the
cluster could not be better, and then it stores a token. -/
theorem gate_decides_before_cluster_without_pod :
    let checker : Checker :=
      { config :=
          { ns := "prod", checkName := "web", podName := "", template := {}
            interval := .ofSecs 600, timeout := .ofSecs 300 }
        token := "old" }
    let failed : Checker := { checker with state := .failed .validating }
    let s := ({ epoch := .ofNanos 0 } : Coordinator).act (.place "a" checker)
    let t := s.run [.runOnce "a", .answer "a" (.ok .done)]
    let e := .validation "web" "pod name is empty"
    s.returns "a" [.runOnce "a", .answer "a" (.ok .done)] = [.error e]
    ∧ t.slots.get? "a" = some ⟨failed, .idle⟩
    ∧ t.returns "a" [.assign "a" "", .answer "a" (.ok .done)] = [.ok ()]
    ∧ (t.run [.assign "a" "", .answer "a" (.ok .done)]).slots.get? "a"
        = some ⟨{ failed with token := "" }, .idle⟩ := by
  intro checker failed s t e
  have hquiet : ∀ b ∈ [Action.answer "a" (.ok .done)], b.asksNothingOf "a" = true := by decide
  have hcheck : checker.config.check = .error e := by decide
  obtain ⟨-, hrun, -⟩ := gate_decides_before_cluster checker
  have hopens : s.Opens (.runOnce "a") "a" checker none [] := .runOnce (by decide +kernel)
  obtain ⟨hreturns, -, -, hfailed, -⟩ := (hrun _ _ _ _ _ _ hopens hquiet).2 e hcheck
  obtain ⟨-, -, hstore, -⟩ := gate_decides_before_cluster failed
  obtain ⟨-, -, hstored⟩ := hstore t "a" "" _ hfailed hquiet
  obtain ⟨-, hanswered⟩ := hstored (by decide)
  have hnotes : t.dialogue "a" [.assign "a" "", .answer "a" (.ok .done)]
      = [.called (.setToken "prod" "web" ""), .answered (.ok .done)] := by rfl
  exact ⟨hreturns, hfailed, hanswered .done (by simp [hnotes])⟩

end Coordinator

end PodCheck
