import PodCheck.Proofs.Chronicle.CallOrder
import PodCheck.Proofs.Coordinator.Course

/-! # Results of runs

What a run returns, the state in which it leaves its checker and what it had to do with its cluster
always correspond, whatever the cluster answers and whatever other checkers do meanwhile
(`Coordinator.results_correspond`). The induction follows one run from its beginning: it waits, is
over, was given up or was dropped, and each of these says what has been called and answered so far
(`Coordinator.Course`). The ways in which a run is over are listed once (`Checker.Ending`), and what
corresponds is read off that list (`Checker.Ending.tally`). -/

namespace PodCheck

/-- The outcome that an action hands to a checker. -/
def Action.outcome? : Action → Option Outcome
  | .answer _ outcome => some outcome
  | _ => none

/-- An operation that was called has ended. -/
def Ended (notes : List Note) (call : Call) (outcome : Outcome) : Prop :=
  [.called call, .answered outcome] <:+: notes

/-- Nothing has ended where nothing was called. -/
@[simp] theorem not_ended_nil (call : Call) (outcome : Outcome) : ¬ Ended [] call outcome := by
  simp [Ended]

/-- What has ended is the first operation or a later one. -/
@[simp] theorem ended_cons_cons {first call : Call} {outcome answered : Outcome}
    {notes : List Note} :
    Ended (.called first :: .answered answered :: notes) call outcome
      ↔ (first = call ∧ answered = outcome) ∨ Ended notes call outcome := by
  simp [Ended, List.infix_cons_iff, eq_comm]

namespace CheckerConfig

variable (c : CheckerConfig) (token : String) (notes : List Note)

/-- A run has seen its token stored. -/
def Stored : Prop := ∃ answer, Ended notes (.setToken c.ns c.checkName token) (.ok answer)

/-- A run has seen the pod of the run before deleted. -/
def Removed : Prop := ∃ answer, Ended notes (.deletePod c.ns c.podName) (.ok answer)

/-- A run has seen its pod created. -/
def Created : Prop := ∃ now answer, Ended notes (.createPod c.ns (c.pod token now)) (.ok answer)

/-- A run has seen an operation on pods fail. -/
def PodFailed (source : ClientError) : Prop :=
  Ended notes (.deletePod c.ns c.podName) (.error source)
    ∨ ∃ now, Ended notes (.createPod c.ns (c.pod token now)) (.error source)

end CheckerConfig

/-! ## Runs that are over -/

namespace Checker

/-- The ways in which a run that was not cut off is over: what it had to do with its cluster, its
result and its checker. -/
inductive Ending (c : Checker) (token : String) :
    List Note → Except CheckError Unit → Checker → Prop
  /-- The checker was not ready. -/
  | refused {fault : ConfigFault} (hf : c.config.fault? = some fault) :
      Ending c token [] (.error (c.config.faultError fault))
        { c with state := .failed .validating }
  /-- The token was not stored. -/
  | unstored (source : ClientError) :
      Ending c token
        [.called (.setToken c.config.ns c.config.checkName token), .answered (.error source)]
        (.error (.persistence c.config.ns c.config.checkName source))
        { c with state := .failed .tokenRotating }
  /-- The pod of the run before was not deleted. -/
  | unremoved (stored : Answer) (source : ClientError) :
      Ending c token
        [.called (.setToken c.config.ns c.config.checkName token), .answered (.ok stored),
          .called (.deletePod c.config.ns c.config.podName), .answered (.error source)]
        (.error (.cluster c.config.ns c.config.podName source))
        { c with token, state := .failed .podSubmitting }
  /-- The pod was not created. -/
  | uncreated (stored removed : Answer) (now : Instant) (source : ClientError) :
      Ending c token
        [.called (.setToken c.config.ns c.config.checkName token), .answered (.ok stored),
          .called (.deletePod c.config.ns c.config.podName), .answered (.ok removed),
          .called (.createPod c.config.ns (c.config.pod token now)), .answered (.error source)]
        (.error (.cluster c.config.ns c.config.podName source))
        { c with token, state := .failed .podSubmitting }
  /-- The pod was created. -/
  | submitted (stored removed created : Answer) (now : Instant) :
      Ending c token
        [.called (.setToken c.config.ns c.config.checkName token), .answered (.ok stored),
          .called (.deletePod c.config.ns c.config.podName), .answered (.ok removed),
          .called (.createPod c.config.ns (c.config.pod token now)), .answered (.ok created)]
        (.ok ()) { c with token, state := .submitted }

/-- How result, state, token and the operations of a run that was not cut off correspond. -/
structure Tally (c : Checker) (token : String) (notes : List Note)
    (result : Except CheckError Unit) (c' : Checker) : Prop where
  /-- There are no other errors. -/
  kinds : result = .ok () ∨ ∃ e, result = .error e
    ∧ ((∃ check reason, e = .validation check reason)
      ∨ (∃ ns check source, e = .persistence ns check source)
      ∨ ∃ ns pod source, e = .cluster ns pod source)
  /-- Success is a state of its own. -/
  ok_iff_state : result = .ok () ↔ c'.state = .submitted
  /-- Success means that all three operations succeeded. -/
  ok_iff_notes : result = .ok ()
    ↔ c.config.Stored token notes ∧ c.config.Removed notes ∧ c.config.Created token notes
  /-- A refusal is a state of its own. -/
  validation_iff_state : (∃ check reason, result = .error (.validation check reason))
    ↔ c'.state = .failed .validating
  /-- A refusal means that nothing was called. -/
  validation_iff_notes : (∃ check reason, result = .error (.validation check reason))
    ↔ notes.filterMap Note.call? = []
  /-- A token that was not stored is a state of its own. -/
  persistence_iff_state : (∃ ns check source, result = .error (.persistence ns check source))
    ↔ c'.state = .failed .tokenRotating
  /-- Its error names the check, and is otherwise the one that the cluster answered. -/
  persistence_iff_notes : ∀ ns check source, result = .error (.persistence ns check source)
    ↔ c.config.ns = ns ∧ c.config.checkName = check
      ∧ Ended notes (.setToken c.config.ns c.config.checkName token) (.error source)
  /-- A pod that was not replaced is a state of its own. -/
  cluster_iff_state : (∃ ns pod source, result = .error (.cluster ns pod source))
    ↔ c'.state = .failed .podSubmitting
  /-- Its error names the pod, and is otherwise the one that the cluster answered. -/
  cluster_iff_notes : ∀ ns pod source, result = .error (.cluster ns pod source)
    ↔ c.config.ns = ns ∧ c.config.podName = pod
      ∧ c.config.Stored token notes ∧ c.config.PodFailed token notes source
  /-- The checker has the token of the run once that was stored. -/
  token_of_stored : c.config.Stored token notes → c'.token = token
  /-- The checker keeps its token otherwise. -/
  token_of_not_stored : ¬ c.config.Stored token notes → c'.token = c.token

variable {c c' : Checker} {token : String} {notes : List Note} {result : Except CheckError Unit}

/-- How far a run has come that is not over: its step, and the token that its checker has. -/
inductive Reached (c : Checker) (token : String) (notes : List Note) : RunStage → String → Prop
  /-- Its token was not stored yet, as far as it knows. -/
  | tokenRotating (h : ¬ c.config.Stored token notes) : Reached c token notes .tokenRotating c.token
  /-- Its token was stored. -/
  | podSubmitting (h : c.config.Stored token notes) : Reached c token notes .podSubmitting token

/-- A run that waits is in the step that its operation belongs to. -/
theorem reached_amid {p : Pending} (h : Awaits c.config p notes) :
    c.Reached p.token notes p.stage (c.amid p).token := by
  cases h with
  | settingToken token =>
    exact .tokenRotating (by simp [CheckerConfig.Stored, Ended, List.infix_cons_iff])
  | removing stored h =>
    cases h with
    | settingToken token => exact .podSubmitting ⟨stored, by simp [Pending.token]⟩
  | submitting removed now h =>
    cases h with
    | removing stored h =>
      cases h with
      | settingToken token => exact .podSubmitting ⟨stored, by simp [Pending.token]⟩

/-- A run that is over leaves no run in progress. -/
theorem Ending.state_ne_inProgress (h : c.Ending token notes result c') (stage : RunStage) :
    c'.state ≠ .inProgress stage := by
  cases h <;> simp

/-- A run leaves the configuration. -/
theorem Ending.config (h : c.Ending token notes result c') : c'.config = c.config := by
  cases h <;> rfl

/-- **Result, state, token and operations correspond in each way to be over.** -/
theorem Ending.tally (h : c.Ending token notes result c') : c.Tally token notes result c' := by
  -- result and state are given in each way, and so is all that was called and answered
  cases h <;> constructor <;>
    simp [CheckerConfig.Stored, CheckerConfig.Removed, CheckerConfig.Created,
      CheckerConfig.PodFailed, CheckerConfig.faultError]

/-- A run is over in one of these ways. -/
theorem Concludes.ending {p : Pending} {outcome : Outcome} (h : Awaits c.config p notes)
    (hc : c.Concludes p outcome result c') :
    c.Ending p.token (notes ++ [.answered outcome]) result c' := by
  cases hc with
  | @failed p source =>
    cases h with
    | settingToken token => exact .unstored source
    | removing stored h =>
      cases h with
      | settingToken token => exact .unremoved stored source
    | submitting removed now h =>
      cases h with
      | removing stored h =>
        cases h with
        | settingToken token => exact .uncreated stored removed now source
  | @submitted token pod created =>
    cases h with
    | submitting removed now h =>
      cases h with
      | removing stored h =>
        cases h with
        | settingToken token => exact .submitted stored removed created now

end Checker

/-! ## One run from its beginning -/

namespace Coordinator

/-- What an action has to do with the cluster for a checker: the outcome that comes back, and the
operation that is called. -/
def noted (s : Coordinator) (id : String) (a : Action) : List Note :=
  if a.subject? = some id then
    match s.step a with
    | some (_, r) => (a.outcome?.map .answered).toList ++ (r.call?.map .called).toList
    | none => []
  else []

/-- What some actions have to do with the cluster for a checker. -/
def dialogue (s : Coordinator) (id : String) : List Action → List Note
  | [] => []
  | a :: actions => s.noted id a ++ (s.act a).dialogue id actions

variable {s s' : Coordinator} {r : Reaction} {a : Action} {id : String} {c : Checker}
  {lease? : Option Lease} {events : List Event} {token : String} {notes : List Note}
  {results : List (Except CheckError Unit)} {slot : Slot}

theorem noted_of_step (hs : s.step a = some (s', r)) (ha : a.subject? = some id) :
    s.noted id a = (a.outcome?.map .answered).toList ++ (r.call?.map .called).toList := by
  rw [noted, if_pos ha, hs]

theorem noted_eq_nil (ha : a.subject? = some id → s.step a = none) : s.noted id a = [] := by
  unfold noted
  split
  · rename_i hid
    rw [ha hid]
  · rfl

/-- What has become of a run that draws the given token: what it had to do with its cluster, what it
has returned, and its checker. -/
inductive Course (c : Checker) (lease? : Option Lease) (token : String) :
    List Note → List (Except CheckError Unit) → Slot → Prop
  /-- It waits. -/
  | waiting {p : Pending} {notes : List Note} (h : Awaits c.config p notes)
      (htoken : p.token = token) : Course c lease? token notes [] ⟨c.amid p, .running lease? p⟩
  /-- It is over. -/
  | ended {notes : List Note} {result : Except CheckError Unit} {c' : Checker}
      (h : c.Ending token notes result c') : Course c lease? token notes [result] ⟨c', .idle⟩
  /-- It was given up at its deadline. -/
  | expired {p : Pending} {notes : List Note} {lease : Lease} (h : Awaits c.config p notes)
      (htoken : p.token = token) (hlease : lease? = some lease) :
      Course c lease? token notes
        [.error (.deadlineExceeded c.config.ns c.config.checkName lease.limit)]
        ⟨(c.amid p).abandon, .idle⟩
  /-- It was dropped. -/
  | dropped {p : Pending} {notes : List Note} (h : Awaits c.config p notes)
      (htoken : p.token = token) : Course c lease? token notes [] ⟨c.amid p, .idle⟩

/-- The beginning of the course of a run. -/
theorem course_of_opens (ho : s.Opens a id c lease? events) :
    ∃ slot, (s.act a).slots.get? id = some slot
      ∧ Course c lease? s.tokens.draw.1 (s.noted id a) (s.returned? id a).toList slot := by
  have hs := step_of_opens ho
  have ha := subject_of_opens ho
  have hanswer : a.outcome? = none := by cases ho <;> rfl
  rcases hstep : s.startRun id c lease? events with ⟨s', r⟩
  rw [hstep] at hs
  rw [act_of_step hs, noted_of_step hs ha, returned?_of_step hs ha, hanswer]
  cases beginning_of_step ho hs with
  | refused hf hslot hcall hresult =>
    rw [hcall, hresult]
    exact ⟨_, hslot, .ended (.refused hf)⟩
  | begun hf hslot hcall hresult =>
    rw [hcall, hresult]
    exact ⟨_, hslot, .waiting (.settingToken _) rfl⟩

/-- A run that is not waiting stays as it is. -/
theorem Course.act_of_idle {c' : Checker} (h : Course c lease? token notes results ⟨c', .idle⟩)
    (hslot : s.slots.get? id = some ⟨c', .idle⟩) (ha : a.asksNothingOf id = true) :
    ∃ slot, (s.act a).slots.get? id = some slot
      ∧ Course c lease? token (notes ++ s.noted id a) (results ++ (s.returned? id a).toList)
          slot := by
  have hnone := step_of_idle hslot ha
  refine ⟨⟨c', .idle⟩, (slot_act hnone).trans hslot, ?_⟩
  rw [noted_eq_nil hnone, returned?_eq_none hnone]
  simpa using h

/-- **Whatever happens continues the course of a run.** -/
theorem Course.act (h : Course c lease? token notes results slot)
    (hslot : s.slots.get? id = some slot) (ha : a.asksNothingOf id = true) :
    ∃ slot, (s.act a).slots.get? id = some slot
      ∧ Course c lease? token (notes ++ s.noted id a) (results ++ (s.returned? id a).toList)
          slot := by
  cases h with
  | ended h => exact (Course.ended h).act_of_idle hslot ha
  | expired h htoken hlease => exact (Course.expired h htoken hlease).act_of_idle hslot ha
  | dropped h htoken => exact (Course.dropped h htoken).act_of_idle hslot ha
  | @waiting p _ h htoken =>
    rcases hs : s.step a with _ | ⟨s', r⟩
    · have hnone : a.subject? = some id → s.step a = none := fun _ => hs
      rw [slot_act hnone, noted_eq_nil hnone, returned?_eq_none hnone]
      exact ⟨_, hslot, by simpa using Course.waiting h htoken⟩
    rw [act_of_step hs]
    cases fate_of_step hslot hs with
    | aside hne hslot' =>
      rw [noted_eq_nil (absurd · hne), returned?_of_ne hne]
      exact ⟨_, hslot', by simpa using Course.waiting h htoken⟩
    | @proceed q answer _ _ hq hslot' hcall hresult =>
      rw [noted_of_step hs rfl, returned?_of_step hs rfl, hcall, hresult]
      exact ⟨_, hslot', .waiting (h.proceed hq answer) ((Pending.token_of_next? hq).trans htoken)⟩
    | conclude hc hslot' hcall hresult =>
      rw [noted_of_step hs rfl, returned?_of_step hs rfl, hcall, hresult]
      subst htoken
      exact ⟨_, hslot', .ended (hc.ending h)⟩
    | expire hlease hslot' hcall hresult =>
      rw [noted_of_step hs rfl, returned?_of_step hs rfl, hcall, hresult]
      exact ⟨_, hslot', by simpa [Action.outcome?] using Course.expired h htoken hlease⟩
    | drop hslot' hcall hresult =>
      rw [noted_of_step hs rfl, returned?_of_step hs rfl, hcall, hresult]
      exact ⟨_, hslot', by simpa [Action.outcome?] using Course.dropped h htoken⟩

/-- The course of a run, whatever happens one after the other. -/
theorem Course.run {actions : List Action} (h : Course c lease? token notes results slot)
    (hslot : s.slots.get? id = some slot) (ha : ∀ a ∈ actions, a.asksNothingOf id = true) :
    ∃ slot, (s.run actions).slots.get? id = some slot
      ∧ Course c lease? token (notes ++ s.dialogue id actions) (results ++ s.returns id actions)
          slot := by
  induction actions generalizing s notes results slot with
  | nil => exact ⟨slot, hslot, by simpa [dialogue, returns] using h⟩
  | cons a actions ih =>
    obtain ⟨slot', hslot', h'⟩ := h.act hslot (ha a (List.mem_cons_self ..))
    obtain ⟨slot'', hslot'', h''⟩ := ih h' hslot' fun b hb => ha b (List.mem_cons_of_mem _ hb)
    refine ⟨slot'', hslot'', ?_⟩
    rwa [List.append_assoc, List.append_assoc] at h''

/-! ## What corresponds -/

/-- Giving up the latest run of a checker. -/
theorem slot_act_abandon (hslot : s.slots.get? id = some ⟨c, .idle⟩) :
    (s.act (.abandon id)).slots.get? id = some ⟨c.abandon, .idle⟩ := by
  have hs : s.step (.abandon id) = some (s.put id c.abandon .idle, {}) := by
    rw [step, idleChecker?_eq_some.2 hslot, Option.map_some]
  rw [act_of_step hs, slots_put, SortedMap.get?_insert_self]

/-- A run that waits can be dropped, which leaves its checker as it is. -/
theorem slot_act_drop {p : Pending} (hslot : s.slots.get? id = some ⟨c, .running lease? p⟩) :
    (s.act (.drop id)).slots.get? id = some ⟨c, .idle⟩ := by
  have hs : s.step (.drop id) = some ((s.put id c .idle).releaseLease id lease?, {}) := by
    rw [step, drop?, hslot]
  rw [act_of_step hs, slots_releaseLease, slots_put, SortedMap.get?_insert_self]

/-- **Result, state and operations of a run correspond**, from any previous state of its checker and
whatever else happens. A run that returned did so once and is not in progress: its result, its
state, its token and what was called and answered fit each other, or it was given up at its deadline
in one of two steps. A run that has not returned is in progress in one of these steps, now or when
it was dropped. Giving up makes a run in progress a failed one and changes nothing else. -/
theorem results_correspond (s : Coordinator) {a : Action} {id : String} {c : Checker}
    {lease? : Option Lease} {events : List Event} (hopens : s.Opens a id c lease? events)
    (actions : List Action) (hquiet : ∀ b ∈ actions, b.asksNothingOf id = true) :
    let token := s.tokens.draw.1
    let after := s.run (a :: actions)
    let notes := s.dialogue id (a :: actions)
    let results := s.returns id (a :: actions)
    (∀ result ∈ results, results = [result]
      ∧ ∃ c', after.slots.get? id = some ⟨c', .idle⟩ ∧ c'.config = c.config
        ∧ (∀ stage, c'.state ≠ .inProgress stage)
        ∧ (c.Tally token notes result c'
          ∨ ∃ lease stage, lease? = some lease
            ∧ result = .error (.deadlineExceeded c.config.ns c.config.checkName lease.limit)
            ∧ c'.state = .failed stage ∧ c.Reached token notes stage c'.token))
    ∧ (results = [] → ∃ c' activity stage, after.slots.get? id = some ⟨c', activity⟩
        ∧ c'.config = c.config ∧ c'.state = .inProgress stage
        ∧ c.Reached token notes stage c'.token
        ∧ (activity = .idle ∨ ∃ p, activity = .running lease? p
            ∧ (after.act (.drop id)).slots.get? id = some ⟨c', .idle⟩))
    ∧ ∀ (t : Coordinator) (d : Checker), t.slots.get? id = some ⟨d, .idle⟩ →
        ∃ d', (t.act (.abandon id)).slots.get? id = some ⟨d', .idle⟩
          ∧ (∀ stage, d.state = .inProgress stage → d' = { d with state := .failed stage })
          ∧ ((∀ stage, d.state ≠ .inProgress stage) → d' = d) := by
  intro token after notes results
  obtain ⟨slot₀, hslot₀, hcourse₀⟩ := course_of_opens hopens
  obtain ⟨slot, hslot, hcourse⟩ := hcourse₀.run hslot₀ hquiet
  change Course c lease? token notes results slot at hcourse
  change after.slots.get? id = some slot at hslot
  refine ⟨?_, ?_, ?_⟩
  · -- the run has returned: it has ended, or was given up at its deadline
    intro result hresult
    generalize results = rs at hcourse hresult ⊢
    cases hcourse with
    | waiting => simp at hresult
    | dropped => simp at hresult
    | @ended _ _ c' hend =>
      obtain rfl := List.mem_singleton.1 hresult
      exact ⟨rfl, c', hslot, hend.config, hend.state_ne_inProgress, .inl hend.tally⟩
    | @expired p _ lease hawaits htoken hlease =>
      obtain rfl := List.mem_singleton.1 hresult
      refine ⟨rfl, (c.amid p).abandon, hslot, c.config_amid p, ?_, .inr ?_⟩
      · exact (c.amid p).abandon_state_ne_inProgress
      · refine ⟨lease, p.stage, hlease, rfl, c.state_abandon_amid p, ?_⟩
        rw [← htoken]
        exact Checker.reached_amid hawaits
  · -- it has not: it waits, or was dropped
    intro hnone
    rw [hnone] at hcourse
    cases hcourse with
    | @waiting p _ hawaits htoken =>
      refine ⟨c.amid p, .running lease? p, p.stage, hslot, c.config_amid p, c.state_amid p, ?_,
        .inr ⟨p, rfl, slot_act_drop hslot⟩⟩
      rw [← htoken]
      exact Checker.reached_amid hawaits
    | @dropped p _ hawaits htoken =>
      refine ⟨c.amid p, .idle, p.stage, hslot, c.config_amid p, c.state_amid p, ?_, .inl rfl⟩
      rw [← htoken]
      exact Checker.reached_amid hawaits
  · intro t d hd
    refine ⟨d.abandon, slot_act_abandon hd, ?_, ?_⟩
    · intro stage hstage
      rw [Checker.abandon, hstage, RunState.abandoned]
    · intro hstage
      rw [Checker.abandon, RunState.abandoned_eq_self hstage]

/-- A run with a lock whose pod is not created, after one that was dropped. -/
theorem results_correspond_of_denied_creation :
    let checker := Checker.plain "prod" "web" "probe"
    let s := ({ epoch := .ofNanos 0 } : Coordinator).run
      [.place "a" checker, .runOnce "a", .drop "a", .runCheck "a"]
    let actions : List Action :=
      [.answer "a" (.ok .done), .answer "a" (.ok .done),
        .answer "a" (.error (.unavailable "down"))]
    let result := .error (.cluster "prod" "probe" (.unavailable "down"))
    s.returns "a" (.grant "a" :: actions) = [result]
    ∧ ∃ c', (s.run (.grant "a" :: actions)).slots.get? "a" = some ⟨c', .idle⟩
      ∧ c'.state = .failed .podSubmitting ∧ c'.token = tokenText 2 := by
  intro checker s actions result
  have hopens : s.Opens (.grant "a") "a" { checker with state := .inProgress .tokenRotating }
      (some ⟨"prod:web", 0, 0, s.deadline⟩) [.lockAcquired "prod:web"] :=
    .grant (by decide +kernel) (by decide +kernel)
  have hmem : result ∈ s.returns "a" (.grant "a" :: actions) := by decide +kernel
  have hcorrespond := results_correspond s hopens actions (by decide)
  obtain ⟨honce, c', hslot, -, -, htally | ⟨lease, stage, -, hdeadline, -⟩⟩ :=
    hcorrespond.1 result hmem
  · refine ⟨honce, c', hslot, htally.cluster_iff_state.1 ⟨_, _, _, rfl⟩, ?_⟩
    exact htally.token_of_stored ((htally.cluster_iff_notes _ _ _).1 rfl).2.2.1
  · simp [result] at hdeadline

end Coordinator

end PodCheck
