import Mathlib.Data.List.Pairwise
import PodCheck.Proofs.Coordinator.Underway

/-! # Chronicles

A coordinator together with an account of its runs: which runs began, with which configuration and
token, and which operations each of them called and saw ended, in the order of time. The account is
kept from what a step brings about (`Reaction`), and the coordinator takes no notice of it. What an
action can mean for the account is said once (`Chronicle.account_of_act`): one of six things,
whatever the action was. -/

namespace PodCheck

/-- A run, as it stood when it began. -/
structure Run where
  /-- Its checker. -/
  id : String
  /-- The configuration of its checker. -/
  config : CheckerConfig
  /-- Whether it got the lock of its check first. -/
  coordinated : Bool
  /-- The token that it drew; none if its checker was not ready. -/
  token? : Option String
deriving DecidableEq

/-- What a run has to do with its cluster. -/
inductive Note
  /-- It calls an operation. -/
  | called (call : Call)
  /-- The operation has ended. -/
  | answered (outcome : Outcome)

/-- The operation that a note says is called. -/
def Note.call? : Note → Option Call
  | .called call => some call
  | .answered _ => none

@[simp] theorem Note.call?_called (call : Call) : (Note.called call).call? = some call := rfl

@[simp] theorem Note.call?_answered (outcome : Outcome) :
    (Note.answered outcome).call? = none := rfl

/-- The token that a run stores with its first operation. -/
def Reaction.token? (r : Reaction) : Option String :=
  match r.call? with
  | some (.setToken _ _ token) => some token
  | _ => none

/-- A coordinator with an account of its runs. -/
structure Chronicle where
  /-- The coordinator. -/
  coordinator : Coordinator
  /-- The runs so far, first one first; a run is known by its place. -/
  runs : List Run := []
  /-- The run that each checker is in. -/
  current : String → Option Nat := fun _ => none
  /-- What the runs had to do with their clusters, first thing first. -/
  notes : List (Nat × Note) := []

namespace Chronicle

/-! ## Keeping the account -/

/-- A run of a checker begins. -/
def opened (h : Chronicle) (id : String) (coordinated : Bool) (token? : Option String) :
    Chronicle :=
  match h.coordinator.slots.get? id with
  | some slot =>
    { h with
      runs := h.runs ++ [⟨id, slot.checker.config, coordinated, token?⟩]
      current := Function.update h.current id (some h.runs.length) }
  | none => h

/-- The run that a checker is in has something to do with its cluster. -/
def noted (h : Chronicle) (id : String) (note : Note) : Chronicle :=
  match h.current id with
  | some n => { h with notes := h.notes ++ [(n, note)] }
  | none => h

/-- A checker is in no run any more. -/
def closed (h : Chronicle) (id : String) : Chronicle :=
  { h with current := Function.update h.current id none }

/-- Takes down what an action means for the runs before its step. -/
def before (h : Chronicle) (r : Reaction) : Action → Chronicle
  | .runOnce id => h.opened id false r.token?
  | .grant id => h.opened id true r.token?
  | .answer id outcome => h.noted id (.answered outcome)
  | _ => h

/-- Takes down what a step means for the run of the checker that the action was about: it calls an
operation or is over. -/
def after (h : Chronicle) (r : Reaction) (a : Action) : Chronicle :=
  match a.subject?, r.call? with
  | some id, some call => h.noted id (.called call)
  | some id, none => h.closed id
  | none, _ => h

/-- Lets an action happen, if it can. -/
def act (h : Chronicle) (a : Action) : Chronicle :=
  match h.coordinator.step a with
  | some (s, r) => { (h.before r a).after r a with coordinator := s }
  | none => h

/-- Lets actions happen one after the other. -/
def run (h : Chronicle) (actions : List Action) : Chronicle := actions.foldl act h

/-- The chronicle before anything has happened. -/
def fresh (tokens : TokenSource) (epoch : Instant) : Chronicle where
  coordinator := { tokens, epoch }

/-! ## Reading the account -/

/-- What a run had to do with its cluster. -/
def trail (h : Chronicle) (n : Nat) : List Note := (h.notes.filter (·.1 = n)).map (·.2)

/-- The operations that a run called. -/
def calls (h : Chronicle) (n : Nat) : List Call := (h.trail n).filterMap Note.call?

/-- The runs that called an operation, call by call. -/
def callers (h : Chronicle) : List Nat := h.notes.filterMap fun e => e.2.call?.map fun _ => e.1

/-- The tokens that were drawn. -/
def drawn (h : Chronicle) : List String := h.runs.filterMap (·.token?)

/-- If all drawn tokens are different, a token was drawn by one run only. -/
theorem eq_of_drawn {h : Chronicle} (hdrawn : h.drawn.Nodup) {a b : Run} {token : String}
    (ha : a ∈ h.runs) (hb : b ∈ h.runs) (hta : a.token? = some token)
    (htb : b.token? = some token) : a = b := by
  have hpairs := List.pairwise_filterMap.1 hdrawn
  have hsymm : Std.Symm fun a b : Run =>
      ∀ t, a.token? = some t → ∀ u, b.token? = some u → t ≠ u :=
    ⟨fun a b hab t ht u hu htu => hab u hu t ht htu.symm⟩
  -- two runs with the token would stand at two places, and the token twice among the drawn ones
  by_contra hne
  exact hpairs.forall ha hb hne token hta token htb rfl

/-- Notes that were added show in the trails of their runs. -/
theorem trail_of_notes {h h' : Chronicle} {l : List (Nat × Note)} (hnotes : h'.notes = h.notes ++ l)
    (n : Nat) : h'.trail n = h.trail n ++ (l.filter (·.1 = n)).map (·.2) := by
  rw [trail, trail, hnotes, List.filter_append, List.map_append]

/-- A call of the run that a checker is in is one more call of the run. -/
theorem calls_noted {h : Chronicle} {id : String} {n : Nat} (call : Call)
    (hn : h.current id = some n) :
    (h.noted id (.called call)).calls n = h.calls n ++ [call] := by
  have hnotes : (h.noted id (.called call)).notes = h.notes ++ [(n, .called call)] := by
    rw [noted, hn]
  have htrail : (h.noted id (.called call)).trail n = h.trail n ++ [.called call] := by
    rw [trail_of_notes hnotes]
    simp
  rw [calls, htrail, List.filterMap_append, calls]
  rfl

/-- What is taken down of an action before its step is nothing, the beginning of a run, or the end
of an operation. -/
theorem before_cases (h : Chronicle) (r : Reaction) (a : Action) :
    h.before r a = h ∨ (∃ id coordinated, h.before r a = h.opened id coordinated r.token?)
      ∨ ∃ id outcome, h.before r a = h.noted id (.answered outcome) := by
  cases a with
  | runOnce id => exact .inr (.inl ⟨id, false, rfl⟩)
  | grant id => exact .inr (.inl ⟨id, true, rfl⟩)
  | answer id outcome => exact .inr (.inr ⟨id, outcome, rfl⟩)
  | _ => exact .inl rfl

/-- An operation that has ended is none that is called. -/
theorem calls_answered (h : Chronicle) (id : String) (outcome : Outcome) :
    (h.noted id (.answered outcome)).calls = h.calls := by
  funext m
  unfold noted
  split
  · rename_i n _
    simp only [calls, trail, List.filter_append, List.map_append, List.filterMap_append]
    by_cases hm : n = m <;> simp [hm, List.filterMap_cons]
  · rfl

/-- What is taken down before a step calls nothing. -/
theorem calls_before (h : Chronicle) (r : Reaction) (a : Action) :
    (h.before r a).calls = h.calls := by
  rcases h.before_cases r a with hb | ⟨id, coordinated, hb⟩ | ⟨id, outcome, hb⟩
  · rw [hb]
  · rw [hb, opened]
    cases h.coordinator.slots.get? id <;> rfl
  · rw [hb]
    exact calls_answered ..

/-- Every checker's run is on the account, and there is no other run on it. -/
def Tidy (h : Chronicle) : Prop :=
  ∀ id, (h.current id).isSome = (h.coordinator.underway? id).isSome

/-! ## What an action means for the account -/

variable {h h' : Chronicle}

/-- What an action means for the account. -/
inductive Account (h : Chronicle) : Action → Chronicle → Prop
  /-- No run is concerned. -/
  | rest {a : Action} {h' : Chronicle}
      (hstate : h'.coordinator.underway? = h.coordinator.underway?) (hruns : h'.runs = h.runs)
      (hcurrent : h'.current = h.current) (hnotes : h'.notes = h.notes)
      (hsubject : ∀ id, a.subject? = some id → h.coordinator.underway? id = none) :
      Account h a h'
  /-- A run is refused before it has anything to do with its cluster. -/
  | refuse {a : Action} {h' : Chronicle} {id : String} {c : Checker} {lease? : Option Lease}
      {events : List Event} (ho : h.coordinator.Opens a id c lease? events)
      (hstate : h'.coordinator.underway? = h.coordinator.underway?)
      (hruns : h'.runs = h.runs ++ [⟨id, c.config, lease?.isSome, none⟩])
      (hcurrent : h'.current = h.current) (hnotes : h'.notes = h.notes) : Account h a h'
  /-- A run begins and calls its first operation. -/
  | begin {a : Action} {h' : Chronicle} {id : String} {c : Checker} {lease? : Option Lease}
      {events : List Event} {token : String} (ho : h.coordinator.Opens a id c lease? events)
      (hf : c.config.fault? = none)
      (hstate : h'.coordinator.underway? = Function.update h.coordinator.underway? id
        (some ⟨c.config, lease?, .settingToken token⟩))
      (hruns : h'.runs = h.runs ++ [⟨id, c.config, lease?.isSome, some token⟩])
      (hcurrent : h'.current = Function.update h.current id (some h.runs.length))
      (hnotes : h'.notes = h.notes
        ++ [(h.runs.length, .called (.setToken c.config.ns c.config.checkName token))]) :
      Account h a h'
  /-- A run sees its operation succeed and calls the next one. -/
  | proceed {h' : Chronicle} {id : String} {n : Nat} {u : Underway} {q : Pending}
      {answer : Answer} (hn : h.current id = some n) (hu : h.coordinator.underway? id = some u)
      (hq : u.pending.next? u.config h.coordinator.now = some q)
      (hstate : h'.coordinator.underway?
        = Function.update h.coordinator.underway? id (some { u with pending := q }))
      (hruns : h'.runs = h.runs) (hcurrent : h'.current = h.current)
      (hnotes : h'.notes
        = h.notes ++ [(n, .answered (.ok answer)), (n, .called (q.call u.config))]) :
      Account h (.answer id (.ok answer)) h'
  /-- A run sees its operation ended and is over. -/
  | finish {h' : Chronicle} {id : String} {n : Nat} {u : Underway} {outcome : Outcome}
      (hn : h.current id = some n) (hu : h.coordinator.underway? id = some u)
      (hstate : h'.coordinator.underway? = Function.update h.coordinator.underway? id none)
      (hruns : h'.runs = h.runs) (hcurrent : h'.current = Function.update h.current id none)
      (hnotes : h'.notes = h.notes ++ [(n, .answered outcome)]) : Account h (.answer id outcome) h'
  /-- A run is cut off. -/
  | cut {a : Action} {h' : Chronicle} {id : String} {n : Nat} {u : Underway}
      (ha : a = .expire id ∨ a = .drop id) (hn : h.current id = some n)
      (hu : h.coordinator.underway? id = some u)
      (hstate : h'.coordinator.underway? = Function.update h.coordinator.underway? id none)
      (hruns : h'.runs = h.runs) (hcurrent : h'.current = Function.update h.current id none)
      (hnotes : h'.notes = h.notes) : Account h a h'

/-- Nothing is noted of a checker that is in no run. -/
theorem noted_of_none {id : String} (note : Note) (hn : h.current id = none) :
    h.noted id note = h := by
  rw [noted, hn]

theorem noted_of_some {id : String} {n : Nat} (note : Note) (hn : h.current id = some n) :
    h.noted id note = { h with notes := h.notes ++ [(n, note)] } := by
  rw [noted, hn]

theorem closed_of_none {id : String} (hn : h.current id = none) : h.closed id = h := by
  rw [closed, ← hn, Function.update_eq_self]

/-- A checker that is in no run has none on the account, and the other way round. -/
theorem Tidy.current_eq_none_iff (ht : h.Tidy) (id : String) :
    h.current id = none ↔ h.coordinator.underway? id = none := by
  rw [← Option.isNone_iff_eq_none, ← Option.isNone_iff_eq_none, ← Option.not_isSome,
    ← Option.not_isSome, ht id]

/-- A checker that is in a run has it on the account. -/
theorem Tidy.current_of_underway (ht : h.Tidy) {id : String} {u : Underway}
    (hu : h.coordinator.underway? id = some u) : ∃ n, h.current id = some n := by
  rw [← Option.isSome_iff_exists, ht id, hu, Option.isSome_some]

/-- The beginning of a run on the account. -/
theorem before_of_opens {a : Action} {id : String} {c : Checker} {lease? : Option Lease}
    {events : List Event} (ho : h.coordinator.Opens a id c lease? events) (r : Reaction) :
    h.before r a
      = { h with
          runs := h.runs ++ [⟨id, c.config, lease?.isSome, r.token?⟩]
          current := Function.update h.current id (some h.runs.length) }
    ∧ a.subject? = some id := by
  cases ho with
  | runOnce hslot => exact ⟨by rw [before, opened, hslot]; rfl, rfl⟩
  | grant hslot hold => exact ⟨by rw [before, opened, hslot]; rfl, rfl⟩

theorem act_of_step {a : Action} {s : Coordinator} {r : Reaction}
    (hs : h.coordinator.step a = some (s, r)) :
    h.act a = { (h.before r a).after r a with coordinator := s } := by
  rw [act, hs]

/-- Any action keeps what every step keeps. -/
theorem act_induction {motive : Coordinator → Prop} (hstart : motive h.coordinator) {a : Action}
    (hstep : ∀ s r, h.coordinator.step a = some (s, r) → motive s) :
    motive (h.act a).coordinator := by
  rcases hs : h.coordinator.step a with _ | ⟨s, r⟩
  · rw [act, hs]
    exact hstart
  · rw [act_of_step hs]
    exact hstep s r hs

/-- Tokens that are being stored for their own sake are those from before, and the one that a
checker is told to store. -/
theorem assigns_act {P : String → Prop} (hassigns : h.coordinator.Assigns P) {a : Action}
    (ha : ∀ id token, a = .assign id token → P token) : (h.act a).coordinator.Assigns P := by
  apply act_induction (motive := fun s => s.Assigns P) hassigns
  intro s r hstep
  exact hassigns.step ha hstep

/-- What a run has to do with its cluster adds no run. -/
theorem runs_noted (h : Chronicle) (id : String) (note : Note) :
    (h.noted id note).runs = h.runs := by
  unfold noted
  split <;> rfl

/-- What a step means for the run of a checker adds no run. -/
theorem runs_after (h : Chronicle) (r : Reaction) (a : Action) : (h.after r a).runs = h.runs := by
  unfold after
  split
  · exact runs_noted ..
  · rfl
  · rfl

/-- Runs stay on the account. -/
theorem runs_act (h : Chronicle) (a : Action) : ∃ l, (h.act a).runs = h.runs ++ l := by
  rcases hs : h.coordinator.step a with _ | ⟨s, r⟩
  · rw [act, hs]
    exact ⟨[], (List.append_nil _).symm⟩
  · rw [act_of_step hs]
    show ∃ l, ((h.before r a).after r a).runs = h.runs ++ l
    rw [runs_after]
    rcases h.before_cases r a with hb | ⟨id, coordinated, hb⟩ | ⟨id, outcome, hb⟩
    · exact ⟨[], by rw [hb, List.append_nil]⟩
    · rw [hb, opened]
      cases h.coordinator.slots.get? id with
      | none => exact ⟨[], (List.append_nil _).symm⟩
      | some slot => exact ⟨_, rfl⟩
    · exact ⟨[], by rw [hb, runs_noted, List.append_nil]⟩

/-- A run that can begin is on the account once it has begun. -/
theorem runs_of_opens {a : Action} {id : String} {c : Checker} {lease? : Option Lease}
    {events : List Event} (ho : h.coordinator.Opens a id c lease? events) :
    ∃ token?, (h.act a).runs = h.runs ++ [⟨id, c.config, lease?.isSome, token?⟩] := by
  have hstep := Coordinator.step_of_opens ho
  rcases hs : h.coordinator.startRun id c lease? events with ⟨s, r⟩
  rw [hs] at hstep
  refine ⟨r.token?, ?_⟩
  rw [act_of_step hstep]
  exact (runs_after ..).trans (by rw [(before_of_opens ho r).1])

/-- A run of a checker that is ready begins with a call. -/
theorem callers_of_opens {a : Action} {id : String} {c : Checker} {lease? : Option Lease}
    {events : List Event} (ho : h.coordinator.Opens a id c lease? events)
    (hf : c.config.fault? = none) : (h.act a).callers = h.callers ++ [h.runs.length] := by
  have hstep := Coordinator.step_of_opens ho
  rcases hs : h.coordinator.startRun id c lease? events with ⟨s, r⟩
  rw [hs] at hstep
  obtain ⟨hbefore, hid⟩ := before_of_opens ho r
  have hcall : ∃ call, r.call? = some call := by
    rw [Coordinator.startRun, Checker.start_of_ready _ hf] at hs
    obtain ⟨-, rfl⟩ := Prod.mk.inj hs
    exact ⟨_, rfl⟩
  obtain ⟨call, hcall⟩ := hcall
  rw [act_of_step hstep, hbefore, after, hid, hcall]
  simp [callers, noted]

/-- **What an action means for the account is one of six things.** -/
theorem account_of_act (ht : h.Tidy) (a : Action) : h.act a = h ∨ Account h a (h.act a) := by
  rcases hs : h.coordinator.step a with _ | ⟨s, r⟩
  · left
    rw [act, hs]
  right
  rw [act_of_step hs]
  cases Coordinator.runChange_of_step hs with
  | rest hafter hsubject hopen hcall =>
    -- the checker is in no run, so there is nothing to take down for it on either side of the step
    have hbefore : h.before r a = h := by
      cases a with
      | runOnce id => exact absurd rfl (hopen id).1
      | grant id => exact absurd rfl (hopen id).2
      | answer id outcome =>
        exact noted_of_none _ ((ht.current_eq_none_iff id).2 (hsubject id rfl))
      | _ => rfl
    have hend : h.after r a = h := by
      unfold after
      cases hid : a.subject? with
      | none => rfl
      | some id =>
        have hn := (ht.current_eq_none_iff id).2 (hsubject id hid)
        cases r.call? with
        | none => exact closed_of_none hn
        | some call => exact noted_of_none _ hn
    rw [hbefore, hend]
    exact .rest hafter rfl rfl rfl hsubject
  | @refuse _ id c lease? events _ _ ho hafter hcall =>
    obtain ⟨hbefore, hid⟩ := before_of_opens ho r
    have hn := (ht.current_eq_none_iff id).2 (Coordinator.underway?_of_opens ho)
    rw [hbefore, after, hid, hcall]
    -- the run was opened before the step and is closed after it
    refine .refuse ho hafter ?_ ?_ rfl
    · simp only [closed, Reaction.token?, hcall]
    · simp only [closed, Function.update_idem]
      rw [← hn, Function.update_eq_self]
  | @begin _ id c lease? events _ _ ho hf hafter hcall =>
    obtain ⟨hbefore, hid⟩ := before_of_opens ho r
    rw [hbefore, after, hid, hcall]
    refine .begin ho hf hafter ?_ ?_ ?_
    · simp only [noted, Function.update_self, Reaction.token?, hcall]
    · simp only [noted, Function.update_self]
    · simp only [noted, Function.update_self]
  | @proceed id u q answer _ _ hu hq hafter hcall =>
    obtain ⟨n, hn⟩ := ht.current_of_underway hu
    refine .proceed hn hu hq hafter ?_ ?_ ?_ <;>
      simp [before, after, Action.subject?, hcall, noted, hn]
  | @finish id u outcome _ _ hu hafter hcall =>
    obtain ⟨n, hn⟩ := ht.current_of_underway hu
    refine .finish hn hu hafter ?_ ?_ ?_ <;>
      simp [before, after, Action.subject?, hcall, noted, closed, hn]
  | @cut _ id u _ _ ha hu hafter hcall =>
    obtain ⟨n, hn⟩ := ht.current_of_underway hu
    refine .cut ha hn hu hafter ?_ ?_ ?_ <;>
      rcases ha with rfl | rfl <;> simp [before, after, Action.subject?, hcall, closed]

/-- A run that is under way after an action was so before, has just begun, or has just gone on to
its next operation. -/
theorem origin_of_act (ht : h.Tidy) {a : Action} {id : String} {u : Underway}
    (hu : (h.act a).coordinator.underway? id = some u) :
    h.coordinator.underway? id = some u
    ∨ (∃ c lease? events token, h.coordinator.Opens a id c lease? events
        ∧ u = ⟨c.config, lease?, .settingToken token⟩)
    ∨ ∃ v q answer, a = .answer id (.ok answer) ∧ h.coordinator.underway? id = some v
        ∧ v.pending.next? v.config h.coordinator.now = some q ∧ u = { v with pending := q } := by
  -- what an action does to the run of another checker is nothing
  have hupdate : ∀ {other : String} {u? : Option Underway},
      (h.act a).coordinator.underway? = Function.update h.coordinator.underway? other u? →
      h.coordinator.underway? id = some u ∨ (id = other ∧ u? = some u) := by
    intro other u? hstate
    rw [hstate] at hu
    by_cases hid : id = other
    · subst hid
      rw [Function.update_self] at hu
      exact .inr ⟨rfl, hu⟩
    · rw [Function.update_of_ne hid] at hu
      exact .inl hu
  rcases account_of_act ht a with heq | hacc
  · rw [heq] at hu
    exact .inl hu
  generalize h.act a = h' at hu hacc hupdate
  cases hacc with
  | rest hstate =>
    rw [hstate] at hu
    exact .inl hu
  | refuse _ hstate =>
    rw [hstate] at hu
    exact .inl hu
  | @begin _ _ other c lease? events token hopens _ hstate =>
    rcases hupdate hstate with hold | ⟨rfl, hnew⟩
    · exact .inl hold
    · exact .inr (.inl ⟨c, lease?, events, token, hopens, (Option.some.inj hnew).symm⟩)
  | @proceed _ other n v q answer _ hv hq hstate =>
    rcases hupdate hstate with hold | ⟨rfl, hnew⟩
    · exact .inl hold
    · exact .inr (.inr ⟨v, q, answer, rfl, hv, hq, (Option.some.inj hnew).symm⟩)
  | finish _ _ hstate =>
    rcases hupdate hstate with hold | ⟨-, hnew⟩
    · exact .inl hold
    · simp at hnew
  | cut _ _ _ hstate =>
    rcases hupdate hstate with hold | ⟨-, hnew⟩
    · exact .inl hold
    · simp at hnew

/-- Two accounts of what there is for each checker still agree after the same checker was given
something, or nothing, in both. -/
theorem isSome_update {α β : Type} {f : String → Option α} {g : String → Option β} {id : String}
    {x : Option α} {y : Option β} (hfg : ∀ i, (f i).isSome = (g i).isSome)
    (hxy : x.isSome = y.isSome) (i : String) :
    (Function.update f id x i).isSome = (Function.update g id y i).isSome := by
  by_cases hi : i = id
  · subst hi
    rw [Function.update_self, Function.update_self, hxy]
  · rw [Function.update_of_ne hi, Function.update_of_ne hi, hfg i]

/-- The account stays tidy. -/
theorem Tidy.act (ht : h.Tidy) (a : Action) : (h.act a).Tidy := by
  rcases account_of_act ht a with heq | hacc
  · rw [heq]
    exact ht
  intro i
  cases hacc with
  | rest hstate hruns hcurrent => rw [hstate, hcurrent, ht i]
  | refuse ho hstate hruns hcurrent => rw [hstate, hcurrent, ht i]
  | begin ho hf hstate hruns hcurrent =>
    rw [hstate, hcurrent]
    exact isSome_update ht rfl i
  | proceed hn hu hq hstate hruns hcurrent =>
    -- the checker stays in its run, which is to say that it is given the same run again
    rw [hstate, hcurrent, ← Function.update_eq_self (f := h.current), hn]
    exact isSome_update ht rfl i
  | finish hn hu hstate hruns hcurrent =>
    rw [hstate, hcurrent]
    exact isSome_update ht rfl i
  | cut ha hn hu hstate hruns hcurrent =>
    rw [hstate, hcurrent]
    exact isSome_update ht rfl i

/-- What holds of a chronicle, and after any action of every one that it holds of, holds whatever
happens. -/
theorem run_induction {motive : Chronicle → Prop} (h : Chronicle) (hstart : motive h)
    (hact : ∀ h a, motive h → motive (h.act a)) (actions : List Action) :
    motive (h.run actions) := by
  induction actions generalizing h with
  | nil => exact hstart
  | cons a actions ih => exact ih (h.act a) (hact h a hstart)

/-- Before anything has happened the account is tidy. -/
theorem tidy_fresh (tokens : TokenSource) (epoch : Instant) : (fresh tokens epoch).Tidy :=
  fun _ => rfl

end Chronicle

end PodCheck
