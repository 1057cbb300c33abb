import Mathlib.Data.List.Chain
import PodCheck.Proofs.Chronicle
import PodCheck.Proofs.RunPod.Identity

/-! # The order of a run's operations

A run stores its token, deletes the pod of the run before and creates its own, each at most once and
only after the operation before has succeeded. This holds for whatever the cluster answers, for any
number of checkers whose runs go on side by side, and wherever a run is cut off
(`Chronicle.calls_follow_token`). The invariant says of each run on the account how far it has come
(`Chronicle.Orderly`). -/

namespace PodCheck

/-- What a run had to do with its cluster by the time that it waits for an operation. -/
inductive Awaits (c : CheckerConfig) : Pending → List Note → Prop
  /-- It called nothing but that its token be stored. -/
  | settingToken (token : String) :
      Awaits c (.settingToken token) [.called (.setToken c.ns c.checkName token)]
  /-- Its token was stored. -/
  | removing {token : String} {notes : List Note} (answer : Answer)
      (h : Awaits c (.settingToken token) notes) :
      Awaits c (.removing token)
        (notes ++ [.answered (.ok answer), .called (.deletePod c.ns c.podName)])
  /-- The pod of the run before was deleted. -/
  | submitting {token : String} {notes : List Note} (answer : Answer) (now : Instant)
      (h : Awaits c (.removing token) notes) :
      Awaits c (.submitting token (c.pod token now))
        (notes ++ [.answered (.ok answer), .called (.createPod c.ns (c.pod token now))])

/-- What a run with the given token had to do with its cluster, now or when it was over. -/
inductive Told (c : CheckerConfig) : Option String → List Note → Prop
  /-- It was refused. -/
  | refused : Told c none []
  /-- It waits, or was cut off while it waited. -/
  | waiting {p : Pending} {notes : List Note} (h : Awaits c p notes) : Told c (some p.token) notes
  /-- It was over after an operation. -/
  | ended {p : Pending} {notes : List Note} (h : Awaits c p notes) (outcome : Outcome) :
      Told c (some p.token) (notes ++ [.answered outcome])

/-- An operation that succeeds takes a run on to the next one. -/
theorem Awaits.proceed {c : CheckerConfig} {now : Instant} {p q : Pending} {notes : List Note}
    (h : Awaits c p notes) (hq : p.next? c now = some q) (answer : Answer) :
    Awaits c q (notes ++ [.answered (.ok answer), .called (q.call c)]) := by
  cases p with
  | settingToken token =>
    obtain rfl : Pending.removing token = q := by simpa [Pending.next?] using hq
    exact .removing answer h
  | removing token =>
    obtain rfl : Pending.submitting token (c.pod token now) = q := by
      simpa [Pending.next?] using hq
    exact .submitting answer now h
  | submitting token pod => simp [Pending.next?] at hq

/-- A note may follow another one: an operation ends right after it was called, and the next one is
called only if it has succeeded. -/
def Note.MayFollow : Note → Note → Prop
  | earlier, .called _ => ∃ answer, earlier = .answered (.ok answer)
  | earlier, .answered _ => ∃ call, earlier = .called call

/-- The operations of a run, if its pod is built at a moment. -/
def CheckerConfig.runCalls (c : CheckerConfig) (token : String) (now : Instant) : List Call :=
  [.setToken c.ns c.checkName token, .deletePod c.ns c.podName, .createPod c.ns (c.pod token now)]

/-- A run that creates a pod has built it for its token. -/
theorem Awaits.exists_pod_eq {c : CheckerConfig} {token : String} {pod : Pod} {notes : List Note}
    (h : Awaits c (.submitting token pod) notes) : ∃ now, pod = c.pod token now := by
  cases h with
  | submitting answer now h => exact ⟨now, rfl⟩

/-- The last thing of a run that waits is a call. -/
theorem Awaits.getLast? {c : CheckerConfig} {p : Pending} {notes : List Note}
    (h : Awaits c p notes) : notes.getLast? = some (.called (p.call c)) := by
  cases h with
  | settingToken token => rfl
  | removing answer h => simp [Pending.call]
  | submitting answer now h => simp [Pending.call]

/-- The outcome of the operation that a run waits for may follow. -/
theorem Awaits.isChain_append {c : CheckerConfig} {p : Pending} {notes more : List Note}
    {outcome : Outcome} (h : Awaits c p notes) (hnotes : notes.IsChain Note.MayFollow)
    (hmore : (.answered outcome :: more).IsChain Note.MayFollow) :
    (notes ++ .answered outcome :: more).IsChain Note.MayFollow := by
  refine List.isChain_append.2 ⟨hnotes, hmore, ?_⟩
  intro x hx y hy
  rw [h.getLast?] at hx
  obtain rfl := Option.some.inj hx
  obtain rfl := Option.some.inj hy
  exact ⟨p.call c, rfl⟩

/-- A run that waits has called its operations one by one. -/
theorem Awaits.isChain {c : CheckerConfig} {p : Pending} {notes : List Note}
    (h : Awaits c p notes) : notes.IsChain Note.MayFollow := by
  induction h with
  | settingToken token => exact List.isChain_singleton _
  | removing answer h ih => exact h.isChain_append ih (List.isChain_pair.2 ⟨answer, rfl⟩)
  | submitting answer now h ih => exact h.isChain_append ih (List.isChain_pair.2 ⟨answer, rfl⟩)

/-- A run that waits has called the first ones of its operations. -/
theorem Awaits.calls {c : CheckerConfig} {p : Pending} {notes : List Note} (h : Awaits c p notes) :
    ∃ now, notes.filterMap Note.call? <+: c.runCalls p.token now := by
  cases h with
  | settingToken token => exact ⟨.ofNanos 0, by simp [CheckerConfig.runCalls, Pending.token]⟩
  | removing answer h =>
    cases h with
    | settingToken token =>
      exact ⟨.ofNanos 0, by simp [List.filterMap_cons, CheckerConfig.runCalls, Pending.token]⟩
  | submitting answer now h =>
    cases h with
    | removing answer h =>
      cases h with
      | settingToken token =>
        exact ⟨now, by simp [List.filterMap_cons, CheckerConfig.runCalls, Pending.token]⟩

/-- A run has called its operations one by one. -/
theorem Told.isChain {c : CheckerConfig} {token? : Option String} {notes : List Note}
    (h : Told c token? notes) : notes.IsChain Note.MayFollow := by
  cases h with
  | refused => exact List.isChain_nil
  | waiting h => exact h.isChain
  | ended h outcome => exact h.isChain_append h.isChain (List.isChain_singleton _)

/-- A run has called the first ones of its operations with the token that it drew, or was refused
and has called nothing. -/
theorem Told.calls {c : CheckerConfig} {token? : Option String} {notes : List Note}
    (h : Told c token? notes) :
    ∃ token now, (token? = some token ∨ notes = [])
      ∧ notes.filterMap Note.call? <+: c.runCalls token now := by
  cases h with
  | refused => exact ⟨"", .ofNanos 0, .inr rfl, List.nil_prefix⟩
  | @waiting p notes h =>
    obtain ⟨now, hcalls⟩ := h.calls
    exact ⟨p.token, now, .inl rfl, hcalls⟩
  | @ended p notes h outcome =>
    obtain ⟨now, hcalls⟩ := h.calls
    exact ⟨p.token, now, .inl rfl, by simpa [List.filterMap_cons] using hcalls⟩

namespace Chronicle

variable {h h' : Chronicle}

/-- A checker is in a run, as the account and the checker itself have it. -/
def Rides (h : Chronicle) (id : String) (n : Nat) (u : Underway) : Prop :=
  h.current id = some n ∧ h.coordinator.underway? id = some u

/-- **The account of every run is in order**, and says how far the run has come. -/
structure Orderly (h : Chronicle) : Prop where
  /-- The account holds the runs that checkers are in. -/
  tidy : h.Tidy
  /-- Nothing is noted of runs that did not begin. -/
  inRange : ∀ e ∈ h.notes, e.1 < h.runs.length
  /-- A run that is under way stands in the account as its checker has it. -/
  live : ∀ id n u, h.Rides id n u →
    h.runs[n]? = some ⟨id, u.config, u.lease?.isSome, some u.pending.token⟩
      ∧ Awaits u.config u.pending (h.trail n)
  /-- Every run has done what it has to do in order. -/
  told : ∀ n run, h.runs[n]? = some run → Told run.config run.token? (h.trail n)

/-- Two checkers are not in the same run. -/
theorem Orderly.eq_of_rides (ho : h.Orderly) {id other : String} {n : Nat} {u v : Underway}
    (hu : h.Rides id n u) (hv : h.Rides other n v) : id = other := by
  have h₁ := (ho.live id n u hu).1
  have h₂ := (ho.live other n v hv).1
  rw [h₁] at h₂
  exact congrArg Run.id (Option.some.inj h₂)

/-- A run that is under way began. -/
theorem Orderly.lt_of_rides (ho : h.Orderly) {id : String} {n : Nat} {u : Underway}
    (hr : h.Rides id n u) : n < h.runs.length :=
  (List.getElem?_eq_some_iff.1 (ho.live id n u hr).1).1

/-- Nothing is noted yet of the run that begins next. -/
theorem Orderly.trail_length (ho : h.Orderly) : h.trail h.runs.length = [] := by
  rw [trail, List.map_eq_nil_iff, List.filter_eq_nil_iff]
  intro e he hlast
  have := ho.inRange e he
  rw [of_decide_eq_true hlast] at this
  exact Nat.lt_irrefl _ this

/-- What an action does to the run of one checker leaves the others in their runs. -/
theorem rides_of_update {id other : String} {m : Nat} {u : Underway} {n? : Option Nat}
    {u? : Option Underway}
    (hstate : h'.coordinator.underway? = Function.update h.coordinator.underway? id u?)
    (hcurrent : h'.current = Function.update h.current id n?) (hr : h'.Rides other m u) :
    (other = id ∧ n? = some m ∧ u? = some u) ∨ (other ≠ id ∧ h.Rides other m u) := by
  obtain ⟨hm, hu⟩ := hr
  rw [hcurrent] at hm
  rw [hstate] at hu
  by_cases ho : other = id
  · subst ho
    rw [Function.update_self] at hm hu
    exact .inl ⟨rfl, hm, hu⟩
  · rw [Function.update_of_ne ho] at hm hu
    exact .inr ⟨ho, hm, hu⟩

/-- Notes about one run leave the trails of the others. -/
theorem trail_of_ne {n m : Nat} {l : List Note} (hnotes : h'.notes = h.notes ++ l.map (n, ·))
    (hm : m ≠ n) : h'.trail m = h.trail m := by
  have hnil : (l.map (n, ·)).filter (·.1 = m) = [] := by
    rw [List.filter_eq_nil_iff]
    intro e he
    obtain ⟨note, -, rfl⟩ := List.mem_map.1 he
    simpa using Ne.symm hm
  rw [trail_of_notes hnotes, hnil, List.map_nil, List.append_nil]

/-- Notes about a run stand at the end of its trail. -/
theorem trail_of_self {n : Nat} {l : List Note} (hnotes : h'.notes = h.notes ++ l.map (n, ·)) :
    h'.trail n = h.trail n ++ l := by
  have hall : (l.map (n, ·)).filter (·.1 = n) = l.map (n, ·) := by
    rw [List.filter_eq_self]
    intro e he
    obtain ⟨note, -, rfl⟩ := List.mem_map.1 he
    exact decide_eq_true rfl
  rw [trail_of_notes hnotes, hall, List.map_map]
  simp [Function.comp_def]

/-- Notes about a run that began are notes about runs that began. -/
theorem Orderly.inRange_of_notes (ho : h.Orderly) {n : Nat} {l : List Note}
    (hnotes : h'.notes = h.notes ++ l.map (n, ·)) (hn : n < h'.runs.length)
    (hruns : h.runs.length ≤ h'.runs.length) : ∀ e ∈ h'.notes, e.1 < h'.runs.length := by
  intro e he
  rw [hnotes] at he
  rcases List.mem_append.1 he with he | he
  · exact Nat.lt_of_lt_of_le (ho.inRange e he) hruns
  · obtain ⟨note, -, rfl⟩ := List.mem_map.1 he
    exact hn

/-- A run that is not the one under consideration goes on as before, or does nothing. -/
theorem Orderly.live_of_ne (ho : h.Orderly) {id other : String} {n m : Nat} {u v : Underway}
    {l : List Note} (hn : h.Rides id n u) (hm : h.Rides other m v) (hne : other ≠ id)
    (hruns : h'.runs = h.runs) (hnotes : h'.notes = h.notes ++ l.map (n, ·)) :
    h'.runs[m]? = some ⟨other, v.config, v.lease?.isSome, some v.pending.token⟩
      ∧ Awaits v.config v.pending (h'.trail m) := by
  have hmn : m ≠ n := by
    intro e
    exact hne (ho.eq_of_rides hm (e ▸ hn))
  rw [hruns, trail_of_ne hnotes hmn]
  exact ho.live other m v hm

/-- A run that is under way goes on as before while another one begins. -/
theorem Orderly.live_of_append (ho : h.Orderly) {id : String} {n : Nat} {u : Underway} {run : Run}
    {l : List Note} (hr : h.Rides id n u) (hruns : h'.runs = h.runs ++ [run])
    (hnotes : h'.notes = h.notes ++ l.map (h.runs.length, ·)) :
    h'.runs[n]? = some ⟨id, u.config, u.lease?.isSome, some u.pending.token⟩
      ∧ Awaits u.config u.pending (h'.trail n) := by
  have hlt := ho.lt_of_rides hr
  rw [hruns, List.getElem?_append_left hlt, trail_of_ne hnotes (Nat.ne_of_lt hlt)]
  exact ho.live id n u hr

/-- Notes about one run leave the order of the others. -/
theorem Orderly.told_of_notes (ho : h.Orderly) {n : Nat} {run : Run} {l : List Note}
    (hrun : h.runs[n]? = some run) (hruns : h'.runs = h.runs)
    (hnotes : h'.notes = h.notes ++ l.map (n, ·))
    (htold : Told run.config run.token? (h.trail n ++ l)) :
    ∀ m run', h'.runs[m]? = some run' → Told run'.config run'.token? (h'.trail m) := by
  intro m run' hrun'
  rw [hruns] at hrun'
  by_cases hm : m = n
  · subst hm
    obtain rfl : run = run' := Option.some.inj (hrun.symm.trans hrun')
    rw [trail_of_self hnotes]
    exact htold
  · rw [trail_of_ne hnotes hm]
    exact ho.told m run' hrun'

/-- A run is added to the account together with what it has to do at once. -/
theorem Orderly.told_of_begin (ho : h.Orderly) {run : Run} {l : List Note}
    (hruns : h'.runs = h.runs ++ [run]) (hnotes : h'.notes = h.notes ++ l.map (h.runs.length, ·))
    (htold : Told run.config run.token? l) :
    ∀ m run', h'.runs[m]? = some run' → Told run'.config run'.token? (h'.trail m) := by
  intro m run' hrun'
  rw [hruns] at hrun'
  by_cases hm : m = h.runs.length
  · subst hm
    obtain rfl : run = run' := by simpa using hrun'
    rw [trail_of_self hnotes, ho.trail_length, List.nil_append]
    exact htold
  · have hlt : m < h.runs.length := by
      have hle := (List.getElem?_eq_some_iff.1 hrun').1
      rw [List.length_append, List.length_singleton] at hle
      omega
    rw [List.getElem?_append_left hlt] at hrun'
    rw [trail_of_ne hnotes hm]
    exact ho.told m run' hrun'

/-- An action that concerns no run keeps the account in order. -/
theorem Orderly.of_rest (ho : h.Orderly) (htidy : h'.Tidy)
    (hstate : h'.coordinator.underway? = h.coordinator.underway?) (hruns : h'.runs = h.runs)
    (hcurrent : h'.current = h.current) (hnotes : h'.notes = h.notes) : h'.Orderly := by
  have htrail : h'.trail = h.trail := by
    funext n
    rw [trail, trail, hnotes]
  constructor
  · exact htidy
  · rw [hnotes, hruns]
    exact ho.inRange
  · intro id n u hr
    rw [Rides, hcurrent, hstate] at hr
    rw [hruns, htrail]
    exact ho.live id n u hr
  · rw [hruns, htrail]
    exact ho.told

/-- A run that is refused keeps the account in order. -/
theorem Orderly.of_refuse (ho : h.Orderly) (htidy : h'.Tidy) {id : String} {c : CheckerConfig}
    {coordinated : Bool} (hstate : h'.coordinator.underway? = h.coordinator.underway?)
    (hruns : h'.runs = h.runs ++ [⟨id, c, coordinated, none⟩])
    (hcurrent : h'.current = h.current) (hnotes : h'.notes = h.notes) : h'.Orderly := by
  have hnotes' : h'.notes = h.notes ++ ([] : List Note).map (h.runs.length, ·) := by
    rw [hnotes, List.map_nil, List.append_nil]
  constructor
  · exact htidy
  · refine ho.inRange_of_notes hnotes' ?_ ?_ <;> simp [hruns]
  · intro other n u hr
    rw [Rides, hcurrent, hstate] at hr
    exact ho.live_of_append hr hruns hnotes'
  · exact ho.told_of_begin hruns hnotes' .refused

/-- A run that begins keeps the account in order. -/
theorem Orderly.of_begin (ho : h.Orderly) (htidy : h'.Tidy) {id token : String} {c : CheckerConfig}
    {lease? : Option Lease}
    (hstate : h'.coordinator.underway? = Function.update h.coordinator.underway? id
      (some ⟨c, lease?, .settingToken token⟩))
    (hruns : h'.runs = h.runs ++ [⟨id, c, lease?.isSome, some token⟩])
    (hcurrent : h'.current = Function.update h.current id (some h.runs.length))
    (hnotes : h'.notes
      = h.notes ++ [(h.runs.length, .called (.setToken c.ns c.checkName token))]) :
    h'.Orderly := by
  have hnotes' : h'.notes = h.notes ++
      [Note.called (.setToken c.ns c.checkName token)].map (h.runs.length, ·) := hnotes
  constructor
  · exact htidy
  · refine ho.inRange_of_notes hnotes' ?_ ?_ <;> simp [hruns]
  · intro other n u hr
    rcases rides_of_update hstate hcurrent hr with ⟨rfl, hn, hu⟩ | ⟨-, hr⟩
    · obtain rfl := Option.some.inj hn
      obtain rfl := Option.some.inj hu
      -- the number of the run was free, so its trail holds the call alone
      rw [trail_of_self hnotes', ho.trail_length, List.nil_append]
      exact ⟨by simp [hruns, Pending.token], .settingToken token⟩
    · exact ho.live_of_append hr hruns hnotes'
  · exact ho.told_of_begin hruns hnotes' (.waiting (.settingToken token))

/-- A run that goes on to its next operation keeps the account in order. -/
theorem Orderly.of_proceed (ho : h.Orderly) (htidy : h'.Tidy) {id : String} {n : Nat} {u : Underway}
    {q : Pending} {now : Instant} {answer : Answer} (hr : h.Rides id n u)
    (hq : u.pending.next? u.config now = some q)
    (hstate : h'.coordinator.underway?
      = Function.update h.coordinator.underway? id (some { u with pending := q }))
    (hruns : h'.runs = h.runs) (hcurrent : h'.current = h.current)
    (hnotes : h'.notes
      = h.notes ++ [(n, .answered (.ok answer)), (n, .called (q.call u.config))]) :
    h'.Orderly := by
  have hcurrent' : h'.current = Function.update h.current id (some n) := by
    rw [hcurrent, ← hr.1, Function.update_eq_self]
  have hnotes' : h'.notes = h.notes ++
      [Note.answered (.ok answer), Note.called (q.call u.config)].map (n, ·) := hnotes
  obtain ⟨hrun, hawaits⟩ := ho.live id n u hr
  have hnext := hawaits.proceed hq answer
  have htoken := Pending.token_of_next? hq
  constructor
  · exact htidy
  · refine ho.inRange_of_notes hnotes' ?_ (Nat.le_of_eq (by rw [hruns]))
    rw [hruns]
    exact ho.lt_of_rides hr
  · intro other m v hv
    rcases rides_of_update hstate hcurrent' hv with ⟨rfl, hm, hself⟩ | ⟨hne, hv⟩
    · obtain rfl := Option.some.inj hm
      obtain rfl := Option.some.inj hself
      -- the run keeps its token, and with it its entry in the account
      rw [hruns, trail_of_self hnotes', htoken]
      exact ⟨hrun, hnext⟩
    · exact ho.live_of_ne hr hv hne hruns hnotes'
  · refine ho.told_of_notes hrun hruns hnotes' ?_
    rw [← htoken]
    exact .waiting hnext

/-- A run that stops keeps the account in order, if it has been told how. -/
theorem Orderly.of_stop (ho : h.Orderly) (htidy : h'.Tidy) {id : String} {n : Nat} {u : Underway}
    {l : List Note} (hr : h.Rides id n u)
    (hstate : h'.coordinator.underway? = Function.update h.coordinator.underway? id none)
    (hruns : h'.runs = h.runs) (hcurrent : h'.current = Function.update h.current id none)
    (hnotes : h'.notes = h.notes ++ l.map (n, ·))
    (htold : Told u.config (some u.pending.token) (h.trail n ++ l)) : h'.Orderly := by
  constructor
  · exact htidy
  · refine ho.inRange_of_notes hnotes ?_ (Nat.le_of_eq (by rw [hruns]))
    rw [hruns]
    exact ho.lt_of_rides hr
  · intro other m v hv
    rcases rides_of_update hstate hcurrent hv with ⟨-, hm, -⟩ | ⟨hne, hv⟩
    · simp at hm
    · exact ho.live_of_ne hr hv hne hruns hnotes
  · exact ho.told_of_notes (ho.live id n u hr).1 hruns hnotes htold

/-- **Every action keeps the account in order.** -/
theorem Orderly.act (ho : h.Orderly) (a : Action) : (h.act a).Orderly := by
  rcases account_of_act ho.tidy a with heq | hacc
  · rw [heq]
    exact ho
  have htidy := ho.tidy.act a
  generalize h.act a = h' at hacc htidy
  cases hacc with
  | rest hstate hruns hcurrent hnotes => exact ho.of_rest htidy hstate hruns hcurrent hnotes
  | refuse _ hstate hruns hcurrent hnotes => exact ho.of_refuse htidy hstate hruns hcurrent hnotes
  | begin _ _ hstate hruns hcurrent hnotes => exact ho.of_begin htidy hstate hruns hcurrent hnotes
  | proceed hn hu hq hstate hruns hcurrent hnotes =>
    exact ho.of_proceed htidy ⟨hn, hu⟩ hq hstate hruns hcurrent hnotes
  | @finish _ id n u outcome hn hu hstate hruns hcurrent hnotes =>
    have hawaits := (ho.live id n u ⟨hn, hu⟩).2
    exact ho.of_stop htidy (l := [.answered outcome]) ⟨hn, hu⟩ hstate hruns hcurrent hnotes
      (.ended hawaits outcome)
  | @cut _ _ id n u _ hn hu hstate hruns hcurrent hnotes =>
    -- a run that is cut off has no say in it: its trail ends with the call that it waited for
    have hawaits := (ho.live id n u ⟨hn, hu⟩).2
    refine ho.of_stop htidy (l := []) ⟨hn, hu⟩ hstate hruns hcurrent ?_ ?_
    · rw [hnotes, List.map_nil, List.append_nil]
    · rw [List.append_nil]
      exact .waiting hawaits

/-- The account of whatever has happened is in order. -/
theorem orderly_run (tokens : TokenSource) (epoch : Instant) (actions : List Action) :
    ((fresh tokens epoch).run actions).Orderly := by
  refine run_induction _ ⟨tidy_fresh tokens epoch, ?_, ?_, ?_⟩ (fun _ a ho => ho.act a) actions
  · simp [fresh]
  · rintro id n u ⟨hn, -⟩
    simp [fresh] at hn
  · intro n run hrun
    simp [fresh] at hrun

/-- Every operation that is called, unless a token is stored for its own sake, is on the account of
a run. -/
theorem Orderly.calls_act (ho : h.Orderly) {a : Action} {s : Coordinator} {r : Reaction}
    {call : Call} (hs : h.coordinator.step a = some (s, r)) (hcall : r.call? = some call)
    (ha : ∀ id token, a ≠ .assign id token) :
    ∃ n run, (h.act a).runs[n]? = some run ∧ (h.act a).calls n = h.calls n ++ [call] := by
  -- the call is taken down for the run that the checker is in by then
  have hafter : ∀ id n, a.subject? = some id → (h.before r a).current id = some n →
      (h.act a).calls n = h.calls n ++ [call] ∧ (h.act a).runs = (h.before r a).runs := by
    intro id n hid hn
    have hend : (h.before r a).after r a = (h.before r a).noted id (.called call) := by
      rw [after, hid, hcall]
    rw [act_of_step hs, hend]
    constructor
    · have hmore := calls_noted call hn
      rw [calls_before] at hmore
      exact hmore
    · rw [noted_of_some _ hn]
  cases Coordinator.runChange_of_step hs with
  | rest _ _ _ hnone =>
    rcases hnone with hnone | ⟨id, token, rfl⟩
    · simp [hnone] at hcall
    · exact absurd rfl (ha id token)
  | refuse _ _ hnone => simp [hnone] at hcall
  | finish _ _ hnone => simp [hnone] at hcall
  | cut _ _ _ hnone => simp [hnone] at hcall
  | @begin _ id c lease? events _ _ hopens =>
    obtain ⟨hbefore, hid⟩ := before_of_opens hopens r
    obtain ⟨hcalls, hruns⟩ := hafter id h.runs.length hid (by rw [hbefore]; simp)
    refine ⟨_, ⟨id, c.config, lease?.isSome, r.token?⟩, ?_, hcalls⟩
    rw [hruns, hbefore]
    simp
  | @proceed id u q answer _ _ hu =>
    obtain ⟨n, hn⟩ := ho.tidy.current_of_underway hu
    have hbefore : h.before r (.answer id (.ok answer))
        = { h with notes := h.notes ++ [(n, .answered (.ok answer))] } := noted_of_some _ hn
    obtain ⟨hcalls, hruns⟩ := hafter id n rfl (by rw [hbefore]; exact hn)
    refine ⟨n, ⟨id, u.config, u.lease?.isSome, some u.pending.token⟩, ?_, hcalls⟩
    rw [hruns, hbefore]
    exact (ho.live id n u ⟨hn, hu⟩).1

/-! ## The order of all runs -/

/-- **Every run stores its token, deletes the pod of the run before and creates its own**: what it
called is a beginning of these three, and each of them was called once the one before it had
succeeded. The pod that it creates bears the name of the checker and carries the token that was
stored. Nothing is called but by runs, and to store a token for its own sake. -/
theorem calls_follow_token (tokens : TokenSource) (epoch : Instant) (actions : List Action) :
    let h := (fresh tokens epoch).run actions
    (∀ n run, h.runs[n]? = some run →
      (h.trail n).IsChain Note.MayFollow ∧
      ∃ token now, (run.token? = some token ∨ h.trail n = [])
        ∧ h.calls n <+: [.setToken run.config.ns run.config.checkName token,
            .deletePod run.config.ns run.config.podName,
            .createPod run.config.ns (run.config.pod token now)]
        ∧ (run.config.pod token now).metadata.name = some run.config.podName
        ∧ (run.config.pod token now).metadata.ns = some run.config.ns
        ∧ (run.config.pod token now).Carries token)
    ∧ ∀ a s r call, h.coordinator.step a = some (s, r) → r.call? = some call →
        (∃ id token, a = .assign id token)
        ∨ ∃ n run, (h.act a).runs[n]? = some run ∧ (h.act a).calls n = h.calls n ++ [call] := by
  intro h
  have ho : h.Orderly := orderly_run tokens epoch actions
  refine ⟨?_, ?_⟩
  · intro n run hrun
    have htold := ho.told n run hrun
    obtain ⟨token, now, htoken, hcalls⟩ := htold.calls
    exact ⟨htold.isChain, token, now, htoken, hcalls, rfl, rfl, run.config.carries_pod token now⟩
  · intro a s r call hs hcall
    by_cases ha : ∃ id token, a = .assign id token
    · exact .inl ha
    · refine .inr (ho.calls_act hs hcall ?_)
      intro id token hassign
      exact ha ⟨id, token, hassign⟩

/-- Two runs of one check side by side, one of which is cut off. -/
theorem calls_follow_token_side_by_side :
    let run : Run := ⟨"b", (Checker.plain "prod" "web" "probe").config, true, some (tokenText 2)⟩
    let h := (fresh {} (.ofNanos 0)).run
      [.place "a" (.plain "prod" "web" "probe"), .place "b" (.plain "prod" "web" "probe"),
        .runOnce "a", .runCheck "b", .grant "b", .answer "a" (.ok .done),
        .answer "b" (.ok .done), .drop "a", .answer "b" (.ok .done)]
    h.runs[1]? = some run ∧ (h.calls 0).length = 2 ∧ (h.calls 1).length = 3
    ∧ (h.trail 1).IsChain Note.MayFollow
    ∧ ∃ token now, (run.token? = some token ∨ h.trail 1 = [])
      ∧ h.calls 1 <+: run.config.runCalls token now
      ∧ (run.config.pod token now).Carries token := by
  intro run h
  have hrun : h.runs[1]? = some run := by decide +kernel
  obtain ⟨hchain, token, now, htoken, hcalls, -, -, hcarries⟩ :=
    (calls_follow_token {} (.ofNanos 0) _).1 1 run hrun
  exact ⟨hrun, by decide +kernel, by decide +kernel, hchain, token, now, htoken, hcalls, hcarries⟩

end Chronicle

end PodCheck
