import PodCheck.Proofs.Api.Talk

/-! # What a deletion waits for

After a deletion that has only begun, lists and watches show the pod, again and again, until it is
gone. What they show, and when, is told by the responses alone (`Exchange.sightings`), without
regard to what ends the wait. The wait ends with the first sighting in time that decides, or else
with the time of the pod (`Deletion.verdict`, `Exchange.outcome_talk_of_deletion`): well if that is
the pod's being gone, and badly if it is a failure (`Deletion.verdict_eq_done_iff`,
`Deletion.verdict_eq_watch_iff`, `Deletion.verdict_eq_timeout_iff`). Main statement: how a deletion
ends, by the answer to it and the sightings after it (`Exchange.outcome_talk_delete`). -/

namespace PodCheck

open Api Simulation

namespace Api

/-! ## Sightings -/

/-- Something that a list or a watch has shown. -/
structure Sighting where
  /-- The milliseconds since the deletion was answered. -/
  time : Nat
  /-- What was seen. -/
  shows : Observation
deriving DecidableEq

/-- A sighting comes before the time of the pod is over. -/
def Sighting.InTime (s : Sighting) : Prop := s.time ≤ deletionMillis

instance (s : Sighting) : Decidable s.InTime := inferInstanceAs (Decidable (_ ≤ _))

/-- A sighting shows that a pod is gone: no pod bears its name, or another one does. -/
def Sighting.ShowsGone (s : Sighting) (uid : String) : Prop :=
  s.shows = .absent ∨ ∃ other, s.shows = .present other ∧ other ≠ some uid

/-- A sighting that shows neither that a pod is gone nor a failure shows the pod itself. -/
theorem Sighting.shows_same_iff {s : Sighting} {uid : String} :
    s.shows = .present (some uid) ↔ ¬s.ShowsGone uid ∧ s.shows ≠ .failure := by
  rw [ShowsGone]
  cases s.shows with
  | present other => by_cases hother : other = some uid <;> simp [hother]
  | _ => simp

namespace Exchange

/-- What a reply shows of a pod, and the exchange that follows unless that decides. A list is read
as a whole, and a watch as far as it has come. -/
def shown (x : Exchange) (reply : Reply) : List Observation × Option Exchange :=
  match x with
  | .list pod _ seen =>
    if hasEnded reply then
      let (shown, next?) := readPage seen reply
      (shown, next?.map fun
        | .page start => .list pod (some start) (seen || !shown.isEmpty)
        | .watch version => .watch pod version)
    else ([], none)
  | .watch pod version =>
    let (shown, version) := readWatch version reply
    (shown, if hasEnded reply then some (.watch pod version) else none)
  | _ => ([], none)

/-- What lists and watches show from an exchange on, which begins at a time. A request that cannot
be written fails, no request is sent when the time of the pod is over, and behind the end of the
script the connection fails. -/
def sightings (x : Exchange) (now : Nat) : List Response → List Sighting
  | [] =>
    if x.request?.isNone then [⟨now, .failure⟩]
    else if deletionMillis ≤ now then []
    else [⟨now, .failure⟩]
  | r :: rest =>
    if x.request?.isNone then [⟨now, .failure⟩]
    else if deletionMillis ≤ now ∨ r.hangs then []
    else
      (x.shown r.reply).1.map (⟨now + r.delay, ·⟩)
        ++ match (x.shown r.reply).2 with
          | some next => next.sightings (now + r.delay) rest
          | none => []

end Exchange

/-- What lists and watches show of a pod after its deletion was answered. -/
def Deletion.sightings (d : Deletion) (script : List Response) : List Sighting :=
  (Exchange.list d none false).sightings 0 script

/-- How a sighting ends the wait, if it comes in time and decides. -/
def Deletion.decides? (d : Deletion) (s : Sighting) : Option Outcome :=
  if s.InTime then d.conclude? s.shows else none

/-- How a wait ends: with the first sighting in time that decides, or else with the time of the
pod. -/
def Deletion.verdict (d : Deletion) (seen : List Sighting) : Outcome :=
  (seen.findSome? d.decides?).getD (.error d.timeout)

namespace Exchange

variable {x next : Exchange} {d : Deletion} {now : Nat} {reply : Reply} {script : List Response}

/-- A page after which nothing comes shows a failure. -/
theorem readPage_of_none {seen : Bool} (h : (readPage seen reply).2 = none) :
    (readPage seen reply).1 = [.failure] := by
  unfold readPage at h ⊢
  split at h
  · rfl
  · split at h <;> simp_all

/-- **What follows from a reply is told by what it shows**: the first observation that decides, or
else the next exchange. -/
theorem receive_of_deletion (h : x.deletion? = some d) (reply : Reply) :
    (x.receive reply).1 = match d.firstConclusion? (x.shown reply).1, (x.shown reply).2 with
      | some outcome, _ => .over outcome
      | none, some next => .exchange next
      | none, none => .endless := by
  cases x with
  | get | patch | post | delete => cases h
  | list pod page seen =>
    obtain rfl : pod = d := Option.some.inj h
    cases hended : hasEnded reply with
    | false => simp [receive, isWatch, hended, shown, Deletion.firstConclusion?]
    | true =>
      have hnone : (readPage seen reply).2 = none → (readPage seen reply).1 = [.failure] :=
        readPage_of_none
      rcases hpage : readPage seen reply with ⟨observations, next?⟩
      rw [hpage] at hnone
      simp only [receive, isWatch, hended, Bool.or_true, if_pos, afterReply, afterPage, hpage,
        shown]
      cases next? with
      | none =>
        obtain rfl : observations = [.failure] := hnone rfl
        rfl
      | some after => cases pod.firstConclusion? observations <;> cases after <;> rfl
  | watch pod version =>
    obtain rfl : pod = d := Option.some.inj h
    rcases hwatch : readWatch version reply with ⟨observations, version'⟩
    simp only [receive, isWatch, Bool.true_or, if_pos, afterReply, afterWatch, hwatch, shown]
    cases pod.firstConclusion? observations <;> cases hasEnded reply <;> rfl

/-- What follows while a pod is waited for waits for the same pod. -/
theorem deletion_of_shown (h : x.deletion? = some d) (hnext : (x.shown reply).2 = some next) :
    next.deletion? = some d := by
  cases x with
  | get | patch | post | delete => cases h
  | list pod page seen =>
    obtain rfl : pod = d := Option.some.inj h
    rw [shown] at hnext
    split at hnext
    · obtain ⟨after, -, rfl⟩ := Option.map_eq_some_iff.1 hnext
      cases after <;> rfl
    · cases hnext
  | watch pod version =>
    obtain rfl : pod = d := Option.some.inj h
    simp only [shown] at hnext
    split at hnext
    · obtain rfl := Option.some.inj hnext
      rfl
    · cases hnext

/-- What follows from a reply that has been settled: what stops is given up. -/
theorem settle_of_deletion (h : x.deletion? = some d) (reply : Reply) :
    x.settle reply = match d.firstConclusion? (x.shown reply).1, (x.shown reply).2 with
      | some outcome, _ => .over outcome
      | none, some next => .exchange next
      | none, none => .over (.error d.timeout) := by
  have hstopped : x.stopped = .over (.error d.timeout) := by simp only [stopped, h]
  rw [settle, receive_of_deletion h, hstopped]
  cases d.firstConclusion? (x.shown reply).1 <;> cases (x.shown reply).2 <;> rfl

/-! ## The order of sightings -/

section Order

variable {r : Response} {rest : List Response} {s : Sighting}

/-- What a response shows comes before what is shown after it. -/
theorem sightings_cons (hrequest : x.request?.isNone = false) (hover : ¬deletionMillis ≤ now)
    (hhangs : r.hangs = false) :
    x.sightings now (r :: rest) = (x.shown r.reply).1.map (⟨now + r.delay, ·⟩)
      ++ match (x.shown r.reply).2 with
        | some next => next.sightings (now + r.delay) rest
        | none => [] := by
  rw [sightings, if_neg (Bool.eq_false_iff.1 hrequest), if_neg (by simp [hhangs, hover])]

/-- Whatever a script shows is a single failure or is shown with its first response and after it. -/
theorem sightings_cases (x : Exchange) (now : Nat) (r : Response) (rest : List Response) :
    x.sightings now (r :: rest) = [⟨now, .failure⟩] ∨ x.sightings now (r :: rest) = []
      ∨ x.request?.isNone = false ∧ ¬deletionMillis ≤ now ∧ r.hangs = false := by
  by_cases hrequest : x.request?.isNone = true
  · exact .inl (by rw [sightings, if_pos hrequest])
  by_cases hstops : deletionMillis ≤ now ∨ r.hangs = true
  · exact .inr (.inl (by rw [sightings, if_neg hrequest, if_pos hstops]))
  obtain ⟨hover, hhangs⟩ := not_or.1 hstops
  exact .inr (.inr ⟨Bool.eq_false_iff.2 hrequest, hover, Bool.eq_false_iff.2 hhangs⟩)

/-- Nothing is shown before an exchange begins. -/
theorem le_time_of_mem_sightings (hs : s ∈ x.sightings now script) : now ≤ s.time := by
  induction script generalizing x now with
  | nil =>
    rw [sightings] at hs
    split at hs
    · simp_all
    · split at hs <;> simp_all
  | cons r rest ih =>
    rcases x.sightings_cases now r rest with hfailure | hnone | ⟨hrequest, hover, hhangs⟩
    · rw [hfailure, List.mem_singleton] at hs
      exact Nat.le_of_eq (congrArg Sighting.time hs).symm
    · simp [hnone] at hs
    rw [sightings_cons hrequest hover hhangs] at hs
    rcases List.mem_append.1 hs with hs | hs
    · obtain ⟨o, -, rfl⟩ := List.mem_map.1 hs
      exact Nat.le_add_right ..
    · split at hs
      · exact Nat.le_trans (Nat.le_add_right ..) (ih hs)
      · simp at hs

/-- Nothing is shown after a response that was there before it. -/
theorem le_time_of_mem_after (hs : s ∈ match (x.shown reply).2 with
      | some next => next.sightings now rest
      | none => []) : now ≤ s.time := by
  split at hs
  · exact le_time_of_mem_sightings hs
  · simp at hs

/-- **What is shown is shown in the order of time.** -/
theorem pairwise_sightings (x : Exchange) (now : Nat) (script : List Response) :
    (x.sightings now script).Pairwise (·.time ≤ ·.time) := by
  induction script generalizing x now with
  | nil =>
    rw [sightings]
    split
    · exact List.pairwise_singleton ..
    · split
      · exact List.Pairwise.nil
      · exact List.pairwise_singleton ..
  | cons r rest ih =>
    rcases x.sightings_cases now r rest with hfailure | hnone | ⟨hrequest, hover, hhangs⟩
    · rw [hfailure]
      exact List.pairwise_singleton ..
    · rw [hnone]
      exact List.Pairwise.nil
    rw [sightings_cons hrequest hover hhangs, List.pairwise_append]
    refine ⟨List.pairwise_map.2 (List.pairwise_of_forall fun _ _ => Nat.le_refl _), ?_, ?_⟩
    · split
      · exact ih ..
      · exact List.Pairwise.nil
    · intro s hs t ht
      obtain ⟨o, -, rfl⟩ := List.mem_map.1 hs
      exact le_time_of_mem_after ht

/-- Nothing is shown before the first response to a request that is sent. -/
theorem le_time_of_mem_cons (hrequest : x.request?.isNone = false) (hover : ¬deletionMillis ≤ now)
    (hhangs : r.hangs = false) (hs : s ∈ x.sightings now (r :: rest)) :
    now + r.delay ≤ s.time := by
  rw [sightings_cons hrequest hover hhangs] at hs
  rcases List.mem_append.1 hs with hs | hs
  · obtain ⟨o, -, rfl⟩ := List.mem_map.1 hs
    exact Nat.le_refl _
  · exact le_time_of_mem_after hs

end Order

end Exchange

/-! ## The end of the wait -/

namespace Deletion

variable {d : Deletion} {s : Sighting} {seen : List Sighting} {outcome : Outcome}

/-- What comes too late decides nothing. -/
theorem decides?_of_late (h : ¬s.InTime) : d.decides? s = none := if_neg h

/-- What comes in time decides as what it shows. -/
theorem decides?_of_inTime (h : s.InTime) : d.decides? s = d.conclude? s.shows := if_pos h

/-- A sighting decides if it comes in time and what it shows decides. -/
theorem decides?_eq_some_iff :
    d.decides? s = some outcome ↔ s.InTime ∧ d.conclude? s.shows = some outcome := by
  by_cases h : s.InTime <;> simp [decides?, h]

/-- Nothing is decided exactly if the pod itself is shown. -/
theorem conclude?_eq_none_iff : d.conclude? s.shows = none ↔ s.shows = .present (some d.uid) := by
  cases s.shows with
  | present uid => simp [conclude?]
  | _ => simp [conclude?]

/-- The wait ends well exactly if it is shown that the pod is gone. -/
theorem conclude?_eq_done_iff :
    d.conclude? s.shows = some (.ok .done) ↔ s.ShowsGone d.uid := by
  rw [Sighting.ShowsGone]
  cases s.shows with
  | present uid => by_cases huid : uid = some d.uid <;> simp [conclude?, huid]
  | _ => simp [conclude?]

/-- The wait fails exactly if a failure is shown. -/
theorem conclude?_eq_watch_iff :
    d.conclude? s.shows = some (.error .watch) ↔ s.shows = .failure := by
  cases s.shows with
  | present uid => by_cases huid : uid = some d.uid <;> simp [conclude?, huid]
  | _ => simp [conclude?]

/-- The wait ends well or fails, unless nothing is decided. -/
theorem conclude?_cases (d : Deletion) (s : Sighting) : d.conclude? s.shows = none
    ∨ d.conclude? s.shows = some (.ok .done) ∨ d.conclude? s.shows = some (.error .watch) := by
  cases s.shows with
  | present uid => by_cases huid : uid = some d.uid <;> simp [conclude?, huid]
  | _ => simp [conclude?]

/-- What decides is that the pod is gone, or a failure. -/
theorem eq_of_decides? (h : d.decides? s = some outcome) :
    outcome = .ok .done ∨ outcome = .error .watch := by
  obtain ⟨-, h⟩ := decides?_eq_some_iff.1 h
  rcases d.conclude?_cases s with hnone | hdone | hwatch
  · cases h.symm.trans hnone
  · exact .inl (Option.some.inj (h.symm.trans hdone))
  · exact .inr (Option.some.inj (h.symm.trans hwatch))

/-- Sightings that come too late do not count. -/
theorem verdict_of_late (h : ∀ s ∈ seen, ¬s.InTime) : d.verdict seen = .error d.timeout := by
  have hnone : seen.findSome? d.decides? = none :=
    List.findSome?_eq_none_iff.2 fun s hs => decides?_of_late (h s hs)
  rw [verdict, hnone, Option.getD_none]

/-- What comes in time with one response ends the wait, unless nothing of it decides. -/
theorem verdict_append {time : Nat} (htime : time ≤ deletionMillis) (shown : List Observation)
    (more : List Sighting) :
    d.verdict (shown.map (⟨time, ·⟩) ++ more)
      = (d.firstConclusion? shown).getD (d.verdict more) := by
  have hshown : (shown.map (Sighting.mk time)).findSome? d.decides? = d.firstConclusion? shown := by
    rw [List.findSome?_map, firstConclusion?]
    exact congrArg (shown.findSome? ·) (funext fun o => if_pos htime)
  rw [verdict, List.findSome?_append, hshown, verdict]
  cases d.firstConclusion? shown <;> rfl

/-- A wait ends with the time of the pod, well, or with a failure; the first sighting that decides
tells how. -/
theorem findSome?_of_verdict (d : Deletion) (seen : List Sighting) :
    seen.findSome? d.decides? = none ∧ d.verdict seen = .error d.timeout
    ∨ ∃ outcome, seen.findSome? d.decides? = some outcome ∧ d.verdict seen = outcome
      ∧ (outcome = .ok .done ∨ outcome = .error .watch) := by
  rw [verdict]
  cases hfirst : seen.findSome? d.decides? with
  | none => exact .inl ⟨rfl, rfl⟩
  | some outcome =>
    obtain ⟨s, -, hs⟩ := List.exists_of_findSome?_eq_some hfirst
    exact .inr ⟨outcome, rfl, rfl, eq_of_decides? hs⟩

/-- A wait ends with the time of the pod, well, or with a failure. -/
theorem verdict_cases (d : Deletion) (seen : List Sighting) : d.verdict seen = .error d.timeout
    ∨ d.verdict seen = .ok .done ∨ d.verdict seen = .error .watch := by
  rcases d.findSome?_of_verdict seen with ⟨-, hverdict⟩ | ⟨_, -, hverdict, rfl | rfl⟩
  · exact .inl hverdict
  · exact .inr (.inl hverdict)
  · exact .inr (.inr hverdict)

/-- **The time of the pod is over exactly if all that is shown in time is the pod itself**, however
often. -/
theorem verdict_eq_timeout_iff (d : Deletion) :
    d.verdict seen = .error d.timeout
      ↔ ∀ s ∈ seen, s.InTime → s.shows = .present (some d.uid) := by
  have hnone : seen.findSome? d.decides? = none ↔ d.verdict seen = .error d.timeout := by
    rcases d.findSome?_of_verdict seen with
      ⟨hfirst, hverdict⟩ | ⟨_, hfirst, hverdict, rfl | rfl⟩ <;> simp [hfirst, hverdict, timeout]
  rw [← hnone, List.findSome?_eq_none_iff]
  refine forall₂_congr fun s _ => ?_
  rw [decides?, ite_eq_right_iff, conclude?_eq_none_iff]

/-- A wait ends in one way exactly if a sighting in time decides so, and none before it decides
otherwise. -/
theorem verdict_eq_iff (d : Deletion) (hordered : seen.Pairwise (·.time ≤ ·.time))
    (houtcome : outcome ≠ .error d.timeout) :
    d.verdict seen = outcome ↔ ∃ before s after, seen = before ++ s :: after ∧ s.InTime
      ∧ d.conclude? s.shows = some outcome
      ∧ ∀ t ∈ before, d.conclude? t.shows = none ∨ d.conclude? t.shows = some outcome := by
  have hsome : d.verdict seen = outcome ↔ seen.findSome? d.decides? = some outcome := by
    rcases d.findSome?_of_verdict seen with ⟨hfirst, hverdict⟩ | ⟨_, hfirst, hverdict, -⟩
    · simp [hfirst, hverdict, houtcome.symm]
    · simp [hfirst, hverdict]
  rw [hsome]
  constructor
  · intro hfirst
    obtain ⟨before, s, after, rfl, hs, hbefore⟩ := List.findSome?_eq_some_iff.1 hfirst
    obtain ⟨hintime, hs⟩ := decides?_eq_some_iff.1 hs
    refine ⟨before, s, after, rfl, hintime, hs, fun t ht => .inl ?_⟩
    -- what is shown before something that comes in time comes in time
    have hle : t.time ≤ s.time :=
      (List.pairwise_append.1 hordered).2.2 t ht s (List.mem_cons_self ..)
    rw [← decides?_of_inTime (Nat.le_trans hle hintime)]
    exact hbefore t ht
  · rintro ⟨before, s, after, rfl, hintime, hs, hbefore⟩
    rw [List.findSome?_append, List.findSome?_cons, decides?_eq_some_iff.2 ⟨hintime, hs⟩]
    cases hfirst : before.findSome? d.decides? with
    | none => rfl
    | some first =>
      obtain ⟨t, ht, hdecides⟩ := List.exists_of_findSome?_eq_some hfirst
      obtain ⟨-, hdecides⟩ := decides?_eq_some_iff.1 hdecides
      rcases hbefore t ht with hnone | hsame
      · cases hdecides.symm.trans hnone
      · exact hdecides.symm.trans hsame

/-- **A wait ends well exactly if it is shown in time that the pod is gone**, before any failure. -/
theorem verdict_eq_done_iff (d : Deletion) (hordered : seen.Pairwise (·.time ≤ ·.time)) :
    d.verdict seen = .ok .done ↔ ∃ before s after, seen = before ++ s :: after
      ∧ s.InTime ∧ s.ShowsGone d.uid ∧ ∀ t ∈ before, t.shows ≠ .failure := by
  have hbefore (t : Sighting) : (d.conclude? t.shows = none
      ∨ d.conclude? t.shows = some (.ok .done)) ↔ t.shows ≠ .failure := by
    rw [Ne, ← conclude?_eq_watch_iff (d := d)]
    rcases d.conclude?_cases t with h | h | h <;> simp [h]
  rw [d.verdict_eq_iff hordered (by simp)]
  simp only [hbefore]
  simp only [conclude?_eq_done_iff]

/-- **A wait fails exactly if a failure comes in time**, before it is shown that the pod is gone. -/
theorem verdict_eq_watch_iff (d : Deletion) (hordered : seen.Pairwise (·.time ≤ ·.time)) :
    d.verdict seen = .error .watch ↔ ∃ before s after, seen = before ++ s :: after
      ∧ s.InTime ∧ s.shows = .failure ∧ ∀ t ∈ before, ¬t.ShowsGone d.uid := by
  have hbefore (t : Sighting) : (d.conclude? t.shows = none
      ∨ d.conclude? t.shows = some (.error .watch)) ↔ ¬t.ShowsGone d.uid := by
    rw [← conclude?_eq_done_iff]
    rcases d.conclude?_cases t with h | h | h <;> simp [h]
  rw [d.verdict_eq_iff hordered (by simp [timeout])]
  simp only [hbefore]
  simp only [conclude?_eq_watch_iff]

end Deletion

namespace Exchange

variable {x : Exchange} {d : Deletion} {now : Nat}

/-- An exchange whose request is not sent shows a failure if the request cannot be written, and
nothing if the time of the pod is over. -/
theorem verdict_of_withheld (h : x.deletion? = some d) (hnow : now ≤ deletionMillis)
    {e : ClientError} (hheld : x.withheld? (deletionMillis - now) = some e)
    (script : List Response) : d.verdict (x.sightings now script) = .error e := by
  cases hrequest : x.request? with
  | none =>
    obtain rfl : x.unsendable = e := by
      simpa only [withheld?, hrequest, Option.some.injEq] using hheld
    have hsightings : x.sightings now script = [Observation.failure].map (⟨now, ·⟩) ++ [] := by
      cases script <;> simp [sightings, hrequest]
    rw [hsightings, Deletion.verdict_append hnow]
    cases x <;> first | rfl | cases h
  | some request =>
    simp only [withheld?, hrequest, h] at hheld
    split at hheld
    · rename_i hover
      obtain rfl := Option.some.inj hheld
      have hsightings : x.sightings now script = [] := by
        have hle : deletionMillis ≤ now := Nat.le_of_sub_eq_zero hover
        cases script <;> simp [sightings, hrequest, hle]
      rw [hsightings]
      rfl
    · cases hheld

/-- An exchange whose request is sent has one, and there is time left for the pod. -/
theorem sent_of_withheld (h : x.deletion? = some d)
    (hheld : x.withheld? (deletionMillis - now) = none) :
    x.request?.isNone = false ∧ ¬deletionMillis ≤ now := by
  cases hrequest : x.request? with
  | none => simp [withheld?, hrequest] at hheld
  | some request =>
    simp only [withheld?, hrequest, h] at hheld
    split at hheld
    · cases hheld
    · exact ⟨rfl, by omega⟩

/-- A connection that fails shows a failure. -/
theorem shown_failed (h : x.deletion? = some d) : (x.shown .failed).1 = [.failure] := by
  cases x <;> first | rfl | cases h

/-- **A wait ends with the first sighting in time that decides**, or else with the time of the
pod. -/
theorem outcome_talk_of_deletion (h : x.deletion? = some d) (hnow : now ≤ deletionMillis)
    (script : List Response) :
    (x.talk (deletionMillis - now) script).outcome?
      = some (d.verdict (x.sightings now script)) := by
  -- on the responses: the time that is over and the time that is left make up that of the pod
  induction script generalizing x now with
  | nil =>
    cases hheld : x.withheld? (deletionMillis - now) with
    | some e => rw [talk_of_withheld hheld, verdict_of_withheld h hnow hheld]
    | none =>
      obtain ⟨hrequest, hover⟩ := sent_of_withheld h hheld
      have hsightings : x.sightings now [] = [Observation.failure].map (⟨now, ·⟩) ++ [] := by
        rw [sightings, if_neg (Bool.eq_false_iff.1 hrequest), if_neg hover]
        rfl
      rw [talk_nil hheld, settle_of_deletion h, shown_failed h, hsightings,
        Deletion.verdict_append hnow]
      rfl
  | cons r rest ih =>
    cases hheld : x.withheld? (deletionMillis - now) with
    | some e => rw [talk_of_withheld hheld, verdict_of_withheld h hnow hheld]
    | none =>
      obtain ⟨hrequest, hover⟩ := sent_of_withheld h hheld
      rw [talk_cons hheld]
      by_cases hhangs : r.hangs = true
      · have hstopped : x.progress (deletionMillis - now) r = .over (.error d.timeout) := by
          simp [progress, inTime, hhangs, stopped, h]
        have hsightings : x.sightings now (r :: rest) = [] := by
          rw [sightings, if_neg (Bool.eq_false_iff.1 hrequest), if_pos (.inr hhangs)]
        rw [hstopped, hsightings]
        rfl
      rw [Bool.not_eq_true] at hhangs
      by_cases htime : r.delay ≤ deletionMillis - now
      · -- the response comes in time: it decides, or what follows does
        have hcomes : now + r.delay ≤ deletionMillis := by omega
        have hprogress : x.progress (deletionMillis - now) r = x.settle r.reply := by
          simp [progress, inTime, hhangs, htime]
        have hleft : x.leftAfter (deletionMillis - now) r = deletionMillis - (now + r.delay) := by
          rw [leftAfter, h, Option.isSome_some, if_pos rfl, Nat.sub_sub]
        rw [hprogress, hleft, settle_of_deletion h, sightings_cons hrequest hover hhangs,
          Deletion.verdict_append hcomes]
        cases d.firstConclusion? (x.shown r.reply).1 with
        | some outcome => rfl
        | none =>
          cases hnext : (x.shown r.reply).2 with
          | none => rfl
          | some next => exact ih (deletion_of_shown h hnext) hcomes
      · have hprogress : x.progress (deletionMillis - now) r = .over (.error d.timeout) := by
          simp [progress, inTime, hhangs, htime, stopped, h]
        have hlate : ∀ s ∈ x.sightings now (r :: rest), ¬s.InTime := by
          intro s hs hintime
          have hle := le_time_of_mem_cons hrequest hover hhangs hs
          rw [Sighting.InTime] at hintime
          omega
        rw [hprogress, Deletion.verdict_of_late hlate]
        rfl

end Exchange

/-! ## Deletions -/

/-- The deletion of a pod that has only begun. -/
def Deletion.begun (ns name : String) (pod : Pod) : Deletion :=
  ⟨ns, name, pod.metadata.uid.getD ""⟩

/-- How an operation ends that has got an answer to its deletion, given the responses after it. -/
def DeletionAnswer.outcome (ns name : String) (script : List Response) : DeletionAnswer → Outcome
  | .refused status => if status.code = 404 then .ok .done else .error (.request (some status))
  | .gone => .ok .done
  | .deleting pod =>
    (Deletion.begun ns name pod).verdict ((Deletion.begun ns name pod).sightings script)
  | .failed => .error (.request none)

namespace Exchange

/-- **A deletion ends as the answer to it tells, and if that shows the pod, as the sightings of it
tell.** It never ends if the answer never does. -/
theorem outcome_talk_delete (ns name : String) (script : List Response) :
    ((Exchange.delete ns name).talk deletionMillis script).outcome?
      = (deletionAnswer? ns name script).map (·.outcome ns name script.tail) := by
  cases hrequest : deletePod? ns name with
  | none =>
    have hheld : (Exchange.delete ns name).withheld? deletionMillis = some (.request none) := by
      simp only [withheld?, request?, hrequest, unsendable]
    rw [talk_of_withheld hheld]
    cases script <;> simp [deletionAnswer?, hrequest, DeletionAnswer.outcome]
  | some request =>
    have hheld : (Exchange.delete ns name).withheld? deletionMillis = none := by
      simp only [withheld?, request?, hrequest, deletion?]
    cases script with
    | nil =>
      rw [talk_nil hheld]
      rfl
    | cons r rest =>
      rw [talk_cons hheld, deletionAnswer?, hrequest, List.tail_cons]
      by_cases hcomes : r.hangs = false ∧ hasEnded r.reply = true
      · have hprogress : (Exchange.delete ns name).progress deletionMillis r
            = (Exchange.delete ns name).settle r.reply := by
          simp [progress, inTime, deletion?, hcomes.1]
        have hreceive : ((Exchange.delete ns name).receive r.reply).1
            = (afterDelete ns name r.reply).1 := by
          simp [receive, isWatch, hcomes.2, afterReply]
        rw [hprogress, settle, hreceive, afterDelete_eq, if_neg (by simp), if_pos hcomes]
        cases r.reply.deletionAnswer with
        | deleting pod =>
          exact outcome_talk_of_deletion rfl (Nat.zero_le _) rest
        | _ => rfl
      · have hprogress : (Exchange.delete ns name).progress deletionMillis r = .endless := by
          cases hhangs : r.hangs <;> cases hended : hasEnded r.reply <;>
            simp_all [progress, inTime, settle, receive, isWatch, stopped, deletion?]
        rw [hprogress, if_neg (by simp), if_neg hcomes]
        rfl

end Exchange

end Api

end PodCheck
