import PodCheck.Proofs.Api.Sighting
import PodCheck.Proofs.Coordinator.Course
import PodCheck.Proofs.Simulation.Flight
import PodCheck.Simulation.World

/-! # Single operations over an API server

An operation that is called by itself and awaited, in a world in which nothing keeps time from
passing (`Coordinator.Unhurried`). It is polled when it is due, and each poll takes it on in the way
of its talk and leaves less to be done, so the polls that are granted are enough: the operation ends
as its talk does (`World.outcome_call`). Main statement: how the deletion of a pod ends, and when
(`World.deletion_waits_for_pod`). -/

namespace PodCheck

/-- Nothing keeps time from passing: no run has a deadline, and nobody comes first in the line at a
lock and does not have it. -/
def Coordinator.Unhurried (s : Coordinator) : Prop := ∀ ms, s.mayPass ms = true

/-- The time does not matter for that. -/
theorem Coordinator.Unhurried.withClock {s : Coordinator} (h : s.Unhurried) (time : Nat) :
    Unhurried { s with clock := time } := by
  intro ms
  rw [mayPass_iff]
  intro id c activity hslot
  obtain ⟨hqueued, hrunning⟩ := mayPass_iff.1 (h (time + ms)) id c activity hslot
  refine ⟨hqueued, fun lease p hactivity => ?_⟩
  exact Nat.le_trans (Nat.le_add_left ..) (hrunning lease p hactivity)

namespace Simulation

open Api

namespace World

variable {w : World} {script : List Response} {f : ApiFlight}

/-- An action that can happen changes the checkers alone. -/
theorem act_of_step {a : Action} {s : Coordinator} {r : Reaction}
    (h : w.coordinator.step a = some (s, r)) :
    w.act a = ({ w with coordinator := s }.log r.events, { r with events := [] }) := by
  rw [act, h]

/-- The clock is moved to a time that is to come, and nothing else changes. -/
theorem passTo_of_unhurried (h : w.coordinator.Unhurried) {time : Nat} (hle : w.clock ≤ time) :
    w.passTo time = { w with coordinator := { w.coordinator with clock := time } } := by
  have hclock : w.coordinator.clock + (time - w.clock) = time := Nat.add_sub_cancel' hle
  have hs : w.coordinator.step (.pass (time - w.clock))
      = some ({ w.coordinator with clock := time }, {}) := by
    simp [Coordinator.step, h _, hclock]
  rw [passTo, act_of_step hs]
  rfl

/-- An operation to an API server is polled by its client. -/
theorem poll_api (hclient : w.client = .api ⟨script⟩) (f : ApiFlight) :
    w.client.poll w.clock (.api f) = ((ApiClient.mk script).poll w.clock f).map .api .api := by
  rw [hclient]
  rfl

/-- **An operation that is awaited ends as what is ahead of it tells.** -/
theorem outcome_await {fuel : Nat} (hclient : w.client = .api ⟨script⟩)
    (hunhurried : w.coordinator.Unhurried) (hdue : f.Due w.clock) (hfuel : f.work script < fuel) :
    (await fuel w (.api f)).2 = (f.ahead w.clock script).outcome? := by
  -- on the polls that are granted: each of them leaves less to be done
  induction fuel generalizing w f script with
  | zero => exact absurd hfuel (Nat.not_lt_zero _)
  | succ fuel ih =>
    have hleads := ApiClient.leads_poll ⟨script⟩ hdue
    rw [await]
    unfold pollFlight
    rw [poll_api hclient]
    generalize (ApiClient.mk script).poll w.clock f = polled at hleads
    cases hleads with
    | ended sent hsent houtcome hrest hwork => exact houtcome.symm
    | @flying sent script' f' later events hle hdue' hsent houtcome hrest hwork =>
      let polled : World := ({ w with
        client := .api ⟨script'⟩
        records := (sent.map Record.requested).reverse ++ w.records }).log events
      have hunhurried' : polled.coordinator.Unhurried := hunhurried
      show (await fuel (polled.passTo later) (.api f')).2 = _
      rw [passTo_of_unhurried hunhurried' hle, ← houtcome]
      exact ih rfl (hunhurried'.withClock later) hdue'
        (Nat.lt_of_lt_of_le hwork (Nat.le_of_lt_succ hfuel))
    | stuck sent hsent houtcome => exact houtcome.symm

/-- **An operation over an API server ends as its talk does.** -/
theorem outcome_call (hclient : w.client = .api ⟨script⟩) (hunhurried : w.coordinator.Unhurried)
    (call : Call) :
    (w.call call).2 = ((Exchange.ofCall call).talk deletionMillis script).outcome? := by
  have hdue : ApiFlight.Due ⟨.ofCall call, none, none⟩ w.clock := by
    refine ⟨?_, trivial⟩
    cases call <;> rfl
  have hbound : w.pollBound = 3 * script.length + 8 := by
    rw [pollBound, hclient]
  have hflight : w.client.call call = .api ⟨.ofCall call, none, none⟩ := by
    rw [hclient]
    rfl
  rw [World.call, hflight]
  refine outcome_await hclient hunhurried hdue ?_
  rw [hbound]
  simp only [ApiFlight.work]
  omega

/-- **A deletion waits for its pod.** Over an API server, whatever it responds and when, the
deletion of a pod succeeds exactly if the server refuses it with the code 404, or answers with a
status in a response of success, or answers with the pod and shows within 60 s, before any failure
of the list or the watch, that no pod bears the name or that another one does; the pod is told by
the uid in the answer, which is empty if there is none. It takes too long exactly if the server
answers with the pod and shows neither that nor a failure within 60 s, so that the pod itself,
however often it is shown, never ends the wait. It fails as the watch exactly if a failure comes
first, and as the request exactly if that was refused with another code or has no answer that can be
read. It never ends exactly if it is sent and the answer has no end. What an answer is, is told by
its code and its text (`Reply.Tells`). -/
theorem deletion_waits_for_pod (w : World) (script : List Response) (ns name : String)
    (hclient : w.client = .api ⟨script⟩) (hunhurried : w.coordinator.Unhurried) :
    let ended := (w.call (.deletePod ns name)).2
    let answered := DeletionAnswered ns name script
    let uid (pod : Pod) := pod.metadata.uid.getD ""
    let seen (pod : Pod) := Deletion.sightings ⟨ns, name, uid pod⟩ script.tail
    let timeout := ClientError.timeout ("deletion of pod " ++ ns ++ "/" ++ name) (.ofSecs 60)
    (ended = some (.ok .done) ↔
        (∃ status, answered (.refused status) ∧ status.code = 404)
        ∨ answered .gone
        ∨ ∃ pod, answered (.deleting pod) ∧ ∃ before s after,
          seen pod = before ++ s :: after ∧ s.InTime ∧ s.ShowsGone (uid pod)
          ∧ ∀ t ∈ before, t.shows ≠ .failure)
      ∧ (ended = some (.error timeout) ↔ ∃ pod, answered (.deleting pod)
        ∧ ∀ s ∈ seen pod, s.InTime → ¬s.ShowsGone (uid pod) ∧ s.shows ≠ .failure)
      ∧ (∀ pod, answered (.deleting pod)
        → (∀ s ∈ seen pod, s.InTime → s.shows = .present (some (uid pod)))
        → ended = some (.error timeout))
      ∧ (ended = some (.error .watch) ↔ ∃ pod, answered (.deleting pod)
        ∧ ∃ before s after, seen pod = before ++ s :: after ∧ s.InTime ∧ s.shows = .failure
          ∧ ∀ t ∈ before, ¬t.ShowsGone (uid pod))
      ∧ (∀ status?, ended = some (.error (.request status?)) ↔
        (∃ status, answered (.refused status) ∧ status.code ≠ 404 ∧ status? = some status)
        ∨ answered .failed ∧ status? = none)
      ∧ (ended = none ↔ Deletable ns name ∧ ∃ r rest, script = r :: rest
        ∧ (r.hangs = true ∨ ∃ code text, r.reply = .answered code text false)) := by
  intro ended answered uid seen timeout
  let answer? := Exchange.deletionAnswer? ns name script
  have hanswered (answer : DeletionAnswer) : answered answer ↔ answer? = some answer :=
    deletionAnswered_iff
  have hended : ended = answer?.map (·.outcome ns name script.tail) :=
    (outcome_call hclient hunhurried _).trans (Exchange.outcome_talk_delete ns name script)
  simp only [hanswered]
  rw [← Exchange.deletionAnswer?_eq_none_iff]
  change _ ∧ _ ∧ _ ∧ _ ∧ _ ∧ (_ ↔ answer? = none)
  clear_value ended answer?
  subst hended
  cases answer? with
  | none => simp
  | some answer =>
    cases answer with
    | refused status =>
      by_cases hcode : status.code = 404 <;>
        simp [DeletionAnswer.outcome, hcode, timeout, eq_comm]
    | gone => simp [DeletionAnswer.outcome, timeout]
    | failed => simp [DeletionAnswer.outcome, timeout, eq_comm]
    | deleting pod =>
      let d : Deletion := ⟨ns, name, uid pod⟩
      have hverdict : (some (DeletionAnswer.deleting pod)).map (·.outcome ns name script.tail)
          = some (d.verdict (seen pod)) := rfl
      have hordered : (seen pod).Pairwise (·.time ≤ ·.time) := Exchange.pairwise_sightings ..
      rw [hverdict]
      simp only [Option.some.injEq, DeletionAnswer.deleting.injEq, exists_eq_left', forall_eq',
        reduceCtorEq, false_and, exists_false, false_or]
      refine ⟨d.verdict_eq_done_iff hordered, ?_, d.verdict_eq_timeout_iff.2,
        d.verdict_eq_watch_iff hordered, fun status? => ?_, trivial⟩
      · simp only [← Sighting.shows_same_iff]
        exact d.verdict_eq_timeout_iff
      · rcases d.verdict_cases (seen pod) with h | h | h <;> simp [h, Deletion.timeout]

/-- A deletion that is answered with its pod and ends well with a pod of another uid, half a minute
after a list that shows the pod itself; that the connection fails behind it does not count. -/
theorem deletion_waits_for_pod_until_replaced :
    let said (text : String) (delay : Nat) : Response :=
      { reply := .answered 200 text true, delay }
    let pod (uid : String) :=
      "\x7b\"metadata\":\x7b\"uid\":\"" ++ uid ++ "\",\"resourceVersion\":\"2\"\x7d\x7d"
    let list (uid : String) :=
      "\x7b\"metadata\":\x7b\"resourceVersion\":\"2\"\x7d,\"items\":[" ++ pod uid ++ "]\x7d"
    let added (uid : String) := "\x7b\"type\":\"ADDED\",\"object\":" ++ pod uid ++ "\x7d"
    let script := [said (pod "1") 5, said (list "1") 20000, said (added "2") 30000]
    let w : World := { coordinator := { epoch := .ofNanos 0 }, client := .api ⟨script⟩ }
    DeletionAnswered "prod" "probe" script
        (.deleting { metadata := { uid := some "1", resourceVersion := some "2" } })
      ∧ Deletion.sightings ⟨"prod", "probe", "1"⟩ script.tail
        = [⟨20000, .present (some "1")⟩, ⟨50000, .present (some "2")⟩, ⟨50000, .failure⟩]
      ∧ (w.call (.deletePod "prod" "probe")).2 = some (.ok .done) := by
  intro said pod list added script w
  let shown : Json :=
    .object [("metadata", .object [("uid", .text "1"), ("resourceVersion", .text "2")])]
  have hprint : pod "1" = shown.print := by decide +kernel
  have hread : Json.read? (pod "1") = some shown := by
    rw [hprint]
    exact Json.read?_print (by simp [shown])
  have hanswered : DeletionAnswered "prod" "probe" script
      (.deleting { metadata := { uid := some "1", resourceVersion := some "2" } }) :=
    .replied (by decide) rfl (.deleting (by decide) hread (by decide) nofun rfl)
  have hseen : Deletion.sightings ⟨"prod", "probe", "1"⟩ script.tail
      = [⟨20000, .present (some "1")⟩]
        ++ ⟨50000, .present (some "2")⟩ :: [⟨50000, .failure⟩] := by
    decide +kernel
  have hunhurried : w.coordinator.Unhurried := fun _ => rfl
  refine ⟨hanswered, hseen, (deletion_waits_for_pod w script "prod" "probe" rfl hunhurried).1.2
    (.inr (.inr ⟨_, hanswered, ?_⟩))⟩
  exact ⟨_, _, _, hseen, by decide, .inr ⟨some "2", rfl, by decide⟩, by decide⟩

end World

end Simulation

end PodCheck
