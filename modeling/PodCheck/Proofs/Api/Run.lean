import PodCheck.Proofs.Api.Talk
import PodCheck.Proofs.Checker.Turn
import PodCheck.Proofs.RunPod.Identity

/-! # Runs over an API server

What one run asks of an API server that responds from a script: the requests of its operations, one
operation after the other, each with the responses that the one before has left (`ApiRun.talk`). An
operation is reached only if those before it have succeeded (`ApiRun.Reaches.next`), and a run ends
with the outcome of one (`ApiRun.Ends`). -/

namespace PodCheck

open Api Simulation

/-! ## What a run asks -/

/-- A run over an API server. -/
structure ApiRun where
  /-- The name of the checker. -/
  id : String
  /-- The checker as the run begins. -/
  checker : Checker
  /-- The token of the run. -/
  token : String
  /-- The responses of the server. -/
  script : List Response
  /-- What was noted down before. -/
  records : List Record

namespace ApiRun

variable (e : ApiRun)

/-- The deletion of the pod of the run before, which finds the first response taken. -/
def removal : Talk :=
  (Exchange.delete e.checker.config.ns e.checker.config.podName).talk deletionMillis e.script.tail

/-- The responses that an operation of the run finds. -/
def responses : Pending → List Response
  | .settingToken _ => e.script
  | .removing _ => e.script.tail
  | .submitting _ _ => e.removal.rest

/-- An operation of the run. -/
def talk (p : Pending) : Talk :=
  (Exchange.ofCall (p.call e.checker.config)).talk deletionMillis (e.responses p)

/-- The request that stores the token of the run. -/
def patch? : Option Request :=
  patchToken? e.checker.config.ns e.checker.config.checkName e.token

/-- The requests that come before those of an operation. -/
def before : Pending → List (Option Request)
  | .settingToken _ => []
  | .removing _ => [e.patch?]
  | .submitting _ _ => e.patch? :: e.removal.requests

/-- The requests up to the end of an operation. -/
def upTo (p : Pending) : List (Option Request) := e.before p ++ (e.talk p).requests

/-- The operations before one have succeeded. -/
inductive Reaches : Pending → Prop
  /-- There is none. -/
  | settingToken : Reaches (.settingToken e.token)
  /-- The token was stored. -/
  | removing {answer : Answer}
      (hstored : (e.talk (.settingToken e.token)).outcome? = some (.ok answer)) :
      Reaches (.removing e.token)
  /-- The token was stored, and the pod of the run before is gone. -/
  | submitting {answer gone : Answer}
      (hstored : (e.talk (.settingToken e.token)).outcome? = some (.ok answer))
      (hremoved : e.removal.outcome? = some (.ok gone)) (now : Instant) :
      Reaches (.submitting e.token (e.checker.config.pod e.token now))

/-- How a run ends that has sent some requests; without a result if it never does. -/
inductive Ends (sent : List Request) : Option (Except CheckError Unit) → Prop
  /-- Its pod was created. -/
  | submitted {token : String} {pod : Pod} {answer : Answer} (h : e.Reaches (.submitting token pod))
      (hsent : sent.map some = e.upTo (.submitting token pod))
      (houtcome : (e.talk (.submitting token pod)).outcome? = some (.ok answer)) :
      Ends sent (some (.ok ()))
  /-- An operation has failed. -/
  | failed {p : Pending} {source : ClientError} (h : e.Reaches p) (hsent : sent.map some = e.upTo p)
      (houtcome : (e.talk p).outcome? = some (.error source)) :
      Ends sent (some (.error (p.failure e.checker.config source)))
  /-- An operation never ends. -/
  | hung {p : Pending} (h : e.Reaches p) (hsent : sent.map some = e.upTo p)
      (houtcome : (e.talk p).outcome? = none) : Ends sent none

variable {e} {p q : Pending} {sent : List Request} {result? : Option (Except CheckError Unit)}

/-- A run ends with an operation that was reached, and has sent what it asks up to there. -/
theorem Ends.reaches (h : e.Ends sent result?) : ∃ p, e.Reaches p ∧ sent.map some = e.upTo p := by
  cases h with
  | submitted h hsent => exact ⟨_, h, hsent⟩
  | failed h hsent => exact ⟨_, h, hsent⟩
  | hung h hsent => exact ⟨_, h, hsent⟩

/-- A run has sent as many requests as its operations ask. -/
theorem length_of_sent (hsent : sent.map some = e.upTo p) : sent.length = (e.upTo p).length := by
  rw [← hsent, List.length_map]

/-- The first operation sends one request at most. -/
theorem upTo_settingToken_prefix (token : String) :
    e.upTo (.settingToken token)
      <+: [patchToken? e.checker.config.ns e.checker.config.checkName token] := by
  have hprefix := Exchange.exchanges_of_not_isDeletion
    (x := .patch e.checker.config.ns e.checker.config.checkName token) rfl deletionMillis e.script
  exact hprefix.map Exchange.request?

/-- If the token was stored, the first request was sent. -/
theorem upTo_settingToken {answer : Answer}
    (hstored : (e.talk (.settingToken e.token)).outcome? = some (.ok answer)) :
    e.upTo (.settingToken e.token) = [e.patch?]
      ∧ (e.talk (.settingToken e.token)).rest = e.script.tail := by
  have hexchanges : (e.talk (.settingToken e.token)).exchanges
      = [.patch e.checker.config.ns e.checker.config.checkName e.token] :=
    (Exchange.exists_ok_patch_iff.1 ⟨answer, hstored⟩).1
  constructor
  · rw [upTo, Talk.requests, hexchanges]
    rfl
  · have hrest : (e.talk (.settingToken e.token)).rest
        = e.script.drop (e.talk (.settingToken e.token)).exchanges.length := Exchange.rest_talk ..
    rw [hrest, hexchanges]
    exact List.drop_one

/-- A run gets to its next operation when one has succeeded, and finds the responses that are left
then. -/
theorem Reaches.next {now : Instant} {answer : Answer} (h : e.Reaches p)
    (hq : p.next? e.checker.config now = some q)
    (houtcome : (e.talk p).outcome? = some (.ok answer)) :
    e.Reaches q ∧ e.before q = e.upTo p ∧ e.responses q = (e.talk p).rest := by
  cases h with
  | settingToken =>
    obtain rfl : Pending.removing e.token = q := by simpa [Pending.next?] using hq
    obtain ⟨hupTo, hrest⟩ := upTo_settingToken houtcome
    exact ⟨.removing houtcome, hupTo.symm, hrest.symm⟩
  | removing hstored =>
    obtain rfl : Pending.submitting e.token (e.checker.config.pod e.token now) = q := by
      simpa [Pending.next?] using hq
    exact ⟨.submitting hstored houtcome now, rfl, rfl⟩
  | submitting => simp [Pending.next?] at hq

/-! ## Responses -/

/-- A run has got a response to every request that came before an operation, and these are the
responses that are no longer left. -/
def Answers (e : ApiRun) (p : Pending) : Prop :=
  e.responses p = e.script.drop (e.before p).length
    ∧ ∀ n, n < (e.before p).length → Answered e.script n

/-- The requests up to the end of an operation got a response, but for the last one if the operation
does not succeed. -/
theorem Answers.upTo {n : Nat} (h : e.Answers p) (hn : n < (e.upTo p).length)
    (hmore : n + 1 < (e.upTo p).length ∨ ∃ answer, (e.talk p).outcome? = some (.ok answer)) :
    Answered e.script n := by
  have hlength : (e.upTo p).length = (e.before p).length + (e.talk p).exchanges.length := by
    rw [ApiRun.upTo, List.length_append, Talk.requests, List.length_map]
  by_cases hlt : n < (e.before p).length
  · exact h.2 n hlt
  obtain ⟨k, rfl⟩ := Nat.exists_eq_add_of_le (Nat.le_of_not_lt hlt)
  unfold talk at hlength hmore
  obtain ⟨r, hr, hanswer⟩ : Answered (e.responses p) k :=
    Exchange.answered_talk (by omega) (hmore.imp_left fun h => by omega)
  rw [h.1, List.getElem?_drop] at hr
  exact ⟨r, hr, hanswer⟩

/-- An operation that has succeeded has got a response to every request. -/
theorem Answers.next {answer : Answer} (h : e.Answers p)
    (houtcome : (e.talk p).outcome? = some (.ok answer)) (hbefore : e.before q = e.upTo p)
    (hresponses : e.responses q = (e.talk p).rest) : e.Answers q := by
  rw [Answers, hbefore]
  constructor
  · have hrest : (e.talk p).rest = (e.responses p).drop (e.talk p).exchanges.length :=
      Exchange.rest_talk ..
    rw [hresponses, hrest, h.1, List.drop_drop, ApiRun.upTo, List.length_append, Talk.requests,
      List.length_map]
  · exact fun n hn => h.upTo hn (.inr ⟨answer, houtcome⟩)

/-- A run comes to an operation when it has got a response to every request before. -/
theorem Reaches.answers (h : e.Reaches p) : e.Answers p := by
  have hfirst : e.Answers (.settingToken e.token) := ⟨rfl, by simp [before]⟩
  have hsecond {answer : Answer}
      (hstored : (e.talk (.settingToken e.token)).outcome? = some (.ok answer)) :
      e.Answers (.removing e.token) := by
    obtain ⟨hupTo, hrest⟩ := upTo_settingToken hstored
    exact hfirst.next hstored hupTo.symm hrest.symm
  cases h with
  | settingToken => exact hfirst
  | removing hstored => exact hsecond hstored
  | submitting hstored hremoved now => exact (hsecond hstored).next hremoved rfl rfl

/-- **Nothing is sent again.** A run goes on to send something only if what it has sent got a
response. -/
theorem Ends.answered {n : Nat} (h : e.Ends sent result?) (hn : n + 1 < sent.length) :
    Answered e.script n := by
  obtain ⟨p, hp, hsent⟩ := h.reaches
  have hlength := length_of_sent hsent
  exact hp.answers.upTo (by omega) (.inl (by omega))

/-! ## Requests -/

/-- The requests of a whole run whose pod is built at an instant. -/
def requests (e : ApiRun) (now : Instant) : List (Option Request) :=
  e.patch? :: deletePod? e.checker.config.ns e.checker.config.podName
    :: (e.removal.exchanges.tail.map Exchange.request?
      ++ [postPod? e.checker.config.ns (e.checker.config.pod e.token now)])

section Words

variable {now : Instant} {r : Request}

/-- What has been sent is what was to be asked. -/
theorem getElem?_of_sent {asked : List (Option Request)} (h : sent.map some <+: asked) {n : Nat}
    (hr : sent[n]? = some r) : asked[n]? = some (some r) := by
  obtain ⟨rest, rfl⟩ := h
  obtain ⟨hn, -⟩ := List.getElem?_eq_some_iff.1 hr
  rw [List.getElem?_append_left (by simpa using hn), List.getElem?_map, hr, Option.map_some]

/-- The first request stores the token of the run. -/
theorem storesToken_of_requests (e : ApiRun) (h : (e.requests now)[0]? = some (some r)) :
    r.StoresToken e.checker.config.ns e.checker.config.checkName e.token :=
  patchToken?_of_some (Option.some.inj h)

/-- The second one deletes the pod of the run before. -/
theorem deletesPod_of_requests (e : ApiRun) (h : (e.requests now)[1]? = some (some r)) :
    r.DeletesPod e.checker.config.ns e.checker.config.podName :=
  deletePod?_of_some (Option.some.inj h)

/-- Those in between ask for that pod. -/
theorem asksForPod_of_requests (e : ApiRun) {n : Nat} (hn : n < e.removal.exchanges.tail.length)
    (h : (e.requests now)[n + 2]? = some (some r)) :
    r.AsksForPod e.checker.config.ns e.checker.config.podName := by
  have hrequest : (e.removal.exchanges.tail.map Exchange.request?)[n]? = some (some r) := by
    rw [← h, requests, List.getElem?_cons_succ, List.getElem?_cons_succ,
      List.getElem?_append_left (by simpa using hn)]
  obtain ⟨x, hx, hrequest⟩ := List.mem_map.1 (List.mem_of_getElem? hrequest)
  obtain ⟨pod, -, hpod⟩ := Exchange.deletion_of_mem_exchanges_delete hx
  exact Exchange.request?_of_deletion hpod hrequest

/-- The last one creates the pod of the run, which has not been created before. -/
theorem createsPod_of_requests (e : ApiRun)
    (h : (e.requests now)[e.removal.exchanges.tail.length + 2]? = some (some r)) :
    r.CreatesPod e.checker.config.ns (e.checker.config.pod e.token now) := by
  rw [requests, List.getElem?_cons_succ, List.getElem?_cons_succ,
    List.getElem?_append_right (by simp)] at h
  have hnone : (e.checker.config.pod e.token now).metadata.creationTimestamp = none := rfl
  refine postPod?_of_some (fun t ht => ?_) (Option.some.inj (by simpa using h))
  rw [hnone] at ht
  cases ht

end Words

/-- The deletion sends its own request first, if any. -/
theorem removal_requests_prefix : e.removal.requests
    <+: deletePod? e.checker.config.ns e.checker.config.podName
      :: e.removal.exchanges.tail.map Exchange.request? :=
  (Exchange.exchanges_prefix ..).map Exchange.request?

/-- If the pod of the run before is gone, its deletion was sent. -/
theorem removal_requests_of_ok {gone : Answer} (h : e.removal.outcome? = some (.ok gone)) :
    e.removal.requests = deletePod? e.checker.config.ns e.checker.config.podName
      :: e.removal.exchanges.tail.map Exchange.request? :=
  congrArg (List.map Exchange.request?) (Exchange.exchanges_of_ok h)

/-- The last operation sends one request at most. -/
theorem upTo_submitting {gone : Answer} (h : e.removal.outcome? = some (.ok gone)) (now : Instant) :
    e.upTo (.submitting e.token (e.checker.config.pod e.token now))
      = e.patch? :: deletePod? e.checker.config.ns e.checker.config.podName
        :: (e.removal.exchanges.tail.map Exchange.request?
          ++ (e.talk (.submitting e.token (e.checker.config.pod e.token now))).requests) := by
  rw [upTo, before, removal_requests_of_ok h]
  rfl

/-- **What a run asks up to the end of an operation** is the beginning of the requests of a whole
run. It is more than the first one only if the token was stored, and all of them only if the pod of
the run before is gone and the operation is the creation of the pod. -/
theorem Reaches.upTo_prefix (h : e.Reaches p) :
    ∃ now, e.upTo p <+: e.requests now
      ∧ (1 < (e.upTo p).length →
        ∃ answer, (e.talk (.settingToken e.token)).outcome? = some (.ok answer))
      ∧ (e.removal.exchanges.tail.length + 2 < (e.upTo p).length →
        p = .submitting e.token (e.checker.config.pod e.token now)
          ∧ ∃ gone, e.removal.outcome? = some (.ok gone)) := by
  cases h with
  | settingToken =>
    have hprefix := e.upTo_settingToken_prefix e.token
    -- too short for anything to follow
    have hlength : (e.upTo (.settingToken e.token)).length ≤ 1 := hprefix.length_le
    refine ⟨.ofNanos 0, hprefix.trans ?_, by omega, by omega⟩
    exact List.cons_prefix_cons.2 ⟨rfl, List.nil_prefix⟩
  | removing hstored =>
    have hprefix : e.upTo (.removing e.token) <+: _ :=
      List.cons_prefix_cons.2 ⟨rfl, e.removal_requests_prefix⟩
    have hlength := hprefix.length_le
    simp only [List.length_cons, List.length_map] at hlength
    refine ⟨.ofNanos 0, hprefix.trans ?_, fun _ => ⟨_, hstored⟩, by omega⟩
    exact List.prefix_append ..
  | submitting hstored hremoved now =>
    refine ⟨now, ?_, fun _ => ⟨_, hstored⟩, fun _ => ⟨rfl, _, hremoved⟩⟩
    have hlast := Exchange.exchanges_of_not_isDeletion
      (x := .post e.checker.config.ns (e.checker.config.pod e.token now)) rfl deletionMillis
      e.removal.rest
    rw [upTo_submitting hremoved, requests]
    refine List.cons_prefix_cons.2 ⟨rfl, List.cons_prefix_cons.2 ⟨rfl, ?_⟩⟩
    exact (List.prefix_append_right_inj _).2 (hlast.map Exchange.request?)

/-- The pod of a run is created exactly if the last request is sent and the response to it is read
as a pod. -/
theorem exists_ok_submitting_iff {gone : Answer} (h : e.removal.outcome? = some (.ok gone))
    (now : Instant) :
    (∃ answer, (e.talk (.submitting e.token (e.checker.config.pod e.token now))).outcome?
        = some (.ok answer))
      ↔ e.removal.exchanges.tail.length + 2
          < (e.upTo (.submitting e.token (e.checker.config.pod e.token now))).length
        ∧ ∃ pod, e.removal.rest.head?.bind (Response.read? Pod.form) = some pod := by
  let post : Exchange := .post e.checker.config.ns (e.checker.config.pod e.token now)
  refine Exchange.exists_ok_post_iff.trans (and_congr_left fun _ => ?_)
  have hprefix : (post.talk deletionMillis e.removal.rest).exchanges <+: [post] :=
    Exchange.exchanges_of_not_isDeletion rfl ..
  have hlength : (e.upTo (.submitting e.token (e.checker.config.pod e.token now))).length
      = e.removal.exchanges.tail.length
        + (post.talk deletionMillis e.removal.rest).exchanges.length + 2 := by
    rw [upTo_submitting h, List.length_cons, List.length_cons, List.length_append, List.length_map,
      Talk.requests, List.length_map]
    rfl
  rw [hlength]
  constructor
  · intro hsent
    have hone : (post.talk deletionMillis e.removal.rest).exchanges.length = 1 :=
      congrArg List.length hsent
    omega
  · intro hmore
    refine hprefix.eq_of_length_le ?_
    rw [List.length_singleton]
    omega

/-- An operation with which all requests of a whole run are sent succeeds if the last response is
read as a pod. -/
theorem Reaches.exists_ok (h : e.Reaches p)
    (hlength : e.removal.exchanges.tail.length + 2 < (e.upTo p).length)
    (hpod : ∃ pod, e.removal.rest.head?.bind (Response.read? Pod.form) = some pod) :
    ∃ answer, (e.talk p).outcome? = some (.ok answer) := by
  obtain ⟨now, -, -, hlast⟩ := h.upTo_prefix
  obtain ⟨rfl, gone, hgone⟩ := hlast hlength
  exact (exists_ok_submitting_iff hgone now).2 ⟨hlength, hpod⟩

/-- **A run succeeds exactly if it has sent everything and the last response is read as a pod.** -/
theorem Ends.ok_iff (h : e.Ends sent result?) :
    result? = some (.ok ()) ↔ e.removal.exchanges.tail.length + 2 < sent.length
      ∧ ∃ pod, e.removal.rest.head?.bind (Response.read? Pod.form) = some pod := by
  -- with everything sent and a pod read, the operation that the run ends with has succeeded
  have hfails {p : Pending} (h : e.Reaches p) (hsent : sent.map some = e.upTo p)
      (hne : ∀ answer, (e.talk p).outcome? ≠ some (.ok answer)) :
      ¬(e.removal.exchanges.tail.length + 2 < sent.length
        ∧ ∃ pod, e.removal.rest.head?.bind (Response.read? Pod.form) = some pod) := by
    rintro ⟨hall, hpod⟩
    rw [length_of_sent hsent] at hall
    obtain ⟨answer, hanswer⟩ := h.exists_ok hall hpod
    exact hne answer hanswer
  cases h with
  | submitted h hsent houtcome =>
    cases h with
    | submitting _ hremoved now =>
      rw [length_of_sent hsent]
      exact iff_of_true rfl ((exists_ok_submitting_iff hremoved now).1 ⟨_, houtcome⟩)
  | failed h hsent houtcome => exact iff_of_false (by simp) (hfails h hsent (by simp [houtcome]))
  | hung h hsent houtcome => exact iff_of_false (by simp) (hfails h hsent (by simp [houtcome]))

/-- **What a run has sent** is the beginning of the requests of a whole run. It has deleted the pod
of the run before only if the token was stored, and created its own only if that pod is gone. -/
theorem Ends.sends (h : e.Ends sent result?) :
    ∃ now, sent.map some <+: e.requests now
      ∧ (1 < sent.length
        → ∃ check, e.script.head?.bind (Response.read? Check.form) = some check)
      ∧ (e.removal.exchanges.tail.length + 2 < sent.length
        → ∃ gone, e.removal.outcome? = some (.ok gone)) := by
  obtain ⟨p, hp, hsent⟩ := h.reaches
  obtain ⟨now, hprefix, hstored, hlast⟩ := hp.upTo_prefix
  rw [length_of_sent hsent, hsent]
  refine ⟨now, hprefix, fun hmore => ?_, fun hall => (hlast hall).2⟩
  exact (Exchange.exists_ok_patch_iff.1 (hstored hmore)).2

end ApiRun

end PodCheck
