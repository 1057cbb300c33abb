import PodCheck.Proofs.Api.Talk

/-! # Flights to API servers

An operation over an API server takes the course of its talk (`Exchange.talk`): what it has still to
ask at a time, and how it ends, is told by its exchange, the time that the pod has left and the
responses to come (`ApiFlight.ahead`). A poll that is made when the operation is due
(`ApiFlight.Due`) sends some of these requests and ends the operation in the way of its talk, or
leaves the rest of them for the time at which it is due again (`ApiClient.leads_poll`). Each poll
brings the operation nearer to its end (`ApiFlight.work`). -/

namespace PodCheck.Simulation

open Api

namespace ApiFlight

variable {f : ApiFlight} {now later : Nat} {script : List Response}

/-- The time that is left for the pod to go. -/
def left (f : ApiFlight) (now : Nat) : Nat :=
  match f.limit with
  | some limit => limit - now
  | none => deletionMillis

/-- What an operation has still to do at a time, given the responses to come. -/
def ahead (f : ApiFlight) (now : Nat) (script : List Response) : Talk :=
  match f.stage with
  | none | some (.sending _) => f.exchange.talk (f.left now) script
  | some (.awaiting reply due) =>
    let r : Response := { reply, delay := due - now }
    (f.exchange.progress (f.left now) r).talk (f.exchange.leftAfter (f.left now) r) script
  | some .stopped => f.exchange.stopped.talk (f.left now) script

/-- How often an operation may still be polled, given the responses to come. -/
def work (f : ApiFlight) (script : List Response) : Nat :=
  match f.stage with
  | none => 2 * script.length + 3
  | some (.sending _) => 2 * script.length + 2
  | some (.awaiting _ _) => 2 * script.length + 3
  | some .stopped => 1

/-- There is a limit just when the operation waits for a pod to go. -/
def Limited (f : ApiFlight) : Prop := f.limit.isSome = f.exchange.deletion?.isSome

/-- An operation is polled at a time at which there is something to do. -/
structure Due (f : ApiFlight) (now : Nat) : Prop where
  /-- There is a limit just when the operation waits for a pod to go. -/
  limited : f.Limited
  /-- There is something to do. -/
  stage : match f.stage with
    | none => True
    | some (.sending request) =>
      f.exchange.request? = some request ∧ f.exchange.withheld? (f.left now) = none
    | some (.awaiting _ due) => due = now ∨ now < due ∧ f.limit = some now
    | some .stopped => f.limit = some now

theorem Limited.deletion_of_none {x : Exchange} {stage : Option ApiStage}
    (h : Limited ⟨x, stage, none⟩) : x.deletion? = none := by
  simpa [Limited] using h

theorem Limited.deletion_of_some {x : Exchange} {stage : Option ApiStage} {time : Nat}
    (h : Limited ⟨x, stage, some time⟩) : ∃ d, x.deletion? = some d :=
  Option.isSome_iff_exists.1 h.symm

/-- The time that is left does not depend on whether the limit has been set yet. -/
theorem left_limit? (x : Exchange) (now : Nat) (limit : Option Nat) (stage : Option ApiStage) :
    left ⟨x, stage, x.limit? now limit⟩ now = left ⟨x, none, limit⟩ now := by
  cases limit with
  | some time => rfl
  | none =>
    cases hd : x.deletion? with
    | none => simp only [Exchange.limit?, left, hd, Option.none_or, Option.map_none]
    | some d =>
      simp only [Exchange.limit?, left, hd, Option.none_or, Option.map_some]
      exact Nat.add_sub_cancel_left ..

/-- A limit is set with the first exchange that waits for a pod to go. -/
theorem limited_limit? {x : Exchange} {limit : Option Nat} (now : Nat) (stage : Option ApiStage)
    (h : limit.isSome = true → x.deletion?.isSome = true) :
    Limited ⟨x, stage, x.limit? now limit⟩ := by
  cases limit with
  | some time => exact (h rfl).symm
  | none => simp [Limited, Exchange.limit?]

/-- **An exchange begins unless its request is withheld** in the time that is left. -/
theorem begin?_eq {x : Exchange} {limit : Option Nat} (now : Nat)
    (h : limit.isSome = true → x.deletion?.isSome = true) :
    x.begin? now limit
      = match x.request?, x.withheld? (left ⟨x, none, limit⟩ now) with
        | some request, none => .ok (request, x.limit? now limit)
        | _, some e => .error e
        | none, none => .error x.unsendable := by
  rw [← left_limit? x now limit none]
  cases hx : x.request? with
  | none => simp only [Exchange.begin?, Exchange.withheld?, hx]
  | some request =>
    cases hd : x.deletion? with
    | none => simp [Exchange.begin?, Exchange.withheld?, Exchange.overdue?, hx, hd]
    | some d =>
      obtain ⟨time, htime⟩ : ∃ time, x.limit? now limit = some time := by
        have hlimited := limited_limit? now none h
        exact Option.isSome_iff_exists.1 (hlimited.trans (by rw [hd]; rfl))
      by_cases hover : time ≤ now <;>
        simp [Exchange.begin?, Exchange.withheld?, Exchange.overdue?, left, hx, hd, htime, hover,
          Nat.sub_eq_zero_iff_le]

/-- While a reply is waited for, time may pass until it comes or the pod has taken too long. -/
theorem ahead_awaiting {x : Exchange} {reply : Reply} {due : Nat} {limit : Option Nat}
    (hlimited : Limited ⟨x, some (.awaiting reply due), limit⟩) (hle : now ≤ later)
    (hdue : later ≤ due) (hlimit : ∀ time, limit = some time → later ≤ time) :
    ahead ⟨x, some (.awaiting reply due), limit⟩ later script
      = ahead ⟨x, some (.awaiting reply due), limit⟩ now script := by
  cases limit with
  | none =>
    have hnone := hlimited.deletion_of_none
    simp [ahead, left, Exchange.progress, Exchange.inTime, Exchange.leftAfter, hnone]
  | some time =>
    -- the time that is left and the time until the reply grow shorter together
    obtain ⟨d, hd⟩ := hlimited.deletion_of_some
    have hlater := hlimit time rfl
    have htime : due - later ≤ time - later ↔ due - now ≤ time - now := by omega
    have hleft : time - later - (due - later) = time - now - (due - now) := by omega
    simp [ahead, left, Exchange.progress, Exchange.inTime, Exchange.leftAfter, hd, htime, hleft]

end ApiFlight

/-- What a poll at a time makes of an operation that has a talk ahead. -/
inductive Leads (t : Talk) (now work : Nat) : Polled ApiClient ApiFlight → Prop
  /-- The operation ends in the way of its talk. -/
  | ended (sent : List Request) {script : List Response} {outcome : Outcome} {events : List Event}
      (hsent : sent.map some = t.requests) (houtcome : t.outcome? = some outcome)
      (hrest : t.rest = script)
      (hwork : (∃ answer, outcome = .ok answer) → 2 * script.length + 2 < work) :
      Leads t now work ⟨⟨script⟩, .over outcome, sent.map .requested, events⟩
  /-- It goes on at a later time. -/
  | flying (sent : List Request) {script : List Response} {f : ApiFlight} {later : Nat}
      {events : List Event} (hle : now ≤ later) (hdue : f.Due later)
      (hsent : t.requests = sent.map some ++ (f.ahead later script).requests)
      (houtcome : (f.ahead later script).outcome? = t.outcome?)
      (hrest : (f.ahead later script).rest = t.rest) (hwork : f.work script < work) :
      Leads t now work ⟨⟨script⟩, .flying f (some later), sent.map .requested, events⟩
  /-- It never ends. -/
  | stuck (sent : List Request) {script : List Response} {f : ApiFlight} {events : List Event}
      (hsent : sent.map some = t.requests) (houtcome : t.outcome? = none) :
      Leads t now work ⟨⟨script⟩, .flying f none, sent.map .requested, events⟩

namespace Leads

variable {t : Talk} {now work : Nat} {polled : Polled ApiClient ApiFlight}

/-- What is logged does not matter. -/
theorem log (h : Leads t now work polled) (events : List Event) :
    Leads t now work { polled with events := events ++ polled.events } := by
  cases h with
  | ended sent hsent houtcome hrest hwork => exact .ended sent hsent houtcome hrest hwork
  | flying sent hle hdue hsent houtcome hrest hwork =>
    exact .flying sent hle hdue hsent houtcome hrest hwork
  | stuck sent hsent houtcome => exact .stuck sent hsent houtcome

/-- An operation has no more to do than it is said to have. -/
theorem mono {work' : Nat} (h : Leads t now work polled) (hle : work ≤ work') :
    Leads t now work' polled := by
  cases h with
  | ended sent hsent houtcome hrest hwork =>
    exact .ended sent hsent houtcome hrest fun hok => Nat.lt_of_lt_of_le (hwork hok) hle
  | flying sent hlater hdue hsent houtcome hrest hwork =>
    exact .flying sent hlater hdue hsent houtcome hrest (Nat.lt_of_lt_of_le hwork hle)
  | stuck sent hsent houtcome => exact .stuck sent hsent houtcome

/-- The request of an exchange is sent before what follows from the response. -/
theorem request {x : Exchange} {request : Request} (h : Leads t now work polled)
    (hx : x.request? = some request) :
    Leads (t.after x) now work { polled with records := .requested request :: polled.records } := by
  have hrequests : (t.after x).requests = some request :: t.requests := by
    rw [Talk.requests, Talk.after, List.map_cons, hx]
    rfl
  cases h with
  | ended sent hsent houtcome hrest hwork =>
    have hall : (request :: sent).map some = (t.after x).requests := by
      rw [hrequests, ← hsent, List.map_cons]
    exact .ended _ hall houtcome hrest hwork
  | @flying sent script f later _ hle hdue hsent houtcome hrest hwork =>
    have hall : (t.after x).requests
        = (request :: sent).map some ++ (f.ahead later script).requests := by
      rw [hrequests, hsent, List.map_cons, List.cons_append]
    exact .flying _ hle hdue hall houtcome hrest hwork
  | stuck sent hsent houtcome =>
    have hall : (request :: sent).map some = (t.after x).requests := by
      rw [hrequests, ← hsent, List.map_cons]
    exact .stuck _ hall houtcome

/-- An operation that is polled later has the same to do then. -/
theorem later {c : ApiClient} {f : ApiFlight} {later : Nat} (hle : now ≤ later)
    (hdue : f.Due later) (hahead : f.ahead later c.script = t) (hwork : f.work c.script < work) :
    Leads t now work ⟨c, .flying f (some later), [], []⟩ := by
  subst hahead
  exact .flying [] hle hdue rfl rfl rfl hwork

end Leads

namespace ApiClient

variable {c : ApiClient} {now work : Nat} {f : ApiFlight} {t : Talk}

/-- Without a limit an operation is held until it is woken. -/
theorem hold_of_none (h : f.limit = none) (wake : Option Nat) :
    c.hold now f wake = ⟨c, .flying f wake, [], []⟩ := by
  simp only [hold, Exchange.overdue?, h, Option.map_none, Option.none_or]

/-- An operation is given up at its limit, and held until then at most. -/
theorem hold_of_some {limit : Nat} {d : Deletion} (h : f.limit = some limit)
    (hd : f.exchange.deletion? = some d) (wake : Option Nat) :
    c.hold now f wake
      = if limit ≤ now then ⟨c, .over (.error d.timeout), [], []⟩
        else ⟨c, .flying f (some (min limit (wake.getD limit))), [], []⟩ := by
  by_cases hover : limit ≤ now <;> simp [hold, Exchange.overdue?, h, hd, hover]

/-- An operation that has stopped is given up at its limit, or never ends. -/
theorem leads_stopped (c : ApiClient) (now left : Nat) (f : ApiFlight) (h : f.Limited)
    (hwork : 1 < work) : Leads (f.exchange.stopped.talk left c.script) now work
      (c.hold now { f with stage := some .stopped } none) := by
  obtain ⟨x, stage, limit⟩ := f
  cases limit with
  | none =>
    have hstopped : x.stopped = .endless := by simp only [Exchange.stopped, h.deletion_of_none]
    rw [hold_of_none rfl, hstopped]
    exact .stuck [] rfl rfl
  | some limit =>
    obtain ⟨d, hd⟩ := h.deletion_of_some
    have hstopped : x.stopped = .over (.error d.timeout) := by simp only [Exchange.stopped, hd]
    rw [hold_of_some rfl hd, hstopped]
    split
    · exact .ended [] rfl rfl rfl (by simp)
    · refine .later (by simp; omega) ⟨h, by simp⟩ ?_ hwork
      simp only [ApiFlight.ahead, hstopped]
      rfl

/-- An exchange that begins has its whole talk ahead. -/
theorem leads_begin (c : ApiClient) (now : Nat) (x : Exchange) (limit : Option Nat)
    (h : limit.isSome = true → x.deletion?.isSome = true) :
    Leads (x.talk (ApiFlight.left ⟨x, none, limit⟩ now) c.script) now (2 * c.script.length + 3)
      (c.begin now x limit) := by
  rw [ApiClient.begin, ApiFlight.begin?_eq now h]
  have hlimited (stage : Option ApiStage) := ApiFlight.limited_limit? now stage h
  have hleft (stage : Option ApiStage) := ApiFlight.left_limit? x now limit stage
  cases hheld : x.withheld? (ApiFlight.left ⟨x, none, limit⟩ now) with
  | some e =>
    -- the request cannot be written, or the pod has taken too long before it
    rw [Exchange.talk_of_withheld hheld]
    cases x.request? <;> exact .ended [] rfl rfl rfl (by simp)
  | none =>
    cases hx : x.request? with
    | none => simp [Exchange.withheld?, hx] at hheld
    | some request =>
      refine .later (Nat.le_refl _) ⟨hlimited _, hx, ?_⟩ ?_ (Nat.lt_succ_self _)
      · rw [hleft, hheld]
      · simp only [ApiFlight.ahead, hleft]

/-- A reply that is taken leads on as it tells. -/
theorem leads_take (c : ApiClient) (now : Nat) (f : ApiFlight) (reply : Reply) (h : f.Limited) :
    Leads ((f.exchange.settle reply).talk (f.left now) c.script) now (2 * c.script.length + 3)
      (c.take now f reply) := by
  unfold take Exchange.settle
  rcases hreceive : f.exchange.receive reply with ⟨progress, events⟩
  refine Leads.log ?_ events
  cases progress with
  | endless => exact c.leads_stopped now (f.left now) f h (by omega)
  | exchange next =>
    -- what waits for a pod to go still does
    refine c.leads_begin now next f.limit fun hlimit => ?_
    rw [h] at hlimit
    obtain ⟨d, hd⟩ := Option.isSome_iff_exists.1 hlimit
    rcases Exchange.deletion_of_receive (congrArg Prod.fst hreceive) with
      ⟨ns, name, pod, hx, -⟩ | ⟨d', -, hnext⟩
    · simp [hx, Exchange.deletion?] at hd
    · simp [hnext]
  | _ => exact .ended [] rfl rfl rfl fun _ => Nat.lt_succ_self _

/-- A connection that fails ends the operation. -/
theorem leads_take_failed (c : ApiClient) (now left : Nat) (f : ApiFlight) :
    Leads ((f.exchange.settle .failed).talk left c.script) now work (c.take now f .failed) := by
  obtain ⟨e, he, hsettle⟩ := f.exchange.exists_settle_failed
  rw [hsettle]
  unfold take
  rcases hreceive : f.exchange.receive .failed with ⟨progress, events⟩
  obtain rfl : progress = .over (.error e) := by rw [← he, hreceive]
  exact Leads.log (.ended [] rfl rfl rfl (by simp)) events

/-- A reply is waited for until it comes or the pod has taken too long. -/
theorem leads_await (c : ApiClient) (now : Nat) (x : Exchange) (reply : Reply) (due : Nat)
    {limit : Option Nat} (h : ApiFlight.Limited ⟨x, some (.awaiting reply due), limit⟩)
    (hdue : now < due) (hlimit : ∀ time, limit = some time → now < time) :
    Leads (ApiFlight.ahead ⟨x, some (.awaiting reply due), limit⟩ now c.script) now
      (2 * c.script.length + 4) (c.hold now ⟨x, some (.awaiting reply due), limit⟩ (some due)) := by
  cases limit with
  | none =>
    rw [hold_of_none rfl]
    refine .later (Nat.le_of_lt hdue) ⟨h, .inl rfl⟩ ?_ (Nat.lt_succ_self _)
    exact ApiFlight.ahead_awaiting h (Nat.le_of_lt hdue) (Nat.le_refl _) (by simp)
  | some time =>
    obtain ⟨d, hd⟩ := h.deletion_of_some
    have hnow := hlimit time rfl
    rw [hold_of_some rfl hd, if_neg (Nat.not_le_of_lt hnow), Option.getD_some]
    refine .later (by omega) ⟨h, ?_⟩ ?_ (Nat.lt_succ_self _)
    · -- a reply that comes at the very limit still counts
      rcases Nat.le_total due time with hle | hle
      · exact .inl (Nat.min_eq_right hle).symm
      · rw [Nat.min_eq_left hle]
        rcases Nat.eq_or_lt_of_le hle with heq | hlt
        · exact .inl heq.symm
        · exact .inr ⟨hlt, rfl⟩
    · refine ApiFlight.ahead_awaiting h (by omega) (Nat.min_le_right ..) ?_
      intro _ htime
      obtain rfl := Option.some.inj htime
      exact Nat.min_le_left ..

/-- A reply that comes at once leads on as it tells. -/
theorem leads_at_once (c : ApiClient) (now : Nat) (f : ApiFlight) (reply : Reply) (h : f.Limited) :
    Leads ((f.exchange.progress (f.left now) { reply }).talk
        (f.exchange.leftAfter (f.left now) { reply }) c.script)
      now (2 * c.script.length + 3) (c.take now f reply) := by
  have hprogress : f.exchange.progress (f.left now) { reply } = f.exchange.settle reply := by
    simp [Exchange.progress, Exchange.inTime]
  have hleft : f.exchange.leftAfter (f.left now) { reply } = f.left now := by
    simp [Exchange.leftAfter]
  rw [hprogress, hleft]
  exact c.leads_take now f reply h

/-- An operation is given up at its limit. -/
theorem leads_limit (c : ApiClient) {f : ApiFlight} (h : f.Limited) (hlimit : f.limit = some now)
    (wake : Option Nat) (left : Nat) :
    Leads (f.exchange.stopped.talk left c.script) now work (c.hold now f wake) := by
  obtain ⟨x, stage, limit⟩ := f
  obtain rfl : limit = some now := hlimit
  obtain ⟨d, hd⟩ := h.deletion_of_some
  have hstopped : x.stopped = .over (.error d.timeout) := by simp only [Exchange.stopped, hd]
  rw [hold_of_some rfl hd, if_pos (Nat.le_refl now), hstopped]
  exact .ended [] rfl rfl rfl (by simp)

/-- **A response leads on when it comes**, at once or later, if it ever does. -/
theorem leads_respond (c : ApiClient) (now : Nat) (f : ApiFlight) (r : Response) (h : f.Limited)
    (hlimit : ∀ time, f.limit = some time → now < time) :
    Leads ((f.exchange.progress (f.left now) r).talk (f.exchange.leftAfter (f.left now) r) c.script)
      now (2 * c.script.length + 4)
      (if r.hangs then c.hold now { f with stage := some .stopped } none
      else if r.delay = 0 then c.take now f r.reply
      else c.hold now { f with stage := some (.awaiting r.reply (now + r.delay)) }
        (some (now + r.delay))) := by
  obtain ⟨reply, delay, hangs⟩ := r
  cases hangs with
  | true => exact c.leads_stopped now _ f h (by omega)
  | false =>
    rw [if_neg Bool.false_ne_true]
    by_cases hdelay : delay = 0
    · subst hdelay
      exact (c.leads_at_once now f reply h).mono (Nat.le_succ _)
    · rw [if_neg hdelay]
      have hawait := c.leads_await now f.exchange reply (now + delay) h (by omega) hlimit
      simp only [ApiFlight.ahead, Nat.add_sub_cancel_left] at hawait
      exact hawait

/-- A request gets the next response. -/
theorem leads_send (c : ApiClient) {x : Exchange} {request : Request} {limit : Option Nat}
    (hdue : ApiFlight.Due ⟨x, some (.sending request), limit⟩ now) :
    Leads (x.talk (ApiFlight.left ⟨x, some (.sending request), limit⟩ now) c.script) now
      (2 * c.script.length + 2) (c.poll now ⟨x, some (.sending request), limit⟩) := by
  obtain ⟨script⟩ := c
  obtain ⟨hlimited, hx, hheld⟩ := hdue
  cases script with
  | nil =>
    rw [Exchange.talk_nil hheld]
    exact (leads_take_failed ⟨[]⟩ now _ ⟨x, some (.sending request), limit⟩).request hx
  | cons r rest =>
    rw [Exchange.talk_cons hheld]
    refine (leads_respond ⟨rest⟩ now ⟨x, some (.sending request), limit⟩ r hlimited ?_).request hx
    -- the request is not withheld, so there is time left
    rintro time rfl
    obtain ⟨d, hd⟩ := hlimited.deletion_of_some
    refine Nat.lt_of_not_le fun hover => ?_
    have hleft : time - now = 0 := by omega
    simp [Exchange.withheld?, hx, hd, ApiFlight.left, hleft] at hheld

/-- **A poll takes an operation on in the way of its talk.** -/
theorem leads_poll (c : ApiClient) (hdue : f.Due now) :
    Leads (f.ahead now c.script) now (f.work c.script) (c.poll now f) := by
  obtain ⟨x, stage, limit⟩ := f
  obtain ⟨hlimited, hstage⟩ := hdue
  cases stage with
  | none => exact c.leads_begin now x limit (hlimited.symm.trans ·)
  | some stage =>
    cases stage with
    | sending request => exact c.leads_send ⟨hlimited, hstage⟩
    | awaiting reply due =>
      rcases hstage with rfl | ⟨hlt, hlimit⟩
      · have htake := c.leads_at_once due ⟨x, some (.awaiting reply due), limit⟩ reply hlimited
        simp only [ApiFlight.ahead, Nat.sub_self, poll, if_neg (Nat.lt_irrefl due)]
        exact htake
      · -- the pod has taken too long
        obtain rfl : limit = some now := hlimit
        obtain ⟨d, hd⟩ := hlimited.deletion_of_some
        have hlate : due - now ≠ 0 := by omega
        have hstopped : x.progress (now - now) { reply, delay := due - now } = x.stopped := by
          simp [Exchange.progress, Exchange.inTime, hd, hlate]
        simp only [ApiFlight.ahead, ApiFlight.left, poll, if_pos hlt, hstopped]
        exact c.leads_limit hlimited rfl (some due) _
    | stopped => exact c.leads_limit hlimited hstage none _

end ApiClient

end PodCheck.Simulation
