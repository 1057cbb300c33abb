import PodCheck.Proofs.Api.Response

/-! # Talks with an API server

What an operation asks of an API server that responds from a script, and how it ends: its exchanges,
each one with the next response, until it is over or the pod that it waits for has taken too long to
go (`Exchange.talk`). Main statements: all operations but the deletion of a pod send one request at
most (`Exchange.exchanges_of_not_isDeletion`); a token is stored, and a pod created, exactly if that
request is sent and the response is read as the object (`Exchange.exists_ok_patch_iff`,
`Exchange.exists_ok_post_iff`); a deletion goes on to ask for its pod only if the response shows
that pod (`Exchange.deletion_of_mem_exchanges_delete`); and nothing is asked after a request that
got no response (`Exchange.answered_talk`). -/

namespace PodCheck

open Api Simulation

namespace Api

/-! ## Operations -/

namespace Exchange

/-- Whether an exchange belongs to the deletion of a pod. -/
def isDeletion : Exchange → Bool
  | .delete .. | .list .. | .watch .. => true
  | .get .. | .patch .. | .post .. => false

/-- Why the request of an exchange is not sent, given the milliseconds that are left for the pod to
go. -/
def withheld? (x : Exchange) (left : Nat) : Option ClientError :=
  match x.request?, x.deletion? with
  | none, _ => some x.unsendable
  | some _, some d => if left = 0 then some d.timeout else none
  | some _, none => none

/-- What comes of an exchange that stops: only what waits for a pod to go is given up. -/
def stopped (x : Exchange) : Progress :=
  match x.deletion? with
  | some d => .over (.error d.timeout)
  | none => .endless

/-- What comes of an exchange with a reply. -/
def settle (x : Exchange) (reply : Reply) : Progress :=
  match (x.receive reply).1 with
  | .endless => x.stopped
  | progress => progress

/-- Whether a response comes before the time is over. -/
def inTime (x : Exchange) (left : Nat) (r : Response) : Bool :=
  !r.hangs && (x.deletion?.isNone || r.delay ≤ left)

/-- What comes of an exchange with a response. -/
def progress (x : Exchange) (left : Nat) (r : Response) : Progress :=
  if x.inTime left r then x.settle r.reply else x.stopped

/-- The time that is left after a response. -/
def leftAfter (x : Exchange) (left : Nat) (r : Response) : Nat :=
  if x.deletion?.isSome then left - r.delay else left

end Exchange

/-- The milliseconds that a pod has to go. -/
def deletionMillis : Nat := deletionSeconds * 1000

/-- What an operation does. -/
structure Talk where
  /-- The exchanges whose requests are sent. -/
  exchanges : List Exchange
  /-- Its outcome; `none` if it never ends. -/
  outcome? : Option Outcome
  /-- The responses that are left. -/
  rest : List Response

/-- A talk with an exchange before it. -/
def Talk.after (x : Exchange) (t : Talk) : Talk := { t with exchanges := x :: t.exchanges }

/-- The requests of a talk; all of them can be written. -/
def Talk.requests (t : Talk) : List (Option Request) := t.exchanges.map Exchange.request?

/-- What an operation does from an exchange on, given the time that is left for the pod to go.
Behind the end of the script the connection fails. -/
def Exchange.talk (x : Exchange) (left : Nat) : List Response → Talk
  | [] =>
    match x.withheld? left, x.settle .failed with
    | some e, _ => ⟨[], some (.error e), []⟩
    | none, .over outcome => ⟨[x], some outcome, []⟩
    | none, _ => ⟨[x], none, []⟩
  | r :: rest =>
    match x.withheld? left, x.progress left r with
    | some e, _ => ⟨[], some (.error e), r :: rest⟩
    | none, .over outcome => ⟨[x], some outcome, rest⟩
    | none, .endless => ⟨[x], none, rest⟩
    | none, .exchange next => (next.talk (x.leftAfter left r) rest).after x

/-- What an operation does after a response. -/
def Progress.talk (left : Nat) (rest : List Response) : Progress → Talk
  | .over outcome => ⟨[], some outcome, rest⟩
  | .endless => ⟨[], none, rest⟩
  | .exchange next => next.talk left rest

namespace Exchange

variable {x next : Exchange} {left : Nat} {reply : Reply} {script : List Response}

/-- An operation whose request is not sent is over. -/
theorem talk_of_withheld {e : ClientError} (h : x.withheld? left = some e)
    (script : List Response) : x.talk left script = ⟨[], some (.error e), script⟩ := by
  cases script <;> rw [Exchange.talk, h]

/-- An operation goes on as its first response tells. -/
theorem talk_cons (h : x.withheld? left = none) (r : Response) (rest : List Response) :
    x.talk left (r :: rest)
      = ((x.progress left r).talk (x.leftAfter left r) rest).after x := by
  rw [Exchange.talk, h]
  cases x.progress left r <;> rfl

/-- A connection that fails ends the operation. -/
theorem exists_settle_failed (x : Exchange) :
    ∃ e, (x.receive .failed).1 = .over (.error e) ∧ x.settle .failed = .over (.error e) := by
  cases x <;> exact ⟨_, rfl, rfl⟩

/-- Behind the end of a script an operation goes on as a connection that fails tells. -/
theorem talk_nil (h : x.withheld? left = none) :
    x.talk left [] = ((x.settle .failed).talk left []).after x := by
  obtain ⟨e, -, he⟩ := x.exists_settle_failed
  rw [Exchange.talk, h, he]
  rfl

/-- An exchange that stops is neither followed by another one nor successful. -/
theorem stopped_ne (x : Exchange) : (∀ next, x.stopped ≠ .exchange next)
    ∧ ∀ answer, x.stopped ≠ .over (.ok answer) := by
  unfold stopped
  cases x.deletion? <;> simp

/-- An exchange stops, or what comes of it is told by a reply that has come. -/
theorem progress_cases (x : Exchange) (left : Nat) (r : Response) :
    x.progress left r = x.stopped
      ∨ r.hangs = false ∧ x.progress left r = (x.receive r.reply).1 := by
  by_cases htime : x.inTime left r = true
  · rw [progress, if_pos htime, settle]
    cases hreceive : (x.receive r.reply).1 with
    | endless => exact .inl rfl
    | _ => exact .inr ⟨by simp_all [inTime], rfl⟩
  · rw [progress, if_neg htime]
    exact .inl rfl

/-- What goes on after a response goes on after its reply. -/
theorem progress_eq_exchange {r : Response} (h : x.progress left r = .exchange next) :
    r.hangs = false ∧ (x.receive r.reply).1 = .exchange next := by
  rcases x.progress_cases left r with hstopped | ⟨hhangs, hreceive⟩
  · exact absurd (hstopped.symm.trans h) (x.stopped_ne.1 next)
  · exact ⟨hhangs, hreceive.symm.trans h⟩

/-- What succeeds with a response succeeds with its reply. -/
theorem progress_eq_ok {r : Response} {answer : Answer}
    (h : x.progress left r = .over (.ok answer)) :
    r.hangs = false ∧ (x.receive r.reply).1 = .over (.ok answer) := by
  rcases x.progress_cases left r with hstopped | ⟨hhangs, hreceive⟩
  · exact absurd (hstopped.symm.trans h) (x.stopped_ne.2 answer)
  · exact ⟨hhangs, hreceive.symm.trans h⟩

/-- A response is taken when it has ended; only a watch does not wait for that. -/
theorem receive_eq_exchange (h : (x.receive reply).1 = .exchange next) :
    (x.isWatch = true ∨ hasEnded reply = true) ∧ (x.afterReply reply).1 = .exchange next := by
  by_cases htaken : (x.isWatch || hasEnded reply) = true
  · rw [receive, if_pos htaken] at h
    exact ⟨by simpa using htaken, h⟩
  · rw [receive, if_neg htaken] at h
    cases h

/-- A deletion goes on only if the response shows the pod. -/
theorem afterDelete_eq_exchange {ns name : String}
    (h : (afterDelete ns name reply).1 = .exchange next) :
    ∃ pod, reply.deletionAnswer = .deleting pod
      ∧ next = .list ⟨ns, name, pod.metadata.uid.getD ""⟩ none false := by
  rw [afterDelete_eq] at h
  cases hanswer : reply.deletionAnswer with
  | deleting pod =>
    rw [hanswer] at h
    exact ⟨pod, rfl, (Progress.exchange.inj h).symm⟩
  | _ =>
    rw [hanswer] at h
    cases h

/-- After a page, what is asked next is about the same pod. -/
theorem deletion_of_afterPage {d : Deletion} {seen : Bool}
    (h : afterPage d seen reply = .exchange next) : next.deletion? = some d := by
  rcases hpage : readPage seen reply with ⟨shown, next?⟩
  rw [afterPage, hpage] at h
  cases hfirst : d.firstConclusion? shown with
  | some outcome => simp [hfirst] at h
  | none =>
    cases next? with
    | none => simp [hfirst] at h
    | some after =>
      cases after <;> simp only [hfirst, Progress.exchange.injEq] at h <;> subst h <;> rfl

/-- After a watch, what is asked next is about the same pod. -/
theorem deletion_of_afterWatch {d : Deletion} {version : String}
    (h : afterWatch d version reply = .exchange next) : next.deletion? = some d := by
  rcases hwatch : readWatch version reply with ⟨shown, version'⟩
  rw [afterWatch, hwatch] at h
  cases hfirst : d.firstConclusion? shown with
  | some outcome => simp [hfirst] at h
  | none =>
    cases hended : hasEnded reply with
    | false => simp [hfirst, hended] at h
    | true =>
      obtain rfl : Exchange.watch d version' = next := by simpa [hfirst, hended] using h
      rfl

/-- **Only the deletion of a pod goes on after a response**: first if the response shows the pod,
and then with that pod. -/
theorem deletion_of_receive (h : (x.receive reply).1 = .exchange next) :
    (∃ ns name pod, x = .delete ns name ∧ reply.Tells (.deleting pod)
      ∧ next.deletion? = some ⟨ns, name, pod.metadata.uid.getD ""⟩)
    ∨ ∃ d, x.deletion? = some d ∧ next.deletion? = some d := by
  obtain ⟨htaken, h⟩ := receive_eq_exchange h
  cases x with
  | get | patch | post => cases h
  | delete ns name =>
    obtain ⟨pod, hanswer, rfl⟩ := afterDelete_eq_exchange h
    have hended : hasEnded reply = true := by simpa [isWatch] using htaken
    exact .inl ⟨ns, name, pod, rfl, Reply.tells_iff.2 ⟨hended, hanswer⟩, rfl⟩
  | list d page seen => exact .inr ⟨d, rfl, deletion_of_afterPage h⟩
  | watch d version => exact .inr ⟨d, rfl, deletion_of_afterWatch h⟩

/-- An operation that goes on is a deletion. -/
theorem isDeletion_of_receive (h : (x.receive reply).1 = .exchange next) :
    x.isDeletion = true := by
  rcases deletion_of_receive h with ⟨ns, name, pod, rfl, -⟩ | ⟨d, hx, -⟩
  · rfl
  · cases x <;> first | rfl | cases hx

/-- An operation that goes on has sent its request. -/
theorem request?_ne_none {t : Talk} (h : x.talk left script = t.after x) : x.request? ≠ none := by
  intro hnone
  have hheld : x.withheld? left = some x.unsendable := by simp [withheld?, hnone]
  rw [talk_of_withheld hheld] at h
  cases h

/-- An operation is withheld, fails behind the end of the script, or takes the next response: then
it ends, stops, or goes on to another exchange. -/
@[elab_as_elim]
theorem talk_induct {motive : Exchange → Nat → List Response → Prop}
    (withheld : ∀ x left script e, x.talk left script = ⟨[], some (.error e), script⟩ →
      motive x left script)
    (failed : ∀ x left e, x.talk left [] = ⟨[x], some (.error e), []⟩ → motive x left [])
    (ended : ∀ x left r rest outcome, x.progress left r = .over outcome →
      x.talk left (r :: rest) = ⟨[x], some outcome, rest⟩ → motive x left (r :: rest))
    (endless : ∀ x left r rest, x.progress left r = .endless →
      x.talk left (r :: rest) = ⟨[x], none, rest⟩ → motive x left (r :: rest))
    (exchange : ∀ x left r rest next, x.progress left r = .exchange next →
      x.talk left (r :: rest) = (next.talk (x.leftAfter left r) rest).after x →
      motive next (x.leftAfter left r) rest → motive x left (r :: rest))
    (x : Exchange) (left : Nat) (script : List Response) : motive x left script := by
  induction script generalizing x left with
  | nil =>
    cases hheld : x.withheld? left with
    | some e => exact withheld x left [] e (talk_of_withheld hheld [])
    | none =>
      obtain ⟨e, -, he⟩ := x.exists_settle_failed
      exact failed x left e (by rw [talk_nil hheld, he]; rfl)
  | cons r rest ih =>
    cases hheld : x.withheld? left with
    | some e => exact withheld x left (r :: rest) e (talk_of_withheld hheld (r :: rest))
    | none =>
      have htalk := talk_cons hheld r rest
      cases hp : x.progress left r with
      | endless =>
        rw [hp] at htalk
        exact endless x left r rest hp htalk
      | exchange next =>
        rw [hp] at htalk
        exact exchange x left r rest next hp htalk (ih next _)
      | _ outcome =>
        rw [hp] at htalk
        exact ended x left r rest outcome hp htalk

/-! ## What is asked -/

/-- An operation sends its own request first, or none if that is withheld. -/
theorem exchanges_prefix (x : Exchange) (left : Nat) (script : List Response) :
    (x.talk left script).exchanges <+: x :: (x.talk left script).exchanges.tail := by
  induction x, left, script using talk_induct with
  | withheld x left script e htalk =>
    rw [htalk]
    exact List.nil_prefix
  | _ x left =>
    simp only [*, Talk.after, List.tail_cons]
    exact List.prefix_rfl

/-- An operation that succeeds has sent its own request. -/
theorem exchanges_of_ok {answer : Answer} (h : (x.talk left script).outcome? = some (.ok answer)) :
    (x.talk left script).exchanges = x :: (x.talk left script).exchanges.tail := by
  induction x, left, script using talk_induct with
  | withheld x left script e htalk => simp [htalk] at h
  | _ x left => simp only [*, Talk.after, List.tail_cons]

/-- **An operation that is no deletion sends one request at most.** -/
theorem exchanges_of_not_isDeletion (h : x.isDeletion = false) (left : Nat)
    (script : List Response) : (x.talk left script).exchanges <+: [x] := by
  induction x, left, script using talk_induct with
  | withheld x left script e htalk =>
    rw [htalk]
    exact List.nil_prefix
  | exchange x left r rest next hp htalk ih =>
    have hdeletion := isDeletion_of_receive (progress_eq_exchange hp).2
    simp [h] at hdeletion
  | _ x left =>
    simp only [*]
    exact List.prefix_rfl

/-- An operation takes one response with each request. -/
theorem rest_talk (x : Exchange) (left : Nat) (script : List Response) :
    (x.talk left script).rest = script.drop (x.talk left script).exchanges.length := by
  induction x, left, script using talk_induct with
  | exchange x left r rest next hp htalk ih => rw [htalk]; exact ih
  | _ x left => simp [*]

/-- A reply that has led on, or to a success, has come. -/
theorem ne_failed_of_receive (x : Exchange) (h : ∀ e, (x.receive reply).1 ≠ .over (.error e)) :
    reply ≠ .failed := by
  rintro rfl
  obtain ⟨e, he, -⟩ := x.exists_settle_failed
  exact h e he

/-- **Nothing is asked again**: every request of an operation but the last one, and that too if the
operation succeeds, got a response. -/
theorem answered_talk {n : Nat} (hn : n < (x.talk left script).exchanges.length)
    (hmore : n + 1 < (x.talk left script).exchanges.length
      ∨ ∃ answer, (x.talk left script).outcome? = some (.ok answer)) : Answered script n := by
  induction x, left, script using talk_induct generalizing n with
  | withheld x left script e htalk => simp [htalk] at hn
  | failed x left e htalk => simp [htalk] at hmore
  | endless x left r rest hp htalk => simp [htalk] at hmore
  | ended x left r rest outcome hp htalk =>
    obtain rfl : n = 0 := by simpa [htalk] using hn
    obtain ⟨answer, rfl⟩ : ∃ answer, outcome = .ok answer := by simpa [htalk] using hmore
    obtain ⟨hhangs, hreceive⟩ := progress_eq_ok hp
    exact ⟨r, rfl, hhangs, ne_failed_of_receive x (by simp [hreceive])⟩
  | exchange x left r rest next hp htalk ih =>
    -- the first request got the response that led on, the later ones are those of what follows
    rw [htalk] at hn hmore
    cases n with
    | zero =>
      obtain ⟨hhangs, hreceive⟩ := progress_eq_exchange hp
      exact ⟨r, rfl, hhangs, ne_failed_of_receive x (by simp [hreceive])⟩
    | succ n => exact ih (Nat.lt_of_succ_lt_succ hn) (hmore.imp_left Nat.lt_of_succ_lt_succ)

/-- What waits for a pod to go asks for that pod. -/
theorem deletion_of_mem_exchanges {d : Deletion} (h : x.deletion? = some d) {y : Exchange}
    (hy : y ∈ (x.talk left script).exchanges) : y.deletion? = some d := by
  induction x, left, script using talk_induct with
  | withheld x left script e htalk => simp [htalk] at hy
  | exchange x left r rest next hp htalk ih =>
    rw [htalk] at hy
    rcases List.mem_cons.1 hy with rfl | hy
    · exact h
    refine ih ?_ hy
    rcases deletion_of_receive (progress_eq_exchange hp).2 with
      ⟨ns, name, pod, rfl, -⟩ | ⟨d', hx, hnext⟩
    · cases h
    · rwa [hnext, ← hx]
  | _ x left => simp_all

/-- **A deletion goes on to ask for its pod only if the response shows that pod.** -/
theorem deletion_of_mem_exchanges_delete {ns name : String} {y : Exchange}
    (hy : y ∈ ((Exchange.delete ns name).talk left script).exchanges.tail) :
    ∃ pod, DeletionAnswered ns name script (.deleting pod)
      ∧ y.deletion? = some ⟨ns, name, pod.metadata.uid.getD ""⟩ := by
  generalize hx : Exchange.delete ns name = x at hy
  induction x, left, script using talk_induct with
  | exchange x left r rest next hp htalk ih =>
    -- what follows waits for the pod that the response shows, and so does what follows that
    subst hx
    rw [htalk] at hy
    obtain ⟨hhangs, hreceive⟩ := progress_eq_exchange hp
    rcases deletion_of_receive hreceive with
      ⟨_, _, pod, heq, htells, hnext⟩ | ⟨d, hd, -⟩
    · obtain ⟨rfl, rfl⟩ := Exchange.delete.inj heq
      have hsent : Deletable ns name := Decidable.not_not.1 fun hsent =>
        request?_ne_none htalk (deletePod?_eq_none_iff.2 hsent)
      exact ⟨pod, .replied hsent hhangs htells, deletion_of_mem_exchanges hnext hy⟩
    · cases hd
  | _ x left => simp_all

/-! ## How it ends -/

/-- An operation of one request succeeds if that is sent and the response is read as an object. -/
theorem exists_ok_talk_iff {α : Type} {form : Form α} {read : Reply → Outcome}
    (hx : x.isDeletion = false) (hafter : ∀ reply, x.afterReply reply = (.over (read reply), []))
    (hread : ∀ reply, (∃ answer, read reply = .ok answer) ↔ ∃ a, reply.read form = .ok a) :
    (∃ answer, (x.talk left script).outcome? = some (.ok answer))
      ↔ (x.talk left script).exchanges = [x]
        ∧ ∃ a, script.head?.bind (Response.read? form) = some a := by
  have hwatch : x.isWatch = false := by cases x <;> first | rfl | cases hx
  have hnone : x.deletion? = none := by cases x <;> first | rfl | cases hx
  -- a response that does not come to its end is waited for
  have hprogress (r : Response) : x.progress left r
      = if r.hangs = false ∧ hasEnded r.reply = true then .over (read r.reply) else .endless := by
    cases hhangs : r.hangs <;> cases hended : hasEnded r.reply <;>
      simp [progress, inTime, settle, stopped, receive, *]
  induction x, left, script using talk_induct with
  | withheld x left script e htalk => simp [htalk]
  | failed x left e htalk => simp [htalk]
  | exchange x left r rest next hp htalk ih =>
    have hdeletion := isDeletion_of_receive (progress_eq_exchange hp).2
    simp [hx] at hdeletion
  | endless x left r rest hp htalk =>
    have htaken : ¬(r.hangs = false ∧ hasEnded r.reply = true) := by
      intro htaken
      simp [hprogress, if_pos htaken] at hp
    simp [htalk, Response.read?_eq_some_iff, htaken]
  | ended x left r rest outcome hp htalk =>
    rw [hprogress] at hp
    split at hp
    · obtain rfl := Progress.over.inj hp
      simp [Response.read?_eq_some_iff, Reply.read_eq_ok_iff, *]
    · cases hp

/-- **A token is stored exactly if the response is read as a check.** -/
theorem exists_ok_patch_iff {ns check token : String} :
    (∃ answer, ((Exchange.patch ns check token).talk left script).outcome? = some (.ok answer))
      ↔ ((Exchange.patch ns check token).talk left script).exchanges = [.patch ns check token]
        ∧ ∃ a, script.head?.bind (Response.read? Check.form) = some a := by
  refine exists_ok_talk_iff rfl (fun _ => rfl) fun reply => ?_
  rw [readStored]
  cases reply.read Check.form with
  | ok check => simp
  | error e =>
    cases e with
    | request status? =>
      cases status? with
      | none => simp
      | some status => by_cases hcode : status.code = 404 <;> simp [hcode]
    | _ => simp

/-- **A pod is created exactly if the response is read as a pod.** -/
theorem exists_ok_post_iff {ns : String} {pod : Pod} :
    (∃ answer, ((Exchange.post ns pod).talk left script).outcome? = some (.ok answer))
      ↔ ((Exchange.post ns pod).talk left script).exchanges = [.post ns pod]
        ∧ ∃ a, script.head?.bind (Response.read? Pod.form) = some a := by
  refine exists_ok_talk_iff rfl (fun _ => rfl) fun reply => ?_
  rw [readCreated]
  cases reply.read Pod.form <;> simp [Except.map]

end Exchange

end Api

end PodCheck
