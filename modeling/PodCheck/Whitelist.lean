import PodCheck.Cluster.Call
import PodCheck.Event

/-! # The whitelist

A check has one token at a time, and only a report with that token counts. This module says what is
asked of the cluster to read, store and compare tokens, and what its answers mean. A report without
a token is refused before anything is asked (`Whitelist.authorize`). Main statement: with an answer
that has a token, a report is authorized exactly if it carries that
(`Whitelist.authorized_of_token`). -/

namespace PodCheck.Whitelist

/-- What the answer to reading a token means. -/
def fetched (ns check : String) (outcome : Outcome) : Except CheckError String :=
  match outcome with
  | .error source => .error (.persistence ns check source)
  | .ok answer =>
    match answer.token? with
    | some token => .ok token
    | none => .error (.notFound ns check)

/-- What the answer to storing a token means. -/
def stored (ns check : String) (outcome : Outcome) : Except CheckError Unit :=
  match outcome with
  | .error source => .error (.persistence ns check source)
  | .ok _ => .ok ()

/-- What has to be asked to judge a report: nothing if it carries no token. -/
def authorizeCall? (ns check reported : String) : Option Call :=
  if reported = "" then none else some (.getToken ns check)

/-- What the answer to that question means for the report. -/
def authorized (ns check reported : String) (outcome : Outcome) :
    Except CheckError Bool × List Event :=
  match fetched ns check outcome with
  | .error e => (.error e, [])
  | .ok token =>
    if token = reported then (.ok true, [])
    else (.ok false, [.reportRejected ns check reported.utf8ByteSize])

/-- A report is authorized exactly if it carries the token of the check. -/
theorem authorized_of_token (ns check reported token : String) :
    (authorized ns check reported (.ok (.token (some token)))).1
      = .ok (decide (token = reported)) := by
  by_cases h : token = reported <;> simp [authorized, fetched, Answer.token?, h]

/-- Decides whether a report may count, wherever operations can be performed and events logged. -/
def authorize {m : Type → Type} [Monad m] (perform : Call → m Outcome) (log : List Event → m Unit)
    (ns check reported : String) : m (Except CheckError Bool) :=
  match authorizeCall? ns check reported with
  | none => pure (.ok false)
  | some call => do
    let (result, events) := authorized ns check reported (← perform call)
    log events
    pure result

section

variable {m : Type → Type} [Monad m] (perform : Call → m Outcome) (log : List Event → m Unit)
  (ns check : String)

/-- For a report without a token nothing is done. -/
@[simp] theorem authorize_empty :
    authorize perform log ns check "" = pure (.ok false) := rfl

/-- For any other report the token of the check is asked for. -/
theorem authorize_of_ne {reported : String} (h : reported ≠ "") :
    authorize perform log ns check reported = (do
      let (result, events) := authorized ns check reported (← perform (.getToken ns check))
      log events
      pure result) := by
  rw [authorize, authorizeCall?, if_neg h]

end

/-! ## Settings -/

/-- Where a report is judged: by a client that can be asked, and with a log. -/
structure Setting (σ : Type) where
  /-- What becomes of asking for an operation; there is no outcome if the client never answers. -/
  ask : σ → Call → σ × Option Outcome
  /-- What becomes of logging some events. -/
  log : σ → List Event → σ

namespace Setting

variable {σ : Type} (e : Setting σ) (s : σ) (ns check : String)

/-- Asks for an operation. Nothing follows if the client never answers. -/
def perform (call : Call) : OptionT (StateM σ) Outcome := .mk fun s => (e.ask s call).swap

/-- Logs some events. -/
def note (events : List Event) : OptionT (StateM σ) Unit := .mk fun s => (some (), e.log s events)

/-- Judges a report; there is no result if the client never answers. -/
def judge (reported : String) : σ × Option (Except CheckError Bool) :=
  ((authorize e.perform e.note ns check reported).run.run s).swap

end Setting

end PodCheck.Whitelist
