import Mathlib.Data.List.Basic
import PodCheck.Proofs.Api.Talk
import PodCheck.Proofs.Checker.Course
import PodCheck.Whitelist

/-! # Checks that the API server does not know

What an error of the API server means for reading and for storing the token of a check. Reading
takes a check for missing by the reason of the error (`Api.readToken_eq_missing_iff`), storing by
its code (`Api.readStored_eq_missing_iff`), and what runs and reports are told follows these
(`Api.missing_check_verdicts`). Reason and code are two fields of one description, and where there
is no description a code is made up and no reason that counts; so the two agree on some errors only
(`Api.verdicts_differ`). -/

namespace PodCheck

namespace Api

/-- The error that a server answers with. -/
def Reply.error? (reply : Reply) : Option ApiStatus :=
  match reply.text with
  | .error (.request error?) => error?
  | _ => none

variable {ns check : String} {reply : Reply}

/-- A server answers with an error if the status is one of an error. -/
theorem Reply.error?_answered (status : Nat) (text : String) (ended : Bool) :
    (Reply.answered status text ended).error?
      = if 400 ≤ status ∧ status < 600 then some (errorStatus status text) else none := by
  rw [error?, Reply.text]
  by_cases herror : 400 ≤ status ∧ status < 600
  · rw [if_pos herror, if_pos herror]
  · rw [if_neg herror, if_neg herror]

/-- An object is read unless the server answers with an error, and what fails otherwise is the
request. -/
theorem Reply.read_cases {α : Type} (form : Form α) (reply : Reply) :
    (reply.error? = none ∧ ∃ a, reply.read form = .ok a)
      ∨ reply.read form = .error (.request reply.error?) := by
  cases reply with
  | failed => exact .inr rfl
  | answered status text ended =>
    rw [error?_answered]
    by_cases herror : 400 ≤ status ∧ status < 600
    · right
      simp only [Reply.read, Reply.text, if_pos herror]
      rfl
    · rw [if_neg herror]
      cases hread : readText? form text with
      | some a =>
        refine .inl ⟨rfl, a, ?_⟩
        simp only [Reply.read, Reply.text, if_neg herror, hread, bind, Except.bind]
        rfl
      | none =>
        right
        simp only [Reply.read, Reply.text, if_neg herror, hread, bind, Except.bind]

/-- **A check that is read is missing exactly if the reason of the error is that it is.** -/
theorem readToken_eq_missing_iff :
    readToken reply = .ok (.token none) ↔ ∃ e, reply.error? = some e ∧ e.reason = "NotFound" := by
  unfold readToken
  rcases reply.read_cases Check.form with ⟨hnone, a, hread⟩ | hread
  · simp [hread, hnone]
  · rw [hread]
    cases reply.error? with
    | none => simp
    | some e => by_cases hreason : e.reason = "NotFound" <;> simp [hreason]

/-- **A check that is written to is missing exactly if the code of the error is 404.** -/
theorem readStored_eq_missing_iff :
    readStored ns check reply = .error (.notFound Check.kind ns check)
      ↔ ∃ e, reply.error? = some e ∧ e.code = 404 := by
  unfold readStored
  rcases reply.read_cases Check.form with ⟨hnone, a, hread⟩ | hread
  · simp [hread, hnone]
  · rw [hread]
    cases reply.error? with
    | none => simp
    | some e => by_cases hcode : e.code = 404 <;> simp [hcode]

/-- An error whose text does not describe it has the status for a code and no reason that counts. -/
theorem errorStatus_of_no_description {status : Nat} {text : String}
    (h : readText? statusForm text = none) (hstatus : status < 600) :
    (errorStatus status text).reason ≠ "NotFound"
      ∧ ((errorStatus status text).code = 404 ↔ status = 404) := by
  have hsize : status % UInt16.size = status := Nat.mod_eq_of_lt (by
    simp only [UInt16.size]
    omega)
  simp only [errorStatus, h, Option.getD_none]
  refine ⟨by decide, ?_⟩
  rw [← UInt16.toNat_inj, UInt16.toNat_ofNat', hsize]
  rfl

end Api

namespace Whitelist

/-- The whitelist knows no check exactly if there is no token to be read. -/
theorem fetched_eq_missing_iff {ns check : String} {outcome : Outcome} :
    fetched ns check outcome = .error (.notFound ns check)
      ↔ ∃ answer, outcome = .ok answer ∧ answer.token? = none := by
  unfold fetched
  cases outcome with
  | error source => simp
  | ok answer => cases htoken : answer.token? <;> simp [htoken]

/-- A report is told that there is no check exactly if the whitelist knows none. -/
theorem authorized_eq_missing_iff {ns check reported : String} {outcome : Outcome} :
    (authorized ns check reported outcome).1 = .error (.notFound ns check)
      ↔ fetched ns check outcome = .error (.notFound ns check) := by
  unfold authorized
  cases fetched ns check outcome with
  | error e => simp
  | ok token => by_cases heq : token = reported <;> simp [heq]

end Whitelist

/-- A run reports a failure of its first operation as it is. -/
theorem Checker.next_resume_settingToken_eq_iff {c : Checker} {token : String} {outcome : Outcome}
    {now : Instant} {source : ClientError} :
    (c.resume (.settingToken token) outcome now).next
        = .finished (.error (.persistence c.config.ns c.config.checkName source))
      ↔ outcome = .error source := by
  rw [next_resume]
  cases outcome with
  | error e => simp [Pending.failure]
  | ok answer => simp [Pending.next?]

namespace Api

/-- The only answer to reading a token that holds none is that there is no check. -/
theorem readToken_missing_iff {reply : Reply} :
    (∃ answer, readToken reply = .ok answer ∧ answer.token? = none)
      ↔ readToken reply = .ok (.token none) := by
  constructor
  · rintro ⟨answer, hread, htoken⟩
    rw [hread]
    unfold readToken at hread
    split at hread
    · obtain rfl := Except.ok.inj hread
      simp [Answer.token?] at htoken
    · split at hread
      · rw [← hread]
      · simp at hread
    · simp at hread
  · intro hread
    exact ⟨_, hread, rfl⟩

/-- **Reading goes by the reason of an error, storing by its code.** For every answer of the server:
the token is read as that of no check, and reports are told so, exactly if it is an error for the
reason `NotFound`; storing the token fails as there is no check, and a run reports that, exactly if
it is an error with the code 404. So they agree on an error exactly if it has both or neither. An
error whose text does not describe it never has that reason, whatever its status. -/
theorem missing_check_verdicts (ns check token reported : String) (c : Checker) (now : Instant)
    (status : Nat) (text : String) :
    let reply := Reply.answered status text true
    let unread := readToken reply = .ok (.token none)
    let unstored := readStored ns check reply = .error (.notFound Check.kind ns check)
    ((Exchange.ofCall (.getToken ns check)).receive reply = (.over (readToken reply), [])
      ∧ (Exchange.ofCall (.setToken ns check token)).receive reply
        = (.over (readStored ns check reply), []))
    ∧ (unread ↔ ∃ e, reply.error? = some e ∧ e.reason = "NotFound")
    ∧ (unstored ↔ ∃ e, reply.error? = some e ∧ e.code = 404)
    ∧ (Whitelist.fetched ns check (readToken reply) = .error (.notFound ns check) ↔ unread)
    ∧ ((Whitelist.authorized ns check reported (readToken reply)).1 = .error (.notFound ns check)
      ↔ unread)
    ∧ (c.config.ns = ns → c.config.checkName = check →
      ((c.resume (.settingToken token) (readStored ns check reply) now).next
          = .finished (.error (.persistence ns check (.notFound Check.kind ns check)))
        ↔ unstored))
    ∧ (∀ e, reply.error? = some e →
      ((unread ↔ unstored) ↔ (e.reason = "NotFound" ↔ e.code = 404)))
    ∧ (400 ≤ status → status < 600 → readText? statusForm text = none →
      ¬ unread ∧ (unstored ↔ status = 404)) := by
  intro reply unread unstored
  have hread : unread ↔ ∃ e, reply.error? = some e ∧ e.reason = "NotFound" :=
    readToken_eq_missing_iff
  have hstored : unstored ↔ ∃ e, reply.error? = some e ∧ e.code = 404 := readStored_eq_missing_iff
  have hfetched : Whitelist.fetched ns check (readToken reply) = .error (.notFound ns check)
      ↔ unread := Whitelist.fetched_eq_missing_iff.trans readToken_missing_iff
  refine ⟨⟨rfl, rfl⟩, hread, hstored, hfetched,
    Whitelist.authorized_eq_missing_iff.trans hfetched, ?_, ?_, ?_⟩
  · rintro rfl rfl
    exact Checker.next_resume_settingToken_eq_iff
  · intro e he
    rw [hread, hstored]
    simp [he]
  · intro hlow hhigh hnone
    obtain ⟨hreason, hcode⟩ := errorStatus_of_no_description hnone hhigh
    rw [hread, hstored, Reply.error?_answered, if_pos ⟨hlow, hhigh⟩]
    simp [hreason, hcode]

/-- A server that does not serve checks answers 404 without a description: the run is told that
there is no check, and the report that the server failed. With the reason alone it is the other way
round. -/
theorem verdicts_differ :
    let unserved := Reply.answered 404 "404 page not found\n" true
    let odd := Reply.answered 400 ("\x7b\"status\":\"Failure\",\"message\":\"gone\","
      ++ "\"reason\":\"NotFound\",\"code\":400\x7d") true
    readStored "prod" "web" unserved = .error (.notFound Check.kind "prod" "web")
    ∧ readToken unserved ≠ .ok (.token none)
    ∧ Whitelist.fetched "prod" "web" (readToken unserved)
      = .error (.persistence "prod" "web" (.request unserved.error?))
    ∧ readStored "prod" "web" odd ≠ .error (.notFound Check.kind "prod" "web")
    ∧ readToken odd = .ok (.token none) := by
  decide +kernel

end Api

end PodCheck
