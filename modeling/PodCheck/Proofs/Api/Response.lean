import PodCheck.Proofs.Api.Wording
import PodCheck.Simulation.Client

/-! # What responses mean

What a response of a server means, told by its code and its text alone: whether it holds an object
(`Simulation.Response.read?`), and what it says about a pod that was to be deleted
(`Api.Reply.Tells`). The operations read the same from it (`Simulation.Response.text?_eq`,
`Api.Reply.tells_iff`) and go on as it tells (`Api.Exchange.afterDelete_eq`); whether a deletion is
answered at all is told by its target and the script (`Api.deletionAnswered_iff`). -/

namespace PodCheck

open Api Simulation

/-! ## Objects -/

/-- The text of a response that comes in full and is no error. -/
def Simulation.Response.text? (r : Response) : Option String :=
  match r.hangs, r.reply with
  | false, .answered code text true => if 400 ≤ code ∧ code < 600 then none else some text
  | _, _ => none

/-- The object that a response is read as. -/
def Simulation.Response.read? {α : Type} (form : Form α) (r : Response) : Option α := do
  form.ofJson? (← Json.read? (← r.text?))

/-- A response of a script comes back. -/
def Simulation.Answered (script : List Response) (n : Nat) : Prop :=
  ∃ r, script[n]? = some r ∧ r.hangs = false ∧ r.reply ≠ .failed

/-- The text of a response is that of its reply. -/
theorem Simulation.Response.text?_eq (r : Response) :
    r.text? = if r.hangs = false ∧ Exchange.hasEnded r.reply = true then r.reply.text.toOption
      else none := by
  obtain ⟨reply, delay, hangs⟩ := r
  cases hangs with
  | true => simp [text?]
  | false =>
    cases reply with
    | failed => rfl
    | answered code text ended =>
      cases ended with
      | false => rfl
      | true =>
        by_cases herror : 400 ≤ code ∧ code < 600 <;>
          simp [text?, Reply.text, Exchange.hasEnded, herror, Except.toOption]

/-- A response is read as an object if it has come to its end and its reply is. -/
theorem Simulation.Response.read?_eq_some_iff {α : Type} {form : Form α} {r : Response} {a : α} :
    r.read? form = some a ↔ (r.hangs = false ∧ Exchange.hasEnded r.reply = true)
      ∧ r.reply.text.toOption.bind (readText? form) = some a := by
  rw [read?, text?_eq]
  split
  · exact (and_iff_right ‹_›).symm
  · exact iff_of_false nofun fun h => absurd h.1 ‹_›

namespace Api

/-- A reply is read as an object if it is no error and its text is read as that object. -/
theorem Reply.read_eq_ok_iff {α : Type} {form : Form α} {reply : Reply} {a : α} :
    reply.read form = .ok a ↔ reply.text.toOption.bind (readText? form) = some a := by
  cases htext : reply.text with
  | error e => simp [Reply.read, htext, Except.toOption, bind, Except.bind]
  | ok text =>
    cases hread : readText? form text with
    | none => simp [Reply.read, htext, hread, Except.toOption, bind, Except.bind]
    | some b =>
      simp [Reply.read, htext, hread, Except.toOption, bind, Except.bind, pure, Except.pure]

/-! ## Deletions -/

/-- What the answer to a deletion says. -/
inductive DeletionAnswer
  /-- The deletion was refused. -/
  | refused (status : ApiStatus)
  /-- A status that is no error: the pod does not exist any more. -/
  | gone
  /-- The pod, which is being deleted. -/
  | deleting (pod : Pod)
  /-- Nothing that can be read. -/
  | failed

/-- **What a reply to a deletion says**, by its code and its text. -/
inductive Reply.Tells : Reply → DeletionAnswer → Prop
  /-- An error that its text describes. -/
  | refused {code : Nat} {text : String} {v : Json} {status : ApiStatus}
      (hcode : 400 ≤ code ∧ code < 600) (htext : Json.read? text = some v)
      (hstatus : statusForm.ofJson? v = some status) :
      Tells (.answered code text true) (.refused status)
  /-- An error that its text does not describe: the code and the text stand for a description. -/
  | undescribed {code : Nat} {text : String} (hcode : 400 ≤ code ∧ code < 600)
      (hnone : ∀ v, Json.read? text = some v → statusForm.ofJson? v = none) :
      Tells (.answered code text true)
        (.refused ⟨statusText code, Text.quoted text, "Failed to parse error data", .ofNat code⟩)
  /-- A status in an answer that is no error: by that it is one of success, and whether it says
  `Success`, `Failure` or nothing of its own is not looked at. -/
  | gone {code : Nat} {text : String} {v : Json} (hcode : ¬(400 ≤ code ∧ code < 600))
      (htext : Json.read? text = some v) (hreadable : v.isReadable Json.deepestNesting = true)
      (hkind : v.member? "kind" = some (.text "Status"))
      (hsummary : outcomeForm.ofJson? v = some ()) : Tells (.answered code text true) .gone
  /-- A pod in an answer that is no error. -/
  | deleting {code : Nat} {text : String} {v : Json} {pod : Pod}
      (hcode : ¬(400 ≤ code ∧ code < 600)) (htext : Json.read? text = some v)
      (hreadable : v.isReadable Json.deepestNesting = true)
      (hkind : v.member? "kind" ≠ some (.text "Status"))
      (hpod : Pod.form.ofJson? v = some pod) : Tells (.answered code text true) (.deleting pod)
  /-- An answer that is no error and neither a status nor a pod. -/
  | unreadable {code : Nat} {text : String} (hcode : ¬(400 ≤ code ∧ code < 600))
      (hnone : ∀ v, Json.read? text = some v → v.isReadable Json.deepestNesting = true →
        (v.member? "kind" = some (.text "Status") → outcomeForm.ofJson? v = none)
          ∧ (v.member? "kind" ≠ some (.text "Status") → Pod.form.ofJson? v = none)) :
      Tells (.answered code text true) .failed
  /-- No answer. -/
  | lost : Tells .failed .failed

/-- What a reply to a deletion says. -/
def Reply.deletionAnswer (reply : Reply) : DeletionAnswer :=
  match reply.text with
  | .error (.request (some status)) => .refused status
  | .error _ => .failed
  | .ok text =>
    match readDeletedText? text with
    | some .gone => .gone
    | some (.deleting pod) => .deleting pod
    | none => .failed

/-- The answer of which a reader has taken what the deletion has led to. -/
def DeletionAnswer.ofDeleted : Deleted → DeletionAnswer
  | .gone => .gone
  | .deleting pod => .deleting pod

/-- What follows from an answer to a deletion. -/
def DeletionAnswer.progress (ns name : String) : DeletionAnswer → Progress
  | .refused status =>
    .over (if status.code = 404 then .ok .done else .error (.request (some status)))
  | .gone => .over (.ok .done)
  | .deleting pod => .exchange (.list ⟨ns, name, pod.metadata.uid.getD ""⟩ none false)
  | .failed => .over (.error (.request none))

/-- **What follows from a reply to a deletion is told by what it is read for.** -/
theorem Exchange.afterDelete_eq (ns name : String) (reply : Reply) :
    (afterDelete ns name reply).1 = reply.deletionAnswer.progress ns name := by
  cases reply with
  | failed => rfl
  | answered code text ended =>
    simp only [afterDelete, readDeleted, Reply.deletionAnswer, Reply.text]
    by_cases herror : 400 ≤ code ∧ code < 600
    · by_cases hcode : (errorStatus code text).code = 404 <;>
        simp [herror, hcode, DeletionAnswer.progress]
    · rw [if_neg herror]
      cases hread : readDeletedText? text with
      | none => simp [hread, DeletionAnswer.progress]
      | some deleted => cases deleted <;> simp [hread, DeletionAnswer.progress]

/-- A member is a text if it has that text. -/
theorem bind_text?_eq_some_iff {v? : Option Json} {s : String} :
    v?.bind (·.text?) = some s ↔ v? = some (.text s) := by
  cases v? with
  | none => simp
  | some v => cases v <;> simp [Json.text?]

/-- **How the text of an answer that is no error is read**: a status as one, and everything else as
a pod. -/
theorem readDeletedText?_eq_some_iff {text : String} {deleted : Deleted} :
    readDeletedText? text = some deleted ↔ ∃ v, Json.read? text = some v
      ∧ v.isReadable Json.deepestNesting = true
      ∧ (v.member? "kind" = some (.text "Status") ∧ outcomeForm.ofJson? v = some ()
          ∧ deleted = .gone
        ∨ v.member? "kind" ≠ some (.text "Status")
          ∧ ∃ pod, Pod.form.ofJson? v = some pod ∧ deleted = .deleting pod) := by
  cases htext : Json.read? text with
  | none => simp [readDeletedText?, htext]
  | some v =>
    by_cases hreadable : v.isReadable Json.deepestNesting = true
    · by_cases hkind : v.member? "kind" = some (.text "Status")
      · cases hsummary : outcomeForm.ofJson? v <;>
          simp [readDeletedText?, readText?, htext, hreadable, hkind, Json.text?, hsummary,
            @eq_comm _ deleted]
      · have hother : (v.member? "kind").bind (·.text?) ≠ some "Status" :=
          fun h => hkind (bind_text?_eq_some_iff.1 h)
        simp [readDeletedText?, readText?, htext, hreadable, hkind, hother, @eq_comm _ deleted]
    · simp [readDeletedText?, htext, hreadable]

namespace Reply

variable {reply : Reply} {answer : DeletionAnswer} {code : Nat} {text : String} {ended : Bool}

/-- An error is a refusal. -/
theorem deletionAnswer_of_error (hcode : 400 ≤ code ∧ code < 600) :
    (answered code text ended).deletionAnswer = .refused (errorStatus code text) := by
  simp [deletionAnswer, Reply.text, hcode]

/-- Any other answer is read by its text. -/
theorem deletionAnswer_of_not_error (hcode : ¬(400 ≤ code ∧ code < 600)) :
    (answered code text ended).deletionAnswer
      = ((readDeletedText? text).map DeletionAnswer.ofDeleted).getD .failed := by
  simp only [deletionAnswer, Reply.text, if_neg hcode]
  cases readDeletedText? text with
  | none => rfl
  | some deleted => cases deleted <;> rfl

/-- **What a reply to a deletion says is one thing only.** -/
theorem deletionAnswer_of_tells (h : reply.Tells answer) : reply.deletionAnswer = answer := by
  cases h with
  | @refused code text v status hcode htext hstatus =>
    have hread : readText? statusForm text = some status := by simp [readText?, htext, hstatus]
    rw [deletionAnswer_of_error hcode, errorStatus, hread, Option.getD_some]
  | @undescribed code text hcode hnone =>
    have hread : readText? statusForm text = none := Option.bind_eq_none_iff.2 hnone
    rw [deletionAnswer_of_error hcode, errorStatus, hread, Option.getD_none]
  | gone hcode htext hreadable hkind hsummary =>
    rw [deletionAnswer_of_not_error hcode, readDeletedText?_eq_some_iff.2
      ⟨_, htext, hreadable, .inl ⟨hkind, hsummary, rfl⟩⟩]
    rfl
  | deleting hcode htext hreadable hkind hpod =>
    rw [deletionAnswer_of_not_error hcode, readDeletedText?_eq_some_iff.2
      ⟨_, htext, hreadable, .inr ⟨hkind, _, hpod, rfl⟩⟩]
    rfl
  | unreadable hcode hnone =>
    rw [deletionAnswer_of_not_error hcode]
    cases hread : readDeletedText? _ with
    | none => rfl
    | some deleted =>
      obtain ⟨v, htext, hreadable, ⟨hkind, hsummary, -⟩ | ⟨hkind, pod, hpod, -⟩⟩ :=
        readDeletedText?_eq_some_iff.1 hread
      · simp [(hnone v htext hreadable).1 hkind] at hsummary
      · simp [(hnone v htext hreadable).2 hkind] at hpod
  | lost => rfl

/-- **A reply that has come to its end says something.** -/
theorem tells_deletionAnswer (h : Exchange.hasEnded reply = true) :
    reply.Tells reply.deletionAnswer := by
  cases reply with
  | failed => exact .lost
  | answered code text ended =>
    obtain rfl : ended = true := h
    by_cases hcode : 400 ≤ code ∧ code < 600
    · rw [deletionAnswer_of_error hcode, errorStatus]
      cases hread : readText? statusForm text with
      | none => exact .undescribed hcode (Option.bind_eq_none_iff.1 hread)
      | some status =>
        obtain ⟨v, htext, hstatus⟩ := Option.bind_eq_some_iff.1 hread
        exact .refused hcode htext hstatus
    rw [deletionAnswer_of_not_error hcode]
    cases hread : readDeletedText? text with
    | some deleted =>
      obtain ⟨v, htext, hreadable, ⟨hkind, hsummary, rfl⟩ | ⟨hkind, pod, hpod, rfl⟩⟩ :=
        readDeletedText?_eq_some_iff.1 hread
      · exact .gone hcode htext hreadable hkind hsummary
      · exact .deleting hcode htext hreadable hkind hpod
    | none =>
      have hnone (deleted : Deleted) : readDeletedText? text ≠ some deleted := by simp [hread]
      refine .unreadable hcode fun v htext hreadable => ⟨fun hkind => ?_, fun hkind => ?_⟩
      · refine Option.eq_none_iff_forall_ne_some.2 fun _ hsummary => hnone .gone ?_
        exact readDeletedText?_eq_some_iff.2 ⟨v, htext, hreadable, .inl ⟨hkind, hsummary, rfl⟩⟩
      · refine Option.eq_none_iff_forall_ne_some.2 fun pod hpod => hnone (.deleting pod) ?_
        exact readDeletedText?_eq_some_iff.2 ⟨v, htext, hreadable, .inr ⟨hkind, pod, hpod, rfl⟩⟩

/-- What a reply says is what it is read for, if it comes to its end. -/
theorem tells_iff :
    reply.Tells answer ↔ Exchange.hasEnded reply = true ∧ reply.deletionAnswer = answer := by
  constructor
  · intro h
    refine ⟨?_, deletionAnswer_of_tells h⟩
    cases h <;> rfl
  · rintro ⟨hended, rfl⟩
    exact tells_deletionAnswer hended

end Reply

/-- **What answers the deletion of a pod**, given what a server responds. -/
inductive DeletionAnswered (ns name : String) : List Response → DeletionAnswer → Prop
  /-- Nothing, since it cannot be sent. -/
  | unsent {script : List Response} (hsent : ¬Deletable ns name) :
      DeletionAnswered ns name script .failed
  /-- Nothing, since the connection fails behind the end of the script. -/
  | lost : DeletionAnswered ns name [] .failed
  /-- The first response, when it has come to its end. -/
  | replied {r : Response} {rest : List Response} {answer : DeletionAnswer}
      (hsent : Deletable ns name) (hhangs : r.hangs = false) (h : r.reply.Tells answer) :
      DeletionAnswered ns name (r :: rest) answer

/-- The answer to a deletion, if it ever comes to its end. A request that cannot be written and one
behind the end of the script fail. -/
def Exchange.deletionAnswer? (ns name : String) : List Response → Option DeletionAnswer
  | [] => some .failed
  | r :: _ =>
    if (deletePod? ns name).isNone then some .failed
    else if r.hangs = false ∧ hasEnded r.reply = true then some r.reply.deletionAnswer
    else none

variable {ns name : String} {script : List Response} {answer : DeletionAnswer}

/-- A deletion that is not sent fails. -/
theorem Exchange.deletionAnswer?_of_not_deletable (h : ¬Deletable ns name) :
    deletionAnswer? ns name script = some .failed := by
  have hnone := deletePod?_eq_none_iff.2 h
  cases script <;> simp [deletionAnswer?, hnone]

/-- A deletion that is sent is answered by the first response. -/
theorem Exchange.deletionAnswer?_of_deletable (h : Deletable ns name) (r : Response)
    (rest : List Response) : deletionAnswer? ns name (r :: rest)
      = if r.hangs = false ∧ hasEnded r.reply = true then some r.reply.deletionAnswer
        else none := by
  have hsome : deletePod? ns name ≠ none := by simpa [deletePod?_eq_none_iff] using h
  simp [deletionAnswer?, hsome]

/-- **A deletion is answered by what its answer is read for.** -/
theorem deletionAnswered_iff :
    DeletionAnswered ns name script answer
      ↔ Exchange.deletionAnswer? ns name script = some answer := by
  constructor
  · intro h
    cases h with
    | unsent hsent => exact Exchange.deletionAnswer?_of_not_deletable hsent
    | lost => rfl
    | replied hsent hhangs h =>
      obtain ⟨hended, rfl⟩ := Reply.tells_iff.1 h
      rw [Exchange.deletionAnswer?_of_deletable hsent, if_pos ⟨hhangs, hended⟩]
  · intro h
    by_cases hsent : Deletable ns name
    · cases script with
      | nil =>
        obtain rfl := Option.some.inj h
        exact .lost
      | cons r rest =>
        rw [Exchange.deletionAnswer?_of_deletable hsent, Option.ite_none_right_eq_some] at h
        obtain ⟨⟨hhangs, hended⟩, hanswer⟩ := h
        exact .replied hsent hhangs (Reply.tells_iff.2 ⟨hended, Option.some.inj hanswer⟩)
    · rw [Exchange.deletionAnswer?_of_not_deletable hsent] at h
      obtain rfl := Option.some.inj h
      exact .unsent hsent

/-- **A deletion is never answered exactly if it is sent and the response has no end.** -/
theorem Exchange.deletionAnswer?_eq_none_iff :
    deletionAnswer? ns name script = none ↔ Deletable ns name ∧ ∃ r rest, script = r :: rest
      ∧ (r.hangs = true ∨ ∃ code text, r.reply = .answered code text false) := by
  by_cases hsent : Deletable ns name
  · cases script with
    | nil => simp [deletionAnswer?]
    | cons r rest =>
      have hendless : hasEnded r.reply = false
          ↔ ∃ code text, r.reply = .answered code text false := by
        cases r.reply <;> simp [hasEnded]
      rw [deletionAnswer?_of_deletable hsent]
      cases hhangs : r.hangs <;> simp [hsent, hhangs, ← hendless]
  · simp [deletionAnswer?_of_not_deletable hsent, hsent]

end Api

end PodCheck
