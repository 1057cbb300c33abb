import PodCheck.Api.Request
import PodCheck.Cluster.Call
import PodCheck.Json.Reader

/-! # Replies of the API server

What a reply means. A reply with the status of an error holds a description of the error; if it does
not, one is made up from the status and the text. Any other reply holds an object of the expected
type. Main statement: a reply below the statuses of errors is never taken for an error of the server
(`Reply.text_of_lt`). -/

namespace PodCheck.Api

/-- What comes back for a request. -/
inductive Reply
  /-- Nothing: the connection failed. -/
  | failed
  /-- A status and a text, whose end may not have come. -/
  | answered (status : Nat) (text : String) (ended : Bool)
deriving DecidableEq

/-! ## Errors -/

/-- The standard names of the statuses of errors. -/
def reasonPhrases : List (Nat × String) := [
  (400, "Bad Request"), (401, "Unauthorized"), (402, "Payment Required"), (403, "Forbidden"),
  (404, "Not Found"), (405, "Method Not Allowed"), (406, "Not Acceptable"),
  (407, "Proxy Authentication Required"), (408, "Request Timeout"), (409, "Conflict"),
  (410, "Gone"), (411, "Length Required"), (412, "Precondition Failed"),
  (413, "Payload Too Large"), (414, "URI Too Long"), (415, "Unsupported Media Type"),
  (416, "Range Not Satisfiable"), (417, "Expectation Failed"), (418, "I'm a teapot"),
  (421, "Misdirected Request"), (422, "Unprocessable Entity"), (423, "Locked"),
  (424, "Failed Dependency"), (425, "Too Early"), (426, "Upgrade Required"),
  (428, "Precondition Required"), (429, "Too Many Requests"),
  (431, "Request Header Fields Too Large"), (451, "Unavailable For Legal Reasons"),
  (500, "Internal Server Error"), (501, "Not Implemented"), (502, "Bad Gateway"),
  (503, "Service Unavailable"), (504, "Gateway Timeout"), (505, "HTTP Version Not Supported"),
  (506, "Variant Also Negotiates"), (507, "Insufficient Storage"), (508, "Loop Detected"),
  (510, "Not Extended"), (511, "Network Authentication Required")]

/-- A status with its name. -/
def statusText (status : Nat) : String :=
  toString status ++ " "
    ++ ((reasonPhrases.find? (·.1 = status)).map (·.2)).getD "<unknown status code>"

open Fields in
/-- The form of the description of an error. -/
def statusForm : Form ApiStatus := record <|
  ApiStatus.mk
    <$> required "status" .text (·.status)
    <*> withDefault "message" .text "" (·.message)
    <*> withDefault "reason" .text "" (·.reason)
    <*> required "code" .uint16 (·.code)

/-- A typed value from a text. -/
def readText? {α : Type} (form : Form α) (text : String) : Option α := do
  form.ofJson? (← Json.read? text)

/-- The description of an error, or one that is made up. -/
def errorStatus (status : Nat) (text : String) : ApiStatus :=
  (readText? statusForm text).getD
    { status := statusText status
      message := Text.quoted text
      reason := "Failed to parse error data"
      code := UInt16.ofNat status }

/-- The text of a reply that is not an error. -/
def Reply.text : Reply → Except ClientError String
  | .failed => .error (.request none)
  | .answered status text _ =>
    if 400 ≤ status ∧ status < 600 then .error (.request (some (errorStatus status text)))
    else .ok text

/-- A reply below the statuses of errors is no error. -/
theorem Reply.text_of_lt {status : Nat} {text : String} {ended : Bool} (h : status < 400) :
    (Reply.answered status text ended).text = .ok text := by
  have : ¬(400 ≤ status ∧ status < 600) := by omega
  simp [Reply.text, this]

/-- A typed value from a reply that is not an error. -/
def Reply.read {α : Type} (form : Form α) (reply : Reply) : Except ClientError α := do
  match readText? form (← reply.text) with
  | some a => pure a
  | none => .error (.request none)

/-! ## Replies to single requests -/

/-- The token of a check; there is no such check exactly if the server gives that as the reason. -/
def readToken (reply : Reply) : Outcome :=
  match reply.read Check.form with
  | .ok check => .ok (.token (some check.spec.currentToken))
  | .error (.request (some status)) =>
    if status.reason = "NotFound" then .ok (.token none)
    else .error (.request (some status))
  | .error e => .error e

/-- Whether a token was stored; there is no such check exactly if the server gives that as the
code. -/
def readStored (ns check : String) (reply : Reply) : Outcome :=
  match reply.read Check.form with
  | .ok _ => .ok .done
  | .error (.request (some status)) =>
    if status.code = 404 then .error (.notFound Check.kind ns check)
    else .error (.request (some status))
  | .error e => .error e

/-- The pod that was created. -/
def readCreated (reply : Reply) : Outcome := (reply.read Pod.form).map .pod

/-! ## Replies to deletions -/

/-- What a deletion has led to. -/
inductive Deleted
  /-- The pod does not exist any more. -/
  | gone
  /-- The pod is being deleted. -/
  | deleting (pod : Pod)

/-- The outcome that a status may have. -/
def summaryForm : Form String := .variant ["Success", "Failure"]

open Fields in
/-- The form of a cause in a status; nothing of it is kept. -/
def causeForm : Form Unit := record <|
  (fun _ _ _ => ())
    <$> withDefault "reason" .text "" (fun _ => "")
    <*> withDefault "message" .text "" (fun _ => "")
    <*> withDefault "field" .text "" (fun _ => "")

/-- The form of whole numbers of 32 bits without sign. -/
def secondsForm : Form Nat where
  read s := do
    let n ← s.int
    if 0 ≤ n ∧ n.toNat < UInt32.size then pure n.toNat else Reading.fail
  write n := .int n

open Fields in
/-- The form of the details of a status; nothing of them is kept. -/
def detailsForm : Form Unit := record <|
  (fun _ _ _ _ _ _ => ())
    <$> withDefault "name" .text "" (fun _ => "")
    <*> withDefault "group" .text "" (fun _ => "")
    <*> withDefault "kind" .text "" (fun _ => "")
    <*> withDefault "uid" .text "" (fun _ => "")
    <*> withDefault "causes" (.list causeForm) [] (fun _ => [])
    <*> withDefault "retryAfterSeconds" secondsForm 0 (fun _ => 0)

open Fields in
/-- The form of a status; nothing of it is kept. -/
def outcomeForm : Form Unit := record <|
  (fun _ _ _ _ _ => ())
    <$> nullable "status" summaryForm (fun _ => none)
    <*> withDefault "code" .uint16 0 (fun _ => 0)
    <*> withDefault "message" .text "" (fun _ => "")
    <*> withDefault "reason" .text "" (fun _ => "")
    <*> nullable "details" detailsForm (fun _ => none)

/-- What the text of a reply to a deletion says: a status means that the pod is gone, anything else
must be the pod. -/
def readDeletedText? (text : String) : Option Deleted := do
  let v ← Json.read? text
  if !Json.isReadable Json.deepestNesting v then none
  else if (v.member? "kind").bind (·.text?) = some "Status" then
    (readText? outcomeForm text).map fun _ => .gone
  else (readText? Pod.form text).map .deleting

/-- What a reply to a deletion says. A pod that the server does not know, by its code, is gone,
which the event tells. -/
def readDeleted (ns name : String) (reply : Reply) : Except ClientError Deleted × List Event :=
  match reply.text with
  | .ok text =>
    match readDeletedText? text with
    | some deleted => (.ok deleted, [])
    | none => (.error (.request none), [])
  | .error (.request (some status)) =>
    if status.code = 404 then (.ok .gone, [.podGone ns name])
    else (.error (.request (some status)), [])
  | .error e => (.error e, [])

end PodCheck.Api
