import PodCheck.Api.Reply

/-! # Requests and replies as lines

Requests can be handed on to whatever carries them to a server, and replies taken from it, as lines
of JSON. A line that is no reply stands for a connection that failed. -/

namespace PodCheck.Api

/-- A target as it is sent. -/
def Target.text (t : Target) : String := t.path ++ t.query.elim "" ("?" ++ ·)

/-- A request as a value. -/
def Request.toJson (r : Request) : Json :=
  .object [
    ("method", .text r.method),
    ("target", .text r.target.text),
    ("contentType", Json.ofOption .text r.contentType),
    ("body", Json.ofOption id r.body)]

/-- The reply that a value stands for. -/
def Reply.ofJson (v : Json) : Reply :=
  match v.member? "status", v.member? "text" with
  | some (.int status), some (.text text) =>
    .answered status.toNat text (!((v.member? "ended").any (·.beq (.bool false))))
  | _, _ => .failed

/-- The reply on a line. -/
def Reply.ofLine (line : String) : Reply := ((Json.read? line).map Reply.ofJson).getD .failed

end PodCheck.Api
