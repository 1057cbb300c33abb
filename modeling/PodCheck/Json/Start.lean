import PodCheck.Json

/-! # Beginnings of JSON values

A text may end in the middle of a value. What there is of the value can already show that the whole
will not do, so the beginning keeps all that a reader of it would have met. -/

namespace PodCheck.Json

/-- The beginning of a value. -/
inductive Start
  /-- Nothing of it. -/
  | nothing
  /-- Some letters of a literal. -/
  | literal
  /-- A text without its end, and whether what there is of it can be read. -/
  | text (readable : Bool)
  /-- A number that lacks a digit. -/
  | number
  /-- Some items of a list. -/
  | array (items : List Json)
  /-- Some items of a list and the beginning of one more. -/
  | item (items : List Json) (next : Start)
  /-- Some members of an object; a key may be unreadable. -/
  | object (members : List (Option String × Json))
  /-- Some members of an object and the beginning of one more key, or of what stands for it. -/
  | key (members : List (Option String × Json)) (next : Start)
  /-- Some members of an object, one more key and the beginning of its value. -/
  | value (members : List (Option String × Json)) (key : Option String) (next : Start)

/-- Members with their keys, all of which must be readable. -/
def readableKeys? {α : Type} (members : List (Option String × α)) : Option (List (String × α)) :=
  members.mapM fun m => m.1.map fun k => (k, m.2)

namespace Start

/-- Whether a text, a number or a literal may come of the beginning. -/
def mayBeSingle : Start → Bool
  | .nothing | .literal | .number => true
  | .text readable => readable
  | _ => false

/-- Whether a key may come of the beginning. -/
def mayBeKey : Start → Bool
  | .nothing => true
  | .text readable => readable
  | _ => false

/-- Whether the beginning is wrong even if the value is passed over. Then a text need not be
readable, but a number must not stop short of a digit, and a key must be a text. -/
def isBroken : Start → Bool
  | .number => true
  | .item _ next | .value _ _ next => next.isBroken
  | .key _ next =>
    match next with
    | .nothing | .text _ => false
    | _ => true
  | _ => false

end Start

end PodCheck.Json
