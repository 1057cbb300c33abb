/-! # JSON values

The API server speaks JSON, and objects are shown as JSON. A value keeps what a reader of typed data
has to tell apart: whole numbers from other numbers, the order of members, members with one key, and
texts that name half of a surrogate pair and can therefore be skipped but not read. -/

namespace PodCheck

/-- A JSON value. -/
inductive Json
  /-- The literal `null`. -/
  | null
  /-- A truth value. -/
  | bool (value : Bool)
  /-- A number written without fraction and exponent. -/
  | int (value : Int)
  /-- Any other number, as written. -/
  | real (lexeme : String)
  /-- A text. -/
  | text (value : String)
  /-- A list of values. -/
  | array (items : List Json)
  /-- Members in the order in which they are written. -/
  | object (members : List (String × Json))
  /-- A well-formed value with an unpaired surrogate in its text or in one of its keys. -/
  | unreadable
deriving Inhabited

namespace Json

/-- The member of an object with the given key; of several the last one counts. -/
def member? (key : String) : Json → Option Json
  | .object members => (members.reverse.find? fun m => m.1 = key).map (·.2)
  | _ => none

/-- A member is the last one with its key. -/
theorem member?_eq_getLast? (key : String) (members : List (String × Json)) :
    (object members).member? key = ((members.filter (·.1 = key)).getLast?).map (·.2) := by
  rw [member?, List.getLast?_eq_head?_reverse, ← List.filter_reverse, List.head?_filter]

/-- The text of a text value. -/
def text? : Json → Option String
  | .text s => some s
  | _ => none

/-- An optional value, absent as `null`. -/
def ofOption {α : Type} (f : α → Json) : Option α → Json
  | none => .null
  | some a => f a

/-- A natural number. -/
def nat (n : Nat) : Json := .int n

/-- Whether two values are the same. -/
def beq : Json → Json → Bool
  | .null, .null => true
  | .bool a, .bool b => a == b
  | .int a, .int b => a == b
  | .real a, .real b => a == b
  | .text a, .text b => a == b
  | .array a, .array b => beqItems a b
  | .object a, .object b => beqMembers a b
  | .unreadable, .unreadable => true
  | _, _ => false
where
  /-- Whether two lists of values are the same. -/
  beqItems : List Json → List Json → Bool
    | [], [] => true
    | x :: a, y :: b => beq x y && beqItems a b
    | _, _ => false
  /-- Whether two lists of members are the same. -/
  beqMembers : List (String × Json) → List (String × Json) → Bool
    | [], [] => true
    | (j, x) :: a, (k, y) :: b => j == k && beq x y && beqMembers a b
    | _, _ => false

instance : BEq Json := ⟨beq⟩

end Json

end PodCheck
