import PodCheck.Decimal.Scaled
import PodCheck.Json.Start

/-! # JSON values of any type

Some values are read before their type is known. Then all of them must be readable: texts and keys,
numbers, which are kept as doubles, and the nesting, which is limited. -/

namespace PodCheck.Json

/-- The deepest nesting of a value that can be read in full. -/
def deepestNesting : Nat := 127

/-- Whether the number of a lexeme is within the range of a double. -/
def isNumberInRange (lexeme : List Char) : Bool :=
  (Decimal.Written.read? lexeme).all fun w => (Decimal.Scaled.ofWritten w).inRange

/-- Whether a value can be read in full if lists and objects may be nested to some depth. -/
def isReadable : Nat → Json → Bool
  | _, .unreadable => false
  | _, .real lexeme => isNumberInRange lexeme.toList
  | _, .int n => isNumberInRange (Nat.toDigits 10 n.natAbs)
  | 0, .array _ => false
  | 0, .object _ => false
  | depth + 1, .array items => items.all (isReadable depth)
  | depth + 1, .object members => members.all fun m => isReadable depth m.2
  | _, _ => true

/-- Whether members can be read in full, their keys included. -/
def areReadable (depth : Nat) (members : List (Option String × Json)) : Bool :=
  members.all fun m => m.1.isSome && isReadable depth m.2

/-- Whether a value that begins so may still be readable. -/
def Start.mayBeReadable : Nat → Start → Bool
  | _, .nothing | _, .literal | _, .number => true
  | _, .text readable => readable
  | 0, _ => false
  | depth + 1, .array items => items.all (isReadable depth)
  | depth + 1, .item items next => items.all (isReadable depth) && next.mayBeReadable depth
  | depth + 1, .object members => areReadable depth members
  | depth + 1, .key members next => areReadable depth members && next.mayBeKey
  | depth + 1, .value members name next =>
    areReadable depth members && name.isSome && next.mayBeReadable depth

end PodCheck.Json
