import PodCheck.Json

/-! # JSON pointers

A pointer names a value inside another one by the keys and indices that lead to it, each behind a
slash. In a key, `~1` stands for a slash and `~0` for a tilde. -/

namespace PodCheck.Json

/-- The parts of a text between slashes, the one before the first slash included. -/
def splitSlashes (part : List Char) : List Char → List (List Char)
  | [] => [part.reverse]
  | '/' :: r => part.reverse :: splitSlashes [] r
  | c :: r => splitSlashes (c :: part) r

/-- Replaces a tilde with the given digit behind it. -/
def unescapeTilde (digit character : Char) : List Char → List Char
  | '~' :: d :: r =>
    if d = digit then character :: unescapeTilde digit character r
    else '~' :: unescapeTilde digit character (d :: r)
  | c :: r => c :: unescapeTilde digit character r
  | [] => []

/-- The key that a part of a pointer stands for. -/
def pointerKey (part : List Char) : String :=
  String.ofList (unescapeTilde '0' '~' (unescapeTilde '1' '/' part))

/-- The index that a key stands for: decimal digits without leading zeros. -/
def pointerIndex? (key : String) : Option Nat :=
  match key.toList with
  | [] => none
  | c :: r =>
    if (c :: r).all Char.isDigit && (c ≠ '0' || r = []) then
      some ((c :: r).foldl (fun n d => n * 10 + (d.toNat - 48)) 0)
    else none

/-- Follows keys and indices. -/
def follow (v : Json) : List String → Option Json
  | [] => some v
  | k :: ks =>
    match v with
    | .object _ => (v.member? k).bind (follow · ks)
    | .array items => (pointerIndex? k).bind fun i => (items[i]?).bind (follow · ks)
    | _ => none

/-- The value at a pointer. The empty pointer names the value itself. -/
def pointer? (v : Json) (pointer : String) : Option Json :=
  match pointer.toList with
  | [] => some v
  | '/' :: r => follow v ((splitSlashes [] r).map pointerKey)
  | _ => none

end PodCheck.Json
