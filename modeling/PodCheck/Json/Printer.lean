import PodCheck.Json

/-! # Writing JSON

The compact form of a value: no blanks, characters beyond ASCII as they are, and the short escapes
where there is one. Requests to the API server carry their members by rising key
(`Json.sorted`). -/

namespace PodCheck.Json

/-- A character inside a text. -/
def escapeChar (c : Char) : List Char :=
  if c = '"' then ['\\', '"']
  else if c = '\\' then ['\\', '\\']
  else if c = '\x08' then ['\\', 'b']
  else if c = '\x0c' then ['\\', 'f']
  else if c = '\n' then ['\\', 'n']
  else if c = '\r' then ['\\', 'r']
  else if c = '\t' then ['\\', 't']
  else if c.toNat < 0x20 then
    ['\\', 'u', '0', '0', Nat.digitChar (c.toNat / 16), Nat.digitChar (c.toNat % 16)]
  else [c]

/-- A text with its quotes. -/
def printText (s : String) : List Char := '"' :: (s.toList.flatMap escapeChar ++ ['"'])

/-- Parts with a comma between each two. -/
def commas : List (List Char) → List Char
  | [] => []
  | [x] => x
  | x :: xs => x ++ ',' :: commas xs

/-- The characters of a value. A value that cannot be read is written as `null`. -/
def printChars : Json → List Char
  | .null => ['n', 'u', 'l', 'l']
  | .bool true => ['t', 'r', 'u', 'e']
  | .bool false => ['f', 'a', 'l', 's', 'e']
  | .int n => (toString n).toList
  | .real s => s.toList
  | .text s => printText s
  | .array items => '[' :: (commas (printItems items) ++ [']'])
  | .object members => '\x7b' :: (commas (printMembers members) ++ ['\x7d'])
  | .unreadable => ['n', 'u', 'l', 'l']
where
  /-- The characters of each item. -/
  printItems : List Json → List (List Char)
    | [] => []
    | v :: r => printChars v :: printItems r
  /-- The characters of each member. -/
  printMembers : List (String × Json) → List (List Char)
    | [] => []
    | (k, v) :: r => (printText k ++ ':' :: printChars v) :: printMembers r

/-- The compact form of a value. -/
def print (v : Json) : String := String.ofList (printChars v)

/-- Puts a member among sorted ones, in place of one with the same key. -/
def placeMember (k : String) (v : Json) : List (String × Json) → List (String × Json)
  | [] => [(k, v)]
  | (k', v') :: r =>
    if k < k' then (k, v) :: (k', v') :: r
    else if k = k' then (k, v) :: r
    else (k', v') :: placeMember k v r

/-- The value with the members of each object by rising key; of several members with one key the
last one stays. -/
def sorted : Json → Json
  | .array items => .array (sortedItems items)
  | .object members => .object (sortedMembers [] members)
  | v => v
where
  /-- Sorts inside each item. -/
  sortedItems : List Json → List Json
    | [] => []
    | v :: r => sorted v :: sortedItems r
  /-- Puts each member among those before it. -/
  sortedMembers (done : List (String × Json)) : List (String × Json) → List (String × Json)
    | [] => done
    | (k, v) :: r => sortedMembers (placeMember k (sorted v) done) r

end PodCheck.Json
