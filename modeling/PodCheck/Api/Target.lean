/-! # Targets of requests

The path and the query of a request, as they are sent. They are put together as one text, in which a
name may hold characters that end the path or that no target can hold. -/

namespace PodCheck.Api

/-- Where a request goes. -/
structure Target where
  /-- The path. -/
  path : String
  /-- The query, if there is one. -/
  query : Option String := none
deriving DecidableEq

/-- Whether a character may stand in a path. -/
def isPathChar (c : Char) : Bool :=
  let n := c.toNat
  n = 0x21 || n = 0x22 || (0x24 ≤ n && n ≤ 0x3B) || n = 0x3D || (0x40 ≤ n && n ≤ 0x5F)
    || (0x61 ≤ n && n ≠ 0x7F)

/-- Whether a character may stand in a query. -/
def isQueryChar (c : Char) : Bool :=
  let n := c.toNat
  n = 0x21 || (0x24 ≤ n && n ≤ 0x3B) || n = 0x3D || (0x3F ≤ n && n ≠ 0x7F)

/-- The number of bytes that the text of a target may have. -/
def targetLimit : Nat := 65534

/-- The target that a text stands for, if it is not too long and every character is allowed where it
stands. What follows a number sign is not sent. -/
def Target.ofText? (s : String) : Option Target :=
  let sent := s.toList.takeWhile (· ≠ '#')
  let path := sent.takeWhile (· ≠ '?')
  let query := match sent.drop path.length with
    | [] => none
    | _ :: query => some query
  if s.utf8ByteSize ≤ targetLimit && path.all isPathChar && query.all (·.all isQueryChar) then
    some ⟨String.ofList path, query.map String.ofList⟩
  else none

/-- The parts of a query between ampersands. -/
def Target.parameters (t : Target) : List (List Char) :=
  (t.query.getD "").toList.foldr (fun c parts =>
    if c = '&' then [] :: parts
    else
      match parts with
      | p :: ps => (c :: p) :: ps
      | [] => [[c]]) [[]]

/-- The value of a parameter, as it is sent. -/
def Target.parameter? (t : Target) (name : String) : Option String :=
  let front := name.toList ++ ['=']
  (t.parameters.find? fun p => p.take front.length = front).map fun p =>
    String.ofList (p.drop front.length)

/-! ## Values of parameters -/

/-- The bytes of a character. -/
def utf8Bytes (c : Char) : List Nat := (String.singleton c).toUTF8.toList.map (·.toNat)

/-- A byte in hexadecimal behind a percent sign. -/
def percent (b : Nat) : List Char :=
  let digit (n : Nat) : Char := (Nat.digitChar n).toUpper
  ['%', digit (b / 16), digit (b % 16)]

/-- A character of a query value: letters, digits and four marks stay, a blank becomes a plus sign,
and of everything else the bytes are written. -/
def queryChar (c : Char) : List Char :=
  if c.isAlphanum || c = '*' || c = '-' || c = '.' || c = '_' then [c]
  else if c = ' ' then ['+']
  else (utf8Bytes c).flatMap percent

/-- A value of a query. -/
def queryValue (s : String) : String := String.ofList (s.toList.flatMap queryChar)

end PodCheck.Api
