/-! # Run tokens

Every run draws a token that nobody can guess: 122 random bits, written as a UUID of version 4. -/

namespace PodCheck

/-- A hexadecimal digit of a number, counted from the right. -/
def hexDigitAt (n place : Nat) : Nat := (n >>> (4 * place)) % 16

/-- The token of 128 bits: the version stands in the first digit of the third group, and the first
digit of the fourth group has two fixed bits. -/
def tokenText (n : Nat) : String :=
  let digit (i : Nat) : Char :=
    if i = 12 then '4'
    else if i = 16 then Nat.digitChar (8 + hexDigitAt n 15 % 4)
    else Nat.digitChar (hexDigitAt n (31 - i))
  let group (start size : Nat) : List Char := (List.range size).map fun i => digit (start + i)
  String.ofList (group 0 8 ++ '-' :: group 8 4 ++ '-' :: group 12 4 ++ '-' :: group 16 4
    ++ '-' :: group 20 12)

/-- A source of tokens: some random numbers, and behind their end the numbers from 1 on. -/
structure TokenSource where
  /-- The random numbers. -/
  entropy : List Nat := []
  /-- The number of tokens drawn so far. -/
  drawn : Nat := 0
deriving DecidableEq

/-- The next token, and the source behind it. -/
def TokenSource.draw (s : TokenSource) : String × TokenSource :=
  (tokenText ((s.entropy[s.drawn]?).getD (s.drawn + 1)), { s with drawn := s.drawn + 1 })

end PodCheck
