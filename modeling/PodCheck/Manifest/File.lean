import PodCheck.Manifest

/-! # Manifest files

A manifest is read from a file. Paths are followed through a tree of directories, and a path that
leads to no file fails with the reason and the number that the operating system gives for it. -/

namespace PodCheck.Manifest

/-- Why a file cannot be read. -/
inductive FileError
  /-- There is nothing at the path. -/
  | notFound
  /-- There is a directory at the path. -/
  | isDirectory
  /-- The path goes on behind a file. -/
  | notDirectory
  /-- The path, or a name in it, is too long. -/
  | nameTooLong
  /-- The path contains the character that ends paths. -/
  | nulCharacter
deriving DecidableEq

/-- The reason in words. -/
def FileError.message : FileError → String
  | .notFound => "No such file or directory (os error 2)"
  | .isDirectory => "Is a directory (os error 21)"
  | .notDirectory => "Not a directory (os error 20)"
  | .nameTooLong => "File name too long (os error 36)"
  | .nulCharacter => "file name contained an unexpected NUL byte"

/-- What a name stands for. -/
inductive Entry
  /-- A file with its bytes. -/
  | file (content : ByteArray)
  /-- A directory with its names. -/
  | directory (entries : List (String × Entry))

namespace Entry

/-- What a name of a directory stands for. -/
def find? (name : String) : List (String × Entry) → Option Entry
  | [] => none
  | (n, e) :: r => if n = name then some e else find? name r

/-- Puts a file into a directory under a path of names, with the directories on the way. -/
def place (content : ByteArray) : List String → List (String × Entry) → List (String × Entry)
  | [], entries => entries
  | [name], entries => (name, .file content) :: entries.filter (·.1 ≠ name)
  | name :: names, entries =>
    let inner := match find? name entries with
      | some (.directory inner) => inner
      | _ => []
    (name, .directory (place content names inner)) :: entries.filter (·.1 ≠ name)

end Entry

/-- The parts of a path between slashes. -/
def pathNames (path : String) : List String :=
  let step (c : Char) (parts : List (List Char)) : List (List Char) :=
    if c = '/' then [] :: parts
    else
      match parts with
      | p :: ps => (c :: p) :: ps
      | [] => [[c]]
  (path.toList.foldr step [[]]).map String.ofList

/-- Where following a path has led. -/
inductive Spot
  /-- To a file. -/
  | file (content : ByteArray)
  /-- To a directory, with those that it lies in. -/
  | directory (entries : List (String × Entry)) (outer : List (List (String × Entry)))
  /-- Out of the known directories. -/
  | outside

/-- The number of bytes that a name may have. -/
def longestName : Nat := 255

/-- The first number of bytes that a path may not have. -/
def pathLimit : Nat := 4096

/-- Follows a name. An empty name and a single dot stay in a directory, two dots leave it. -/
def Spot.follow (spot : Spot) (name : String) : Except FileError Spot :=
  match spot with
  | .file _ => .error .notDirectory
  | .outside =>
    if name = "" || name = "." || name = ".." then .ok .outside
    else if longestName < name.utf8ByteSize then .error .nameTooLong
    else .error .notFound
  | .directory entries outer =>
    if name = "" || name = "." then .ok spot
    else if name = ".." then
      match outer with
      | d :: ds => .ok (.directory d ds)
      | [] => .ok .outside
    else if longestName < name.utf8ByteSize then .error .nameTooLong
    else
      match Entry.find? name entries with
      | some (.file content) => .ok (.file content)
      | some (.directory inner) => .ok (.directory inner (entries :: outer))
      | none => .error .notFound

/-- The bytes of the file at a path, taken from the given directory. -/
def readFile (entries : List (String × Entry)) (path : String) : Except FileError ByteArray := do
  if path.toList.contains '\x00' then .error .nulCharacter
  else if path = "" then .error .notFound
  else if pathLimit ≤ path.utf8ByteSize then .error .nameTooLong
  else
    let start := if path.toList.head? = some '/' then Spot.outside else .directory entries []
    match ← (pathNames path).foldlM Spot.follow start with
    | .file content => pure content
    | _ => .error .isDirectory

/-- Reads the check in a file that has been read or not, with the event that announces it. -/
def ofFile (path : String) (content : Except String ByteArray) :
    Except CheckError Check × List Event :=
  let check := match content with
    | .ok raw => readCheck raw
    | .error reason => .error (.malformedSpec ("unable to read " ++ path ++ ": " ++ reason))
  (check, [.loadingManifest path])

/-- Reads the check in the file at a path, taken from the given directory. -/
def loadFile (entries : List (String × Entry)) (path : String) :
    Except CheckError Check × List Event :=
  ofFile path ((readFile entries path).mapError FileError.message)

end PodCheck.Manifest
