import PodCheck.Api.Page

/-! # Watches

A watch is a stream of lines, each of which is an event in JSON. The connection may cut a line off
anywhere: if what there is of it fits, it is passed over, because the next watch brings the event
again. -/

namespace PodCheck.Api

/-! ## Bookmarks -/

/-- The metadata of a bookmark. -/
structure BookmarkMetadata where
  /-- The version. -/
  resourceVersion : String
  /-- Notes of any kind. -/
  annotations : TextMap := .empty

open Fields in
/-- The form of the metadata of a bookmark. -/
def BookmarkMetadata.form : Form BookmarkMetadata := record <|
  BookmarkMetadata.mk
    <$> required "resourceVersion" .text (·.resourceVersion)
    <*> withDefault "annotations" .textMap .empty (·.annotations)

/-- A bookmark, which only brings a version. -/
structure Bookmark where
  /-- The version of the API. -/
  apiVersion : String
  /-- The kind of the objects that are watched. -/
  kind : String
  /-- The metadata. -/
  metadata : BookmarkMetadata

open Fields in
/-- The form of a bookmark inside an event. The type is looked at only at the end. -/
def Bookmark.form : Form Bookmark :=
  keeping (Json.deepestNesting - 2)
    ((fun metadata type => ⟨type.1, type.2, metadata⟩)
      <$> required "metadata" BookmarkMetadata.form (·.metadata))
    (Prod.mk <$> required "apiVersion" .text (·.apiVersion) <*> required "kind" .text (·.kind))

/-! ## Events -/

/-- An event of a watch. -/
inductive WatchEvent
  /-- A pod is there, new or changed. -/
  | present (pod : Pod)
  /-- A pod is gone. -/
  | deleted (pod : Pod)
  /-- Nothing has happened up to a version. -/
  | bookmark (version : String)
  /-- The server reports an error. -/
  | failed

namespace WatchEvent

/-- The form of the type of an event. -/
def typeForm : Form String := .variant ["ADDED", "MODIFIED", "DELETED", "BOOKMARK", "ERROR"]

/-- The event of a type with an object. -/
def readObject (type : String) (s : Source) : Reading WatchEvent :=
  if type = "BOOKMARK" then (fun b => .bookmark b.metadata.resourceVersion) <$> Bookmark.form.read s
  else if type = "ERROR" then (fun _ => .failed) <$> statusForm.read s
  else if type = "DELETED" then .deleted <$> Pod.form.read s
  else .present <$> Pod.form.read s

/-- The event of a type that is still to be read. -/
def readTyped (type object : Source) : Reading WatchEvent := do
  readObject (← typeForm.read type) object

/-- An event from a list of its type and its object. -/
def readRow (row : Parts Source) : Reading WatchEvent :=
  match row.come with
  | [] => row.absent none
  | [type] => do
    let _ ← typeForm.read type
    row.absent none
  | [type, object] => do row.close (← readTyped type object)
  | _ => Reading.fail

/-- An event from the members of an object: one type and one object in either order. An object that
comes first is kept until its type is known. -/
def readMembers (ms : Members) : Reading WatchEvent :=
  let isOwn (m : String × Source) : Bool := m.1 = "type" || m.1 = "object"
  if ms.come.any fun m => !isOwn m && m.2.isBroken then Reading.fail
  else
    match ms.come.filter isOwn with
    | [] => ms.absent none
    | [(key, s)] => do
      if key = "type" then
        let _ ← typeForm.read s
        ms.absent none
      else
        s.keep (Json.deepestNesting - 1)
        ms.absent none
    | [(key, s), (key', s')] => do
      if key = key' then Reading.fail
      else if key = "type" then ms.close (← readTyped s s')
      else
        s.keep (Json.deepestNesting - 1)
        ms.close (← readTyped s' s)
    | _ => Reading.fail

/-- Reads an event. -/
def read (s : Source) : Reading WatchEvent := do
  match s.row? with
  | some row => readRow row
  | none => readMembers (← s.members)

/-- What an event shows, if anything, and the version that it brings. A pod without a version and an
error bring none. -/
def seen? : WatchEvent → Option (Option Observation × String)
  | .present pod =>
    (nonempty? pod.metadata.resourceVersion).map fun v => (some (.present pod.metadata.uid), v)
  | .deleted pod => (nonempty? pod.metadata.resourceVersion).map fun v => (some .absent, v)
  | .bookmark version => some (none, version)
  | .failed => none

end WatchEvent

/-! ## Lines -/

/-- The lines of a text. The last one counts without its line break only if the text has ended. -/
def lines (ended : Bool) (text : String) : List String :=
  let parts := text.toList.foldr (fun c parts =>
    if c = '\n' then [] :: parts
    else
      match parts with
      | p :: ps => (c :: p) :: ps
      | [] => [[c]]) [[]]
  let whole := parts.dropLast ++ (if ended then (parts.getLast?.filter (· ≠ [])).toList else [])
  whole.map fun line =>
    String.ofList (if line.getLast? = some '\r' then line.dropLast else line)

/-- The event of a line, which may be cut off. -/
def readLine (line : String) : Except Reading.Fault WatchEvent :=
  match Json.read line with
  | .ok v => (WatchEvent.read (.json v)).result
  | .error (.unfinished start) => (WatchEvent.read (.begun start)).result
  | .error .malformed => .error .misfit

/-- What the lines of a watch show, up to the first failure, and the version that they lead to. A
line that was cut off is passed over. -/
def readLines (version : String) : List String → List Observation × String
  | [] => ([], version)
  | line :: more =>
    match readLine line with
    | .error .unfinished => readLines version more
    | .error .misfit => ([.failure], version)
    | .ok event =>
      match event.seen? with
      | none => ([.failure], version)
      | some (shows, version) =>
        let (seen, version) := readLines version more
        (shows.toList ++ seen, version)

/-- What a reply to a watch shows, and the version from which the next watch begins. -/
def readWatch (version : String) (reply : Reply) : List Observation × String :=
  match reply with
  | .failed => ([.failure], version)
  | .answered _ text ended => readLines version (lines ended text)

end PodCheck.Api
