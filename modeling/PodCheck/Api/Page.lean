import PodCheck.Api.Observation
import PodCheck.Api.Reply

/-! # Pages of lists

A list of pods comes in pages, the last of which tells from which version on to watch. A reply that
is no page shows a failure, and nothing comes after it. -/

namespace PodCheck.Api

/-- The metadata of a list. -/
structure ListMetadata where
  /-- Where the next page begins. -/
  page : Option String := none
  /-- The version of the list. -/
  resourceVersion : Option String := none

open Fields in
/-- The form of the metadata of a list. -/
def ListMetadata.form : Form ListMetadata := object <|
  (fun page _ version _ => ⟨page, version⟩)
    <$> optional "continue" .text (·.page)
    <*> optional "remainingItemCount" .int64 (fun _ => none)
    <*> optional "resourceVersion" .text (·.resourceVersion)
    <*> optional "selfLink" .text (fun _ => none)

/-- A page of a list of pods. -/
structure PodPage where
  /-- The metadata. -/
  metadata : ListMetadata
  /-- The pods. -/
  items : Option (List Pod)

open Fields in
/-- The form of a page: the pods may be `null`, but not missing. What is not looked at must be
readable. -/
def PodPage.form : Form PodPage :=
  keeping (Json.deepestNesting - 1)
    ((fun metadata items _ => ⟨metadata, items⟩)
      <$> withDefault "metadata" ListMetadata.form {} (·.metadata)
      <*> required "items" (Form.list Pod.form).nullable (·.items))
    (pure ())

/-- What comes after a page. -/
inductive AfterPage
  /-- Another page. -/
  | page (start : String)
  /-- A watch from a version on. -/
  | watch (version : String)

/-- A text that is not empty. -/
def nonempty? (s : Option String) : Option String := s.filter (· ≠ "")

/-- What a page shows, given whether a page before showed a pod, and what comes after it. -/
def readPage (seen : Bool) (reply : Reply) : List Observation × Option AfterPage :=
  match reply.text.toOption.bind (readText? PodPage.form) with
  | none => ([.failure], none)
  | some page =>
    let pods := page.items.getD []
    let shown := pods.map fun p => Observation.present p.metadata.uid
    match nonempty? page.metadata.page, nonempty? page.metadata.resourceVersion with
    | some start, _ => (shown, some (.page start))
    | none, some version =>
      (shown ++ (if seen || !pods.isEmpty then [] else [.absent]), some (.watch version))
    | none, none => ([.failure], none)

end PodCheck.Api
