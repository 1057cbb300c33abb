import PodCheck.Api.Target
import PodCheck.Check
import PodCheck.Json.Printer

/-! # Requests to the API server

The requests by which the operations of a cluster are carried out: tokens are patched into checks
and read from them, pods are created, deleted and watched. A request whose target cannot be written
is not sent. -/

namespace PodCheck.Api

/-- A request. -/
structure Request where
  /-- The method. -/
  method : String
  /-- Where it goes. -/
  target : Target
  /-- The type of the body. -/
  contentType : Option String := none
  /-- The body. -/
  body : Option Json := none

/-- The path of the pods of a namespace. -/
def podsPath (ns : String) : String := "/api/v1/namespaces/" ++ ns ++ "/pods"

/-- The path of the checks of a namespace. -/
def checksPath (ns : String) : String :=
  "/apis/" ++ Check.group ++ "/" ++ Check.version ++ "/namespaces/" ++ ns ++ "/" ++ Check.plural

/-- A request to a target. -/
def Request.make? (method target : String) (contentType : Option String) (body : Option Json) :
    Option Request :=
  (Target.ofText? target).map fun target => ⟨method, target, contentType, body⟩

/-- A path with parameters, each behind an ampersand. -/
def withParameters (path : String) (parameters : List (String × String)) : String :=
  path ++ "?" ++ parameters.foldl (fun q p => q ++ "&" ++ p.1 ++ "=" ++ queryValue p.2) ""

/-- The path of an object, which must have a name. -/
def objectPath? (path name : String) : Option String :=
  if name = "" then none else some (path ++ "/" ++ name)

/-- The change that stores a token. -/
def tokenPatch (token : String) : Json :=
  .object [("spec", .object [("currentUUID", .text token)])]

/-- Reads a check; there is no query. -/
def getCheck? (ns check : String) : Option Request := do
  Request.make? "GET" (← objectPath? (checksPath ns) check) none none

/-- Stores a token. -/
def patchToken? (ns check token : String) : Option Request := do
  Request.make? "PATCH" (withParameters (← objectPath? (checksPath ns) check) [])
    (some "application/merge-patch+json") (some (tokenPatch token))

/-- Creates a pod. -/
def postPod? (ns : String) (pod : Pod) : Option Request :=
  Request.make? "POST" (withParameters (podsPath ns) []) (some "application/json")
    (some (Pod.form.write pod).sorted)

/-- Deletes a pod. -/
def deletePod? (ns name : String) : Option Request := do
  Request.make? "DELETE" (withParameters (← objectPath? (podsPath ns) name) [])
    (some "application/json") (some (.object []))

/-- The parameter that selects objects by name. -/
def nameSelector (name : String) : String × String := ("fieldSelector", "metadata.name=" ++ name)

/-- Lists the pods of a name, in pages. -/
def listPods? (ns name : String) (page : Option String) : Option Request :=
  let parameters :=
    [nameSelector name, ("limit", "500")] ++ (page.map fun p => ("continue", p)).toList
  Request.make? "GET" (withParameters (podsPath ns) parameters) none none

/-- Watches the pods of a name from a version on. -/
def watchPods? (ns name version : String) : Option Request :=
  let parameters := [("watch", "true"), ("timeoutSeconds", "290"), nameSelector name,
    ("allowWatchBookmarks", "true"), ("resourceVersion", version)]
  Request.make? "GET" (withParameters (podsPath ns) parameters) none none

end PodCheck.Api
