import PodCheck.Api.Exchange
import PodCheck.Proofs.Form.Objects
import PodCheck.Proofs.Form.Ordered

/-! # What requests read like

The requests of the operations of a cluster, word for word: the method, the text of the target, and
the type and the value of the body (`Request.Reads`). A token is stored by a merge patch of its
check (`patchToken?_of_some`), a pod is deleted by its name (`deletePod?_of_some`), listed and
watched by that name (`Exchange.request?_of_deletion`), and created by sending all of it, so that
what is sent is read back as the pod (`postPod?_of_some`). -/

namespace PodCheck

/-- What is sent of a pod that was created on a whole second, or never, is read back as the pod. -/
theorem Pod.ofJson?_sorted_write {pod : Pod}
    (h : ∀ t, pod.metadata.creationTimestamp = some t → t.nanos = 0) :
    Pod.form.ofJson? (Pod.form.write pod).sorted = some pod
      ∧ Json.read? (Pod.form.write pod).sorted.print = some (Pod.form.write pod).sorted := by
  have hkeeps := Pod.keeps_form h
  rw [Form.Ordered.sorted_write]
  refine ⟨?_, Json.read?_print hkeeps.plain⟩
  rw [Form.ofJson?, hkeeps.read_write]
  rfl

namespace Api

/-! ## Targets -/

/-- The text of the target of a check. -/
def checkTarget (ns check : String) : String :=
  "/apis/comcast.github.io/v1/namespaces/" ++ ns ++ "/kuberhealthychecks/" ++ check ++ "?"

/-- The text of the target of a pod. -/
def podTarget (ns name : String) : String :=
  "/api/v1/namespaces/" ++ ns ++ "/pods/" ++ name ++ "?"

/-- The text of the target of the pods of a namespace. -/
def podsTarget (ns : String) : String := "/api/v1/namespaces/" ++ ns ++ "/pods?"

/-- The text of the target that lists the pods of a name, from a page on. -/
def listTarget (ns name : String) (page : Option String) : String :=
  podsTarget ns ++ "&fieldSelector=" ++ queryValue ("metadata.name=" ++ name) ++ "&limit=500"
    ++ (page.map fun start => "&continue=" ++ queryValue start).getD ""

/-- The text of the target that watches the pods of a name, from a version on. -/
def watchTarget (ns name version : String) : String :=
  podsTarget ns ++ "&watch=true&timeoutSeconds=290&fieldSelector="
    ++ queryValue ("metadata.name=" ++ name) ++ "&allowWatchBookmarks=true&resourceVersion="
    ++ queryValue version

/-- A path without parameters ends in a question mark. -/
theorem withParameters_nil (path : String) : withParameters path [] = path ++ "?" := by
  rw [withParameters, List.foldl_nil, String.append_empty]

/-- The path of an object is that of its kind with its name. -/
theorem objectPath?_eq_some_iff {path name text : String} :
    objectPath? path name = some text ↔ name ≠ "" ∧ path ++ "/" ++ name = text := by
  by_cases hname : name = "" <;> simp [objectPath?, hname]

/-- A check is found under its kind. -/
theorem withParameters_check (ns check : String) :
    withParameters (checksPath ns ++ "/" ++ check) [] = checkTarget ns check := by
  have hfront : "/apis/" ++ Check.group ++ "/" ++ Check.version ++ "/namespaces/"
      = "/apis/comcast.github.io/v1/namespaces/" := by decide
  have hback : "/" ++ Check.plural ++ "/" = "/kuberhealthychecks/" := by decide
  unfold checkTarget
  rw [withParameters_nil, checksPath, hfront, ← hback]
  simp only [String.append_assoc]

/-- What follows the path of the pods of a namespace. -/
theorem podsPath_append (ns : String) {back text : String} (h : "/pods" ++ back = text) :
    podsPath ns ++ back = "/api/v1/namespaces/" ++ ns ++ text := by
  unfold podsPath
  rw [String.append_assoc, h]

/-- A pod is found under its kind. -/
theorem withParameters_pod (ns name : String) :
    withParameters (podsPath ns ++ "/" ++ name) [] = podTarget ns name := by
  have hslash : "/pods" ++ "/" = "/pods/" := by decide
  unfold podTarget
  rw [withParameters_nil, podsPath_append ns hslash]

/-- The pods of a namespace, with some parameters. -/
theorem withParameters_pods (ns : String) (parameters : List (String × String)) :
    withParameters (podsPath ns) parameters = podsTarget ns
      ++ parameters.foldl (fun q p => q ++ "&" ++ p.1 ++ "=" ++ queryValue p.2) "" := by
  have hquery : "/pods" ++ "?" = "/pods?" := by decide
  unfold podsTarget
  rw [withParameters, podsPath_append ns hquery]

/-- The parameters of a list. -/
theorem withParameters_list (ns name : String) (page : Option String) :
    withParameters (podsPath ns)
        ([nameSelector name, ("limit", "500")] ++ (page.map fun p => ("continue", p)).toList)
      = listTarget ns name page := by
  have hselector : "&" ++ ("fieldSelector" ++ "=") = "&fieldSelector=" := by decide
  have hlimit : "&" ++ ("limit" ++ ("=" ++ queryValue "500")) = "&limit=500" := by decide
  have hcontinue : "&" ++ ("continue" ++ "=") = "&continue=" := by decide
  rw [withParameters_pods, listTarget, ← hselector, ← hlimit, ← hcontinue]
  -- the literal texts must stay apart until both sides are associated alike
  cases page <;> simp only [-String.reduceAppend, nameSelector, Option.map_none, Option.map_some,
    Option.toList_none, Option.toList_some, Option.getD_none, Option.getD_some, List.cons_append,
    List.nil_append, List.foldl_cons, List.foldl_nil, String.append_assoc, String.empty_append,
    String.append_empty]

/-- The parameters of a watch. -/
theorem withParameters_watch (ns name version : String) :
    withParameters (podsPath ns) [("watch", "true"), ("timeoutSeconds", "290"), nameSelector name,
        ("allowWatchBookmarks", "true"), ("resourceVersion", version)]
      = watchTarget ns name version := by
  have hfront : "&" ++ ("watch" ++ ("=" ++ (queryValue "true" ++ ("&" ++ ("timeoutSeconds"
      ++ ("=" ++ (queryValue "290" ++ ("&" ++ ("fieldSelector" ++ "=")))))))))
      = "&watch=true&timeoutSeconds=290&fieldSelector=" := by decide
  have hback : "&" ++ ("allowWatchBookmarks" ++ ("=" ++ (queryValue "true" ++ ("&"
      ++ ("resourceVersion" ++ "="))))) = "&allowWatchBookmarks=true&resourceVersion=" := by decide
  rw [withParameters_pods, watchTarget, ← hfront, ← hback]
  simp only [-String.reduceAppend, nameSelector, List.foldl_cons, List.foldl_nil,
    String.append_assoc, String.empty_append]

/-! ## Requests -/

/-- **How a request reads**: its method, the text that its target stands for, and the type and the
value of its body. -/
structure Request.Reads (request : Request) (method target : String) (contentType : Option String)
    (body : Option Json) : Prop where
  /-- The method. -/
  method : request.method = method
  /-- Where it goes. -/
  target : Target.ofText? target = some request.target
  /-- The type of the body. -/
  contentType : request.contentType = contentType
  /-- The body. -/
  body : request.body = body

/-- A request is made if its target can be written. -/
theorem Request.make?_eq_some_iff {method target : String} {contentType : Option String}
    {body : Option Json} {request : Request} :
    make? method target contentType body = some request
      ↔ request.Reads method target contentType body := by
  rw [make?, Option.map_eq_some_iff]
  constructor
  · rintro ⟨t, htarget, rfl⟩
    exact ⟨rfl, htarget, rfl, rfl⟩
  · rintro ⟨rfl, htarget, rfl, rfl⟩
    exact ⟨_, htarget, rfl⟩

/-- A request stores the token of a check: a merge patch of the check that names nothing but the
token. -/
def Request.StoresToken (request : Request) (ns check token : String) : Prop :=
  request.Reads "PATCH" (checkTarget ns check) (some "application/merge-patch+json")
    (some (.object [("spec", .object [("currentUUID", .text token)])]))

/-- **A token is stored by a merge patch of its check.** -/
theorem patchToken?_of_some {ns check token : String} {request : Request}
    (h : patchToken? ns check token = some request) : request.StoresToken ns check token := by
  obtain ⟨path, hpath, h⟩ := Option.bind_eq_some_iff.1 h
  obtain ⟨-, rfl⟩ := objectPath?_eq_some_iff.1 hpath
  rw [Request.StoresToken, ← withParameters_check]
  exact Request.make?_eq_some_iff.1 h

/-- A request deletes a pod, with nothing said of how. -/
def Request.DeletesPod (request : Request) (ns name : String) : Prop :=
  request.Reads "DELETE" (podTarget ns name) (some "application/json") (some (.object []))

/-- **A pod is deleted by its name.** -/
theorem deletePod?_of_some {ns name : String} {request : Request}
    (h : deletePod? ns name = some request) : request.DeletesPod ns name := by
  obtain ⟨path, hpath, h⟩ := Option.bind_eq_some_iff.1 h
  obtain ⟨-, rfl⟩ := objectPath?_eq_some_iff.1 hpath
  rw [Request.DeletesPod, ← withParameters_pod]
  exact Request.make?_eq_some_iff.1 h

/-- A pod can be asked to be deleted: it has a name, and its path can be written. -/
def Deletable (ns name : String) : Prop := name ≠ "" ∧ Target.ofText? (podTarget ns name) ≠ none

instance (ns name : String) : Decidable (Deletable ns name) :=
  inferInstanceAs (Decidable (_ ∧ _))

/-- A deletion is not sent exactly if the pod cannot be asked to be deleted. -/
theorem deletePod?_eq_none_iff {ns name : String} :
    deletePod? ns name = none ↔ ¬Deletable ns name := by
  rw [Deletable, ← withParameters_pod]
  by_cases hname : name = "" <;> simp [deletePod?, objectPath?, Request.make?, hname]

/-- A request asks for the pods of a name, by a list or by a watch. -/
inductive Request.AsksForPod (request : Request) (ns name : String) : Prop
  /-- A list, from a page on. -/
  | list {page : Option String} (h : request.Reads "GET" (listTarget ns name page) none none)
  /-- A watch, from a version on. -/
  | watch {version : String} (h : request.Reads "GET" (watchTarget ns name version) none none)

/-- **A pod that is being deleted is listed and watched by its name.** -/
theorem Exchange.request?_of_deletion {x : Exchange} {pod : Deletion} {request : Request}
    (hpod : x.deletion? = some pod) (h : x.request? = some request) :
    request.AsksForPod pod.ns pod.name := by
  cases x with
  | list d page seen =>
    obtain rfl := Option.some.inj hpod
    have hreads := Request.make?_eq_some_iff.1 h
    rw [withParameters_list] at hreads
    exact .list hreads
  | watch d version =>
    obtain rfl := Option.some.inj hpod
    have hreads := Request.make?_eq_some_iff.1 h
    rw [withParameters_watch] at hreads
    exact .watch hreads
  | get | patch | post | delete => cases hpod

/-- A request creates a pod: all of it is sent to the pods of a namespace, and is read back from
what is sent. -/
structure Request.CreatesPod (request : Request) (ns : String) (pod : Pod) : Prop where
  /-- The pod is written with its members by rising key. -/
  reads : request.Reads "POST" (podsTarget ns) (some "application/json")
    (some (Pod.form.write pod).sorted)
  /-- The text of the body is read as the body. -/
  text : Json.read? (Pod.form.write pod).sorted.print = some (Pod.form.write pod).sorted
  /-- The body is read as the pod. -/
  read : Pod.form.ofJson? (Pod.form.write pod).sorted = some pod

/-- **A pod is created by sending all of it**, if it was created on a whole second or never. -/
theorem postPod?_of_some {ns : String} {pod : Pod} {request : Request}
    (hstamp : ∀ t, pod.metadata.creationTimestamp = some t → t.nanos = 0)
    (h : postPod? ns pod = some request) : request.CreatesPod ns pod where
  reads := by
    have hreads := Request.make?_eq_some_iff.1 h
    rwa [withParameters_pods, List.foldl_nil, String.append_empty] at hreads
  text := (Pod.ofJson?_sorted_write hstamp).2
  read := (Pod.ofJson?_sorted_write hstamp).1

end Api

end PodCheck
