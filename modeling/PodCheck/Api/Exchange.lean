import PodCheck.Api.Watch

/-! # Operations over the API server

An operation of the cluster is a sequence of exchanges with the API server: one request and its
reply at a time, nothing sent twice. All operations but the deletion of a pod take a single
exchange; after a deletion that has only begun, the pod is listed and watched, page by page and
watch by watch, until it is gone. The pod has a limit to go by; whether that is over is decided
before each request (`Exchange.begin?`). -/

namespace PodCheck.Api

/-- A request for which a reply is awaited, by what it is for. -/
inductive Exchange
  /-- Reading the token of a check. -/
  | get (ns check : String)
  /-- Storing the token of a check. -/
  | patch (ns check token : String)
  /-- Creating a pod. -/
  | post (ns : String) (pod : Pod)
  /-- Deleting a pod. -/
  | delete (ns name : String)
  /-- Listing a pod that is being deleted, given the page and whether one before showed it. -/
  | list (pod : Deletion) (page : Option String) (seen : Bool)
  /-- Watching a pod that is being deleted, from a version on. -/
  | watch (pod : Deletion) (version : String)

namespace Exchange

/-- The first exchange of an operation. -/
def ofCall : Call → Exchange
  | .setToken ns check token => .patch ns check token
  | .getToken ns check => .get ns check
  | .deletePod ns name => .delete ns name
  | .createPod ns pod => .post ns pod

/-- The request of an exchange, if its target can be written. -/
def request? : Exchange → Option Request
  | .get ns check => getCheck? ns check
  | .patch ns check token => patchToken? ns check token
  | .post ns pod => postPod? ns pod
  | .delete ns name => deletePod? ns name
  | .list pod page _ => listPods? pod.ns pod.name page
  | .watch pod version => watchPods? pod.ns pod.name version

/-- The pod that an exchange waits for to go. -/
def deletion? : Exchange → Option Deletion
  | .list pod _ _ => some pod
  | .watch pod _ => some pod
  | _ => none

/-- How an operation fails when a request of it cannot be written. -/
def unsendable : Exchange → ClientError
  | .list .. => .watch
  | .watch .. => .watch
  | _ => .request none

end Exchange

/-! ## Limits -/

/-- How long a pod may take to go, in seconds. -/
def deletionSeconds : Nat := 60

/-- How an operation fails when the pod takes too long to go. -/
def Deletion.timeout (d : Deletion) : ClientError :=
  .timeout ("deletion of pod " ++ d.ns ++ "/" ++ d.name) (.ofSecs deletionSeconds)

namespace Exchange

/-- When the pod must be gone that an exchange waits for: its time begins with the first exchange
that does, so what was said before stays. -/
def limit? (x : Exchange) (now : Nat) (before : Option Nat) : Option Nat :=
  before.or (x.deletion?.map fun _ => now + deletionSeconds * 1000)

/-- How an operation fails if the pod has taken too long to go. -/
def overdue? (x : Exchange) (limit : Option Nat) (now : Nat) : Option ClientError :=
  match limit, x.deletion? with
  | some limit, some pod => if limit ≤ now then some pod.timeout else none
  | _, _ => none

/-- How an operation fails if nothing more comes: a pod takes too long to go, and any other reply
that has no end is lost with its connection. -/
def stalled (x : Exchange) : ClientError := (x.deletion?.map (·.timeout)).getD (.request none)

/-- Begins an exchange at a time, given when the pod must be gone: the request to be sent with the
limit from now on, or how the operation fails without one. -/
def begin? (x : Exchange) (now : Nat) (before : Option Nat) :
    Except ClientError (Request × Option Nat) :=
  match x.request? with
  | none => .error x.unsendable
  | some request =>
    let limit := x.limit? now before
    match x.overdue? limit now with
    | some e => .error e
    | none => .ok (request, limit)

end Exchange

/-! ## Replies -/

/-- What follows from a reply. -/
inductive Progress
  /-- The next exchange. -/
  | exchange (next : Exchange)
  /-- Nothing, since the reply goes on for ever. -/
  | endless
  /-- The operation is over. -/
  | over (outcome : Outcome)

namespace Exchange

/-- What follows from a reply to a deletion. -/
def afterDelete (ns name : String) (reply : Reply) : Progress × List Event :=
  match readDeleted ns name reply with
  | (.error e, events) => (.over (.error e), events)
  | (.ok .gone, events) => (.over (.ok .done), events)
  | (.ok (.deleting pod), events) =>
    let uid := pod.metadata.uid.getD ""
    (.exchange (.list ⟨ns, name, uid⟩ none false), events ++ [.awaitingDeletion ns name uid])

/-- What follows from a page of a list. -/
def afterPage (pod : Deletion) (seen : Bool) (reply : Reply) : Progress :=
  let (shown, next?) := readPage seen reply
  match pod.firstConclusion? shown, next? with
  | some outcome, _ => .over outcome
  | none, some (.page start) => .exchange (.list pod (some start) (seen || !shown.isEmpty))
  | none, some (.watch version) => .exchange (.watch pod version)
  | none, none => .over (.error .watch)

/-- Whether a reply has come to its end. -/
def hasEnded : Reply → Bool
  | .failed => true
  | .answered _ _ ended => ended

/-- What follows from a watch. -/
def afterWatch (pod : Deletion) (version : String) (reply : Reply) : Progress :=
  let (shown, version) := readWatch version reply
  match pod.firstConclusion? shown with
  | some outcome => .over outcome
  | none => if hasEnded reply then .exchange (.watch pod version) else .endless

/-- What follows from a reply that has been read, and what is logged. -/
def afterReply (x : Exchange) (reply : Reply) : Progress × List Event :=
  match x with
  | .get _ _ => (.over (readToken reply), [])
  | .patch ns check _ => (.over (readStored ns check reply), [])
  | .post _ _ => (.over (readCreated reply), [])
  | .delete ns name => afterDelete ns name reply
  | .list pod _ seen => (afterPage pod seen reply, [])
  | .watch pod version => (afterWatch pod version reply, [])

/-- Whether replies are read before their end. -/
def isWatch : Exchange → Bool
  | .watch .. => true
  | _ => false

/-- What follows from a reply, and what is logged. Only a watch is read before its end. -/
def receive (x : Exchange) (reply : Reply) : Progress × List Event :=
  if x.isWatch || hasEnded reply then x.afterReply reply else (.endless, [])

end Exchange

end PodCheck.Api
