import PodRunner.Kubernetes.Request
import PodRunner.Kubernetes.Response
import PodRunner.Session

/-!
# Orchestrators

The remote side of a runner. It creates instances, says how they are doing and deletes them, and it remembers
every call made to it together with the reply. Either it answers from a script, one reply after the other for
each kind of call, or it is the Kubernetes API, whose responses come one after the other for all requests.
-/

namespace PodRunner

/-- A call and the reply that it was given. A query also keeps the time at which it was made. -/
inductive Call where
  | create (ns : String) (pod : Pod) (reply : Reply Instance)
  | get (name ns : String) (asked : Time) (reply : Reply InstanceStatus)
  | delete (name ns : String) (reply : Reply Unit)

namespace Call

def isCreate : Call → Bool
  | create _ _ _ => true
  | _ => false

def isGet : Call → Bool
  | get _ _ _ _ => true
  | _ => false

def isDelete : Call → Bool
  | delete _ _ _ => true
  | _ => false

end Call

structure Exchange where
  request : Kubernetes.Request
  reply : Reply Kubernetes.Response

/-- The replies of a scripted orchestrator, for each kind of call by the number of earlier calls. -/
structure Script where
  creations : Nat → Reply Instance
  queries : Nat → Reply InstanceStatus
  deletions : Nat → Reply Unit

inductive Backend where
  | scripted (script : Script)
  | kubernetes

structure Orchestrator where
  backend : Backend
  /-- The replies of the API, by the number of earlier requests. -/
  responses : Nat → Reply Kubernetes.Response
  calls : List Call
  exchanges : List Exchange

namespace Orchestrator

variable {α : Type}

def fresh (backend : Backend) (responses : Nat → Reply Kubernetes.Response) : Orchestrator :=
  ⟨backend, responses, [], []⟩

def scripted (script : Script) (responses : Nat → Reply Kubernetes.Response) : Orchestrator :=
  fresh (.scripted script) responses

def overKubernetes (responses : Nat → Reply Kubernetes.Response) : Orchestrator :=
  fresh .kubernetes responses

def isKubernetes (o : Orchestrator) : Bool :=
  match o.backend with
  | .kubernetes => true
  | .scripted _ => false

def created (o : Orchestrator) : Nat := o.calls.countP Call.isCreate

def queried (o : Orchestrator) : Nat := o.calls.countP Call.isGet

def deleted (o : Orchestrator) : Nat := o.calls.countP Call.isDelete

def remember (o : Orchestrator) (call : Call) : Orchestrator :=
  { o with calls := o.calls ++ [call] }

private def serviceFailure (result : Except Error Kubernetes.Response) :
    Except Kubernetes.ApiError Kubernetes.Response :=
  result.mapError fun e => .service e.message

/-- Sends a request and reads the response. A request that cannot be made is not sent. -/
def exchange (o : Orchestrator) (request : Except Kubernetes.ApiError Kubernetes.Request)
    (read : Kubernetes.Response → Except Kubernetes.ApiError α) : Reply α × Orchestrator :=
  match request with
  | .error e => (.prompt (.error e.toError), o)
  | .ok request =>
    let reply := o.responses o.exchanges.length
    let result := (serviceFailure reply.result).bind read
    (⟨reply.delay, reply.advance, result.mapError (·.toError)⟩,
      { o with exchanges := o.exchanges ++ [⟨request, reply⟩] })

def getPod (o : Orchestrator) (name ns : String) : Reply Pod × Orchestrator :=
  o.exchange (Kubernetes.Request.getPod name ns) (·.pod)

def create (o : Orchestrator) (ns : String) (pod : Pod) : Reply Instance × Orchestrator :=
  let (reply, o) := match o.backend with
    | .scripted script => (script.creations o.created, o)
    | .kubernetes =>
      let (reply, o) := o.exchange (Kubernetes.Request.createPod ns pod) (·.pod)
      (reply.bind (·.instance? ns), o)
  (reply, o.remember (.create ns pod reply))

def query (o : Orchestrator) (name ns : String) (asked : Time) :
    Reply InstanceStatus × Orchestrator :=
  let (reply, o) := match o.backend with
    | .scripted script => (script.queries o.queried, o)
    | .kubernetes =>
      let (reply, o) := o.getPod name ns
      (reply.bind fun pod => .ok pod.instanceStatus, o)
  (reply, o.remember (.get name ns asked reply))

def delete (o : Orchestrator) (name ns : String) : Reply Unit × Orchestrator :=
  let (reply, o) := match o.backend with
    | .scripted script => (script.deletions o.deleted, o)
    | .kubernetes => o.exchange (Kubernetes.Request.deletePod name ns) (·.deletion)
  (reply, o.remember (.delete name ns reply))

end Orchestrator

namespace Session

variable {α : Type}

/-- Marks a function in the log only where the orchestrator is the Kubernetes API. -/
private def tracedOverKubernetes (function : Traced)
    (body : Session Orchestrator → Outcome α × Session Orchestrator) (s : Session Orchestrator) :
    Outcome α × Session Orchestrator :=
  if s.remote.isKubernetes then s.traced function body else body s

def createInstance (s : Session Orchestrator) (ns : String) (pod : Pod) :
    Outcome Instance × Session Orchestrator :=
  s.tracedOverKubernetes .createInstance fun s =>
    let (reply, remote) := s.remote.create ns pod
    { s with remote }.receive reply

/-- Asks how an instance is doing. The reply is not taken yet. -/
def queryInstance (s : Session Orchestrator) (name ns : String) :
    Reply InstanceStatus × Session Orchestrator :=
  let (reply, remote) := s.remote.query name ns s.clock.now
  (reply, { s with remote })

def getInstance (s : Session Orchestrator) (name ns : String) :
    Outcome InstanceStatus × Session Orchestrator :=
  let (reply, s) := s.queryInstance name ns
  s.receive reply

def deleteInstance (s : Session Orchestrator) (name ns : String) :
    Outcome Unit × Session Orchestrator :=
  s.tracedOverKubernetes .deleteInstance fun s =>
    let (reply, remote) := s.remote.delete name ns
    { s with remote }.receive reply

end Session

/-- Who knows the owner of the instances: someone who just answers, or the Pod of the running process, which
is found through the environment and read over the API. -/
inductive OwnerSource where
  | known (answer : Except Error Owner)
  | ownPod (lookup : String → Option String)

namespace Session

def resolveOwnPod (lookup : String → Option String) (s : Session Orchestrator) :
    Outcome Owner × Session Orchestrator :=
  match (Owner.identity lookup).1 with
  | .error e => (.failed e, s)
  | .ok (name, ns) =>
    let (reply, remote) := s.remote.getPod name ns
    match { s with remote }.receive reply with
    | (.broken fault, s) => (.broken fault, s)
    | (.failed e, s) => (.failed e, s)
    | (.done pod, s) =>
      match pod.owner? with
      | .error e => (.failed e, s)
      | .ok owner => (.done owner, s.log (.ownerResolved owner))

def resolveOwner (s : Session Orchestrator) : OwnerSource → Outcome Owner × Session Orchestrator
  | .known answer => (Outcome.ofExcept answer, s)
  | .ownPod lookup => s.traced .resolveOwner (resolveOwnPod lookup)

end Session

end PodRunner
