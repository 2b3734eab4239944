import PodRunner.Instance
import PodRunner.Json
import PodRunner.Owner

/-!
# Pods

The part of a Pod that a runner writes or looks at. Every field that the orchestrator may leave out is
optional.
-/

namespace PodRunner

structure OwnerReference where
  apiVersion : String
  kind : String
  name : String
  uid : String
deriving DecidableEq, Repr

structure PodMetadata where
  name : Option String
  generateName : Option String
  ns : Option String
  uid : Option String
  labels : Option (List (String × String))
  ownerReferences : Option (List OwnerReference)
deriving DecidableEq, Repr

structure EnvVar where
  name : String
  value : Option String
deriving DecidableEq, Repr

structure ContainerPort where
  containerPort : Int
  name : Option String
deriving DecidableEq, Repr

structure ResourceRequirements where
  limits : Option (List (String × String))
deriving DecidableEq, Repr

structure Container where
  name : String
  image : Option String
  env : Option (List EnvVar)
  ports : Option (List ContainerPort)
  resources : Option ResourceRequirements
deriving DecidableEq, Repr

structure PodSpec where
  containers : List Container
  serviceAccountName : Option String
  restartPolicy : Option String
  activeDeadlineSeconds : Option Int
deriving DecidableEq, Repr

structure PodStatus where
  phase : Option String
  podIp : Option String
deriving DecidableEq, Repr

structure Pod where
  metadata : PodMetadata
  spec : Option PodSpec
  status : Option PodStatus
  /-- What the Pod was read from, if it was: it may say more than the other fields. -/
  document : Option Json
deriving Repr

namespace PodMetadata

def empty : PodMetadata := ⟨none, none, none, none, none, none⟩

end PodMetadata

namespace Pod

def apiVersion : String := "v1"

def kind : String := "Pod"

def unnamed : Error := .internal "orchestrator did not assign a name to the instance"

/-- The instance that a created Pod is. A Pod that names no namespace is in the one it was created in. -/
def instance? (pod : Pod) (ns : String) : Except Error Instance :=
  match pod.metadata.name with
  | some name => .ok ⟨name, pod.metadata.ns.getD ns, pod.metadata.uid⟩
  | none => .error unnamed

/-- An empty address is no address. -/
def instanceStatus (pod : Pod) : InstanceStatus where
  phase := Phase.ofText (pod.status.bind (·.phase))
  address := (pod.status.bind (·.podIp)).filter fun address => !address.isEmpty

def ownerLacks (field : String) : Error := .ownerUnavailable s!"owner pod has no {field}"

def owner? (pod : Pod) : Except Error Owner :=
  match pod.metadata.name with
  | none => .error (ownerLacks "name")
  | some name =>
    match pod.metadata.uid with
    | none => .error (ownerLacks "uid")
    | some uid =>
      match pod.metadata.ns with
      | none => .error (ownerLacks "namespace")
      | some ns =>
        .ok ⟨apiVersion, kind, name, uid, ns, pod.spec.bind (·.serviceAccountName)⟩

end Pod

end PodRunner
