import PodRunner.Pod
import PodRunner.Workload

/-!
# Manifests

The Pod that is submitted for a workload. It has one container, never restarts in place, lives for a
limited time and names its owner, so that it goes when the owner goes.
-/

namespace PodRunner.Manifest

/-- A day. -/
def defaultDeadlineSeconds : Int := 86400

def negativeDeadline (secs : Int) : Error :=
  .invalidConfig s!"active_deadline_seconds should be > 0. Got {secs}"

/-- The limit on the life of the Pod; zero is no limit of its own. -/
def deadlineSeconds : Option Int → Except Error Int
  | none => .ok defaultDeadlineSeconds
  | some secs =>
    if secs = 0 then .ok defaultDeadlineSeconds
    else if secs < 0 then .error (negativeDeadline secs)
    else .ok secs

/-- The account of the workload, or else that of its owner. -/
def serviceAccountName (workload : Workload) (owner : Owner) : Option String :=
  workload.serviceAccountName <|> owner.serviceAccountName

def resources (limits : ResourceLimits) : Option ResourceRequirements :=
  if limits.isEmpty then none else some ⟨some limits.entries⟩

def container (workload : Workload) : Container where
  name := "model-server"
  image := some workload.image
  env := some (workload.environment.entries.map fun entry => ⟨entry.1, some entry.2⟩)
  ports := some [⟨workload.containerPort.toNat, some "serving"⟩]
  resources := resources workload.resources

def metadata (owner : Owner) : PodMetadata :=
  { PodMetadata.empty with
    generateName := some "infraval-modelserver-"
    labels := some [("app", "infraval-modelserver")]
    ownerReferences := some [⟨owner.apiVersion, owner.kind, owner.name, owner.uid⟩] }

def build (workload : Workload) (owner : Owner) : Except Error Pod :=
  match deadlineSeconds workload.activeDeadlineSeconds with
  | .error e => .error e
  | .ok secs => .ok {
      metadata := metadata owner
      spec := some {
        containers := [container workload]
        serviceAccountName := serviceAccountName workload owner
        restartPolicy := some "Never"
        activeDeadlineSeconds := some secs }
      status := none
      document := none }

end PodRunner.Manifest
