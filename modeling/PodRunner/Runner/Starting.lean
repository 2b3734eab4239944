import PodRunner.Manifest
import PodRunner.Orchestrator
import PodRunner.Runner

/-!
# Starting a runner

A runner is built from a context for the owner of its instance, and started by submitting the Pod of its
workload. Building makes no call for an instance.
-/

namespace PodRunner.Runner

def servingMissing : Error := .invalidConfig "serving section is missing"

def assemble (owner : Owner) (context : Context) (modelPath : String) : Except Error Runner :=
  match context.serving with
  | none => .error servingMissing
  | some serving => do
    let binary ← ServingBinary.ofConfig serving
    let workload ← binary.workload modelPath context.kubernetes .none
    return { new owner workload with polling := context.polling, cleanup := context.cleanup }

/-- Finds out the owner before anything else is looked at. -/
def fromContext (source : OwnerSource) (context : Context) (modelPath : String)
    (s : Session Orchestrator) : Outcome Runner × Session Orchestrator :=
  s.traced .fromContext fun s =>
    match s.resolveOwner source with
    | (.broken fault, s) => (.broken fault, s)
    | (.failed e, s) => (.failed e, s)
    | (.done owner, s) =>
      match assemble owner context modelPath with
      | .error e => (.failed e, s)
      | .ok runner => (.done runner, s.log (.built runner.describe context.describe))

def alreadyStarted : Error := .invalidState "model server can not be started multiple times"

/-- Submits the Pod of the workload. The runner changes only if this succeeds. -/
def submit (r : Runner) (s : Session Orchestrator) : (Outcome Unit × Runner) × Session Orchestrator :=
  if r.state ≠ .unstarted ∨ r.instanceName.isSome then ((.failed alreadyStarted, r), s)
  else
    match Manifest.build r.workload r.owner with
    | .error e => ((.failed e, r), s)
    | .ok pod =>
      match s.createInstance r.ns pod with
      | (.broken fault, s) => ((.broken fault, r), s)
      | (.failed e, s) => ((.failed e, r), s)
      | (.done server, s) =>
        ((.done (), { r with instanceName := some server.name, state := .pending }),
          s.log (.created server r.owner))

def start (r : Runner) (s : Session Orchestrator) : (Outcome Unit × Runner) × Session Orchestrator :=
  s.traced .start r.submit

end PodRunner.Runner
