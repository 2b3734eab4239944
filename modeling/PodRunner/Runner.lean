import PodRunner.Context
import PodRunner.Owner

/-!
# Runners

A runner takes one instance through its life: it submits the Pod, asks for it again and again until it runs
at an address or a deadline passes, and deletes it in the end.
-/

namespace PodRunner

inductive RunnerState where
  | unstarted
  | pending
  | running
  | aborted
  | timedOut
  | stopped
deriving DecidableEq, Repr

namespace RunnerState

def name : RunnerState → String
  | unstarted => "Unstarted"
  | pending => "Pending"
  | running => "Running"
  | aborted => "Aborted"
  | timedOut => "TimedOut"
  | stopped => "Stopped"

end RunnerState

inductive StopOutcome where
  | deleted
  | alreadyGone
  | nothingToStop
  | abandoned
deriving DecidableEq, Repr

namespace StopOutcome

def name : StopOutcome → String
  | deleted => "Deleted"
  | alreadyGone => "AlreadyGone"
  | nothingToStop => "NothingToStop"
  | abandoned => "Abandoned"

end StopOutcome

structure Runner where
  owner : Owner
  workload : Workload
  polling : Polling
  cleanup : Backoff
  ns : String
  /-- The name that the orchestrator gave to the instance. -/
  instanceName : Option String
  /-- Where the instance is reached while it is known to run. -/
  endpoint : Option String
  state : RunnerState
deriving DecidableEq

namespace Runner

/-- A runner that has done nothing yet, for instances beside their owner. -/
def new (owner : Owner) (workload : Workload) : Runner where
  owner
  workload
  polling := .default
  cleanup := .default
  ns := owner.ns
  instanceName := none
  endpoint := none
  state := .unstarted

def describe (r : Runner) : String :=
  let name := r.instanceName.getD "<none>"
  s!"WorkloadRunner(image: {r.workload.image}, instance: {name})"

def noEndpoint : Error :=
  .uninitialized "endpoint; call start() and wait_until_running() first"

def endpoint? (r : Runner) : Except Error String :=
  match r.endpoint, r.state with
  | some endpoint, .running => .ok endpoint
  | _, _ => .error noEndpoint

end Runner

end PodRunner
