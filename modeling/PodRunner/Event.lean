import PodRunner.Duration
import PodRunner.Instance
import PodRunner.Owner

/-!
# Log events

What a runner and its helpers write to the log. An event is kept as what happened; its level and its
wording are functions of it.
-/

namespace PodRunner

inductive Level where
  | error
  | warn
  | info
  | debug
  | trace
deriving DecidableEq, Repr

namespace Level

def name : Level → String
  | error => "ERROR"
  | warn => "WARN"
  | info => "INFO"
  | debug => "DEBUG"
  | trace => "TRACE"

/-- The rank of a level: more severe levels come first. -/
def rank : Level → Nat
  | error => 1
  | warn => 2
  | info => 3
  | debug => 4
  | trace => 5

def all : List Level := [error, warn, info, debug, trace]

end Level

inductive Traced where
  | fromContext
  | start
  | waitUntilRunning
  | stop
  | createInstance
  | deleteInstance
  | resolveOwner
deriving DecidableEq, Repr

namespace Traced

def name : Traced → String
  | fromContext => "WorkloadRunner::from_context"
  | start => "WorkloadRunner::start"
  | waitUntilRunning => "WorkloadRunner::wait_until_running"
  | stop => "WorkloadRunner::stop"
  | createInstance => "KubeOrchestrator::create_instance"
  | deleteInstance => "KubeOrchestrator::delete_instance"
  | resolveOwner => "KubeOwnerProvider::owner"

end Traced

inductive Event where
  | entered (function : Traced)
  | left (function : Traced)
  | ownerResolved (owner : Owner)
  | built (runner context : String)
  | created (server : Instance) (owner : Owner)
  | runningAt (name endpoint : String)
  | exitedEarly (name : String) (phase : Phase)
  | stillWaiting (name : String) (phase : Phase)
  | pollFailed (name : String) (error : Error)
  | nothingToStop
  | deleting (ns name : String)
  | alreadyGone (ns name : String)
  | abandoned (ns name : String) (error : Error)
  | retrying (operation : String) (attempt attempts : Nat) (delay : Duration) (error : Error)
  | gaveUp (operation : String) (attempt attempts : Nat) (error : Error)
deriving DecidableEq, Repr

namespace Event

/-- A query that failed is a warning unless the error may pass by itself. -/
def level : Event → Level
  | entered _ | left _ => .trace
  | ownerResolved _ | built _ _ | nothingToStop | gaveUp _ _ _ _ => .debug
  | created _ _ | runningAt _ _ | stillWaiting _ _ | deleting _ _ | alreadyGone _ _ => .info
  | pollFailed _ error => if error.isTransient then .info else .warn
  | exitedEarly _ _ | abandoned _ _ _ | retrying _ _ _ _ _ => .warn

def cleanupCommand (ns name : String) : String :=
  s!"kubectl delete pod --namespace {ns} {name}"

def message : Event → String
  | entered function => s!"{function.name} Enter"
  | left function => s!"{function.name} Leave"
  | ownerResolved owner => s!"Resolved owner of model server: {owner.describe}"
  | built runner context => s!"Build {runner} with context: {context}"
  | created server owner =>
    s!"Created model server instance <{server.ns}/{server.name}> owned by {owner.describe}"
  | runningAt name endpoint => s!"Model server <{name}> is running at <{endpoint}>"
  | exitedEarly name phase => s!"Model server <{name}> exited before running (phase={phase.name})"
  | stillWaiting name phase =>
    s!"Waiting for model server <{name}> to be running (phase={phase.name})"
  | pollFailed name error =>
    s!"Continue polling model server <{name}> after error: {error.message}"
  | nothingToStop => "No model server was created, nothing to stop."
  | deleting ns name => s!"Deleting model server <{ns}/{name}>"
  | alreadyGone ns name => s!"Model server <{ns}/{name}> does not exist."
  | abandoned ns name error =>
    s!"Unable to delete the model server <{ns}/{name}>: {error.message}\n" ++
      "Please run the following command to manually clean up the resource:\n\n" ++
      cleanupCommand ns name ++ "\n"
  | retrying operation attempt attempts delay error =>
    s!"{operation} failed on attempt {attempt}/{attempts}, retrying in {delay.describe}: {error.message}"
  | gaveUp operation attempt attempts error =>
    s!"{operation} failed after {attempt}/{attempts} attempts: {error.message}"

end Event

end PodRunner
