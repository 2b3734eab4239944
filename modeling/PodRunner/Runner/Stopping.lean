import PodRunner.Orchestrator
import PodRunner.Retry
import PodRunner.Runner

/-!
# Stopping a runner

A stop always leaves the runner stopped. The instance, if there is one, is deleted with as many attempts as
the cleanup allows; when all of them fail, the log says how to delete it by hand.
-/

namespace PodRunner.Runner

/-- Deletes the instance once; that it does not exist any more is as good. -/
def deleteOnce (ns name : String) (s : Session Orchestrator) : Outcome StopOutcome × Session Orchestrator :=
  match (s.log (.deleting ns name)).deleteInstance name ns with
  | (.done (), s) => (.done .deleted, s)
  | (.failed (.notFound _), s) => (.done .alreadyGone, s.log (.alreadyGone ns name))
  | (.failed e, s) => (.failed e, s)
  | (.broken fault, s) => (.broken fault, s)

def deletion : String := "delete model server"

def cleanUp (r : Runner) (name : String) (s : Session Orchestrator) :
    Outcome StopOutcome × Session Orchestrator :=
  match Retry.run r.cleanup deletion (deleteOnce r.ns name) s with
  | (.failed e, s) => (.done .abandoned, s.log (.abandoned r.ns name e))
  | ended => ended

/-- The runner after a stop, however the stop ends. -/
def halted (r : Runner) : Runner := { r with endpoint := none, state := .stopped }

def dispose (r : Runner) (s : Session Orchestrator) : Outcome StopOutcome × Session Orchestrator :=
  match r.instanceName with
  | none => (.done .nothingToStop, s.log .nothingToStop)
  | some name => r.cleanUp name s

def stop (r : Runner) (s : Session Orchestrator) :
    (Outcome StopOutcome × Runner) × Session Orchestrator :=
  s.traced .stop fun s =>
    let (outcome, s) := r.dispose s
    ((outcome, r.halted), s)

end PodRunner.Runner
