import PodRunner.Runner.Starting
import PodRunner.Runner.Stopping
import PodRunner.Runner.Waiting

/-!
# Runs

Operations on a runner, one after the other, with time passing between them.
-/

namespace PodRunner.Runner

inductive Operation where
  | start
  | wait (deadline : Time)
  | stop
  | pass (time : Duration)
deriving DecidableEq

inductive Answer where
  | finished
  | stopped (outcome : StopOutcome)
deriving DecidableEq, Repr

def perform (r : Runner) (s : Session Orchestrator) :
    Operation → (Outcome Answer × Runner) × Session Orchestrator
  | .start =>
    let ((outcome, r), s) := r.start s
    ((outcome.map fun _ => .finished, r), s)
  | .wait deadline =>
    let ((outcome, r), s) := r.waitUntilRunning deadline s
    ((outcome.map fun _ => .finished, r), s)
  | .stop =>
    let ((outcome, r), s) := r.stop s
    ((outcome.map .stopped, r), s)
  | .pass time =>
    match s.advance time with
    | (.ok (), s) => ((.done .finished, r), s)
    | (.error fault, s) => ((.broken fault, r), s)

/-- The runner and the session after a list of operations. The first operation that breaks is the last one to
be performed. -/
def run (r : Runner) (s : Session Orchestrator) : List Operation → Runner × Session Orchestrator
  | [] => (r, s)
  | operation :: rest =>
    match r.perform s operation with
    | ((.broken _, r), s) => (r, s)
    | ((_, r), s) => r.run s rest

end PodRunner.Runner
