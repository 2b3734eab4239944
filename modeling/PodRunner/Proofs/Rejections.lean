import PodRunner.Proofs.LaterDeadline
import PodRunner.Proofs.Lifecycle

/-!
# Operations that are rejected

An operation that its runner cannot carry out says so and leaves two marks in the log. It calls nobody and does not
look at the clock.
-/

namespace PodRunner

namespace Session

def marked (s : Session Orchestrator) (function : Traced) : Session Orchestrator :=
  (s.log (.entered function)).log (.left function)

end Session

namespace Runner

variable {r : Runner}

theorem start_of_started (h : ¬ r.IsStartable) (s : Session Orchestrator) :
    r.start s = ((.failed alreadyStarted, r), s.marked .start) := by
  have hguard : r.state ≠ .unstarted ∨ r.instanceName.isSome = true :=
    Classical.not_not.1 (mt isStartable_iff.2 h)
  rw [start, Session.traced, submit, if_pos hguard]
  rfl

theorem start_of_unbuildable {e : Error} (hstartable : r.IsStartable)
    (hbuild : Manifest.build r.workload r.owner = .error e) (s : Session Orchestrator) :
    r.start s = ((.failed e, r), s.marked .start) := by
  rw [start, Session.traced, submit, if_neg (isStartable_iff.1 hstartable), hbuild]
  rfl

theorem waitUntilRunning_of_settled (h : ∀ name, ¬ r.Awaits name) :
    ∃ outcome, ∀ deadline s,
      r.waitUntilRunning deadline s = ((outcome, r), s.marked .waitUntilRunning) := by
  obtain ⟨outcome, hawait, _⟩ := await_settled h
  refine ⟨outcome, fun deadline s => ?_⟩
  rw [waitUntilRunning, Session.traced, hawait]
  rfl

theorem stop_of_nameless (h : r.instanceName = none) (s : Session Orchestrator) :
    r.stop s = ((.done .nothingToStop, r.halted),
      ((s.log (.entered .stop)).log .nothingToStop).log (.left .stop)) := by
  rw [stop, Session.traced, dispose, h]

end Runner

end PodRunner
