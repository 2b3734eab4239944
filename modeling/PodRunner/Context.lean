import PodRunner.Backoff
import PodRunner.Serving

/-!
# Contexts

Everything that a runner is told by its configuration: how to poll, how to clean up, what Pods have in
common, and which binary serves the model.
-/

namespace PodRunner

/-- How often an instance is asked for, and how long to wait for each answer. An interval of zero, which no valid
draft has but which could be set on a runner by hand, is left out: nothing is claimed about waits that do not pause. -/
structure Polling where
  interval : Duration
  timeout : Duration
  interval_pos : 0 < interval.nanos
deriving DecidableEq

namespace Polling

def default : Polling := ⟨.ofSecs 5, .ofSecs 3, by decide⟩

end Polling

structure Context where
  polling : Polling
  cleanup : Backoff
  kubernetes : KubernetesConfig
  serving : Option ServingConfig
deriving DecidableEq

namespace Context

def describe (context : Context) : String :=
  s!"poll interval: {context.polling.interval.describe}, cleanup attempts: {context.cleanup.attempts}"

end Context

end PodRunner
