import PodRunner.Phase

/-!
# Instances

What the orchestrator says about an instance: what it is called when it is created, and how it is doing
when it is asked for later.
-/

namespace PodRunner

structure Instance where
  name : String
  ns : String
  uid : Option String
deriving DecidableEq, Repr

structure InstanceStatus where
  phase : Phase
  address : Option String
deriving DecidableEq, Repr

end PodRunner
