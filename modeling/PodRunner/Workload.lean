import PodRunner.Environment

/-!
# Workloads

Everything about a serving process that its Pod is built from, except its owner.
-/

namespace PodRunner

structure ResourceLimits where
  cpu : Option String
  memory : Option String
deriving DecidableEq, Repr

namespace ResourceLimits

def none : ResourceLimits := ⟨.none, .none⟩

def isEmpty (limits : ResourceLimits) : Bool := limits.cpu.isNone && limits.memory.isNone

/-- The limits that are set, with the names of their resources in ascending order. -/
def entries (limits : ResourceLimits) : List (String × String) :=
  (limits.cpu.map fun quantity => ("cpu", quantity)).toList ++
    (limits.memory.map fun quantity => ("memory", quantity)).toList

end ResourceLimits

structure Workload where
  image : String
  environment : Environment
  containerPort : UInt16
  serviceAccountName : Option String
  activeDeadlineSeconds : Option Int
  resources : ResourceLimits
deriving DecidableEq

end PodRunner
