import PodRunner.Error

/-!
# Owners

The process that owns the instances it creates; the orchestrator removes them once the owner is gone. A
process finds out which Pod it runs in from two variables of its environment.
-/

namespace PodRunner

structure Owner where
  apiVersion : String
  kind : String
  name : String
  uid : String
  ns : String
  serviceAccountName : Option String
deriving DecidableEq, Repr

namespace Owner

def describe (owner : Owner) : String :=
  s!"{owner.apiVersion}/{owner.kind} <{owner.ns}/{owner.name}>"

def podNameVariable : String := "KFP_POD_NAME"

def namespaceVariable : String := "KFP_NAMESPACE"

def unset (name : String) : Error :=
  .ownerUnavailable s!"environment variable <{name}> is not set"

/-- The value of a variable; an empty one counts as unset. -/
def read (lookup : String → Option String) (name : String) : Except Error String :=
  match (lookup name).filter fun value => !value.isEmpty with
  | some value => .ok value
  | none => .error (unset name)

/-- Name and namespace of the Pod of the running process, and the variables that were looked up, in order.
The namespace is not looked up when there is no name. -/
def identity (lookup : String → Option String) : Except Error (String × String) × List String :=
  match read lookup podNameVariable with
  | .error e => (.error e, [podNameVariable])
  | .ok name =>
    ((read lookup namespaceVariable).map fun ns => (name, ns),
      [podNameVariable, namespaceVariable])

end Owner

end PodRunner
