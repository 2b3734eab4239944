/-!
# Phases

The phase of an instance as the orchestrator reports it. A phase is written as one word; every other
text, and no text at all, counts as the unknown phase.
-/

namespace PodRunner

inductive Phase where
  | pending
  | running
  | succeeded
  | failed
  | unknown
deriving DecidableEq, Repr

namespace Phase

def name : Phase → String
  | pending => "Pending"
  | running => "Running"
  | succeeded => "Succeeded"
  | failed => "Failed"
  | unknown => "Unknown"

def all : List Phase := [pending, running, succeeded, failed, unknown]

def parse? (text : String) : Option Phase :=
  all.find? fun phase => phase.name == text

def ofText (text : Option String) : Phase :=
  (text.bind parse?).getD unknown

/-- The process of the instance has exited and will never run again. -/
def isTerminal : Phase → Bool
  | succeeded | failed => true
  | pending | running | unknown => false

theorem parse?_name (phase : Phase) : parse? phase.name = some phase := by
  cases phase <;> decide

theorem parse?_eq_some_iff {text : String} {phase : Phase} :
    parse? text = some phase ↔ text = phase.name := by
  constructor
  · intro h
    have hname := List.find?_some h
    exact (beq_iff_eq.1 hname).symm
  · rintro rfl
    exact parse?_name phase

theorem isTerminal_iff {phase : Phase} :
    phase.isTerminal = true ↔ phase = succeeded ∨ phase = failed := by
  cases phase <;> decide

end Phase

end PodRunner
