import PodRunner.Error

/-!
# Outcomes

How an operation ends: with a value, with an error that it reports to its caller, or with a fault, which
stops the operation where it stands: a computed duration or time that has left its range, or a cut through
a character.
-/

namespace PodRunner

inductive Fault where
  | durationOutOfRange
  | timeOutOfRange
  | cutInsideCharacter
deriving DecidableEq, Repr

inductive Outcome (α : Type) where
  | done (value : α)
  | failed (error : Error)
  | broken (fault : Fault)
deriving DecidableEq, Repr

namespace Outcome

variable {α β : Type}

def ofExcept : Except Error α → Outcome α
  | .ok value => done value
  | .error e => failed e

def map (f : α → β) : Outcome α → Outcome β
  | done value => done (f value)
  | failed e => failed e
  | broken fault => broken fault

def isBroken : Outcome α → Bool
  | broken _ => true
  | _ => false

section OfExcept

variable {result : Except Error α}

theorem ofExcept_eq_done_iff {value : α} : ofExcept result = .done value ↔ result = .ok value := by
  cases result <;> simp [ofExcept]

theorem ofExcept_eq_failed_iff {e : Error} : ofExcept result = .failed e ↔ result = .error e := by
  cases result <;> simp [ofExcept]

end OfExcept

end Outcome

end PodRunner
