import PodRunner.Backoff
import PodRunner.Session

/-!
# Trying again

Repeats an operation that fails, pausing before each further attempt as a backoff says, and gives up with
the last error.
-/

namespace PodRunner.Retry

variable {σ α π : Type}

def pause (next : π → Except Fault (Duration × π)) (name : String) (attempts attempt : Nat)
    (error : Error) (pace : π) (s : Session σ) : Except Fault π × Session σ :=
  match next pace with
  | .error fault => (.error fault, s)
  | .ok (delay, later) =>
    match (s.log (.retrying name attempt attempts delay error)).sleep delay with
    | (.error fault, s) => (.error fault, s)
    | (.ok (), s) => (.ok later, s)

/-- Attempt number `attempt` and, if it fails, up to `pauses` more. -/
def attemptFrom (next : π → Except Fault (Duration × π)) (name : String) (attempts : Nat)
    (operation : Session σ → Outcome α × Session σ) :
    (pauses : Nat) → (attempt : Nat) → π → Session σ → Outcome α × Session σ
  | 0, attempt, _, s =>
    match operation s with
    | (.failed error, s) => (.failed error, s.log (.gaveUp name attempt attempts error))
    | ended => ended
  | pauses + 1, attempt, pace, s =>
    match operation s with
    | (.failed error, s) =>
      match pause next name attempts attempt error pace s with
      | (.error fault, s) => (.broken fault, s)
      | (.ok later, s) => attemptFrom next name attempts operation pauses (attempt + 1) later s
    | ended => ended

/-- Runs the operation up to as many times as the backoff has attempts, and at least once. -/
def run (backoff : Backoff) (name : String) (operation : Session σ → Outcome α × Session σ)
    (s : Session σ) : Outcome α × Session σ :=
  attemptFrom Backoff.Pace.next name backoff.attempts.toNat operation backoff.pauses 1 backoff.pace s

end PodRunner.Retry
