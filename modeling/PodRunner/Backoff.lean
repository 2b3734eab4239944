import PodRunner.Binary64
import PodRunner.Outcome

/-!
# Exponential backoff

How often to try something and how long to pause in between. The pauses start at the initial delay and grow
by the multiplier, capped at the greatest delay. Each pause is computed from the one before it, in floating
point seconds, at the moment that one is handed out, so a pause that cannot be computed stops the one
before it.
-/

namespace PodRunner

structure Backoff where
  attempts : UInt32
  initialDelay : Duration
  maxDelay : Duration
  multiplier : Binary64
deriving DecidableEq, Repr

namespace Backoff

def default : Backoff := ⟨5, .ofSecs 1, .ofSecs 10, Binary64.two⟩

/-- The pauses to come. The first one may lie above the cap, which is applied when it is handed out. -/
structure Pace where
  delay : Duration
  maxDelay : Duration
  multiplier : Binary64
deriving DecidableEq, Repr

namespace Pace

/-- The pause after the present one. -/
def grow? (pace : Pace) : Option Duration :=
  Duration.ofBinary64?
    (Binary64.least (pace.delay.toBinary64 * pace.multiplier) pace.maxDelay.toBinary64)

def next (pace : Pace) : Except Fault (Duration × Pace) :=
  pace.grow?.elim (.error .durationOutOfRange) fun delay =>
    .ok (min pace.delay pace.maxDelay, { pace with delay })

/-- A pause and what comes of the pauses after it, or the fault in its place. -/
def handOut (drawn : Except Fault (Duration × Pace)) (later : Pace → List Duration × Option Fault) :
    List Duration × Option Fault :=
  match drawn with
  | .error fault => ([], some fault)
  | .ok (delay, rest) =>
    let (delays, fault) := later rest
    (delay :: delays, fault)

/-- The first `count` pauses, up to the one that cannot be handed out. -/
def delays : (count : Nat) → Pace → List Duration × Option Fault
  | 0, _ => ([], none)
  | count + 1, pace => handOut pace.next (delays count)

end Pace

def pace (b : Backoff) : Pace := ⟨b.initialDelay, b.maxDelay, b.multiplier⟩

/-- The number of pauses: one fewer than there are attempts. -/
def pauses (b : Backoff) : Nat := b.attempts.toNat - 1

/-- All pauses, up to the one that cannot be handed out. -/
def delays (b : Backoff) : List Duration × Option Fault := b.pace.delays b.pauses

inductive Draw where
  | delay (d : Duration)
  | exhausted
  | broken (fault : Fault)
deriving DecidableEq, Repr

def draws (b : Backoff) (count : Nat) : List Draw :=
  let (handed, fault) := b.pace.delays (min b.pauses count)
  handed.map Draw.delay ++
    match fault with
    | some fault => [.broken fault]
    | none => if handed.length < count then [.exhausted] else []

def exponentBound : Nat := 2147483647

/-- The last pause as a power of the multiplier, without the cap; the longest duration where it is out of
range. -/
def lastDelay (b : Backoff) : Duration :=
  let exponent := min (b.attempts.toNat - 2) exponentBound
  (Duration.ofBinary64? (b.initialDelay.toBinary64 * b.multiplier.power exponent)).getD .longest

end Backoff

end PodRunner
