import PodRunner.Outcome
import PodRunner.Time

/-!
# Clocks

A clock shows a point in time and remembers how long its users have slept. Sleeping is two steps: the
sleep is written down, then the clock moves. Durations over the limit of a time difference are written
down like all others but move nothing, and a move beyond the calendar fails, which leaves the clock where
it was.
-/

namespace PodRunner

structure Clock where
  now : Time
  sleeps : List Duration
deriving DecidableEq

namespace Clock

/-- The longest time difference: the milliseconds that fit 63 bits. -/
def longestMove : Nat := 9223372036854775807 * 1000000

/-- By how many nanoseconds a duration moves a clock. -/
def move (d : Duration) : Nat :=
  if d.nanos ≤ longestMove then d.nanos else 0

def startingAt (now : Time) : Clock := ⟨now, []⟩

def record (c : Clock) (d : Duration) : Clock :=
  { c with sleeps := c.sleeps ++ [d] }

def advance (c : Clock) (d : Duration) : Except Fault Unit × Clock :=
  match c.now.later? (move d) with
  | some later => (.ok (), { c with now := later })
  | none => (.error .timeOutOfRange, c)

def sleep (c : Clock) (d : Duration) : Except Fault Unit × Clock :=
  (c.record d).advance d

inductive Use where
  | sleep (d : Duration)
  | advance (d : Duration)
deriving DecidableEq, Repr

def apply (c : Clock) : Use → Except Fault Unit × Clock
  | .sleep d => c.sleep d
  | .advance d => c.advance d

/-- The results of uses in order, each with the clock that it left, up to the first fault. -/
def history : Clock → List Use → List (Except Fault Unit × Clock)
  | _, [] => []
  | c, use :: uses =>
    match c.apply use with
    | (.ok (), next) => (.ok (), next) :: next.history uses
    | (.error fault, next) => [(.error fault, next)]

theorem advance_ok {c next : Clock} {d : Duration} (h : c.advance d = (.ok (), next)) :
    next.now.nanos = c.now.nanos + move d ∧ next.sleeps = c.sleeps := by
  unfold advance at h
  split at h
  · rename_i later hlater
    cases h
    exact ⟨Time.later?_eq_some_iff.1 hlater, rfl⟩
  · cases h

theorem sleep_ok {c next : Clock} {d : Duration} (h : c.sleep d = (.ok (), next)) :
    next.now.nanos = c.now.nanos + move d ∧ next.sleeps = c.sleeps ++ [d] := by
  obtain ⟨hnow, hsleeps⟩ := advance_ok h
  exact ⟨hnow, hsleeps⟩

end Clock

end PodRunner
