import PodRunner.Clock
import PodRunner.Event

/-!
# Sessions

An operation reads and moves a clock, writes to a log and talks to someone remote. A session holds the three
and is handed from step to step. A reply from the remote side may come late and may let time pass.
-/

namespace PodRunner

structure Session (σ : Type) where
  clock : Clock
  events : List Event
  remote : σ

/-- A reply with the time that it takes to arrive, which only a limit on waiting for it can notice, and the
time by which the clock is moved when it is taken. -/
structure Reply (α : Type) where
  delay : Duration
  advance : Duration
  result : Except Error α

namespace Reply

variable {α β : Type}

def prompt (result : Except Error α) : Reply α := ⟨.zero, .zero, result⟩

def bind (reply : Reply α) (f : α → Except Error β) : Reply β :=
  { reply with result := reply.result.bind f }

end Reply

namespace Session

variable {σ α : Type}

def starting (now : Time) (remote : σ) : Session σ := ⟨.startingAt now, [], remote⟩

def log (s : Session σ) (event : Event) : Session σ :=
  { s with events := s.events ++ [event] }

def sleep (s : Session σ) (d : Duration) : Except Fault Unit × Session σ :=
  let (result, clock) := s.clock.sleep d
  (result, { s with clock })

def advance (s : Session σ) (d : Duration) : Except Fault Unit × Session σ :=
  let (result, clock) := s.clock.advance d
  (result, { s with clock })

/-- Takes a reply: the clock moves first. -/
def receive (s : Session σ) (reply : Reply α) : Outcome α × Session σ :=
  match s.advance reply.advance with
  | (.ok (), s) => (Outcome.ofExcept reply.result, s)
  | (.error fault, s) => (.broken fault, s)

/-- Runs a function between the two log events that mark its beginning and its end. The end is marked
however the function ends. -/
def traced (function : Traced) (body : Session σ → α × Session σ) (s : Session σ) : α × Session σ :=
  let (result, s) := body (s.log (.entered function))
  (result, s.log (.left function))

@[simp] theorem log_clock (s : Session σ) (event : Event) : (s.log event).clock = s.clock := rfl

@[simp] theorem log_remote (s : Session σ) (event : Event) : (s.log event).remote = s.remote := rfl

@[simp] theorem log_events (s : Session σ) (event : Event) :
    (s.log event).events = s.events ++ [event] := rfl

theorem now_le_advance (s : Session σ) (d : Duration) :
    s.clock.now.nanos ≤ (s.advance d).2.clock.now.nanos := by
  simp only [advance, Clock.advance]
  split
  · rename_i later hlater
    have := Time.later?_eq_some_iff.1 hlater
    simp only
    omega
  · exact Int.le_refl _

theorem now_le_receive (s : Session σ) (reply : Reply α) :
    s.clock.now.nanos ≤ (s.receive reply).2.clock.now.nanos := by
  have h := s.now_le_advance reply.advance
  unfold receive
  split <;> rename_i heq <;> rw [heq] at h <;> exact h

theorem sleep_ok {s next : Session σ} {d : Duration} (h : s.sleep d = (.ok (), next)) :
    next.clock.now.nanos = s.clock.now.nanos + Clock.move d := by
  cases hs : s.clock.sleep d with
  | mk result clock =>
    simp only [sleep, hs] at h
    cases h
    exact (Clock.sleep_ok hs).1

end Session

end PodRunner
