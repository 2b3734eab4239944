import PodRunner.Orchestrator
import PodRunner.Runner

/-!
# Waiting for an instance

Polls and sleeps take turns until an answer settles the matter or the deadline has come. No sleep goes beyond
the deadline, and since every sleep before it is longer than nothing, the deadline comes.
-/

namespace PodRunner.Runner

inductive Observation where
  | runningAt (address : String)
  | exited (phase : Phase)
  | waiting (phase : Phase)
  | unclear (error : Error)
deriving DecidableEq, Repr

namespace Observation

/-- An instance that runs but has no address yet is still waited for. -/
def ofStatus (status : InstanceStatus) : Observation :=
  match status.phase, status.address with
  | .running, some address => runningAt address
  | phase, _ => if phase.isTerminal then exited phase else waiting phase

end Observation

def queryTimedOut (name : String) (timeout : Duration) : Error :=
  .network s!"query of model server <{name}> timed out after {timeout.describe}"

/-- Asks for the instance once. An answer that would come too late is not taken, and its advance is dropped. A
client that moves the clock before it hangs has to be told as one that is in time, with this advance and the same
network error. -/
def observe (r : Runner) (name : String) (s : Session Orchestrator) :
    (Except Fault Observation) × Session Orchestrator :=
  let (reply, s) := s.queryInstance name r.ns
  if r.polling.timeout < reply.delay then
    (.ok (.unclear (queryTimedOut name r.polling.timeout)), s)
  else
    match s.receive reply with
    | (.broken fault, s) => (.error fault, s)
    | (.failed e, s) => (.ok (.unclear e), s)
    | (.done status, s) => (.ok (.ofStatus status), s)

def endpointAt (r : Runner) (address : String) : String :=
  s!"{address}:{r.workload.containerPort}"

def report (r : Runner) (name : String) : Observation → Event
  | .runningAt address => .runningAt name (r.endpointAt address)
  | .exited phase => .exitedEarly name phase
  | .waiting phase => .stillWaiting name phase
  | .unclear e => .pollFailed name e

def conclude (r : Runner) : Observation → Option (Outcome Unit × Runner)
  | .runningAt address =>
    some (.done (), { r with endpoint := some (r.endpointAt address), state := .running })
  | .exited phase => some (.failed (.jobAborted phase), { r with state := .aborted })
  | .waiting _ | .unclear _ => none

def poll (r : Runner) (name : String) (s : Session Orchestrator) :
    Option (Outcome Unit × Runner) × Session Orchestrator :=
  match r.observe name s with
  | (.error fault, s) => (some (.broken fault, r), s)
  | (.ok observation, s) => (r.conclude observation, s.log (r.report name observation))

theorem now_le_observe (r : Runner) (name : String) (s : Session Orchestrator) :
    s.clock.now.nanos ≤ (r.observe name s).2.clock.now.nanos := by
  unfold observe
  simp only
  split
  · exact Int.le_refl _
  · have h := (s.queryInstance name r.ns).2.now_le_receive (s.queryInstance name r.ns).1
    split <;> rename_i heq <;> rw [heq] at h <;> exact h

theorem now_le_poll (r : Runner) (name : String) (s : Session Orchestrator) :
    s.clock.now.nanos ≤ (r.poll name s).2.clock.now.nanos := by
  have h := r.now_le_observe name s
  unfold poll
  split <;> rename_i heq <;> rw [heq] at h <;> exact h

/-- How long to sleep before the next round: the interval, but not beyond the deadline. -/
def pause (r : Runner) (now deadline : Time) : Duration :=
  min r.polling.interval (Time.remaining now deadline)

theorem move_pause (r : Runner) (now deadline : Time) :
    Clock.move (r.pause now deadline) = (r.pause now deadline).nanos := by
  have hnow := now.earliest_le
  have hdeadline := deadline.le_latest
  have hle : (r.pause now deadline).nanos ≤ (deadline.nanos - now.nanos).toNat :=
    Nat.min_le_right _ _
  have hfits : (r.pause now deadline).nanos ≤ Clock.longestMove := by
    simp only [Time.earliestNanos, Time.latestNanos, Clock.longestMove] at *
    omega
  simp [Clock.move, hfits]

theorem pause_pos (r : Runner) {now deadline : Time} (h : now < deadline) :
    0 < (r.pause now deadline).nanos := by
  have hlt := Time.lt_def.1 h
  have hpos := r.polling.interval_pos
  simp only [pause, Duration.nanos_min, Time.remaining]
  omega

def notRunningBefore (name : String) (deadline : Time) : Error :=
  .deadlineExceeded s!"model server <{name}> was not running before {deadline.describe}"

/-- A round that does not end the wait brings the deadline nearer. -/
theorem remaining_lt {r : Runner} {name : String} {deadline : Time} {s polled slept : Session Orchestrator}
    (hbefore : s.clock.now < deadline) (hpoll : r.poll name s = (none, polled))
    (hsleep : polled.sleep (r.pause polled.clock.now deadline) = (.ok (), slept)) :
    (Time.remaining slept.clock.now deadline).nanos < (Time.remaining s.clock.now deadline).nanos := by
  have hmono := r.now_le_poll name s
  rw [hpoll] at hmono
  have hslept := Session.sleep_ok hsleep
  rw [move_pause] at hslept
  have hlt := Time.lt_def.1 hbefore
  simp only [Time.remaining] at *
  by_cases hstill : polled.clock.now < deadline
  · have hpos := r.pause_pos hstill
    omega
  · have hpast := mt Time.lt_def.2 hstill
    omega

/-- Polls and sleeps in turn until a poll ends the wait or the deadline has come. -/
def pollUntil (r : Runner) (name : String) (deadline : Time) (s : Session Orchestrator) :
    (Outcome Unit × Runner) × Session Orchestrator :=
  if hbefore : s.clock.now < deadline then
    match hpoll : r.poll name s with
    | (some ended, s) => (ended, s)
    | (none, polled) =>
      match hsleep : polled.sleep (r.pause polled.clock.now deadline) with
      | (.error fault, s) => ((.broken fault, r), s)
      | (.ok (), slept) =>
        have := remaining_lt hbefore hpoll hsleep
        pollUntil r name deadline slept
  else ((.failed (notRunningBefore name deadline), { r with state := .timedOut }), s)
termination_by (Time.remaining s.clock.now deadline).nanos

def notCreated : Error :=
  .invalidState "model server has not been created yet; call start() first"

def cannotWait (name : String) (state : RunnerState) : Error :=
  .invalidState s!"can not wait for model server <{name}> in state {state.name}"

/-- Waits for the instance where the state of the runner allows it. A runner whose instance runs is done at
once. -/
def await (r : Runner) (deadline : Time) (s : Session Orchestrator) :
    (Outcome Unit × Runner) × Session Orchestrator :=
  match r.instanceName, r.state with
  | none, _ => ((.failed notCreated, r), s)
  | some _, .running => ((.done (), r), s)
  | some name, .pending | some name, .timedOut => r.pollUntil name deadline s
  | some name, state => ((.failed (cannotWait name state), r), s)

def waitUntilRunning (r : Runner) (deadline : Time) (s : Session Orchestrator) :
    (Outcome Unit × Runner) × Session Orchestrator :=
  s.traced .waitUntilRunning (r.await deadline)

end PodRunner.Runner
