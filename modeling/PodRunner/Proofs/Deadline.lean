import PodRunner.Proofs.WaitResult

/-!
# Waiting by the clock

Where taking a reply takes time, the rounds of a wait no longer begin one interval after the other, but they
still begin before the deadline, and none begins sooner than one interval after the one before it. So there are
no more of them than there would be if replies took no time. `Timeline` is a wait as the clock sees it; what is
said about waits here is said about timelines.
-/

namespace PodRunner

/-- How far one point in time lies after another, unless a time difference cannot be that long. -/
def Time.since? (later earlier : Time) : Option Int :=
  if (later.nanos - earlier.nanos).natAbs ≤ Clock.longestMove then some (later.nanos - earlier.nanos) else none

/-- The calendar is short enough for the difference of any two points in it. -/
theorem Time.since?_eq (later earlier : Time) :
    later.since? earlier = some (later.nanos - earlier.nanos) := by
  have hlater := later.earliest_le
  have hlater' := later.le_latest
  have hearlier := earlier.earliest_le
  have hearlier' := earlier.le_latest
  refine if_pos ?_
  simp only [earliestNanos, latestNanos, Clock.longestMove] at *
  omega

def Call.asked? : Call → Option Time
  | get _ _ asked _ => some asked
  | create _ _ _ | delete _ _ _ => none

namespace Runner

variable {r : Runner} {name : String} {deadline : Time}

/-- A sleep between two polls. The clock shows `now` when it is asked for and `later` when it is over. -/
structure Nap (r : Runner) (deadline now later : Time) (d : Duration) : Prop where
  left_eq : deadline.since? now = some (deadline.nanos - now.nanos)
  nanos_eq : (d.nanos : Int) = min (r.polling.interval.nanos : Int) (max 0 (deadline.nanos - now.nanos))
  sleep_eq : ∀ sleeps, Clock.sleep ⟨now, sleeps⟩ d = (.ok (), ⟨later, sleeps ++ [d]⟩)
  later_eq : later.nanos = now.nanos + d.nanos
  later_le : later.nanos ≤ max now.nanos deadline.nanos

theorem nap (r : Runner) (deadline now : Time) :
    Nap r deadline now (now.after (r.pause now deadline).nanos) (r.pause now deadline) where
  left_eq := deadline.since?_eq now
  nanos_eq := by
    show ((min r.polling.interval.nanos (deadline.nanos - now.nanos).toNat : Nat) : Int) = _
    omega
  sleep_eq sleeps := by
    have hlater := Time.later?_eq_some_iff.2 (r.nanos_after_pause now deadline)
    simp only [Clock.sleep, Clock.advance, Clock.record, move_pause, hlater]
  later_eq := r.nanos_after_pause now deadline
  later_le := by
    rw [nanos_after_pause]
    exact r.pause_le now deadline

/-! ### Timelines -/

/-- The queries and the sleeps of a wait and its outcome, between the readings of the clock at its beginning and
at its end. -/
inductive Timeline (r : Runner) (name : String) (deadline : Time) :
    Time → List Call → List Duration → Outcome Unit → Time → Prop
  | expired {now : Time} (hpast : ¬ now < deadline) :
      Timeline r name deadline now [] [] (.failed (notRunningBefore name deadline)) now
  | ended {now later : Time} {reply : Reply InstanceStatus} {outcome : Outcome Unit} {after : Runner}
      (hbefore : now < deadline) (hlater : now.later? (Clock.move (r.passing reply)) = some later)
      (hended : r.conclude (r.reading name reply) = some (outcome, after)) :
      Timeline r name deadline now [.get name r.ns now reply] [] outcome later
  | broke {now : Time} {reply : Reply InstanceStatus} (hbefore : now < deadline)
      (hoverruns : r.Overruns now reply) :
      Timeline r name deadline now [.get name r.ns now reply] [] (.broken .timeOutOfRange) now
  | next {now taken finish : Time} {reply : Reply InstanceStatus} {gets : List Call} {slept : List Duration}
      {outcome : Outcome Unit} (hbefore : now < deadline)
      (hlater : now.later? (Clock.move (r.passing reply)) = some taken)
      (hrest : Timeline r name deadline (taken.after (r.pause taken deadline).nanos) gets slept outcome finish) :
      Timeline r name deadline now (.get name r.ns now reply :: gets) (r.pause taken deadline :: slept)
        outcome finish

theorem Trail.timeline {after : Runner} {now finish : Time} {o : Orchestrator} {gets : List Call}
    {slept : List Duration} {events : List Event} {outcome : Outcome Unit}
    (h : Trail r name deadline o now gets slept events outcome after finish) :
    Timeline r name deadline now gets slept outcome finish := by
  induction h with
  | expired hpast => exact .expired hpast
  | ended hbefore hlater hended => exact .ended hbefore hlater hended
  | broke hbefore hoverruns => exact .broke hbefore hoverruns
  | next hbefore hlater _ _ ih => exact .next hbefore hlater ih

theorem pollUntil_timeline (r : Runner) (name : String) (deadline : Time) (s : Session Orchestrator) :
    let waited := r.pollUntil name deadline s
    ∃ gets slept, waited.2.remote.calls = s.remote.calls ++ gets ∧
      waited.2.clock.sleeps = s.clock.sleeps ++ slept ∧
      Timeline r name deadline s.clock.now gets slept waited.1.1 waited.2.clock.now := by
  obtain ⟨gets, slept, _, hcalls, hsleeps, _, htrail⟩ := r.pollUntil_trail name deadline s
  exact ⟨gets, slept, hcalls, hsleeps, htrail.timeline⟩

section Timeline

variable {start finish : Time} {gets : List Call} {slept : List Duration} {outcome : Outcome Unit}

def readings (gets : List Call) (finish : Time) : List Time := gets.filterMap Call.asked? ++ [finish]

theorem Timeline.head_reading (h : Timeline r name deadline start gets slept outcome finish) :
    (readings gets finish)[0]? = some start := by
  cases h <;> rfl

/-- Rounds begin before the deadline, and at least one interval after each other. -/
theorem Timeline.get (h : Timeline r name deadline start gets slept outcome finish) (k : Nat) {call : Call}
    (hcall : gets[k]? = some call) :
    ∃ asked reply, call = .get name r.ns asked reply ∧ asked < deadline ∧
      start.nanos + (k * r.polling.interval.nanos : Nat) ≤ asked.nanos := by
  induction h generalizing k call with
  | expired hpast => cases hcall
  | ended hbefore _ _ =>
    cases k with
    | zero =>
      cases hcall
      exact ⟨_, _, rfl, hbefore, by omega⟩
    | succ k => cases hcall
  | broke hbefore _ =>
    cases k with
    | zero =>
      cases hcall
      exact ⟨_, _, rfl, hbefore, by omega⟩
    | succ k => cases hcall
  | @next now taken _ reply gets _ _ hbefore hlater hrest ih =>
    cases k with
    | zero =>
      cases hcall
      exact ⟨_, _, rfl, hbefore, by omega⟩
    | succ k =>
      obtain ⟨asked, reply, rfl, hasked, hspaced⟩ := ih k hcall
      refine ⟨asked, reply, rfl, hasked, ?_⟩
      -- a round after the sleep begins before the deadline, so the sleep was a full interval
      have hdeadline := Time.lt_def.1 hasked
      have htaken := Time.later?_eq_some_iff.1 hlater
      have hnap := r.nap deadline taken
      have hslept := hnap.later_eq
      have hnanos := hnap.nanos_eq
      rw [Nat.succ_mul]
      omega

theorem Timeline.length_le (h : Timeline r name deadline start gets slept outcome finish) :
    gets.length ≤ r.roundsBefore start deadline := by
  cases hlength : gets.length with
  | zero => exact Nat.zero_le _
  | succ last =>
    have hlast : last < gets.length := by omega
    obtain ⟨asked, _, _, hbefore, hspaced⟩ := h.get last (List.getElem?_eq_getElem hlast)
    exact lt_roundsBefore.2 (Int.lt_of_le_of_lt hspaced (Time.lt_def.1 hbefore))

/-- Every sleep follows a query whose reply was taken, and ends when the next query is made or the wait ends. -/
theorem Timeline.nap (h : Timeline r name deadline start gets slept outcome finish) (k : Nat) {d : Duration}
    (hslept : slept[k]? = some d) :
    ∃ asked reply now later, gets[k]? = some (.get name r.ns asked reply) ∧
      asked.later? (Clock.move (r.passing reply)) = some now ∧ Nap r deadline now later d ∧
      (readings gets finish)[k + 1]? = some later := by
  induction h generalizing k d with
  | expired _ => cases hslept
  | ended _ _ _ => cases hslept
  | broke _ _ => cases hslept
  | @next now taken finish reply gets slept _ hbefore hlater hrest ih =>
    cases k with
    | zero =>
      cases hslept
      exact ⟨now, reply, taken, _, rfl, hlater, r.nap deadline taken, hrest.head_reading⟩
    | succ k => exact ih k hslept

theorem Timeline.past_deadline (h : Timeline r name deadline start gets slept outcome finish) {text : String}
    (hexceeded : outcome = .failed (.deadlineExceeded text)) : deadline ≤ finish := by
  induction h with
  | expired hpast => exact Int.not_lt.1 hpast
  | ended _ _ hended =>
    cases (decides_iff name).2 hended with
    | running _ _ => cases hexceeded
    | exited _ _ _ => cases hexceeded
  | broke _ _ => cases hexceeded
  | next _ _ _ ih => exact ih hexceeded

/-- Only a reply that leaves the calendar breaks a wait. -/
theorem Timeline.overruns (h : Timeline r name deadline start gets slept outcome finish)
    (hbroken : outcome.isBroken = true) :
    ∃ asked reply, .get name r.ns asked reply ∈ gets ∧ r.Overruns asked reply := by
  induction h with
  | expired _ => cases hbroken
  | ended _ _ hended =>
    cases (decides_iff name).2 hended with
    | running _ _ => cases hbroken
    | exited _ _ _ => cases hbroken
  | broke _ hoverruns => exact ⟨_, _, List.mem_singleton_self _, hoverruns⟩
  | next _ _ _ ih =>
    obtain ⟨asked, reply, hmem, hoverruns⟩ := ih hbroken
    exact ⟨asked, reply, List.mem_cons_of_mem _ hmem, hoverruns⟩

end Timeline

/-! ### The whole wait -/

theorem waitUntilRunning_unnamed (hname : r.instanceName = none) (deadline : Time) (s : Session Orchestrator) :
    r.waitUntilRunning deadline s = s.traced .waitUntilRunning fun t => ((.failed notCreated, r), t) := by
  have hawait : r.await deadline = fun t => ((.failed notCreated, r), t) := by
    funext t
    rw [await, hname]
  rw [waitUntilRunning, hawait]

/-- However long replies take, a wait that starts before its deadline makes at most one query for each interval
up to it, none at or after it, and no sleep of it goes beyond it. The differences and sums of times that it
computes all exist, and if the replies stay in the calendar it returns. Neither the clock nor the deadline shows a
leap second. -/
theorem waitUntilRunning_by_deadline {r : Runner} (hstate : r.state = .pending ∨ r.state = .timedOut)
    (deadline : Time) (s : Session Orchestrator) :
    let waited := r.waitUntilRunning deadline s
    ∃ gets slept,
      waited.2.remote.calls = s.remote.calls ++ gets ∧
        waited.2.clock.sleeps = s.clock.sleeps ++ slept ∧
        gets.length ≤ r.roundsBefore s.clock.now deadline ∧
        (readings gets waited.2.clock.now)[0]? = some s.clock.now ∧
        (∀ call ∈ gets, ∃ name asked reply,
          r.instanceName = some name ∧ call = .get name r.ns asked reply ∧ asked < deadline) ∧
        (∀ (k : Nat) d, slept[k]? = some d → ∃ name asked reply now later,
          gets[k]? = some (.get name r.ns asked reply) ∧
            asked.later? (Clock.move (r.passing reply)) = some now ∧ Nap r deadline now later d ∧
            (readings gets waited.2.clock.now)[k + 1]? = some later) ∧
        (∀ text, waited.1.1 = .failed (.deadlineExceeded text) → deadline ≤ waited.2.clock.now) ∧
        ((∀ name asked reply, .get name r.ns asked reply ∈ gets → ¬ r.Overruns asked reply) →
          waited.1.1.isBroken = false) := by
  intro waited
  cases hname : r.instanceName with
  | none =>
    have hwaited : waited = s.traced .waitUntilRunning fun t => ((.failed notCreated, r), t) :=
      waitUntilRunning_unnamed hname deadline s
    rw [hwaited]
    refine ⟨[], [], (List.append_nil _).symm, (List.append_nil _).symm, Nat.zero_le _, rfl, ?_, ?_, ?_, ?_⟩
    · intro call hcall
      cases hcall
    · intro k d hk
      cases hk
    · intro text hexceeded
      cases hexceeded
    · intro _
      rfl
  | some name =>
    obtain ⟨gets, slept, hcalls, hsleeps, htimeline⟩ :=
      r.pollUntil_timeline name deadline (s.log (.entered .waitUntilRunning))
    have hwaited : waited = s.traced .waitUntilRunning (r.pollUntil name deadline) :=
      waitUntilRunning_eq ⟨hname, hstate⟩ deadline s
    rw [hwaited]
    refine ⟨gets, slept, hcalls, hsleeps, htimeline.length_le, htimeline.head_reading, ?_, ?_, ?_, ?_⟩
    · intro call hcall
      obtain ⟨k, hk⟩ := List.getElem?_of_mem hcall
      obtain ⟨asked, reply, hget, hbefore, _⟩ := htimeline.get k hk
      exact ⟨name, asked, reply, rfl, hget, hbefore⟩
    · intro k d hk
      exact ⟨name, htimeline.nap k hk⟩
    · intro text hexceeded
      exact htimeline.past_deadline hexceeded
    · intro hfits
      refine Bool.eq_false_iff.2 fun hbroken => ?_
      obtain ⟨asked, reply, hmem, hoverruns⟩ := htimeline.overruns hbroken
      exact hfits name asked reply hmem hoverruns

/-- An instance that never runs, and is slower to say so every time. -/
def laggard : Session Orchestrator :=
  let script : Script :=
    ⟨fun _ => .prompt (.error (.internal "unused")),
      fun k => ⟨.zero, .ofSecs (4 + 2 * k), .ok ⟨.pending, none⟩⟩, fun _ => .prompt (.ok ())⟩
  .starting .epoch (.scripted script fun _ => .prompt (.error (.internal "unused")))

/-- The second reply comes after the deadline, so there is nothing left to sleep for. -/
theorem laggard_by_deadline :
    let waiting : Runner := { specimen with instanceName := some "modelserver-1", state := .pending }
    let twelve : Time := ⟨12000000000, by decide, by decide⟩
    let waited := waiting.waitUntilRunning twelve laggard
    waited.1.1 = .failed (notRunningBefore "modelserver-1" twelve) ∧ twelve ≤ waited.2.clock.now ∧
      waited.2.remote.calls.length ≤ waiting.roundsBefore laggard.clock.now twelve ∧
      waited.2.clock.now.nanos = 15000000000 ∧ waited.2.clock.sleeps = [.ofSecs 5, .zero] := by
  intro waiting twelve waited
  have hexceeded : waited.1.1 = .failed (notRunningBefore "modelserver-1" twelve) := by decide +kernel
  obtain ⟨gets, slept, hcalls, _, hlength, _, _, _, hlate, _⟩ :=
    waitUntilRunning_by_deadline (r := waiting) (Or.inl rfl) twelve laggard
  refine ⟨hexceeded, hlate _ hexceeded, ?_, by decide +kernel, by decide +kernel⟩
  rw [hcalls]
  exact hlength

end Runner

end PodRunner
