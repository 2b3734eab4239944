import PodRunner.Proofs.CallDiscipline
import PodRunner.Proofs.Deadline

/-!
# Waits with a later deadline

Two waits that differ in their deadlines make the same rounds for as long as the earlier deadline leaves room for
a whole interval. A pause that it cuts short leads up to it, so it is the last one of that wait. Hence a wait that
is not given up is the same with any later deadline, and one that is given up after whole intervals has only
stopped on the way: the next wait goes on where it stopped.

The next wait starts from a runner that has timed out, and with the marks of the first one in the log. Neither
makes a difference to it, unless it breaks. Then it leaves the runner as it found it, which is not how a single
wait would have found it.
-/

namespace PodRunner

/-! ### What a wait does not depend on -/

structure Session.Agree (s t : Session Orchestrator) : Prop where
  clock_eq : t.clock = s.clock
  remote_eq : t.remote = s.remote

namespace Session.Agree

variable {s t : Session Orchestrator}

theorem log (h : s.Agree t) (event other : Event) : (s.log event).Agree (t.log other) := ⟨h.1, h.2⟩

theorem queryInstance (h : s.Agree t) (name ns : String) :
    (t.queryInstance name ns).1 = (s.queryInstance name ns).1 ∧
      (s.queryInstance name ns).2.Agree (t.queryInstance name ns).2 := by
  obtain ⟨clock, events, remote⟩ := t
  obtain ⟨rfl, rfl⟩ := h
  exact ⟨rfl, rfl, rfl⟩

theorem advance (h : s.Agree t) (d : Duration) :
    (t.advance d).1 = (s.advance d).1 ∧ (s.advance d).2.Agree (t.advance d).2 := by
  obtain ⟨clock, events, remote⟩ := t
  obtain ⟨rfl, rfl⟩ := h
  exact ⟨rfl, rfl, rfl⟩

end Session.Agree

namespace Runner

variable {r : Runner} {name : String} {first second : Time} {s t : Session Orchestrator}

theorem conclude_state (r : Runner) (state : RunnerState) (observation : Observation) :
    ({ r with state } : Runner).conclude observation = r.conclude observation := by
  cases observation <;> rfl

theorem poll_agree (r : Runner) (name : String) (state : RunnerState) (h : s.Agree t) :
    let other := ({ r with state } : Runner).poll name t
    (r.poll name s).2.Agree other.2 ∧ (other.1 = (r.poll name s).1 ∨
      ∃ fault, (r.poll name s).1 = some (.broken fault, r) ∧ other.1 = some (.broken fault, { r with state })) := by
  obtain ⟨hreply, hasked⟩ := h.queryInstance name r.ns
  rcases hs : s.queryInstance name r.ns with ⟨reply, asked⟩
  rcases ht : t.queryInstance name r.ns with ⟨same, askedToo⟩
  rw [hs, ht] at hreply hasked
  cases hreply
  obtain ⟨hresult, hpolled⟩ := hasked.advance (r.passing reply)
  rcases htaken : asked.advance (r.passing reply) with ⟨result, polled⟩
  rcases htakenToo : askedToo.advance (r.passing reply) with ⟨same, polledToo⟩
  rw [htaken, htakenToo] at hresult hpolled
  cases hresult
  dsimp only
  cases result with
  | ok =>
    rw [poll_ok hs htaken, poll_ok (r := { r with state }) ht htakenToo, conclude_state]
    exact ⟨hpolled.log _ _, Or.inl rfl⟩
  | error fault =>
    rw [poll_error hs htaken, poll_error (r := { r with state }) ht htakenToo]
    exact ⟨hpolled, Or.inr ⟨fault, rfl, rfl⟩⟩

theorem rested_agree (r : Runner) (state : RunnerState) (deadline : Time) (h : s.Agree t) :
    (r.rested deadline s).Agree (({ r with state } : Runner).rested deadline t) := by
  obtain ⟨clock, events, remote⟩ := t
  obtain ⟨rfl, rfl⟩ := h
  exact ⟨rfl, rfl⟩

theorem pollUntil_agree (r : Runner) (name : String) (deadline : Time) (state : RunnerState) (h : s.Agree t) :
    let waited := r.pollUntil name deadline s
    let other := ({ r with state } : Runner).pollUntil name deadline t
    other.1.1 = waited.1.1 ∧ waited.2.Agree other.2 ∧
      (other.1.2 = waited.1.2 ∨ waited.1.1.isBroken = true) := by
  dsimp only
  induction s using pollUntil_rounds r name deadline generalizing t with
  | past s hpast =>
    rw [← h.clock_eq] at hpast
    rw [pollUntil_past hpast, pollUntil_past (h.clock_eq ▸ hpast)]
    exact ⟨rfl, h, Or.inl rfl⟩
  | ended s ended polled hbefore hpoll =>
    obtain ⟨hpolled, hended⟩ := r.poll_agree name state h
    rw [pollUntil_ended hbefore hpoll]
    rw [hpoll] at hpolled hended
    rw [← h.clock_eq] at hbefore
    rcases hother : ({ r with state } : Runner).poll name t with ⟨result, polledToo⟩
    rw [hother] at hpolled hended
    rcases hended with rfl | ⟨fault, hbroke, rfl⟩
    · rw [pollUntil_ended hbefore hother]
      exact ⟨rfl, hpolled, Or.inl rfl⟩
    · cases hbroke
      rw [pollUntil_ended hbefore hother]
      exact ⟨rfl, hpolled, Or.inr rfl⟩
  | next s polled hbefore hpoll ih =>
    obtain ⟨hpolled, hopen⟩ := r.poll_agree name state h
    rw [pollUntil_next hbefore hpoll]
    rw [hpoll] at hpolled hopen
    rw [← h.clock_eq] at hbefore
    rcases hother : ({ r with state } : Runner).poll name t with ⟨result, polledToo⟩
    rw [hother] at hpolled hopen
    rcases hopen with rfl | ⟨_, hbroke, _⟩
    · rw [pollUntil_next hbefore hother]
      exact ih (r.rested_agree state deadline hpolled)
    · cases hbroke

/-! ### Two deadlines -/

theorem rested_later (hle : first ≤ second) (hfull : r.pause t.clock.now first = r.polling.interval) :
    r.rested second t = r.rested first t := by
  have hpos := r.polling.interval_pos
  have hnanos := congrArg Duration.nanos hfull
  simp only [pause, Duration.nanos_min, Time.remaining] at hnanos
  rw [Time.le_def] at hle
  rw [rested, rested, hfull, pause_eq_interval (by omega)]

theorem rested_past (hshort : r.pause t.clock.now first ≠ r.polling.interval) :
    ¬ (r.rested first t).clock.now < first := by
  have hless : ¬ t.clock.now.nanos + r.polling.interval.nanos ≤ first.nanos := mt pause_eq_interval hshort
  have hend : (r.rested first t).clock.now.nanos = t.clock.now.nanos + (r.pause t.clock.now first).nanos :=
    r.nanos_after_pause t.clock.now first
  simp only [pause, Duration.nanos_min, Time.remaining] at hend
  rw [Time.lt_def]
  omega

theorem calls_prefix_pollUntil (r : Runner) (name : String) (deadline : Time) (s : Session Orchestrator) :
    s.remote.calls <+: (r.pollUntil name deadline s).2.remote.calls := by
  obtain ⟨gets, hcalls, _⟩ := r.pollUntil_polled name deadline s
  exact ⟨gets, hcalls.symm⟩

theorem pollUntil_later (hle : first ≤ second)
    (hended : ∀ text, (r.pollUntil name first s).1.1 ≠ .failed (.deadlineExceeded text)) :
    r.pollUntil name second s = r.pollUntil name first s := by
  induction s using pollUntil_rounds r name first with
  | past s hpast =>
    rw [pollUntil_past hpast] at hended
    exact absurd rfl (hended _)
  | ended s ended polled hbefore hpoll =>
    rw [pollUntil_ended hbefore hpoll, pollUntil_ended (Int.lt_of_lt_of_le hbefore hle) hpoll]
  | next s polled hbefore hpoll ih =>
    rw [pollUntil_next hbefore hpoll] at hended ⊢
    rw [pollUntil_next (Int.lt_of_lt_of_le hbefore hle) hpoll]
    by_cases hfull : r.pause polled.clock.now first = r.polling.interval
    · rw [rested_later hle hfull]
      exact ih hended
    · rw [pollUntil_past (rested_past hfull)] at hended
      exact absurd rfl (hended _)

theorem calls_prefix_later (hle : first ≤ second) :
    (r.pollUntil name first s).2.remote.calls <+: (r.pollUntil name second s).2.remote.calls := by
  induction s using pollUntil_rounds r name first with
  | past s hpast =>
    rw [pollUntil_past hpast]
    exact r.calls_prefix_pollUntil name second s
  | ended s ended polled hbefore hpoll =>
    have hsecond := pollUntil_ended (Int.lt_of_lt_of_le hbefore hle) hpoll
    exact ⟨[], by rw [pollUntil_ended hbefore hpoll, hsecond, List.append_nil]⟩
  | next s polled hbefore hpoll ih =>
    rw [pollUntil_next hbefore hpoll, pollUntil_next (Int.lt_of_lt_of_le hbefore hle) hpoll]
    by_cases hfull : r.pause polled.clock.now first = r.polling.interval
    · rw [rested_later hle hfull]
      exact ih
    · rw [pollUntil_past (rested_past hfull)]
      exact r.calls_prefix_pollUntil name second (r.rested second polled)

theorem poll_sleeps (r : Runner) (name : String) (s : Session Orchestrator) :
    (r.poll name s).2.clock.sleeps = s.clock.sleeps := by
  obtain ⟨_, _, ⟨_, _, _, hclock⟩ | ⟨_, _, hclock⟩⟩ := r.poll_cases name s <;> rw [hclock]

theorem poll_ne_exceeded {ended : Outcome Unit × Runner} (h : (r.poll name s).1 = some ended) (text : String) :
    ended.1 ≠ .failed (.deadlineExceeded text) := by
  obtain ⟨reply, _, ⟨_, _, hended, _⟩ | ⟨_, hbroke, _⟩⟩ := r.poll_cases name s
  · rw [h] at hended
    cases hobserved : r.reading name reply <;> rw [hobserved] at hended <;> cases hended <;> exact nofun
  · rw [h] at hbroke
    cases hbroke
    exact nofun

/-- A wait that is given up after whole intervals stops on the way of one with a later deadline. -/
theorem pollUntil_resumed (hle : first ≤ second) {text : String} {slept : List Duration}
    (hexceeded : (r.pollUntil name first s).1.1 = .failed (.deadlineExceeded text))
    (hslept : (r.pollUntil name first s).2.clock.sleeps = s.clock.sleeps ++ slept)
    (hwhole : ∀ d ∈ slept, d = r.polling.interval) :
    r.pollUntil name second (r.pollUntil name first s).2 = r.pollUntil name second s := by
  induction s using pollUntil_rounds r name first generalizing slept with
  | past s hpast => rw [pollUntil_past hpast]
  | ended s ended polled hbefore hpoll =>
    rw [pollUntil_ended hbefore hpoll] at hexceeded
    exact absurd hexceeded (poll_ne_exceeded (congrArg Prod.fst hpoll) text)
  | next s polled hbefore hpoll ih =>
    rw [pollUntil_next hbefore hpoll] at hexceeded hslept ⊢
    rw [pollUntil_next (Int.lt_of_lt_of_le hbefore hle) hpoll]
    obtain ⟨_, more, _, hmore, _⟩ := r.pollUntil_timeline name first (r.rested first polled)
    have hpolled : polled.clock.sleeps = s.clock.sleeps := by
      rw [← r.poll_sleeps name s, hpoll]
    have hsplit : slept = r.pause polled.clock.now first :: more := by
      refine (List.append_right_inj s.clock.sleeps).1 ?_
      rw [← hslept, hmore, rested, hpolled, List.append_assoc]
      rfl
    rw [hsplit] at hwhole
    rw [rested_later hle (hwhole _ List.mem_cons_self)]
    exact ih hexceeded hmore fun d hd => hwhole d (List.mem_cons_of_mem _ hd)

/-! ### Whole waits -/

/-- A runner that cannot wait says so, or says that it need not, whatever the deadline is. -/
theorem await_settled (h : ∀ name, ¬ r.Awaits name) :
    ∃ outcome, (∀ deadline s, r.await deadline s = ((outcome, r), s)) ∧
      (outcome = .done () ∨ ∃ text, outcome = .failed (.invalidState text)) := by
  cases hname : r.instanceName with
  | none => exact ⟨.failed notCreated, fun _ _ => by rw [await, hname], Or.inr ⟨_, rfl⟩⟩
  | some name =>
    cases hstate : r.state with
    | pending => exact absurd ⟨hname, Or.inl hstate⟩ (h name)
    | timedOut => exact absurd ⟨hname, Or.inr hstate⟩ (h name)
    | running => exact ⟨.done (), fun _ _ => by rw [await, hname, hstate], Or.inl rfl⟩
    | _ =>
      exact ⟨.failed (cannotWait name r.state), fun _ _ => by rw [await, hname, hstate], Or.inr ⟨_, rfl⟩⟩

theorem WaitEnd.of_exceeded {gets : List Call} {outcome : Outcome Unit} {after : Runner} {text : String}
    (h : WaitEnd r name gets outcome after) (hexceeded : outcome = .failed (.deadlineExceeded text)) :
    after = { r with state := .timedOut } := by
  cases h with
  | timedOut _ => rfl
  | _ => cases hexceeded

theorem WaitEnd.of_broken {gets : List Call} {outcome : Outcome Unit} {after : Runner}
    (h : WaitEnd r name gets outcome after) (hbroken : outcome.isBroken = true) : after = r := by
  cases h with
  | broke _ _ => rfl
  | _ => cases hbroken

theorem pollUntil_waitEnd (r : Runner) (name : String) (deadline : Time) (s : Session Orchestrator) :
    ∃ gets, WaitEnd r name gets (r.pollUntil name deadline s).1.1 (r.pollUntil name deadline s).1.2 := by
  obtain ⟨gets, _, hpolled⟩ := r.pollUntil_polled name deadline s
  exact ⟨gets, hpolled.waitEnd⟩

theorem awaits_of_exceeded {deadline : Time} {text : String}
    (h : (r.waitUntilRunning deadline s).1.1 = .failed (.deadlineExceeded text)) : ∃ name, r.Awaits name := by
  apply Classical.by_contradiction
  intro hnone
  obtain ⟨outcome, hawait, hother⟩ := await_settled (not_exists.1 hnone)
  rw [waitUntilRunning, Session.traced, hawait] at h
  rcases hother with rfl | ⟨_, rfl⟩ <;> cases h

/-- A wait that is not given up is the same with any later deadline. The calls of one that is given up are the
first calls of a wait with a later deadline; a call holds the reading of the clock at which it is made. -/
theorem waitUntilRunning_later (r : Runner) {first second : Time} (hle : first ≤ second)
    (s : Session Orchestrator) :
    let early := r.waitUntilRunning first s
    let late := r.waitUntilRunning second s
    ((∀ text, early.1.1 ≠ .failed (.deadlineExceeded text)) → late = early) ∧
      ∀ text, early.1.1 = .failed (.deadlineExceeded text) →
        ∃ gets more, early.2.remote.calls = s.remote.calls ++ gets ∧
          late.2.remote.calls = s.remote.calls ++ (gets ++ more) ∧
          ∀ call ∈ gets ++ more, ∃ name asked reply, call = .get name r.ns asked reply := by
  intro early late
  by_cases hnone : ∀ name, ¬ r.Awaits name
  · obtain ⟨outcome, hawait, _⟩ := await_settled hnone
    have hlate : late = early := by
      change r.waitUntilRunning second s = r.waitUntilRunning first s
      simp only [waitUntilRunning, Session.traced, hawait]
    refine ⟨fun _ => hlate, fun text hexceeded => ?_⟩
    obtain ⟨name, hawaits⟩ := awaits_of_exceeded hexceeded
    exact absurd hawaits (hnone name)
  · obtain ⟨name, hawaits⟩ := not_forall_not.1 hnone
    let entered := s.log (.entered .waitUntilRunning)
    have hearly : early = s.traced .waitUntilRunning (r.pollUntil name first) :=
      waitUntilRunning_eq hawaits first s
    have hlate : late = s.traced .waitUntilRunning (r.pollUntil name second) :=
      waitUntilRunning_eq hawaits second s
    rw [hearly, hlate]
    constructor
    · intro hended
      have hsame : r.pollUntil name second entered = r.pollUntil name first entered := pollUntil_later hle hended
      simp only [Session.traced]
      rw [hsame]
    · intro _ _
      obtain ⟨gets, hgets, _⟩ := r.pollUntil_polled name first entered
      obtain ⟨all, hall, hpolled⟩ := r.pollUntil_polled name second entered
      have hprefix : gets <+: all := by
        have hcalls : (r.pollUntil name first entered).2.remote.calls <+: _ := calls_prefix_later hle
        rw [hgets, hall] at hcalls
        exact (List.prefix_append_right_inj _).1 hcalls
      obtain ⟨more, rfl⟩ := hprefix
      refine ⟨gets, more, hgets, hall, fun call hcall => ?_⟩
      obtain ⟨asked, reply, rfl⟩ := hpolled.get call hcall
      exact ⟨name, asked, reply, rfl⟩

def waiting : Runner := { specimen with instanceName := some "modelserver-1", state := .pending }

def tick (n : Nat) : Time := Time.epoch.after (n * 5000000000)

/-- The instance runs at the third query, ten seconds after the first. -/
theorem slow_waits_later :
    tick 2 ≤ tick 3 ∧ tick 3 ≤ .latest ∧
      waiting.waitUntilRunning .latest slow = waiting.waitUntilRunning (tick 3) slow ∧
      (waiting.waitUntilRunning (tick 3) slow).1.2.endpoint = some "10.0.0.7:8500" ∧
      (waiting.waitUntilRunning (tick 2) slow).1.2.state = .timedOut ∧
      ∃ gets more, (waiting.waitUntilRunning (tick 2) slow).2.remote.calls = slow.remote.calls ++ gets ∧
        (waiting.waitUntilRunning (tick 3) slow).2.remote.calls = slow.remote.calls ++ (gets ++ more) := by
  have hearly : tick 2 ≤ tick 3 := by decide +kernel
  have hlate : tick 3 ≤ .latest := by decide +kernel
  have hruns : (waiting.waitUntilRunning (tick 3) slow).1.1 = .done () := by decide +kernel
  have hexceeded : (waiting.waitUntilRunning (tick 2) slow).1.1 =
      .failed (notRunningBefore "modelserver-1" (tick 2)) := by decide +kernel
  refine ⟨hearly, hlate, ?_, by decide +kernel, by decide +kernel, ?_⟩
  · apply (waiting.waitUntilRunning_later hlate slow).1
    intro text h
    cases hruns.symm.trans h
  · obtain ⟨gets, more, hgets, hall, _⟩ := (waiting.waitUntilRunning_later hearly slow).2 _ hexceeded
    exact ⟨gets, more, hgets, hall⟩

/-- A wait that is given up after whole intervals only can be made up for by another one: together they are one
wait with the later deadline. Only the state of the runner after a wait that breaks tells the two apart. That is an
exception and not just one more case, since the two runners do differ then. Neither the clock nor a deadline shows a
leap second. -/
theorem waitUntilRunning_resumed {r : Runner} {first second : Time} (hle : first ≤ second)
    {s : Session Orchestrator} {text : String} {slept : List Duration}
    (hexceeded : (r.waitUntilRunning first s).1.1 = .failed (.deadlineExceeded text))
    (hslept : (r.waitUntilRunning first s).2.clock.sleeps = s.clock.sleeps ++ slept)
    (hwhole : ∀ d ∈ slept, d = r.polling.interval) :
    let paused := r.waitUntilRunning first s
    let resumed := paused.1.2.waitUntilRunning second paused.2
    let single := r.waitUntilRunning second s
    resumed.1.1 = single.1.1 ∧ resumed.2.remote = single.2.remote ∧ resumed.2.clock = single.2.clock ∧
      (single.1.1.isBroken = false → resumed.1.2 = single.1.2) ∧
      (single.1.1.isBroken = true → single.1.2 = r ∧ resumed.1.2 = { r with state := .timedOut }) := by
  intro paused resumed single
  obtain ⟨name, hawaits⟩ := awaits_of_exceeded hexceeded
  let entered := s.log (.entered .waitUntilRunning)
  have hpaused : paused = s.traced .waitUntilRunning (r.pollUntil name first) :=
    waitUntilRunning_eq hawaits first s
  have hsingle : single = s.traced .waitUntilRunning (r.pollUntil name second) :=
    waitUntilRunning_eq hawaits second s
  change paused.1.1 = _ at hexceeded
  change paused.2.clock.sleeps = _ at hslept
  rw [hpaused] at hexceeded hslept
  have hgiven : paused.1.2 = { r with state := .timedOut } := by
    obtain ⟨_, hend⟩ := r.pollUntil_waitEnd name first entered
    rw [hpaused]
    exact hend.of_exceeded hexceeded
  have hresumed : resumed = paused.2.traced .waitUntilRunning
      (({ r with state := .timedOut } : Runner).pollUntil name second) := by
    change paused.1.2.waitUntilRunning second paused.2 = _
    rw [hgiven]
    exact waitUntilRunning_eq (r := { r with state := .timedOut }) ⟨hawaits.1, Or.inr rfl⟩ second paused.2
  have hagree : (r.pollUntil name first entered).2.Agree (paused.2.log (.entered .waitUntilRunning)) := by
    rw [hpaused]
    exact ⟨rfl, rfl⟩
  have hwaited := r.pollUntil_agree name second .timedOut hagree
  rw [pollUntil_resumed (s := entered) hle hexceeded hslept hwhole] at hwaited
  obtain ⟨houtcome, hsession, hrunner⟩ := hwaited
  rw [hresumed, hsingle]
  refine ⟨houtcome, hsession.remote_eq, hsession.clock_eq, fun hreturned => ?_, fun hbroken => ?_⟩
  · rcases hrunner with hsame | hbroken
    · exact hsame
    · exact absurd (hbroken.symm.trans hreturned) nofun
  · obtain ⟨_, hend⟩ := r.pollUntil_waitEnd name second entered
    obtain ⟨_, hother⟩ := ({ r with state := .timedOut } : Runner).pollUntil_waitEnd name second
      (paused.2.log (.entered .waitUntilRunning))
    rw [houtcome] at hother
    exact ⟨hend.of_broken hbroken, hother.of_broken hbroken⟩

/-- The first wait asks twice, the second one once more. -/
theorem slow_resumed :
    let paused := waiting.waitUntilRunning (tick 2) slow
    let resumed := paused.1.2.waitUntilRunning (tick 3) paused.2
    let single := waiting.waitUntilRunning (tick 3) slow
    paused.1.2.state = .timedOut ∧ paused.2.clock.sleeps = [.ofSecs 5, .ofSecs 5] ∧
      resumed.1.1 = .done () ∧ resumed.1.2 = single.1.2 ∧ resumed.2.remote = single.2.remote ∧
      resumed.2.clock = single.2.clock ∧ resumed.2.remote.calls.length = 3 := by
  intro paused resumed single
  have hle : tick 2 ≤ tick 3 := by decide +kernel
  have hexceeded : paused.1.1 = .failed (notRunningBefore "modelserver-1" (tick 2)) := by decide +kernel
  have hslept : paused.2.clock.sleeps = slow.clock.sleeps ++ [.ofSecs 5, .ofSecs 5] := by decide +kernel
  obtain ⟨houtcome, hremote, hclock, hrunner, _⟩ :=
    waitUntilRunning_resumed hle hexceeded hslept (by decide)
  have hruns : single.1.1 = .done () := by decide +kernel
  refine ⟨by decide +kernel, hslept, houtcome.trans hruns, hrunner ?_, hremote, hclock, by decide +kernel⟩
  change single.1.1.isBroken = false
  rw [hruns]
  rfl

/-- An instance that is not running yet. Every reply but the first would move the clock beyond the calendar. -/
def overlong : Session Orchestrator :=
  let script : Script :=
    ⟨fun _ => .prompt (.error (.internal "unused")),
      fun k => ⟨.zero, if k = 0 then .zero else .ofSecs 9000000000000, .ok ⟨.pending, none⟩⟩,
      fun _ => .prompt (.ok ())⟩
  .starting .epoch (.scripted script fun _ => .prompt (.error (.internal "unused")))

/-- The second query breaks the wait. After a first wait the runner has timed out, otherwise it is still pending. -/
theorem overlong_resumed_differs :
    let paused := waiting.waitUntilRunning (tick 1) overlong
    let resumed := paused.1.2.waitUntilRunning (tick 2) paused.2
    let single := waiting.waitUntilRunning (tick 2) overlong
    tick 1 ≤ tick 2 ∧ paused.1.1 = .failed (notRunningBefore "modelserver-1" (tick 1)) ∧
      paused.2.clock.sleeps = [waiting.polling.interval] ∧
      single.1.1 = .broken .timeOutOfRange ∧ single.1.2.state = .pending ∧
      resumed.1.1 = .broken .timeOutOfRange ∧ resumed.1.2.state = .timedOut ∧ resumed.1.2 ≠ single.1.2 := by
  decide +kernel

end Runner

end PodRunner
