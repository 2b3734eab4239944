import PodRunner.Proofs.Calls
import PodRunner.Runner.Waiting

/-!
# The wait, round by round

A round is a query, what the runner takes from the reply, and a sleep. The replies reach the runner through
`reading` and `passing` alone: what a reply says, and by how much it moves the clock. Both treat a reply that
comes too late as one that says nothing and takes no time. The sleep between two rounds never leaves the
calendar, so a wait can only be broken by a reply that does.
-/

namespace PodRunner.Runner

/-- What a runner makes of the reply to a query. One that comes too late says nothing. -/
def reading (r : Runner) (name : String) (reply : Reply InstanceStatus) : Observation :=
  if r.polling.timeout < reply.delay then .unclear (queryTimedOut name r.polling.timeout)
  else
    match reply.result with
    | .ok status => .ofStatus status
    | .error e => .unclear e

/-- The time that passes with a reply. One that comes too late is not taken. -/
def passing (r : Runner) (reply : Reply InstanceStatus) : Duration :=
  if r.polling.timeout < reply.delay then .zero else reply.advance

theorem observe_eq (r : Runner) (name : String) (s : Session Orchestrator) :
    r.observe name s =
      match (s.queryInstance name r.ns).2.advance (r.passing (s.queryInstance name r.ns).1) with
      | (.ok (), t) => (.ok (r.reading name (s.queryInstance name r.ns).1), t)
      | (.error fault, t) => (.error fault, t) := by
  unfold observe reading passing
  generalize s.queryInstance name r.ns = asked
  obtain ⟨reply, t⟩ := asked
  by_cases hlate : r.polling.timeout < reply.delay
  · simp only [if_pos hlate, Session.advance_zero]
  · simp only [if_neg hlate, Session.receive]
    cases hadvance : t.advance reply.advance with
    | mk result u =>
      cases result with
      | ok =>
        cases hresult : reply.result <;> rfl
      | error fault => rfl

theorem poll_ok {r : Runner} {name : String} {s asked polled : Session Orchestrator}
    {reply : Reply InstanceStatus} (hasked : s.queryInstance name r.ns = (reply, asked))
    (htaken : asked.advance (r.passing reply) = (.ok (), polled)) :
    r.poll name s =
      (r.conclude (r.reading name reply), polled.log (r.report name (r.reading name reply))) := by
  rw [poll, observe_eq, hasked]
  simp only [htaken]

theorem poll_error {r : Runner} {name : String} {s asked polled : Session Orchestrator} {fault : Fault}
    {reply : Reply InstanceStatus} (hasked : s.queryInstance name r.ns = (reply, asked))
    (htaken : asked.advance (r.passing reply) = (.error fault, polled)) :
    r.poll name s = (some (.broken fault, r), polled) := by
  rw [poll, observe_eq, hasked]
  simp only [htaken]

/-! ### Sleeps -/

theorem pause_le (r : Runner) (now deadline : Time) :
    now.nanos + (r.pause now deadline).nanos ≤ max now.nanos deadline.nanos := by
  have hle : (r.pause now deadline).nanos ≤ (deadline.nanos - now.nanos).toNat :=
    Nat.min_le_right _ _
  omega

theorem nanos_after_pause (r : Runner) (now deadline : Time) :
    (now.after (r.pause now deadline).nanos).nanos = now.nanos + (r.pause now deadline).nanos := by
  have hle := r.pause_le now deadline
  by_cases h : now.nanos ≤ deadline.nanos
  · exact Time.nanos_after (u := deadline) (by omega)
  · exact Time.nanos_after (u := now) (by omega)

def rested (r : Runner) (deadline : Time) (s : Session Orchestrator) : Session Orchestrator :=
  { s with
    clock := ⟨s.clock.now.after (r.pause s.clock.now deadline).nanos,
      s.clock.sleeps ++ [r.pause s.clock.now deadline]⟩ }

theorem sleep_pause (r : Runner) (deadline : Time) (s : Session Orchestrator) :
    s.sleep (r.pause s.clock.now deadline) = (.ok (), r.rested deadline s) := by
  refine Session.sleep_of_later ?_
  rw [move_pause]
  exact Time.later?_eq_some_iff.2 (r.nanos_after_pause s.clock.now deadline)

theorem pollUntil_past {r : Runner} {name : String} {deadline : Time} {s : Session Orchestrator}
    (h : ¬ s.clock.now < deadline) :
    r.pollUntil name deadline s =
      ((.failed (notRunningBefore name deadline), { r with state := .timedOut }), s) := by
  rw [pollUntil, dif_neg h]

theorem pollUntil_ended {r : Runner} {name : String} {deadline : Time} {s polled : Session Orchestrator}
    {ended : Outcome Unit × Runner} (hbefore : s.clock.now < deadline)
    (hpoll : r.poll name s = (some ended, polled)) :
    r.pollUntil name deadline s = (ended, polled) := by
  rw [pollUntil, dif_pos hbefore]
  split <;> rename_i heq <;> rw [hpoll] at heq <;> cases heq
  rfl

theorem pollUntil_next {r : Runner} {name : String} {deadline : Time} {s polled : Session Orchestrator}
    (hbefore : s.clock.now < deadline) (hpoll : r.poll name s = (none, polled)) :
    r.pollUntil name deadline s = r.pollUntil name deadline (r.rested deadline polled) := by
  rw [pollUntil, dif_pos hbefore]
  split <;> rename_i heq <;> rw [hpoll] at heq <;> cases heq
  split <;> rename_i hslept <;> rw [sleep_pause] at hslept <;> cases hslept
  rfl

/-- Induction over the rounds of a wait. -/
theorem pollUntil_rounds (r : Runner) (name : String) (deadline : Time) {P : Session Orchestrator → Prop}
    (past : ∀ s, ¬ s.clock.now < deadline → P s)
    (ended : ∀ s ended polled, s.clock.now < deadline → r.poll name s = (some ended, polled) → P s)
    (next : ∀ s polled, s.clock.now < deadline → r.poll name s = (none, polled) →
      P (r.rested deadline polled) → P s)
    (s : Session Orchestrator) : P s := by
  fun_induction pollUntil r name deadline s with
  | case1 s hbefore result polled hpoll => exact ended s result polled hbefore hpoll
  | case2 s hbefore polled hpoll fault slept hsleep =>
    -- a pause ends at the deadline at the latest, so the sleep cannot leave the calendar
    rw [sleep_pause] at hsleep
    cases hsleep
  | case3 s hbefore polled hpoll slept hsleep _ ih =>
    rw [sleep_pause] at hsleep
    cases hsleep
    exact next s polled hbefore hpoll ih
  | case4 s hpast => exact past s hpast

/-! ### The queries of a wait -/

def Overruns (r : Runner) (asked : Time) (reply : Reply InstanceStatus) : Prop :=
  asked.later? (Clock.move (r.passing reply)) = none

/-- A round makes one query, and its reply is the next one to come. The reply is taken, moves the clock and is told
of, or it leaves the calendar and breaks the wait. -/
theorem poll_spec (r : Runner) (name : String) (s : Session Orchestrator) :
    let reply := s.remote.answer name r.ns 0
    let polled := r.poll name s
    polled.2.remote.calls = s.remote.calls ++ [.get name r.ns s.clock.now reply] ∧
      ((∃ later, s.clock.now.later? (Clock.move (r.passing reply)) = some later ∧
          polled.1 = r.conclude (r.reading name reply) ∧ polled.2.clock = { s.clock with now := later } ∧
          polled.2.events = s.events ++ [r.report name (r.reading name reply)]) ∨
        r.Overruns s.clock.now reply ∧ polled.1 = some (.broken .timeOutOfRange, r) ∧
          polled.2.clock = s.clock ∧ polled.2.events = s.events) := by
  dsimp only
  have hcalls := s.queryInstance_calls name r.ns
  have hreply : (s.queryInstance name r.ns).1 = s.remote.answer name r.ns 0 :=
    s.remote.query_reply name r.ns s.clock.now
  rw [← hreply]
  rcases hasked : s.queryInstance name r.ns with ⟨reply, asked⟩
  rw [hasked] at hcalls
  have hclock : asked.clock = s.clock := congrArg (fun asked => asked.2.clock) hasked.symm
  have hevents : asked.events = s.events := congrArg (fun asked => asked.2.events) hasked.symm
  cases hlater : s.clock.now.later? (Clock.move (r.passing reply)) with
  | some later =>
    have htaken : asked.advance (r.passing reply) =
        (.ok (), { asked with clock := { s.clock with now := later } }) := by
      simp only [Session.advance, Clock.advance, hclock, hlater]
    rw [poll_ok hasked htaken]
    exact ⟨hcalls, Or.inl ⟨later, rfl, rfl, rfl, congrArg (· ++ _) hevents⟩⟩
  | none =>
    have htaken : asked.advance (r.passing reply) = (.error .timeOutOfRange, asked) := by
      simp only [Session.advance, Clock.advance, hclock, hlater]
      rw [← hclock]
    rw [poll_error hasked htaken]
    exact ⟨hcalls, Or.inr ⟨hlater, rfl, hclock, hevents⟩⟩

theorem poll_cases (r : Runner) (name : String) (s : Session Orchestrator) :
    ∃ reply, (r.poll name s).2.remote.calls = s.remote.calls ++ [.get name r.ns s.clock.now reply] ∧
      ((∃ later, s.clock.now.later? (Clock.move (r.passing reply)) = some later ∧
          (r.poll name s).1 = r.conclude (r.reading name reply) ∧
          (r.poll name s).2.clock = { s.clock with now := later }) ∨
        r.Overruns s.clock.now reply ∧ (r.poll name s).1 = some (.broken .timeOutOfRange, r) ∧
          (r.poll name s).2.clock = s.clock) := by
  obtain ⟨hcalls, ⟨later, hlater, hended, hclock, _⟩ | ⟨hoverruns, hbroke, hclock, _⟩⟩ := r.poll_spec name s
  · exact ⟨_, hcalls, Or.inl ⟨later, hlater, hended, hclock⟩⟩
  · exact ⟨_, hcalls, Or.inr ⟨hoverruns, hbroke, hclock⟩⟩

theorem poll_remote (r : Runner) (name : String) (s : Session Orchestrator) :
    (r.poll name s).2.remote = (s.remote.query name r.ns s.clock.now).2 := by
  cases hasked : s.queryInstance name r.ns with
  | mk reply asked =>
    have hremote : asked.remote = (s.remote.query name r.ns s.clock.now).2 :=
      congrArg (fun asked => asked.2.remote) hasked.symm
    rw [← hremote]
    rcases htaken : asked.advance (r.passing reply) with ⟨result, polled⟩
    have hpolled : polled.remote = asked.remote := congrArg (fun taken => taken.2.remote) htaken.symm
    cases result with
    | ok =>
      rw [poll_ok hasked htaken]
      exact hpolled
    | error fault =>
      rw [poll_error hasked htaken]
      exact hpolled

theorem pollUntil_keeps {I : Orchestrator → Prop} {r : Runner} {name : String} {deadline : Time}
    (hquery : ∀ o asked, I o → I (o.query name r.ns asked).2) {s : Session Orchestrator} (hs : I s.remote) :
    I (r.pollUntil name deadline s).2.remote := by
  have hround : ∀ t : Session Orchestrator, I t.remote → I (r.poll name t).2.remote := by
    intro t ht
    rw [poll_remote]
    exact hquery t.remote t.clock.now ht
  induction s using pollUntil_rounds r name deadline with
  | past s hpast =>
    rw [pollUntil_past hpast]
    exact hs
  | ended s ended polled hbefore hpoll =>
    have hpolled := hround s hs
    rw [hpoll] at hpolled
    rw [pollUntil_ended hbefore hpoll]
    exact hpolled
  | next s polled hbefore hpoll ih =>
    have hpolled := hround s hs
    rw [hpoll] at hpolled
    rw [pollUntil_next hbefore hpoll]
    exact ih hpolled

/-- What a wait leaves behind: its queries, sleeps and events, its outcome and the runner after it, for an
orchestrator that is asked from the beginning of the wait on, between two readings of the clock. -/
inductive Trail (r : Runner) (name : String) (deadline : Time) :
    Orchestrator → Time → List Call → List Duration → List Event → Outcome Unit → Runner → Time → Prop
  | expired {o : Orchestrator} {now : Time} (hpast : ¬ now < deadline) :
      Trail r name deadline o now [] [] [] (.failed (notRunningBefore name deadline))
        { r with state := .timedOut } now
  | ended {o : Orchestrator} {now later : Time} {outcome : Outcome Unit} {after : Runner} (hbefore : now < deadline)
      (hlater : now.later? (Clock.move (r.passing (o.answer name r.ns 0))) = some later)
      (hended : r.conclude (r.reading name (o.answer name r.ns 0)) = some (outcome, after)) :
      Trail r name deadline o now [.get name r.ns now (o.answer name r.ns 0)] []
        [r.report name (r.reading name (o.answer name r.ns 0))] outcome after later
  | broke {o : Orchestrator} {now : Time} (hbefore : now < deadline)
      (hoverruns : r.Overruns now (o.answer name r.ns 0)) :
      Trail r name deadline o now [.get name r.ns now (o.answer name r.ns 0)] [] [] (.broken .timeOutOfRange) r now
  | next {o : Orchestrator} {now taken finish : Time} {gets : List Call} {slept : List Duration}
      {events : List Event} {outcome : Outcome Unit} {after : Runner} (hbefore : now < deadline)
      (hlater : now.later? (Clock.move (r.passing (o.answer name r.ns 0))) = some taken)
      (hopen : r.conclude (r.reading name (o.answer name r.ns 0)) = none)
      (hrest : Trail r name deadline (o.query name r.ns now).2 (taken.after (r.pause taken deadline).nanos) gets slept
        events outcome after finish) :
      Trail r name deadline o now (.get name r.ns now (o.answer name r.ns 0) :: gets)
        (r.pause taken deadline :: slept) (r.report name (r.reading name (o.answer name r.ns 0)) :: events)
        outcome after finish

/-- Every wait leaves a trail. What is said about waits is said about it. -/
theorem pollUntil_trail (r : Runner) (name : String) (deadline : Time) (s : Session Orchestrator) :
    let waited := r.pollUntil name deadline s
    ∃ gets slept events, waited.2.remote.calls = s.remote.calls ++ gets ∧
      waited.2.clock.sleeps = s.clock.sleeps ++ slept ∧ waited.2.events = s.events ++ events ∧
      Trail r name deadline s.remote s.clock.now gets slept events waited.1.1 waited.1.2 waited.2.clock.now := by
  dsimp only
  induction s using pollUntil_rounds r name deadline with
  | past s hpast =>
    rw [pollUntil_past hpast]
    exact ⟨[], [], [], (List.append_nil _).symm, (List.append_nil _).symm, (List.append_nil _).symm, .expired hpast⟩
  | ended s ended polled hbefore hpoll =>
    rw [pollUntil_ended hbefore hpoll]
    obtain ⟨hcalls, ⟨later, hlater, hended, hclock, hevents⟩ | ⟨hoverruns, hbroke, hclock, hevents⟩⟩ :=
      r.poll_spec name s
    · rw [hpoll] at hcalls hended hclock hevents
      refine ⟨_, [], _, hcalls, ?_, hevents, ?_⟩
      · rw [hclock, List.append_nil]
      · rw [hclock]
        exact .ended hbefore hlater hended.symm
    · rw [hpoll] at hcalls hbroke hclock hevents
      cases hbroke
      refine ⟨_, [], [], hcalls, ?_, hevents.trans (List.append_nil _).symm, ?_⟩
      · rw [hclock, List.append_nil]
      · rw [hclock]
        exact .broke hbefore hoverruns
  | next s polled hbefore hpoll ih =>
    rw [pollUntil_next hbefore hpoll]
    have hremote := r.poll_remote name s
    obtain ⟨hcalls, ⟨taken, hlater, hopen, hclock, hevents⟩ | ⟨_, hbroke, _⟩⟩ := r.poll_spec name s
    · rw [hpoll] at hcalls hopen hclock hevents hremote
      obtain ⟨gets, slept, events, hgets, hslept, htold, hrest⟩ := ih
      have hnow : polled.clock.now = taken := by rw [hclock]
      have hsleeps : polled.clock.sleeps = s.clock.sleeps := by rw [hclock]
      have hasked : (r.rested deadline polled).remote = (s.remote.query name r.ns s.clock.now).2 := hremote
      have hrested : (r.rested deadline polled).clock.now = taken.after (r.pause taken deadline).nanos := by
        rw [← hnow]
        rfl
      rw [hasked, hrested] at hrest
      refine ⟨_ :: gets, r.pause taken deadline :: slept, _ :: events, ?_, ?_, ?_,
        .next hbefore hlater hopen.symm hrest⟩
      · rw [hgets, rested, hcalls, List.append_assoc]
        rfl
      · rw [hslept, rested, hsleeps, hnow, List.append_assoc]
        rfl
      · rw [htold, rested, hevents, List.append_assoc]
        rfl
    · rw [hpoll] at hbroke
      cases hbroke

/-- What the queries of a wait can be, with the outcome of the wait and the runner after it. All of them are
made before the deadline, and only the last one can end the wait. -/
inductive Polled (r : Runner) (name : String) (deadline : Time) :
    List Call → Outcome Unit → Runner → Prop
  | expired :
      Polled r name deadline [] (.failed (notRunningBefore name deadline)) { r with state := .timedOut }
  | ended {asked : Time} {reply : Reply InstanceStatus} {outcome : Outcome Unit} {after : Runner}
      (hbefore : asked < deadline)
      (hended : r.conclude (r.reading name reply) = some (outcome, after)) :
      Polled r name deadline [.get name r.ns asked reply] outcome after
  | broke {asked : Time} {reply : Reply InstanceStatus} (hbefore : asked < deadline)
      (hoverruns : r.Overruns asked reply) :
      Polled r name deadline [.get name r.ns asked reply] (.broken .timeOutOfRange) r
  | next {asked : Time} {reply : Reply InstanceStatus} {gets : List Call} {outcome : Outcome Unit}
      {after : Runner} (hbefore : asked < deadline)
      (hopen : r.conclude (r.reading name reply) = none)
      (hrest : Polled r name deadline gets outcome after) :
      Polled r name deadline (.get name r.ns asked reply :: gets) outcome after

theorem Trail.polled {r after : Runner} {name : String} {deadline now finish : Time} {o : Orchestrator}
    {gets : List Call} {slept : List Duration} {events : List Event} {outcome : Outcome Unit}
    (h : Trail r name deadline o now gets slept events outcome after finish) :
    Polled r name deadline gets outcome after := by
  induction h with
  | expired _ => exact .expired
  | ended hbefore _ hended => exact .ended hbefore hended
  | broke hbefore hoverruns => exact .broke hbefore hoverruns
  | next hbefore _ hopen _ ih => exact .next hbefore hopen ih

theorem pollUntil_polled (r : Runner) (name : String) (deadline : Time) (s : Session Orchestrator) :
    ∃ gets, (r.pollUntil name deadline s).2.remote.calls = s.remote.calls ++ gets ∧
      Polled r name deadline gets (r.pollUntil name deadline s).1.1 (r.pollUntil name deadline s).1.2 := by
  obtain ⟨gets, _, _, hcalls, _, _, htrail⟩ := r.pollUntil_trail name deadline s
  exact ⟨gets, hcalls, htrail.polled⟩

end PodRunner.Runner
