import Mathlib.Data.List.Forall2
import PodRunner.Proofs.LaterDeadline
import PodRunner.Proofs.PollLog

/-!
# Every query is accounted for

What a wait reports to its users is one event for each of its queries, in their order. Only the last of them can say
that the instance runs or that it has exited, and it says so exactly if that is what the wait returns. A query whose
reply leaves the calendar stops the wait before anything can be said about it.
-/

namespace PodRunner

/-- Events for the users of a runner. The others are for its authors. -/
def Event.isNotice (event : Event) : Bool := event.level.rank ≤ Level.info.rank

def Session.noticesSince (s t : Session Orchestrator) : List Event :=
  (t.events.drop s.events.length).filter Event.isNotice

theorem Session.noticesSince_of_marked {s t : Session Orchestrator} (function : Traced) {events : List Event}
    (h : t.events = s.events ++ .entered function :: events ++ [.left function]) :
    s.noticesSince t = events.filter Event.isNotice := by
  have hmarks : ∀ function, (Event.entered function).isNotice = false ∧ (Event.left function).isNotice = false :=
    fun _ => ⟨rfl, rfl⟩
  rw [noticesSince, h, List.append_assoc, List.drop_left, List.cons_append,
    List.filter_cons_of_neg (by rw [(hmarks function).1]; exact Bool.false_ne_true), List.filter_append,
    List.filter_cons_of_neg (by rw [(hmarks function).2]; exact Bool.false_ne_true)]
  exact List.append_nil _

namespace Runner

/-- A reply that arrives in time and says that the instance has exited, or that asking again will not help. -/
inductive Alarms (r : Runner) (reply : Reply InstanceStatus) : Prop
  | exited {status : InstanceStatus} (hintime : reply.delay ≤ r.polling.timeout) (hresult : reply.result = .ok status)
      (hphase : status.phase.isTerminal = true) : Alarms r reply
  | failed {e : Error} (hintime : reply.delay ≤ r.polling.timeout) (hresult : reply.result = .error e)
      (hlasting : e.isTransient = false) : Alarms r reply

/-- What a wait reports about a reply. -/
inductive Notice (r : Runner) (name : String) (reply : Reply InstanceStatus) : Event → Prop
  | late (hlate : r.polling.timeout < reply.delay) :
      Notice r name reply (.pollFailed name (queryTimedOut name r.polling.timeout))
  | running {address : String} (hintime : reply.delay ≤ r.polling.timeout)
      (hresult : reply.result = .ok ⟨.running, some address⟩) :
      Notice r name reply (.runningAt name (r.endpointAt address))
  | exited {status : InstanceStatus} (hintime : reply.delay ≤ r.polling.timeout) (hresult : reply.result = .ok status)
      (hphase : status.phase.isTerminal = true) : Notice r name reply (.exitedEarly name status.phase)
  | waiting {status : InstanceStatus} (hintime : reply.delay ≤ r.polling.timeout)
      (hresult : reply.result = .ok status) (hphase : status.phase.isTerminal = false)
      (haddress : status.phase = .running → status.address = none) :
      Notice r name reply (.stillWaiting name status.phase)
  | failed {e : Error} (hintime : reply.delay ≤ r.polling.timeout) (hresult : reply.result = .error e) :
      Notice r name reply (.pollFailed name e)

/-- A query for the instance, and the one event that reports on it. -/
inductive Accounts (r : Runner) : Call → Event → Prop
  | intro {name : String} {asked : Time} {reply : Reply InstanceStatus} {event : Event}
      (hname : r.instanceName = some name) (hnotice : Notice r name reply event)
      (hwarn : event.level = .warn ↔ Alarms r reply) (hinfo : event.level = .info ↔ ¬ Alarms r reply) :
      Accounts r (.get name r.ns asked reply) event

section Replies

variable {r : Runner} {name : String} {reply : Reply InstanceStatus} {event : Event}

theorem notice_ofStatus {status : InstanceStatus} (hintime : reply.delay ≤ r.polling.timeout)
    (hresult : reply.result = .ok status) : Notice r name reply (r.report name (.ofStatus status)) := by
  obtain ⟨phase, address⟩ := status
  cases phase with
  | running =>
    cases address with
    | none => exact .waiting hintime hresult rfl fun _ => rfl
    | some address => exact .running hintime hresult
  | succeeded | failed => exact .exited hintime hresult rfl
  | pending | unknown => exact .waiting hintime hresult rfl nofun

theorem notice_reading (r : Runner) (name : String) (reply : Reply InstanceStatus) :
    Notice r name reply (r.report name (r.reading name reply)) := by
  unfold reading
  split
  · rename_i hlate
    exact .late hlate
  · rename_i hlate
    have hintime : reply.delay ≤ r.polling.timeout := Nat.not_lt.1 hlate
    split
    · rename_i status hresult
      exact notice_ofStatus hintime hresult
    · rename_i e hresult
      exact .failed hintime hresult

theorem Notice.level_cases (h : Notice r name reply event) :
    event.level = .warn ∧ Alarms r reply ∨ event.level = .info ∧ ¬ Alarms r reply := by
  cases h with
  | late hlate =>
    refine Or.inr ⟨rfl, ?_⟩
    rintro (⟨hintime, _, _⟩ | ⟨hintime, _, _⟩) <;> exact Nat.not_lt.2 hintime hlate
  | running _ hresult =>
    refine Or.inr ⟨rfl, ?_⟩
    rintro (⟨_, hsame, hphase⟩ | ⟨_, hsame, _⟩) <;> rw [hresult] at hsame <;> cases hsame
    cases hphase
  | exited hintime hresult hphase => exact Or.inl ⟨rfl, .exited hintime hresult hphase⟩
  | waiting _ hresult hphase =>
    refine Or.inr ⟨rfl, ?_⟩
    rintro (⟨_, hsame, hterminal⟩ | ⟨_, hsame, _⟩) <;> rw [hresult] at hsame <;> cases hsame
    exact Bool.false_ne_true (hphase.symm.trans hterminal)
  | @failed e hintime hresult =>
    cases hlasting : e.isTransient with
    | false =>
      refine Or.inl ⟨?_, .failed hintime hresult hlasting⟩
      rw [Event.level, hlasting]
      rfl
    | true =>
      refine Or.inr ⟨?_, ?_⟩
      · rw [Event.level, hlasting]
        rfl
      · rintro (⟨_, hsame, _⟩ | ⟨_, hsame, hother⟩) <;> rw [hresult] at hsame <;> cases hsame
        exact Bool.false_ne_true (hother.symm.trans hlasting)

theorem Notice.accounts (hname : r.instanceName = some name) (h : Notice r name reply event) (asked : Time) :
    Accounts r (.get name r.ns asked reply) event := by
  rcases h.level_cases with ⟨hlevel, halarms⟩ | ⟨hlevel, hcalm⟩
  · refine ⟨hname, h, iff_of_true hlevel halarms, iff_of_false ?_ (not_not_intro halarms)⟩
    rw [hlevel]
    exact nofun
  · refine ⟨hname, h, iff_of_false ?_ hcalm, iff_of_true hlevel hcalm⟩
    rw [hlevel]
    exact nofun

theorem Accounts.isNotice {call : Call} (h : Accounts r call event) : event.isNotice = true := by
  obtain ⟨_, hnotice, _, _⟩ := h
  rcases hnotice.level_cases with ⟨hlevel, _⟩ | ⟨hlevel, _⟩ <;> rw [Event.isNotice, hlevel] <;> rfl

end Replies

/-! ### The rounds of a wait -/

/-- How a wait ends with an event, if it ends with it, and the runner after it. -/
def settledBy (r : Runner) : Event → Option (Outcome Unit × Runner)
  | .runningAt _ endpoint => some (.done (), { r with endpoint := some endpoint, state := .running })
  | .exitedEarly _ phase => some (.failed (.jobAborted phase), { r with state := .aborted })
  | _ => none

theorem settledBy_report (r : Runner) (name : String) (observation : Observation) :
    r.settledBy (r.report name observation) = r.conclude observation := by
  cases observation <;> rfl

/-- The queries of a wait and the events about them, with its outcome and the runner after it. -/
inductive Reported (r : Runner) : List Call → List Event → Outcome Unit → Runner → Prop
  | expired {text : String} : Reported r [] [] (.failed (.deadlineExceeded text)) { r with state := .timedOut }
  | ended {call : Call} {event : Event} {outcome : Outcome Unit} {after : Runner} (hevent : Accounts r call event)
      (hended : r.settledBy event = some (outcome, after)) : Reported r [call] [event] outcome after
  | broke {name : String} {asked : Time} {reply : Reply InstanceStatus} (hoverruns : r.Overruns asked reply) :
      Reported r [.get name r.ns asked reply] [] (.broken .timeOutOfRange) r
  | next {call : Call} {event : Event} {gets : List Call} {events : List Event} {outcome : Outcome Unit}
      {after : Runner} (hevent : Accounts r call event) (hopen : r.settledBy event = none)
      (hrest : Reported r gets events outcome after) : Reported r (call :: gets) (event :: events) outcome after

theorem Trail.reported {r after : Runner} {name : String} {deadline now finish : Time} {o : Orchestrator}
    {gets : List Call} {slept : List Duration} {events : List Event} {outcome : Outcome Unit}
    (h : Trail r name deadline o now gets slept events outcome after finish) (hname : r.instanceName = some name) :
    Reported r gets events outcome after := by
  induction h with
  | expired _ => exact .expired
  | @ended o now _ _ _ _ _ hended =>
    rw [← settledBy_report] at hended
    exact .ended ((r.notice_reading name (o.answer name r.ns 0)).accounts hname now) hended
  | broke _ hoverruns => exact .broke hoverruns
  | @next o now _ _ _ _ _ _ _ _ _ hopen _ ih =>
    rw [← settledBy_report] at hopen
    exact .next ((r.notice_reading name (o.answer name r.ns 0)).accounts hname now) hopen ih

section Reported

variable {r after : Runner} {gets : List Call} {events : List Event} {outcome : Outcome Unit}

theorem Reported.filter_eq (h : Reported r gets events outcome after) : events.filter Event.isNotice = events := by
  induction h with
  | expired => rfl
  | ended hevent _ => exact List.filter_eq_self.2 fun _ hmem => List.mem_singleton.1 hmem ▸ hevent.isNotice
  | broke _ => rfl
  | next hevent _ _ ih => rw [List.filter_cons_of_pos hevent.isNotice, ih]

/-- A wait that returns has reported on all of its queries, one that breaks on all but the last. -/
theorem Reported.accounts (h : Reported r gets events outcome after) :
    (outcome.isBroken = false → List.Forall₂ r.Accounts gets events) ∧
      (outcome.isBroken = true → ∃ told name asked reply, gets = told ++ [.get name r.ns asked reply] ∧
        r.Overruns asked reply ∧ List.Forall₂ r.Accounts told events) := by
  induction h with
  | expired => exact ⟨fun _ => .nil, nofun⟩
  | @ended _ event _ _ hevent hended =>
    refine ⟨fun _ => .cons hevent .nil, fun hbroken => ?_⟩
    cases event <;> cases hended <;> cases hbroken
  | broke hoverruns => exact ⟨nofun, fun _ => ⟨[], _, _, _, rfl, hoverruns, .nil⟩⟩
  | next hevent _ _ ih =>
    refine ⟨fun hreturned => .cons hevent (ih.1 hreturned), fun hbroken => ?_⟩
    obtain ⟨told, name, asked, reply, rfl, hoverruns, hall⟩ := ih.2 hbroken
    exact ⟨_ :: told, name, asked, reply, rfl, hoverruns, .cons hevent hall⟩

theorem Reported.of_no_queries (h : Reported r [] events outcome after) : events = [] := by
  cases h
  rfl

/-- An event that settles the matter is the last one, and the wait ends as it says. -/
theorem Reported.settled (h : Reported r gets events outcome after) {k : Nat} {event : Event}
    {ended : Outcome Unit × Runner} (hevent : events[k]? = some event) (hended : r.settledBy event = some ended) :
    k + 1 = events.length ∧ ended = (outcome, after) := by
  induction h generalizing k with
  | expired => cases hevent
  | ended _ hsettled =>
    cases k with
    | zero =>
      cases hevent
      exact ⟨rfl, Option.some.inj (hended.symm.trans hsettled)⟩
    | succ k => cases hevent
  | broke _ => cases hevent
  | next _ hopen _ ih =>
    cases k with
    | zero =>
      cases hevent
      rw [hopen] at hended
      cases hended
    | succ k =>
      obtain ⟨hlast, hsame⟩ := ih hevent
      exact ⟨congrArg (· + 1) hlast, hsame⟩

theorem Reported.exists_event (h : Reported r gets events outcome after) :
    (∃ text, outcome = .failed (.deadlineExceeded text) ∧ after = { r with state := .timedOut }) ∨
      (outcome = .broken .timeOutOfRange ∧ after = r) ∨
      ∃ event ∈ events, r.settledBy event = some (outcome, after) := by
  induction h with
  | expired => exact Or.inl ⟨_, rfl, rfl⟩
  | ended _ hended => exact Or.inr (Or.inr ⟨_, List.mem_singleton_self _, hended⟩)
  | broke _ => exact Or.inr (Or.inl ⟨rfl, rfl⟩)
  | next _ _ _ ih =>
    rcases ih with hexpired | hbroke | ⟨event, hmem, hended⟩
    · exact Or.inl hexpired
    · exact Or.inr (Or.inl hbroke)
    · exact Or.inr (Or.inr ⟨event, List.mem_cons_of_mem _ hmem, hended⟩)

theorem endpoint?_eq_ok_iff {endpoint : String} :
    r.endpoint? = .ok endpoint ↔ r.endpoint = some endpoint ∧ r.state = .running := by
  rw [endpoint?]
  split
  · rename_i hstored hrunning
    rw [hstored, hrunning, Except.ok.injEq, Option.some.injEq, and_iff_left rfl]
  · rename_i hother
    exact iff_of_false nofun fun ⟨hstored, hrunning⟩ => hother endpoint hstored hrunning

theorem Reported.runningAt_iff (h : Reported r gets events outcome after) (hwaiting : r.state ≠ .running)
    {endpoint : String} : (∃ name, .runningAt name endpoint ∈ events) ↔ after.endpoint? = .ok endpoint := by
  rw [endpoint?_eq_ok_iff]
  constructor
  · rintro ⟨name, hmem⟩
    obtain ⟨k, hevent⟩ := List.mem_iff_getElem?.1 hmem
    obtain ⟨_, hended⟩ := h.settled hevent rfl
    cases hended
    exact ⟨rfl, rfl⟩
  · rintro ⟨hstored, hrunning⟩
    rcases h.exists_event with ⟨_, _, rfl⟩ | ⟨_, rfl⟩ | ⟨event, hmem, hended⟩
    · cases hrunning
    · exact absurd hrunning hwaiting
    · cases event <;> cases hended
      · cases hstored
        exact ⟨_, hmem⟩
      · cases hrunning

theorem Reported.exitedEarly_iff (h : Reported r gets events outcome after) {phase : Phase} :
    (∃ name, .exitedEarly name phase ∈ events) ↔ outcome = .failed (.jobAborted phase) := by
  constructor
  · rintro ⟨name, hmem⟩
    obtain ⟨k, hevent⟩ := List.mem_iff_getElem?.1 hmem
    obtain ⟨_, hended⟩ := h.settled hevent rfl
    cases hended
    rfl
  · rintro rfl
    rcases h.exists_event with ⟨_, hexpired, _⟩ | ⟨hbroke, _⟩ | ⟨event, hmem, hended⟩
    · cases hexpired
    · cases hbroke
    · cases event <;> cases hended
      exact ⟨_, hmem⟩

end Reported

/-! ### A whole wait -/

/-- A wait goes through its rounds, or it does nothing and leaves the runner alone. -/
theorem waitUntilRunning_cases (r : Runner) (deadline : Time) (s : Session Orchestrator) :
    let waited := r.waitUntilRunning deadline s
    ∃ gets events, waited.2.remote.calls = s.remote.calls ++ gets ∧
      waited.2.events = s.events ++ .entered .waitUntilRunning :: events ++ [.left .waitUntilRunning] ∧
      (r.state ≠ .running ∧ Reported r gets events waited.1.1 waited.1.2 ∨
        gets = [] ∧ events = [] ∧ waited.1.2 = r ∧
          (waited.1.1 = .done () ∨ ∃ text, waited.1.1 = .failed (.invalidState text))) := by
  intro waited
  by_cases hnone : ∀ name, ¬ r.Awaits name
  · obtain ⟨outcome, hawait, hother⟩ := await_settled hnone
    have hwaited : waited = ((outcome, r), (s.log (.entered .waitUntilRunning)).log (.left .waitUntilRunning)) := by
      change r.waitUntilRunning deadline s = _
      rw [waitUntilRunning, Session.traced, hawait]
    rw [hwaited]
    exact ⟨[], [], (List.append_nil _).symm, rfl, Or.inr ⟨rfl, rfl, rfl, hother⟩⟩
  · obtain ⟨name, hawaits⟩ := not_forall_not.1 hnone
    have hwaited : waited = s.traced .waitUntilRunning (r.pollUntil name deadline) :=
      waitUntilRunning_eq hawaits deadline s
    have hwaiting : r.state ≠ .running := by
      intro hrunning
      rcases hawaits.2 with hstate | hstate <;> rw [hrunning] at hstate <;> cases hstate
    obtain ⟨gets, _, events, hcalls, _, hevents, htrail⟩ :=
      r.pollUntil_trail name deadline (s.log (.entered .waitUntilRunning))
    rw [hwaited]
    refine ⟨gets, events, hcalls, ?_, Or.inl ⟨hwaiting, htrail.reported hawaits.1⟩⟩
    rw [Session.traced, Session.log_events, hevents, Session.log_events, List.append_assoc s.events]
    rfl

/-- The queries of a wait are accounted for one by one by what it reports, up to a query that breaks it. The event
for a query tells of an alarming reply by its level. That the instance runs at an endpoint is reported if and only
if the wait finds it there, and that it has exited if and only if this is what the wait returns; nothing is reported
after either. A reply that leaves the calendar is an exception here, since its query has been made and nothing is
reported about it. -/
theorem waitUntilRunning_accounts (r : Runner) (deadline : Time) (s : Session Orchestrator) :
    let waited := r.waitUntilRunning deadline s
    let gets := s.callsSince waited.2
    let notices := s.noticesSince waited.2
    (waited.1.1.isBroken = false → List.Forall₂ r.Accounts gets notices) ∧
    (waited.1.1.isBroken = true → ∃ told name asked reply, gets = told ++ [.get name r.ns asked reply] ∧
      r.Overruns asked reply ∧ List.Forall₂ r.Accounts told notices) ∧
    (∀ endpoint, (∃ name, .runningAt name endpoint ∈ notices) ↔
      (∀ known, r.endpoint? ≠ .ok known) ∧ waited.1.2.endpoint? = .ok endpoint) ∧
    (∀ phase, (∃ name, .exitedEarly name phase ∈ notices) ↔ waited.1.1 = .failed (.jobAborted phase)) ∧
    (∀ k name endpoint, notices[k]? = some (.runningAt name endpoint) → k + 1 = notices.length) ∧
    (∀ k name phase, notices[k]? = some (.exitedEarly name phase) → k + 1 = notices.length) ∧
    (gets = [] → notices = []) := by
  intro waited gets notices
  obtain ⟨made, events, hcalls, hevents, hrounds⟩ := r.waitUntilRunning_cases deadline s
  have hgets : gets = made := Session.callsSince_of_append hcalls
  have hnotices : notices = events.filter Event.isNotice := Session.noticesSince_of_marked _ hevents
  rw [hgets, hnotices]
  rcases hrounds with ⟨hwaiting, hreported⟩ | ⟨rfl, rfl, hsame, houtcome⟩
  · have hunknown : ∀ known, r.endpoint? ≠ .ok known := fun known hknown =>
      hwaiting (endpoint?_eq_ok_iff.1 hknown).2
    obtain ⟨hall, hbroke⟩ := hreported.accounts
    rw [hreported.filter_eq]
    refine ⟨hall, hbroke, fun endpoint => ?_, fun phase => hreported.exitedEarly_iff, ?_, ?_, ?_⟩
    · rw [and_iff_right hunknown]
      exact hreported.runningAt_iff hwaiting
    · intro k name endpoint hevent
      exact (hreported.settled hevent rfl).1
    · intro k name phase hevent
      exact (hreported.settled hevent rfl).1
    · rintro rfl
      exact hreported.of_no_queries
  · change waited.1.2 = r at hsame
    change waited.1.1 = _ ∨ ∃ text, waited.1.1 = _ at houtcome
    rw [hsame]
    refine ⟨fun _ => .nil, fun hbroken => ?_, fun endpoint => iff_of_false ?_ ?_, fun phase => iff_of_false ?_ ?_,
      ?_, ?_, fun _ => rfl⟩
    · rcases houtcome with hended | ⟨_, hended⟩ <;> rw [hended] at hbroken <;> cases hbroken
    · rintro ⟨_, hmem⟩
      exact absurd hmem List.not_mem_nil
    · rintro ⟨hunknown, hknown⟩
      exact hunknown endpoint hknown
    · rintro ⟨_, hmem⟩
      exact absurd hmem List.not_mem_nil
    · intro haborted
      rcases houtcome with hended | ⟨_, hended⟩ <;> rw [hended] at haborted <;> cases haborted
    · intro k name endpoint hevent
      cases hevent
    · intro k name phase hevent
      cases hevent

/-- The reply to the second query would move the clock beyond the calendar, so only the first one is reported on. -/
theorem overlong_unreported :
    let waited := waiting.waitUntilRunning (tick 2) overlong
    Reachable waiting ∧ waited.1.1 = .broken .timeOutOfRange ∧ (overlong.callsSince waited.2).length = 2 ∧
      overlong.noticesSince waited.2 = [.stillWaiting "modelserver-1" .pending] := by
  have hstarted : (specimen.run obliging [.start]).1 = waiting := by decide +kernel
  refine ⟨⟨specimen, obliging, [.start], .new _ _, hstarted⟩, ?_⟩
  decide +kernel

end Runner

end PodRunner
