import PodRunner.Proofs.CallDiscipline
import PodRunner.Proofs.PodContents

/-!
# The life of a runner

What a runner can look like, and which changes of its state there are: a start makes an unstarted runner
pending, a wait ends the waiting, a stop stops. The one exception is a wait that breaks because a reply moves the
clock beyond the calendar; it leaves the runner as it was.
-/

namespace PodRunner.Runner

/-! ### What is stored -/

def Created (performed : List Performed) (server : Instance) : Prop :=
  ∃ p ∈ performed, p.outcome = .done .finished ∧
    ∃ ns pod reply, .create ns pod reply ∈ p.calls ∧ reply.result = .ok server

theorem Created.call {performed : List Performed} {server : Instance} (h : Created performed server) :
    ∃ call ∈ callsOf performed, call.created? = some server := by
  obtain ⟨p, hp, _, ns, pod, reply, hcall, hreply⟩ := h
  exact ⟨_, List.mem_flatMap.2 ⟨p, hp, hcall⟩, congrArg Except.toOption hreply⟩

section Step

variable {r after : Runner} {operation : Operation} {outcome : Outcome Answer} {calls : List Call}

theorem Step.name_created (h : Step r operation outcome after calls) {name : String}
    (hname : after.instanceName = some name) :
    r.instanceName = some name ∨ outcome = .done .finished ∧
      ∃ ns pod reply server, .create ns pod reply ∈ calls ∧ reply.result = .ok server ∧ server.name = name := by
  cases h with
  | @created _ _ server _ _ hreply =>
    exact Or.inr ⟨rfl, _, _, _, server, List.mem_singleton_self _, hreply, Option.some.inj hname⟩
  | waited hawaits hpolled =>
    refine Or.inl ?_
    cases hpolled.waitEnd <;> exact hname
  | _ => exact Or.inl hname

theorem Step.name_of_created (h : Step r operation outcome after calls) (hdone : outcome = .done .finished)
    {ns : String} {pod : Pod} {reply : Reply Instance} (hcall : .create ns pod reply ∈ calls)
    {server : Instance} (hreply : reply.result = .ok server) : after.instanceName = some server.name := by
  cases h.makes _ hcall with
  | creation _ _ =>
    cases h with
    | created _ _ hcreated =>
      cases List.mem_singleton.1 hcall
      cases hreply.symm.trans hcreated
      rfl
    | _ => cases hdone

end Step

theorem Path.instanceName_eq {r : Runner} {performed : List Performed} (h : Path r performed) {name : String}
    (hname : r.instanceName = some name) : (r.leave performed).instanceName = some name := by
  induction h with
  | nil r => exact hname
  | cons hstep _ _ ih => exact ih (hstep.instanceName_eq hname)

theorem Path.name_created {r : Runner} {performed : List Performed} (h : Path r performed) {name : String}
    (hname : (r.leave performed).instanceName = some name) :
    r.instanceName = some name ∨ ∃ server, Created performed server ∧ server.name = name := by
  induction h with
  | nil r => exact Or.inl hname
  | @cons r p rest hstep _ _ ih =>
    rcases ih hname with hbefore | ⟨server, ⟨later, hlater, hcreated⟩, hserver⟩
    · rcases hstep.name_created hbefore with hfirst | ⟨hdone, ns, pod, reply, server, hcall, hreply, hserver⟩
      · exact Or.inl hfirst
      · exact Or.inr ⟨server, ⟨p, List.mem_cons_self, hdone, ns, pod, reply, hcall, hreply⟩, hserver⟩
    · exact Or.inr ⟨server, ⟨later, List.mem_cons_of_mem p hlater, hcreated⟩, hserver⟩

theorem Path.name_of_created {r : Runner} {performed : List Performed} (h : Path r performed)
    {server : Instance} (hcreated : Created performed server) :
    (r.leave performed).instanceName = some server.name := by
  induction h with
  | nil r =>
    obtain ⟨_, hp, _⟩ := hcreated
    cases hp
  | cons hstep _ hrest ih =>
    obtain ⟨p, hp, hdone, ns, pod, reply, hcall, hreply⟩ := hcreated
    rcases List.mem_cons.1 hp with rfl | hp
    · exact hrest.instanceName_eq (hstep.name_of_created hdone hcall hreply)
    · exact ih ⟨p, hp, hdone, ns, pod, reply, hcall, hreply⟩

theorem run_name_iff {r : Runner} (hr : r.Unused) (s : Session Orchestrator) (operations : List Operation)
    (name : String) :
    (r.run s operations).1.instanceName = some name ↔
      ∃ server, Created (r.history s operations) server ∧ server.name = name := by
  have hpath := r.history_path s operations
  rw [(r.run_eq_history s operations).1]
  constructor
  · intro hname
    rcases hpath.name_created hname with hbefore | hcreated
    · rw [hr.instanceName_eq] at hbefore
      cases hbefore
    · exact hcreated
  · rintro ⟨server, hcreated, rfl⟩
    exact hpath.name_of_created hcreated

theorem run_name_created {r : Runner} (hr : r.Unused) (s : Session Orchestrator)
    (operations : List Operation) {name : String} (hname : (r.run s operations).1.instanceName = some name) :
    ∃ server, (s.callsSince (r.run s operations).2).filterMap Call.created? = [server] ∧
      server.name = name := by
  have honce := ((r.history_path s operations).orderly hr.instanceName_eq).created_once
  obtain ⟨server, hcreated, rfl⟩ := (run_name_iff hr s operations name).1 hname
  obtain ⟨call, hcall, hserver⟩ := hcreated.call
  rw [Session.callsSince_of_append (r.run_eq_history s operations).2]
  refine ⟨server, ?_, rfl⟩
  have hmem := List.mem_filterMap.2 ⟨call, hcall, hserver⟩
  generalize (callsOf (r.history s operations)).filterMap Call.created? = servers at honce hmem
  match servers, honce, hmem with
  | [first], _, hmem => rw [List.mem_singleton.1 hmem]

theorem run_consistent {r : Runner} (hr : r.Consistent) (s : Session Orchestrator)
    (operations : List Operation) : (r.run s operations).1.Consistent :=
  run_keeps (P := fun _ => True) (fun _ ht h => h.consistent ht) hr s fun _ _ => trivial

theorem Reachable.consistent {r : Runner} (h : r.Reachable) : r.Consistent := by
  obtain ⟨built, s, operations, hbuilt, rfl⟩ := h
  exact run_consistent hbuilt.unused.consistent s operations

theorem Consistent.endpoint?_eq_ok_iff {r : Runner} (h : r.Consistent) :
    (∃ endpoint, r.endpoint? = .ok endpoint) ↔ r.state = .running := by
  constructor
  · rintro ⟨endpoint, hok⟩
    unfold endpoint? at hok
    split at hok
    · assumption
    · cases hok
  · intro hstate
    obtain ⟨endpoint, hendpoint⟩ := Option.isSome_iff_exists.1 (h.endpoint_iff.2 hstate)
    exact ⟨endpoint, by rw [endpoint?, hendpoint, hstate]⟩

theorem build_error {workload : Workload} {owner : Owner} {e : Error}
    (h : Manifest.build workload owner = .error e) : ∃ secs, e = Manifest.negativeDeadline secs := by
  obtain ⟨secs, _, _, he⟩ := Manifest.build_eq_error_iff.1 h
  exact ⟨secs, he⟩

theorem Consistent.start_rejected_iff {r : Runner} (h : r.Consistent) (s : Session Orchestrator) :
    (r.start s).1.1 = .failed alreadyStarted ∧ s.callsSince (r.start s).2 = [] ↔
      r.state ≠ .unstarted := by
  constructor
  · rintro ⟨hfailed, hnone⟩ hstate
    have hstartable := h.isStartable_iff.2 hstate
    obtain ⟨made, hcalls, hstep⟩ := r.submit_step (s.log (.entered .start))
    have hsubmitted : (r.submit (s.log (.entered .start))).1.1 = .failed alreadyStarted := hfailed
    have hmade : s.callsSince (r.start s).2 = made := Session.callsSince_of_append hcalls
    rw [hsubmitted, ← hmade, hnone] at hstep
    generalize (r.submit (s.log (.entered .start))).1.2 = after at hstep
    have hfinished : (Outcome.failed alreadyStarted).map (fun _ : Unit => Answer.finished) =
      .failed alreadyStarted := rfl
    rw [hfinished] at hstep
    cases hstep with
    | startRejected hstarted => exact hstarted hstartable
    | unbuildable _ hbuild =>
      obtain ⟨secs, hsecs⟩ := build_error hbuild
      cases hsecs
  · intro hstate
    have hsubmit : r.submit (s.log (.entered .start)) =
        ((.failed alreadyStarted, r), s.log (.entered .start)) := if_pos (Or.inl hstate)
    rw [start, Session.traced, hsubmit]
    exact ⟨rfl, Session.callsSince_of_append (List.append_nil _).symm⟩

/-- What a runner stores at any time. -/
theorem run_represents {r : Runner} (hr : Built r) (s : Session Orchestrator) (operations : List Operation) :
    let reached := (r.run s operations).1
    let calls := s.callsSince (r.run s operations).2
    (reached.endpoint.isSome = true ↔ reached.state = .running) ∧
      (reached.instanceName = none → reached.state = .unstarted ∨ reached.state = .stopped) ∧
      (reached.instanceName.isSome = true → reached.state ≠ .unstarted) ∧
      (∀ name, reached.instanceName = some name →
        ∃ server, calls.filterMap Call.created? = [server] ∧ server.name = name) ∧
      ((∃ endpoint, reached.endpoint? = .ok endpoint) ↔ reached.state = .running) ∧
      ∀ next : Session Orchestrator,
        (reached.start next).1.1 = .failed alreadyStarted ∧ next.callsSince (reached.start next).2 = [] ↔
          reached.state ≠ .unstarted := by
  intro reached calls
  have hreached : reached.Consistent := run_consistent hr.unused.consistent s operations
  refine ⟨hreached.endpoint_iff, hreached.unnamed, hreached.named, ?_, hreached.endpoint?_eq_ok_iff,
    hreached.start_rejected_iff⟩
  intro name hname
  exact run_name_created hr.unused s operations hname

theorem specimen_represents :
    let reached := (specimen.run obliging [.start, .wait .latest]).1
    Built specimen ∧ reached.state = .running ∧ reached.endpoint.isSome = true ∧
      (reached.start obliging).1.1 = .failed alreadyStarted := by
  intro reached
  have hbuilt : Built specimen := .new _ _
  have hrunning : reached.state = .running := by decide +kernel
  obtain ⟨hendpoint, _, _, _, _, hstart⟩ := run_represents hbuilt obliging [.start, .wait .latest]
  refine ⟨hbuilt, hrunning, hendpoint.2 hrunning, ((hstart obliging).2 ?_).1⟩
  change reached.state ≠ .unstarted
  rw [hrunning]
  decide

/-! ### How the state changes -/

/-- The changes of the state that an operation may make. -/
def Allowed (before after : RunnerState) : Operation → Prop
  | .start => after = before ∨ before = .unstarted ∧ after = .pending
  | .wait _ =>
    if before = .pending ∨ before = .timedOut then
      after = .running ∨ after = .aborted ∨ after = .timedOut
    else after = before
  | .stop => after = .stopped
  | .pass _ => after = before

section Step

variable {r after : Runner} {operation : Operation} {outcome : Outcome Answer} {calls : List Call}

/-- A wait can break, and then it changes nothing. -/
theorem Step.allowed (h : Step r operation outcome after calls) (hr : r.Consistent) :
    Allowed r.state after.state operation ∨
      outcome = .broken .timeOutOfRange ∧ after = r ∧ ∃ deadline, operation = .wait deadline ∧
        ∃ name asked reply, calls.getLast? = some (.get name r.ns asked reply) ∧
          r.Overruns asked reply := by
  cases h with
  | created hstartable _ _ => exact Or.inl (Or.inr ⟨hstartable.1, rfl⟩)
  | waitRejected hrejected _ =>
    have hopen : ¬ (r.state = .pending ∨ r.state = .timedOut) := by
      intro hstate
      obtain ⟨name, hawaits⟩ := hr.awaits hstate
      exact hrejected name hawaits
    refine Or.inl ?_
    rw [Allowed, if_neg hopen]
  | waitedBefore _ hrunning =>
    refine Or.inl ?_
    rw [hrunning]
    rfl
  | @waited _ deadline _ _ _ hawaits hpolled =>
    have hends : ∀ state, state = .running ∨ state = .aborted ∨ state = .timedOut →
        Allowed r.state state (.wait deadline) := by
      intro state hstate
      rw [Allowed, if_pos hawaits.2]
      exact hstate
    cases hpolled.waitEnd with
    | running address => exact Or.inl (hends .running (by decide))
    | aborted phase => exact Or.inl (hends .aborted (by decide))
    | timedOut text => exact Or.inl (hends .timedOut (by decide))
    | broke hlast hoverruns => exact Or.inr ⟨rfl, rfl, deadline, rfl, _, _, _, hlast, hoverruns⟩
  | stopped _ _ => exact Or.inl rfl
  | passed => exact Or.inl rfl
  | _ => exact Or.inl (Or.inl rfl)

theorem Step.stays_stopped (h : Step r operation outcome after calls) (hr : r.state = .stopped) :
    after.state = .stopped := by
  cases h with
  | created hstartable _ _ => exact absurd (hstartable.1.symm.trans hr) nofun
  | waited hawaits _ => exact absurd (Or.inr (Or.inr hr)) hawaits.not_settled
  | stopped _ _ => rfl
  | _ => exact hr

/-- A runner whose instance is known to run or to have ended changes only when it is stopped. -/
theorem Step.eq_of_resolved (h : Step r operation outcome after calls) (hoperation : operation ≠ .stop)
    (hr : r.state = .running ∨ r.state = .aborted) : after = r := by
  cases h with
  | created hstartable _ _ =>
    rcases hr with hr | hr <;> exact absurd (hstartable.1.symm.trans hr) nofun
  | waited hawaits _ =>
    refine absurd ?_ hawaits.not_settled
    rcases hr with hr | hr
    · exact Or.inl hr
    · exact Or.inr (Or.inl hr)
  | stopped _ _ => exact absurd rfl hoperation
  | _ => rfl

end Step

theorem run_eq_of_resolved {r : Runner} (hr : r.state = .running ∨ r.state = .aborted)
    (s : Session Orchestrator) {operations : List Operation} (hstop : .stop ∉ operations) :
    (r.run s operations).1 = r := by
  refine run_keeps (I := fun t => t = r) (P := (· ≠ .stop)) ?_ rfl s ?_
  · rintro t operation outcome after calls hoperation rfl hstep
    exact hstep.eq_of_resolved hoperation hr
  · rintro operation hmem rfl
    exact hstop hmem

/-- Every operation makes one of the allowed changes, and no sequence of operations leaves the stopped state,
leaves the running or the aborted state without a stop, renames the instance, or moves the endpoint without a
stop. A wait that a reply breaks by leaving the calendar is one case more and no exception: it changes nothing. -/
theorem lifecycle {r : Runner} (hr : r.Reachable) (s : Session Orchestrator) :
    (∀ operation,
      let performed := r.perform s operation
      Allowed r.state performed.1.2.state operation ∨
        performed.1.1 = .broken .timeOutOfRange ∧ performed.1.2 = r ∧
          ∃ deadline, operation = .wait deadline ∧ ∃ name asked reply,
            (s.callsSince performed.2).getLast? = some (.get name r.ns asked reply) ∧
              r.Overruns asked reply) ∧
      ∀ operations,
        let after := (r.run s operations).1
        (r.state = .stopped → after.state = .stopped) ∧
          (∀ name, r.instanceName = some name → after.instanceName = some name) ∧
          (.stop ∉ operations →
            (r.state = .running → after.state = .running) ∧ (r.state = .aborted → after.state = .aborted) ∧
              ∀ endpoint, r.endpoint = some endpoint → after.endpoint = some endpoint) := by
  constructor
  · intro operation performed
    obtain ⟨made, hcalls, hstep⟩ := r.perform_step s operation
    rw [← Session.callsSince_of_append hcalls] at hstep
    exact hstep.allowed hr.consistent
  · intro operations after
    refine ⟨?_, ?_, ?_⟩
    · intro hstopped
      exact run_keeps (I := fun t => t.state = .stopped) (P := fun _ => True)
        (fun _ ht h => h.stays_stopped ht) hstopped s fun _ _ => trivial
    · intro name hname
      exact run_keeps (I := fun t => t.instanceName = some name) (P := fun _ => True)
        (fun _ ht h => h.instanceName_eq ht) hname s fun _ _ => trivial
    · intro hstop
      refine ⟨?_, ?_, ?_⟩
      · intro hrunning
        exact (congrArg Runner.state (run_eq_of_resolved (Or.inl hrunning) s hstop)).trans hrunning
      · intro haborted
        exact (congrArg Runner.state (run_eq_of_resolved (Or.inr haborted) s hstop)).trans haborted
      · intro endpoint hendpoint
        have hrunning : r.state = .running := by
          refine hr.consistent.endpoint_iff.1 ?_
          rw [hendpoint]
          rfl
        exact (congrArg Runner.endpoint (run_eq_of_resolved (Or.inl hrunning) s hstop)).trans hendpoint

theorem specimen_lifecycle :
    let reached := (specimen.run obliging [.start, .wait .latest]).1
    reached.Reachable ∧ reached.endpoint = some "10.0.0.7:8500" ∧
      (reached.run obliging [.start, .wait .earliest]).1.endpoint = some "10.0.0.7:8500" ∧
      (reached.perform obliging .stop).1.2.state = .stopped := by
  intro reached
  have hreachable : reached.Reachable := ⟨specimen, obliging, _, .new _ _, rfl⟩
  have hendpoint : reached.endpoint = some "10.0.0.7:8500" := by decide +kernel
  obtain ⟨hallowed, hruns⟩ := lifecycle hreachable obliging
  refine ⟨hreachable, hendpoint, ?_, ?_⟩
  · exact ((hruns [.start, .wait .earliest]).2.2 (by decide)).2.2 _ hendpoint
  · rcases hallowed .stop with hstopped | ⟨_, _, deadline, hwait, _⟩
    · exact hstopped
    · cases hwait

end PodRunner.Runner
