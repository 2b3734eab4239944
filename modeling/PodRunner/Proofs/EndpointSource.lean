import PodRunner.Proofs.Exchanges
import PodRunner.Proofs.Submission
import PodRunner.Proofs.WaitResult

/-!
# Where an endpoint comes from

An endpoint is stored by the query that finds the instance running, and after that no call is made any more
until the instance is stopped, which takes the endpoint away. So an endpoint that a runner reports comes from the
last call of its run, and no earlier reply has a part in it.
-/

namespace PodRunner

theorem Pod.status_of_running {pod : Pod} {address : String}
    (h : pod.instanceStatus = ⟨.running, some address⟩) :
    ∃ status, pod.status = some status ∧ status.phase = some "Running" ∧ status.podIp = some address ∧
      address ≠ "" := by
  obtain ⟨hphase, haddress⟩ := InstanceStatus.mk.inj h
  cases hstatus : pod.status with
  | none =>
    rw [hstatus] at haddress
    cases haddress
  | some status =>
    rw [hstatus, Option.bind_some] at hphase haddress
    obtain ⟨hip, hsome⟩ := Option.filter_eq_some_iff.1 haddress
    refine ⟨status, rfl, ?_, hip, ?_⟩
    · cases htext : status.phase with
      | none =>
        rw [htext] at hphase
        cases hphase
      | some text =>
        rw [htext, Phase.ofText, Option.bind_some] at hphase
        cases hparsed : Phase.parse? text with
        | none =>
          rw [hparsed] at hphase
          cases hphase
        | some phase =>
          rw [hparsed, Option.getD_some] at hphase
          rw [Phase.parse?_eq_some_iff.1 hparsed, hphase]
          rfl
    · rintro rfl
      cases hsome

namespace Runner

/-- None of these calls is a query with a reply that settles the matter. -/
def Undecided (r : Runner) (calls : List Call) : Prop :=
  ∀ name ns asked reply, .get name ns asked reply ∈ calls → ¬ Decisive r reply

/-- The endpoint is the address in the last of these calls, which alone settles the matter. -/
def Sourced (r : Runner) (calls : List Call) (endpoint : String) : Prop :=
  ∃ before name asked reply address, calls = before ++ [.get name r.ns asked reply] ∧ Undecided r before ∧
    reply.delay ≤ r.polling.timeout ∧ reply.result = .ok ⟨.running, some address⟩ ∧
    endpoint = r.endpointAt address

theorem Undecided.nil (r : Runner) : Undecided r [] := fun _ _ _ _ hmem => absurd hmem List.not_mem_nil

theorem Undecided.append {r : Runner} {earlier later : List Call} (hearlier : Undecided r earlier)
    (hlater : Undecided r later) : Undecided r (earlier ++ later) := by
  intro name ns asked reply hmem
  rcases List.mem_append.1 hmem with hmem | hmem
  · exact hearlier name ns asked reply hmem
  · exact hlater name ns asked reply hmem

theorem Undecided.get {r : Runner} {name : String} {asked : Time} {reply : Reply InstanceStatus}
    (hopen : r.conclude (r.reading name reply) = none) : Undecided r [.get name r.ns asked reply] := by
  intro _ _ _ _ hmem
  cases List.mem_singleton.1 hmem
  rintro ⟨outcome, after, hdecides⟩
  rw [(decides_iff name).1 hdecides] at hopen
  cases hopen

theorem Decisive.of_sameSettings {r t : Runner} (h : SameSettings r t) {reply : Reply InstanceStatus}
    (hdecisive : Decisive r reply) : Decisive t reply := by
  obtain ⟨outcome, after, hdecides⟩ := hdecisive
  cases hdecides with
  | running hintime hresult =>
    rw [← h.polling_eq] at hintime
    exact ⟨_, _, .running hintime hresult⟩
  | exited hintime hresult hphase =>
    rw [← h.polling_eq] at hintime
    exact ⟨_, _, .exited hintime hresult hphase⟩

/-- A wait is ended by the deadline, by a reply that leaves the calendar, or by the first reply that settles the
matter. -/
theorem Polled.ending {r : Runner} {name : String} {deadline : Time} {gets : List Call}
    {outcome : Outcome Unit} {after : Runner} (h : Polled r name deadline gets outcome after) :
    (outcome = .failed (notRunningBefore name deadline) ∧ after = { r with state := .timedOut } ∧
        Undecided r gets) ∨
      (outcome = .broken .timeOutOfRange ∧ after = r) ∨
      ∃ before asked reply, gets = before ++ [.get name r.ns asked reply] ∧ Undecided r before ∧
        Decides r reply outcome after := by
  induction h with
  | expired => exact Or.inl ⟨rfl, rfl, .nil r⟩
  | @ended asked reply _ _ _ hended =>
    exact Or.inr (Or.inr ⟨[], asked, reply, rfl, .nil r, (decides_iff name).2 hended⟩)
  | broke _ _ => exact Or.inr (Or.inl ⟨rfl, rfl⟩)
  | @next asked reply _ _ _ _ hopen _ ih =>
    have hfirst : Undecided r [.get name r.ns asked reply] := .get hopen
    rcases ih with ⟨houtcome, hafter, hlater⟩ | hbroke | ⟨before, later, last, rfl, hbefore, hdecides⟩
    · exact Or.inl ⟨houtcome, hafter, hfirst.append hlater⟩
    · exact Or.inr (Or.inl hbroke)
    · exact Or.inr (Or.inr ⟨_ :: before, later, last, rfl, hfirst.append hbefore, hdecides⟩)

/-! ### One transition -/

section Step

variable {r after : Runner} {operation : Operation} {outcome : Outcome Answer} {calls : List Call}
  {endpoint : String}

theorem IsStartable.not_settled (h : r.IsStartable) : ¬ r.IsSettled := by
  rintro (hstate | hstate | hstate) <;> exact absurd (h.1.symm.trans hstate) nofun

/-- Only a wait that finds the instance running stores an endpoint. -/
theorem Step.sourced (h : Step r operation outcome after calls) (hr : r.endpoint = none)
    (hstored : after.endpoint = some endpoint) : after.IsSettled ∧ Sourced r calls endpoint := by
  cases h with
  | waited _ hpolled =>
    rcases hpolled.ending with ⟨_, rfl, _⟩ | ⟨_, rfl⟩ | ⟨before, asked, reply, rfl, hbefore, hdecides⟩
    · exact absurd (hr.symm.trans hstored) nofun
    · exact absurd (hr.symm.trans hstored) nofun
    · cases hdecides with
      | running hintime hresult =>
        cases hstored
        exact ⟨Or.inl rfl, before, _, asked, reply, _, rfl, hbefore, hintime, hresult, rfl⟩
      | exited _ _ _ => exact absurd (hr.symm.trans hstored) nofun
  | stopped _ _ => cases hstored
  | _ => exact absurd (hr.symm.trans hstored) nofun

theorem Step.undecided (h : Step r operation outcome after calls) (hr : r.endpoint = none)
    (hunbroken : outcome.isBroken = false) (hopen : ¬ after.IsSettled) :
    after.endpoint = none ∧ Undecided r calls := by
  cases h with
  | waited _ hpolled =>
    rcases hpolled.ending with ⟨_, rfl, hundecided⟩ | ⟨rfl, _⟩ | ⟨_, _, _, _, _, hdecides⟩
    · exact ⟨hr, hundecided⟩
    · cases hunbroken
    · cases hdecides with
      | running _ _ => exact absurd (Or.inl rfl) hopen
      | exited _ _ _ => exact absurd (Or.inr (Or.inl rfl)) hopen
  | stopped _ _ => exact absurd (Or.inr (Or.inr rfl)) hopen
  | notCreated _ _ _ | creationBroke _ _ | created _ _ _ =>
    refine ⟨hr, fun _ _ _ _ hmem => ?_⟩
    cases List.mem_singleton.1 hmem
  | _ => exact ⟨hr, .nil r⟩

theorem Step.quiet (h : Step r operation outcome after calls) (hr : r.IsSettled)
    (hstored : after.endpoint = some endpoint) : calls = [] ∧ r.endpoint = some endpoint := by
  cases h with
  | notCreated hstartable _ _ => exact absurd hr hstartable.not_settled
  | creationBroke hstartable _ => exact absurd hr hstartable.not_settled
  | created hstartable _ _ => exact absurd hr hstartable.not_settled
  | waited hawaits _ => exact absurd hr hawaits.not_settled
  | stopped _ _ => cases hstored
  | _ => exact ⟨rfl, hstored⟩

end Step

/-! ### A whole run -/

section Path

variable {r : Runner} {performed : List Performed} {endpoint : String}

theorem Path.quiet (h : Path r performed) (hr : r.IsSettled)
    (hstored : (r.leave performed).endpoint = some endpoint) :
    callsOf performed = [] ∧ r.endpoint = some endpoint := by
  induction h with
  | nil r => exact ⟨rfl, hstored⟩
  | cons hstep _ _ ih =>
    obtain ⟨hlater, hafter⟩ := ih (hstep.settled hr) hstored
    obtain ⟨hfirst, hbefore⟩ := hstep.quiet hr hafter
    rw [callsOf_cons, hfirst, hlater]
    exact ⟨rfl, hbefore⟩

/-- The transition that settles the matter is the last one that calls. -/
theorem Path.sourced (h : Path r performed) (hr : r.endpoint = none)
    (hstored : (r.leave performed).endpoint = some endpoint) : Sourced r (callsOf performed) endpoint := by
  induction h with
  | nil r => exact absurd (hr.symm.trans hstored) nofun
  | @cons r p rest hstep hlast hrest ih =>
    rw [callsOf_cons]
    by_cases hsettled : p.runner.IsSettled
    · obtain ⟨hnone, hafter⟩ := hrest.quiet hsettled hstored
      rw [hnone, List.append_nil]
      exact (hstep.sourced hr hafter).2
    · have hunbroken : p.outcome.isBroken = false := by
        refine Bool.eq_false_iff.2 fun hbroken => hsettled ?_
        rw [hlast hbroken] at hstored
        exact (hstep.sourced hr hstored).1
      obtain ⟨hnone, hfirst⟩ := hstep.undecided hr hunbroken hsettled
      obtain ⟨before, name, asked, reply, address, hcalls, hbefore, hintime, hresult, hendpoint⟩ :=
        ih hnone hstored
      have hsettings := hstep.sameSettings
      refine ⟨p.calls ++ before, name, asked, reply, address, ?_, hfirst.append ?_, ?_, hresult, ?_⟩
      · rw [hcalls, hsettings.ns_eq, List.append_assoc]
      · exact fun name ns asked reply hmem hdecisive =>
          hbefore name ns asked reply hmem (hdecisive.of_sameSettings hsettings)
      · rw [← hsettings.polling_eq]
        exact hintime
      · rw [hendpoint, endpointAt, endpointAt, hsettings.workload_eq]

end Path

/-- An endpoint that a runner reports comes from the last call of its run: a query that was answered in time and
found the instance running at that address. No other reply settled anything. Over the API the address and the
phase are those of the Pod in the last exchange. -/
theorem endpoint_source {r : Runner} (hr : Built r) (s : Session Orchestrator) (operations : List Operation)
    {endpoint : String} (hreported : (r.run s operations).1.endpoint? = .ok endpoint) :
    let ended := (r.run s operations).2
    ∃ before name asked reply address,
      s.callsSince ended = before ++ [.get name r.owner.ns asked reply] ∧ Undecided r before ∧
        reply.delay ≤ r.polling.timeout ∧ reply.result = .ok ⟨.running, some address⟩ ∧
        endpoint = address ++ ":" ++ toString r.workload.containerPort.toNat ∧
        (s.remote.backend = .kubernetes → ∃ pod status,
          ended.remote.Shows name r.owner.ns reply.delay pod ∧ pod.status = some status ∧
            status.phase = some "Running" ∧ status.podIp = some address ∧ address ≠ "") := by
  intro ended
  obtain ⟨hleads, hcalls⟩ := r.run_eq_history s operations
  have hstored := endpoint?_eq_ok hreported
  rw [hleads] at hstored
  obtain ⟨before, name, asked, reply, address, hmade, hbefore, hintime, hresult, hendpoint⟩ :=
    (r.history_path s operations).sourced hr.unused.endpoint_eq hstored
  rw [hr.unused.ns_eq] at hmade
  rw [hmade] at hcalls
  refine ⟨before, name, asked, reply, address, Session.callsSince_of_append hcalls, hbefore, hintime, hresult,
    hendpoint, fun hbackend => ?_⟩
  obtain ⟨made, hsince, hshown⟩ := (run_attests r hbackend operations).shown
  obtain rfl := List.append_cancel_left (hcalls.symm.trans hsince)
  obtain ⟨pod, hshows, hstatus⟩ := hshown name r.owner.ns asked reply _ List.getLast?_concat hresult
  obtain ⟨status, hpod, hphase, hip, hnonempty⟩ := Pod.status_of_running hstatus.symm
  exact ⟨pod, status, hshows, hpod, hphase, hip, hnonempty⟩

def runningAt (address : String) : Kubernetes.Response :=
  ⟨200, "\x7b\"status\": \x7b\"phase\": \"Running\", \"podIP\": \"" ++ address ++ "\"\x7d\x7d"⟩

/-- An API that creates an instance and then answers too late, without an address, with a failure, and in the end
with an address. -/
def hesitant : Session Orchestrator :=
  .starting .epoch (.overKubernetes fun
    | 0 => .prompt (.ok namedPod)
    | 1 => ⟨.ofSecs 4, .zero, .ok (runningAt "10.0.0.1")⟩
    | 2 => .prompt (.ok (runningAt ""))
    | 3 => .prompt (.ok ⟨404, ""⟩)
    | _ => .prompt (.ok (runningAt "10.0.0.9")))

/-- The endpoint is made of the last address, not of the one that came too late. -/
theorem hesitant_endpoint_source :
    let operations := [Operation.start, .wait (Time.epoch.after 1), .wait (Time.epoch.after 2),
      .wait (Time.epoch.after 3), .wait .latest, .start]
    let reached := specimen.run hesitant operations
    Built specimen ∧ hesitant.remote.backend = .kubernetes ∧ reached.1.endpoint? = .ok "10.0.0.9:8500" ∧
      (hesitant.callsSince reached.2).length = 5 ∧
      ∃ before name asked reply pod status,
        hesitant.callsSince reached.2 = before ++ [.get name "team" asked reply] ∧
          Undecided specimen before ∧ reply.result = .ok ⟨.running, some "10.0.0.9"⟩ ∧
          reached.2.remote.Shows name "team" reply.delay pod ∧ pod.status = some status ∧
          status.podIp = some "10.0.0.9" := by
  intro operations
  have hbuilt : Built specimen := .new _ _
  have hreported : (specimen.run hesitant operations).1.endpoint? = .ok "10.0.0.9:8500" := by decide +kernel
  have hlength : (hesitant.callsSince (specimen.run hesitant operations).2).length = 5 := by decide +kernel
  have hsource := endpoint_source hbuilt hesitant operations hreported
  -- the run is not to be looked into any more
  generalize specimen.run hesitant operations = reached at *
  obtain ⟨before, name, asked, reply, address, hcalls, hbefore, _, hresult, hendpoint, hshown⟩ := hsource
  obtain ⟨pod, status, hshows, hstatus, _, hip, _⟩ := hshown rfl
  have hexpected : "10.0.0.9:8500" =
      "10.0.0.9" ++ ":" ++ toString specimen.workload.containerPort.toNat := by decide +kernel
  rw [hexpected] at hendpoint
  obtain rfl := (String.append_left_inj _).1 ((String.append_left_inj _).1 hendpoint)
  exact ⟨hbuilt, rfl, hreported, hlength, before, name, asked, reply, pod, status, hcalls, hbefore, hresult,
    hshows, hstatus, hip⟩

end Runner

end PodRunner
