import Mathlib.Tactic.IntervalCases
import PodRunner.Proofs.Exchanges
import PodRunner.Proofs.LaterDeadline
import PodRunner.Proofs.PollLog
import PodRunner.Proofs.StopResult

/-!
# What an error of the API is taken for

An error of the API is made into an error of the runner by its code. A stop then looks for a missing instance and
tries again after everything else, and a wait goes on after everything and warns of what will not pass by itself.
Here both are said about the errors of the API themselves: to a stop only the code 404 means that the instance is
gone, and a wait warns of the codes 401, 403 and 404 and of nothing else.
-/

namespace PodRunner

open Kubernetes (ApiError)

namespace Kubernetes.ApiError

/-- The API knows no such object. -/
def IsMissing (e : ApiError) : Prop := ∃ response, e = .api response ∧ response.code = 404

/-- The API knows no such object or does not let it be touched. -/
def IsRefusal (e : ApiError) : Prop :=
  ∃ response, e = .api response ∧ (response.code = 401 ∨ response.code = 403 ∨ response.code = 404)

theorem toError_eq_notFound_iff {e : ApiError} : (∃ what, e.toError = .notFound what) ↔ e.IsMissing := by
  constructor
  · rintro ⟨what, h⟩
    cases e with
    | api response =>
      rw [toError] at h
      split at h
      · rename_i hcode
        exact ⟨response, rfl, hcode⟩
      · split at h <;> cases h
    | _ => cases h
  · rintro ⟨response, rfl, hcode⟩
    exact ⟨response.message, by rw [toError, if_pos hcode]⟩

theorem isTransient_toError {e : ApiError} : e.toError.isTransient = false ↔ e.IsRefusal := by
  constructor
  · intro h
    cases e with
    | api response =>
      rw [toError] at h
      split at h
      · rename_i hcode
        exact ⟨response, rfl, Or.inr (Or.inr hcode)⟩
      · split at h
        · rename_i hdenied
          exact ⟨response, rfl, hdenied.imp_right Or.inl⟩
        · cases h
    | _ => cases h
  · rintro ⟨response, rfl, hcode⟩
    rw [toError]
    by_cases hmissing : response.code = 404
    · rw [if_pos hmissing]
      rfl
    · rw [if_neg hmissing, if_pos (by omega)]
      rfl

end Kubernetes.ApiError

namespace Runner

/-- What a wait says of a failed query, or of any that it does not hear of in time. -/
def complaint (r : Runner) (name : String) (reply : Reply InstanceStatus) (e : ApiError) : Event :=
  .pollFailed name (if r.polling.timeout < reply.delay then queryTimedOut name r.polling.timeout else e.toError)

theorem complaint_level (r : Runner) (name : String) (reply : Reply InstanceStatus) (e : ApiError) :
    ((r.complaint name reply e).level = .warn ↔ reply.delay ≤ r.polling.timeout ∧ e.IsRefusal) ∧
      ((r.complaint name reply e).level = .info ↔ ¬ (reply.delay ≤ r.polling.timeout ∧ e.IsRefusal)) := by
  rw [complaint]
  by_cases hlate : r.polling.timeout < reply.delay
  · have hmissed : ¬ (reply.delay ≤ r.polling.timeout ∧ e.IsRefusal) := fun h => Nat.not_lt.2 h.1 hlate
    rw [if_pos hlate]
    exact ⟨iff_of_false nofun hmissed, iff_of_true rfl hmissed⟩
  · have hintime : reply.delay ≤ r.polling.timeout := Nat.not_lt.1 hlate
    rw [if_neg hlate, Event.level]
    by_cases hrefusal : e.IsRefusal
    · rw [ApiError.isTransient_toError.2 hrefusal]
      exact ⟨iff_of_true rfl ⟨hintime, hrefusal⟩, iff_of_false nofun (not_not_intro ⟨hintime, hrefusal⟩)⟩
    · rw [Bool.eq_true_of_not_eq_false (mt ApiError.isTransient_toError.1 hrefusal)]
      exact ⟨iff_of_false nofun fun h => hrefusal h.2, iff_of_true rfl fun h => hrefusal h.2⟩

/-! ### Stops -/

/-- An attempt to delete that neither succeeds nor finds that there is nothing to delete. -/
def Retried (result : Except ApiError Unit) : Prop := ∃ e, result = .error e ∧ ¬ e.IsMissing

/-- How a stop ends whose attempts come to this, and how many of them it makes. -/
inductive Ends (attempt : Nat → Except ApiError Unit) (budget : Nat) : StopOutcome → Nat → Prop
  | deleted {k : Nat} (hk : k < budget) (hretried : ∀ j < k, Retried (attempt j))
      (hdeleted : attempt k = .ok ()) : Ends attempt budget .deleted (k + 1)
  | alreadyGone {k : Nat} {e : ApiError} (hk : k < budget) (hretried : ∀ j < k, Retried (attempt j))
      (hfailed : attempt k = .error e) (hmissing : e.IsMissing) : Ends attempt budget .alreadyGone (k + 1)
  | abandoned (hretried : ∀ j < budget, Retried (attempt j)) : Ends attempt budget .abandoned budget

theorem Ends.exists (attempt : Nat → Except ApiError Unit) (budget : Nat) :
    ∃ outcome attempts, Ends attempt budget outcome attempts := by
  induction budget with
  | zero => exact ⟨_, _, .abandoned fun j hj => absurd hj (Nat.not_lt_zero j)⟩
  | succ budget ih =>
    obtain ⟨outcome, attempts, h⟩ := ih
    cases h with
    | deleted hk hretried hdeleted => exact ⟨_, _, .deleted (Nat.lt_succ_of_lt hk) hretried hdeleted⟩
    | alreadyGone hk hretried hfailed hmissing =>
      exact ⟨_, _, .alreadyGone (Nat.lt_succ_of_lt hk) hretried hfailed hmissing⟩
    | abandoned hretried =>
      cases hlast : attempt budget with
      | ok => exact ⟨_, _, .deleted (Nat.lt_succ_self budget) hretried hlast⟩
      | error e =>
        by_cases hmissing : e.IsMissing
        · exact ⟨_, _, .alreadyGone (Nat.lt_succ_self budget) hretried hlast hmissing⟩
        · refine ⟨_, _, .abandoned fun j hj => ?_⟩
          rcases Nat.lt_succ_iff_lt_or_eq.1 hj with hj | rfl
          · exact hretried j hj
          · exact ⟨e, hlast, hmissing⟩

section Kubernetes

variable {r : Runner} {name : String} {s : Session Orchestrator} (hbackend : s.remote.backend = .kubernetes)

include hbackend

theorem settles_deleted {ns : String} {k : Nat} (h : s.remote.deletion name ns k = .ok ()) :
    Settles (s.remote.removal name ns k) .deleted := by
  refine .deleted ?_
  rw [Orchestrator.removal_kubernetes hbackend, h]
  rfl

theorem settles_alreadyGone {ns : String} {k : Nat} {e : ApiError}
    (h : s.remote.deletion name ns k = .error e) (hmissing : e.IsMissing) :
    Settles (s.remote.removal name ns k) .alreadyGone := by
  obtain ⟨what, hwhat⟩ := ApiError.toError_eq_notFound_iff.2 hmissing
  have hresult : (s.remote.removal name ns k).result = .error (.notFound what) := by
    rw [Orchestrator.removal_kubernetes hbackend, h]
    exact congrArg Except.error hwhat
  exact .alreadyGone hresult

theorem Retried.unsettled {ns : String} {k : Nat} (h : Retried (s.remote.deletion name ns k))
    (outcome : StopOutcome) : ¬ Settles (s.remote.removal name ns k) outcome := by
  obtain ⟨e, hfailed, hother⟩ := h
  have hresult : (s.remote.removal name ns k).result = .error e.toError := by
    rw [Orchestrator.removal_kubernetes hbackend, hfailed]
    rfl
  intro hsettles
  cases hsettles with
  | deleted hdeleted => cases hresult.symm.trans hdeleted
  | @alreadyGone what hgone =>
    exact hother (ApiError.toError_eq_notFound_iff.1 ⟨what, Except.error.inj (hresult.symm.trans hgone)⟩)

theorem Ends.stops {outcome : StopOutcome} {attempts : Nat} (hname : r.instanceName = some name)
    (h : Ends (s.remote.deletion name r.ns) r.budget outcome attempts) (hroom : Room r name s attempts) :
    (r.stop s).1.1 = .done outcome ∧
      (r.stop s).2.remote.calls = s.remote.calls ++ s.remote.deletions name r.ns attempts := by
  cases h with
  | deleted hk hretried hdeleted =>
    obtain ⟨hstops, _⟩ := stops_settled hname hk (settles_deleted hbackend hdeleted)
      (fun j hj => (hretried j hj).unsettled hbackend) hroom
    exact ⟨hstops.outcome_eq, hstops.calls_eq⟩
  | alreadyGone hk hretried hfailed hmissing =>
    obtain ⟨hstops, _⟩ := stops_settled hname hk (settles_alreadyGone hbackend hfailed hmissing)
      (fun j hj => (hretried j hj).unsettled hbackend) hroom
    exact ⟨hstops.outcome_eq, hstops.calls_eq⟩
  | abandoned hretried =>
    obtain ⟨e, _, hstops, _⟩ := stops_abandoned hname (fun j hj => (hretried j hj).unsettled hbackend) hroom
    exact ⟨hstops.outcome_eq, hstops.calls_eq⟩

/-! ### Waits -/

theorem reading_of_failed {k : Nat} {e : ApiError} (h : s.remote.sighting name r.ns k = .error e) :
    let reply := s.remote.answer name r.ns k
    r.conclude (r.reading name reply) = none ∧
      r.report name (r.reading name reply) = r.complaint name reply e := by
  have hresult : (s.remote.answer name r.ns k).result = .error e.toError := by
    rw [Orchestrator.answer_kubernetes hbackend, h]
    rfl
  intro reply
  rw [reading, complaint]
  split
  · exact ⟨rfl, rfl⟩
  · rw [hresult]
    exact ⟨rfl, rfl⟩

end Kubernetes

/-- A stop and a wait take the errors of the API for what they are. A stop reports the instance as gone if and only
if the first attempt that does not have to be made again has found it missing, and as deleted if and only if that
attempt has deleted it; it gives up if and only if there is no such attempt among those it is allowed. A wait goes on
after every error, up to its deadline or to a reply that leaves the calendar, and warns of refusals alone. A reply of
that kind is one case more and no exception: whatever it holds is never read. -/
theorem api_verdicts {r : Runner} {name : String} {s : Session Orchestrator}
    (hname : r.instanceName = some name) (hbackend : s.remote.backend = .kubernetes) :
    ((∀ outcome attempts, Ends (s.remote.deletion name r.ns) r.budget outcome attempts →
        Room r name s attempts) →
      ∀ outcome,
        ((r.stop s).1.1 = .done outcome ↔
          ∃ attempts, Ends (s.remote.deletion name r.ns) r.budget outcome attempts) ∧
        ∀ attempts, Ends (s.remote.deletion name r.ns) r.budget outcome attempts →
          s.callsSince (r.stop s).2 = s.remote.deletions name r.ns attempts) ∧
    (r.state = .pending ∨ r.state = .timedOut → ∀ deadline,
      let waited := r.waitUntilRunning deadline s
      let reply := s.remote.answer name r.ns
      ∃ events, waited.2.events = s.events ++ .entered .waitUntilRunning :: events ++ [.left .waitUntilRunning] ∧
        ∀ k e, k < (s.callsSince waited.2).length → s.remote.sighting name r.ns k = .error e →
          ∃ asked, (s.callsSince waited.2)[k]? = some (.get name r.ns asked (reply k)) ∧
            (r.Overruns asked (reply k) ∧ waited.1.1 = .broken .timeOutOfRange ∨
              events[k]? = some (r.complaint name (reply k) e) ∧
                (k + 1 < (s.callsSince waited.2).length ∨
                  waited.1.1 = .failed (notRunningBefore name deadline) ∧ ¬ waited.2.clock.now < deadline))) ∧
    ∀ reply e,
      ((r.complaint name reply e).level = .warn ↔ reply.delay ≤ r.polling.timeout ∧ e.IsRefusal) ∧
        ((r.complaint name reply e).level = .info ↔ ¬ (reply.delay ≤ r.polling.timeout ∧ e.IsRefusal)) := by
  refine ⟨fun hroom outcome => ⟨?_, ?_⟩, fun hstate deadline => ?_, r.complaint_level name⟩
  · obtain ⟨settled, attempts, hends⟩ := Ends.exists (s.remote.deletion name r.ns) r.budget
    have hstopped := (hends.stops hbackend hname (hroom settled attempts hends)).1
    constructor
    · intro houtcome
      cases hstopped.symm.trans houtcome
      exact ⟨attempts, hends⟩
    · rintro ⟨attempts, hends⟩
      exact (hends.stops hbackend hname (hroom outcome attempts hends)).1
  · intro attempts hends
    exact Session.callsSince_of_append (hends.stops hbackend hname (hroom outcome attempts hends)).2
  · intro waited reply
    obtain ⟨gets, events, hcalls, hevents, htold⟩ := waitUntilRunning_told ⟨hname, hstate⟩ deadline s
    have hmade : s.callsSince waited.2 = gets := Session.callsSince_of_append hcalls
    rw [hmade]
    refine ⟨events, hevents, fun k e hk hfailed => ?_⟩
    obtain ⟨asked, hcall, hbecomes⟩ := htold.get hk
    obtain ⟨hopen, hreport⟩ := reading_of_failed hbackend hfailed
    refine ⟨asked, hcall, ?_⟩
    rcases hbecomes with ⟨hoverruns, hbroke, _⟩ | ⟨hevent, hnext⟩
    · exact Or.inl ⟨hoverruns, hbroke⟩
    · rw [hreport] at hevent
      exact Or.inr ⟨hevent, hnext hopen⟩

def forbidden : Kubernetes.ErrorResponse := ⟨"403 Forbidden", "\"\"", "Failed to parse error data", 403⟩

def missing : Kubernetes.ErrorResponse := ⟨"404 Not Found", "\"\"", "Failed to parse error data", 404⟩

/-- An API that refuses, answers with something else than was asked for, is out of reach, and then knows of no
instance. -/
def grumbling : Session Orchestrator :=
  .starting .epoch (.overKubernetes fun
    | 0 => .prompt (.ok ⟨403, ""⟩)
    | 1 => .prompt (.ok ⟨200, "gone"⟩)
    | 2 => .prompt (.error (.network "reset"))
    | _ => .prompt (.ok ⟨404, ""⟩))

theorem Ends.le {attempt : Nat → Except ApiError Unit} {budget attempts : Nat} {outcome : StopOutcome}
    (h : Ends attempt budget outcome attempts) : attempts ≤ budget := by
  cases h with
  | deleted hk _ _ => exact hk
  | alreadyGone hk _ _ _ => exact hk
  | abandoned _ => exact Nat.le_refl budget

/-- A stop needs four attempts to find the instance gone, and a wait warns of the refusal. -/
theorem grumbling_verdicts :
    let attempt := grumbling.remote.deletion "modelserver-1" waiting.ns
    let waited := waiting.waitUntilRunning (Time.epoch.after 1) grumbling
    (specimen.run (answering namedPod) [.start]).1 = waiting ∧
      waiting.instanceName = some "modelserver-1" ∧ grumbling.remote.backend = .kubernetes ∧
      (∀ outcome attempts, Ends attempt waiting.budget outcome attempts →
        Room waiting "modelserver-1" grumbling attempts) ∧
      waiting.state = .pending ∧ (waiting.stop grumbling).1.1 = .done .alreadyGone ∧
      (grumbling.callsSince (waiting.stop grumbling).2).length = 4 ∧
      waited.1.1 = .failed (notRunningBefore "modelserver-1" (Time.epoch.after 1)) ∧
      ∃ event ∈ waited.2.events, event.level = .warn := by
  intro attempt
  have hstarted : (specimen.run (answering namedPod) [.start]).1 = waiting := by decide +kernel
  have hbudget : waiting.budget = 5 := by decide +kernel
  have hroom : ∀ outcome attempts, Ends attempt waiting.budget outcome attempts →
      Room waiting "modelserver-1" grumbling attempts := by
    intro outcome attempts hends
    have hle := hends.le
    rw [hbudget] at hle
    interval_cases attempts <;> exact ⟨by decide +kernel, by decide +kernel⟩
  have hrefused : attempt 0 = .error (.api forbidden) := by decide +kernel
  have hgarbled : attempt 1 = .error .undecodable := by decide +kernel
  have hcut : attempt 2 = .error (.service "reset") := by decide +kernel
  have hgone : attempt 3 = .error (.api missing) := by decide +kernel
  have hends : Ends attempt waiting.budget .alreadyGone 4 := by
    refine .alreadyGone (by rw [hbudget]; decide) ?_ hgone ⟨_, rfl, rfl⟩
    intro j hj
    interval_cases j
    · exact ⟨_, hrefused, by rintro ⟨_, ⟨⟩, hcode⟩; cases hcode⟩
    · exact ⟨_, hgarbled, by rintro ⟨_, ⟨⟩, _⟩⟩
    · exact ⟨_, hcut, by rintro ⟨_, ⟨⟩, _⟩⟩
  have hseen : (grumbling.remote.sighting "modelserver-1" waiting.ns 0).map (fun _ => ()) =
      .error (.api forbidden) := by decide +kernel
  have hintime : (grumbling.remote.answer "modelserver-1" waiting.ns 0).delay ≤ waiting.polling.timeout := by
    decide +kernel
  have hone : (grumbling.callsSince (waiting.waitUntilRunning (Time.epoch.after 1) grumbling).2).length = 1 := by
    decide +kernel
  have hunbroken : (waiting.waitUntilRunning (Time.epoch.after 1) grumbling).1.1.isBroken = false := by
    decide +kernel
  obtain ⟨hstops, hwaits, hlevel⟩ := api_verdicts (r := waiting) (s := grumbling) rfl rfl
  obtain ⟨houtcome, hcalls⟩ := hstops hroom .alreadyGone
  have hmade : (grumbling.callsSince (waiting.stop grumbling).2).length = 4 := by
    rw [hcalls 4 hends, Orchestrator.deletions, List.length_map, List.length_range]
  obtain ⟨events, hevents, hevery⟩ := hwaits (Or.inl rfl) (Time.epoch.after 1)
  cases hfailed : grumbling.remote.sighting "modelserver-1" waiting.ns 0 with
  | ok pod =>
    rw [hfailed] at hseen
    cases hseen
  | error e =>
    rw [hfailed] at hseen
    obtain rfl := Except.error.inj hseen
    obtain ⟨asked, _, hbecomes⟩ := hevery 0 _ (by rw [hone]; exact Nat.one_pos) hfailed
    -- the wait is not to be looked into any more
    generalize waiting.waitUntilRunning (Time.epoch.after 1) grumbling = waited at *
    rcases hbecomes with ⟨_, hbroke⟩ | ⟨hevent, hlast⟩
    · rw [hbroke] at hunbroken
      cases hunbroken
    · have hexceeded := hlast.resolve_left (by rw [hone]; decide)
      have hwarned := (hlevel (grumbling.remote.answer "modelserver-1" waiting.ns 0) (.api forbidden)).1.2
        ⟨hintime, _, rfl, Or.inr (Or.inl rfl)⟩
      refine ⟨hstarted, rfl, rfl, hroom, rfl, houtcome.2 ⟨4, hends⟩, hmade, hexceeded.1, _, ?_, hwarned⟩
      rw [hevents]
      have hmem := List.mem_of_getElem? hevent
      simp [hmem]

end Runner

end PodRunner
